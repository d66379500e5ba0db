import Triage.Proofs.Inference.Scores

/-!
# Overrides of triggers

The triggers that a policy gives a label of its own count for that label alone. Where two policies differ in them,
all other categories get the same suggestions, and the category of the label gets the same one unless one of the two
policies suggests that very label.
-/

namespace Triage

namespace Table

variable {α : Type} {key other : String} {value : α} {entries : List (String × α)}

/-- The entries under other keys. -/
def without (key : String) (entries : List (String × α)) : List (String × α) :=
  entries.filter fun entry => entry.1 != key

/-- Puts entries one after the other. -/
def putAll (entries others : List (String × α)) : List (String × α) :=
  others.foldl (fun entries entry => putEntry entry.1 entry.2 entries) entries

theorem entries_update (first second : Table α) : (first.update second).entries = putAll first.entries second.entries := by
  rw [update, putAll]
  exact (List.foldl_hom Table.entries fun _ _ => rfl).symm

theorem without_putEntry_self : without key (putEntry key value entries) = without key entries := by
  induction entries with
  | nil => simp [without, putEntry]
  | cons entry rest ih =>
      rw [putEntry]
      split
      · rename_i same
        simp [without, same]
      · rename_i apart
        simpa [without, apart] using ih

theorem without_putEntry_ne (apart : other ≠ key) :
    without key (putEntry other value entries) = putEntry other value (without key entries) := by
  induction entries with
  | nil => simp [without, putEntry, apart]
  | cons entry rest ih =>
      rw [putEntry]
      split
      · rename_i same
        simp [without, putEntry, same, apart]
      · rename_i different
        by_cases left : entry.1 = key
        · simpa [without, left] using ih
        · simpa [without, putEntry, left, different] using ih

theorem without_putAll (others : List (String × α)) :
    without key (putAll entries others) = putAll (without key entries) (without key others) := by
  induction others generalizing entries with
  | nil => rfl
  | cons entry rest ih =>
      by_cases same : entry.1 = key
      · have left : without key (entry :: rest) = without key rest := by simp [without, same]
        rw [putAll, List.foldl_cons, left, ← putAll, ih, ← same, without_putEntry_self]
      · have kept : without key (entry :: rest) = entry :: without key rest := by simp [without, same]
        rw [putAll, List.foldl_cons, kept, ← putAll, ih, without_putEntry_ne same]
        rfl

end Table

namespace Policy

/-- The triggers that a policy itself gives the labels of a category. -/
def ownTriggers (p : Policy) (category : String) : List (String × List Trigger) :=
  ((p.automation.inference.overrides.bind (·.get? category)).map Table.entries).getD []

def withoutOverrides (p : Policy) : Policy := { p with automation.inference.overrides := none }

/-- Two policies differ at most in the triggers that they give one label of a category. -/
structure DifferAt (c : Category) (short : String) (p q : Policy) : Prop where
  rest : p.withoutOverrides = q.withoutOverrides
  elsewhere : ∀ category ≠ c.name, p.ownTriggers category = q.ownTriggers category
  others : Table.without short (p.ownTriggers c.name) = Table.without short (q.ownTriggers c.name)

theorem entries_triggerTable (p : Policy) (category : String) : (p.triggerTable category).entries =
    Table.putAll (((Category.ofName? category).map Inference.standard).getD ∅).entries (p.ownTriggers category) := by
  rw [triggerTable, ownTriggers]
  cases p.automation.inference.overrides.bind (·.get? category) with
  | none => rfl
  | some own => exact Table.entries_update _ _

namespace DifferAt

variable {c : Category} {short : String} {p q : Policy}

theorem symm (differ : DifferAt c short p q) : DifferAt c short q p :=
  ⟨differ.rest.symm, fun category apart => (differ.elsewhere category apart).symm, differ.others.symm⟩

theorem group_eq (differ : DifferAt c short p q) (d : Category) : p.group d = q.group d := by
  have labels : p.withoutOverrides.labels = q.withoutOverrides.labels := by rw [differ.rest]
  exact congrArg (Taxonomy.group · d) labels

theorem enabled_eq (differ : DifferAt c short p q) :
    p.automation.inference.enabled = q.automation.inference.enabled := by
  have same : p.withoutOverrides.automation.inference.enabled = q.withoutOverrides.automation.inference.enabled := by
    rw [differ.rest]
  exact same

theorem threshold_eq (differ : DifferAt c short p q) :
    p.automation.inference.threshold = q.automation.inference.threshold := by
  have same : p.withoutOverrides.automation.inference.threshold = q.withoutOverrides.automation.inference.threshold := by
    rw [differ.rest]
  exact same

end DifferAt

end Policy

namespace Inference

open Policy

variable {α : Type} [Quantity α] {find : Finder} {texts : List String} {c d : Category} {short : String} {p q : Policy}

theorem candidates_of_ne (differ : DifferAt c short p q) (apart : d ≠ c) : candidates p d = candidates q d := by
  have named : d.name ≠ c.name := by
    intro same
    exact apart (Option.some.inj (by rw [← Category.ofName?_name, same, Category.ofName?_name]))
  rw [candidates, candidates, entries_triggerTable, entries_triggerTable, differ.elsewhere _ named, differ.group_eq]

/-- The other labels of the category are candidates in both policies alike. -/
theorem without_candidates (differ : DifferAt c short p q) :
    Table.without short (candidates p c) = Table.without short (candidates q c) := by
  have swap (entries : List (String × List Trigger)) (r : Policy) :
      Table.without short (entries.filter fun entry => (r.group c).defines entry.1) =
        (Table.without short entries).filter fun entry => (r.group c).defines entry.1 := List.filter_comm ..
  rw [candidates, candidates, swap, swap, entries_triggerTable, entries_triggerTable, Table.without_putAll,
    Table.without_putAll, differ.others, differ.group_eq]

theorem proposal_eq (differ : DifferAt c short p q) (d : Category) :
    proposal α find texts p d = proposal α find texts q d := by
  funext entry
  rw [proposal, proposal, fullLabel, fullLabel, differ.group_eq]

theorem reaches_eq (differ : DifferAt c short p q) : reaches α find texts p = reaches α find texts q := by
  funext entry
  rw [reaches, reaches, differ.threshold_eq]

theorem suggestion?_of_ne (differ : DifferAt c short p q) (apart : d ≠ c) :
    suggestion? α find texts p d = suggestion? α find texts q d := by
  rw [suggestion?, suggestion?, chosen, chosen, leader, leader, candidates_of_ne differ apart, proposal_eq differ,
    reaches_eq differ]

/-- Another label that is chosen in one policy is chosen in the other, unless that chooses the label in which the two
differ. -/
theorem chosen_of_chosen (differ : DifferAt c short p q) {entry : String × List Trigger}
    (found : chosen Float find texts p c = some entry) (other : entry.1 ≠ short) :
    ∃ winner, chosen Float find texts q c = some winner ∧ (winner = entry ∨ winner.1 = short) := by
  have leads := leads_leader weighs_ratOf find texts p c
  have leads' := leads_leader weighs_ratOf find texts q c
  obtain ⟨led, enough⟩ := Option.filter_eq_some_iff.1 found
  rw [led] at leads
  rcases leads with - | ⟨first, positive⟩
  have kept : Order.IsFirstGreatest _ (Table.without short (candidates p c)) entry :=
    first.filter (by simpa using other)
  rw [without_candidates differ] at kept
  have among : entry ∈ candidates q c := List.mem_of_mem_filter kept.mem
  rw [chosen]
  generalize leader Float find texts q c = leader at leads' ⊢
  cases leads' with
  | nobody nothing => exact absurd positive (not_lt.2 (nothing entry among))
  | @somebody winner first' positive' =>
      have reached := reaches_of_le positive (first'.le among) enough
      rw [reaches_eq differ] at reached
      refine ⟨winner, Option.filter_some_pos reached, ?_⟩
      by_cases same : winner.1 = short
      · exact .inr same
      · exact .inl ((first'.filter (by simpa using same)).unique kept)

/-- The two policies suggest the same for the category, or one of them suggests the label in which they differ. -/
theorem suggestion?_eq_or (differ : DifferAt c short p q) (find : Finder) (texts : List String) :
    suggestion? Float find texts p c = suggestion? Float find texts q c ∨
      (∃ r ∈ suggestion? Float find texts p c, r.label = p.fullLabel c short) ∨
      ∃ r ∈ suggestion? Float find texts q c, r.label = q.fullLabel c short := by
  have suggested {r : Policy} {entry : String × List Trigger} (found : chosen Float find texts r c = some entry)
      (same : entry.1 = short) : ∃ s ∈ suggestion? Float find texts r c, s.label = r.fullLabel c short :=
    ⟨proposal Float find texts r c entry, Option.map_eq_some_iff.2 ⟨entry, found, rfl⟩,
      congrArg (r.fullLabel c) same⟩
  -- the winner under one policy wins under the other as well, unless one of the two is the label that differs
  cases found : chosen Float find texts p c with
  | some entry =>
      by_cases same : entry.1 = short
      · exact .inr (.inl (suggested found same))
      · obtain ⟨winner, found', rfl | itself⟩ := chosen_of_chosen differ found same
        · left
          rw [suggestion?, suggestion?, found, found', proposal_eq differ]
        · exact .inr (.inr (suggested found' itself))
  | none =>
      cases found' : chosen Float find texts q c with
      | none =>
          left
          rw [suggestion?, suggestion?, found, found']
          rfl
      | some entry =>
          by_cases same : entry.1 = short
          · exact .inr (.inr (suggested found' same))
          · obtain ⟨winner, found'', -⟩ := chosen_of_chosen differ.symm found' same
            rw [found] at found''
            cases found''

/-- Triggers of one label change no suggestion of another category, and none of its own unless that label is
suggested. -/
theorem overrides_local {i : Issue} {title body : String} (differ : DifferAt c short p q)
    (inferred : c ∈ Category.inferred) (titled : i.title = .text title) (written : i.body = .text body)
    (find : Finder) :
    ∃ a b : Suggestions Float, (inferWith find p i).result = .ok a ∧ (inferWith find q i).result = .ok b ∧
      (∀ other ≠ c, a.of? other = b.of? other) ∧
      (a.of? c = b.of? c ∨ (∃ r ∈ a.of? c, r.label = p.fullLabel c short) ∨
        ∃ r ∈ b.of? c, r.label = q.fullLabel c short) := by
  refine ⟨_, _, result_inferWith titled written find p, result_inferWith titled written find q, ?_, ?_⟩
  · intro other apart
    by_cases among : other ∈ Category.inferred
    · rw [of?_answer among, of?_answer among, differ.enabled_eq, suggestion?_of_ne differ apart]
    · rw [of?_answer_of_not_mem among, of?_answer_of_not_mem among]
  · rw [of?_answer inferred, of?_answer inferred, differ.enabled_eq]
    split
    · exact suggestion?_eq_or differ find _
    · exact .inl rfl

/-- The project's policy with triggers of its own for bugs. -/
def withBugSigns (own : List Trigger) : Policy :=
  { project with automation.inference.overrides := some (.ofList [("type", .ofList [("bug", own)])]) }

theorem differAt_withBugSigns (own : List Trigger) : DifferAt .type "bug" project (withBugSigns own) where
  rest := rfl
  elsewhere category apart := by
    have other : category ≠ "type" := apart
    have standard : project.ownTriggers category = [] := rfl
    rw [standard, ownTriggers, withBugSigns, Option.bind_some, Table.ofList, List.foldl_cons, List.foldl_nil,
      Table.get?_put, if_neg other]
    rfl
  others := by
    have standard : project.ownTriggers Category.type.name = [] := rfl
    have single : (withBugSigns own).ownTriggers Category.type.name = [("bug", own)] := rfl
    rw [standard, single]
    rfl

theorem bugSigns_local : DifferAt .type "bug" project (withBugSigns [⟨"defect", 0.6, none⟩]) ∧
    ∃ a b : Suggestions Float,
      (inferWith Pattern.found project (titled "A defect in the docs" [])).result = .ok a ∧
      (inferWith Pattern.found (withBugSigns [⟨"defect", 0.6, none⟩]) (titled "A defect in the docs" [])).result =
        .ok b ∧
      (∀ other ≠ .type, a.of? other = b.of? other) ∧
      (a.of? .type = b.of? .type ∨ (∃ r ∈ a.of? .type, r.label = "type/bug") ∨
        ∃ r ∈ b.of? .type, r.label = "type/bug") :=
  ⟨differAt_withBugSigns _, overrides_local (differAt_withBugSigns _) (by decide) rfl rfl Pattern.found⟩

end Inference

end Triage
