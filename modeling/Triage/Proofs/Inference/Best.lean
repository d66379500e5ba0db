import Mathlib.Algebra.Order.Field.Rat
import Mathlib.Algebra.BigOperators.Group.List.Basic
import Triage.Inference
import Triage.Policy.Starter
import Triage.Proofs.Order

/-!
# The best label of a category

Of the labels that a policy defines in a category, the first one with the best score is suggested, if its score
is above zero and reaches the threshold. A score is the sum of the weights of the triggers that match some text,
one at most. The suggestions are listed by confidence, and by category where the confidence is the same.
-/

namespace Triage

/-- The suggestion for a category. -/
def Suggestions.of? {α : Type} (s : Suggestions α) (c : Category) : Option (Suggestion α) :=
  s.byCategory.find? (·.category == c)

namespace Inference

/-! ## Scores -/

/-- The texts of an issue in which triggers are looked for. -/
def searched (title body : String) (labels : LabelSet) : List String := title :: body :: labels.sorted

/-- The triggers that match some text. -/
def seen (find : Finder) (texts : List String) (triggers : List Trigger) : List Trigger :=
  triggers.filter fun t => texts.any (find t.pattern)

/-- A sum of weights, one at most. -/
def capped {α : Type} [Quantity α] (total : α) : α := Quantity.least (Quantity.ofNat 1) total

/-- The score of some triggers. -/
def points (α : Type) [Quantity α] (find : Finder) (texts : List String) (triggers : List Trigger) : α :=
  capped (Quantity.sum ((seen find texts triggers).map fun t => Quantity.ofFloat t.weight))

/-- The labels of a category that may be suggested, with their triggers. -/
def candidates (p : Policy) (c : Category) : List (String × List Trigger) :=
  (p.triggerTable c.name).entries.filter fun entry => (p.group c).defines entry.1

section

variable {α : Type} [Quantity α] {find : Finder} {texts : List String} {p : Policy} {c : Category}

theorem matchesAny_texts (pattern : String) (texts : List String) :
    matchesAny find pattern (texts.map .text) = .ok (texts.any (find pattern)) := by
  induction texts with
  | nil => rfl
  | cons s rest ih =>
      simp only [List.map_cons, matchesAny, ih, List.any_cons]
      cases find pattern s <;> rfl

theorem addMatches_texts (total : α) (triggers : List Trigger) :
    addMatches find (texts.map .text) total triggers =
      .ok (((seen find texts triggers).map fun t => Quantity.ofFloat t.weight).foldl (· + ·) total,
        (seen find texts triggers).map Trigger.displayName) := by
  induction triggers generalizing total with
  | nil => rfl
  | cons t rest ih =>
      rw [addMatches, matchesAny_texts]
      change (if texts.any (find t.pattern) = true then _ else _) = _
      cases found : texts.any (find t.pattern) with
      | true =>
          have first : seen find texts (t :: rest) = t :: seen find texts rest := List.filter_cons_of_pos found
          rw [if_pos rfl, ih, first]
          rfl
      | false =>
          have others : seen find texts (t :: rest) = seen find texts rest :=
            List.filter_cons_of_neg (by simp [found])
          rw [if_neg (by decide), ih, others]

theorem score_texts (triggers : List Trigger) : score find (texts.map .text) triggers =
    .ok (points α find texts triggers, (seen find texts triggers).map Trigger.displayName) := by
  rw [score, addMatches_texts]
  rfl

/-! ## The leader -/

/-- A label with its score. -/
def candidate (find : Finder) (texts : List String) (entry : String × List Trigger) : Candidate α :=
  ⟨entry.1, points α find texts entry.2, (seen find texts entry.2).map Trigger.displayName⟩

/-- The leader once another label has come. -/
def lead (α : Type) [Quantity α] (find : Finder) (texts : List String) (leader : Option (String × List Trigger))
    (entry : String × List Trigger) : Option (String × List Trigger) :=
  if Quantity.less (Quantity.ofNat 0) (points α find texts entry.2)
      && leader.elim true fun first => Quantity.less (points α find texts first.2) (points α find texts entry.2)
  then some entry else leader

theorem best_texts (find : Finder) (texts : List String) (defined : String → Bool)
    (leader : Option (String × List Trigger)) (entries : List (String × List Trigger)) :
    best find (texts.map .text) defined (leader.map (candidate (α := α) find texts)) entries =
      .ok (((entries.filter fun entry => defined entry.1).foldl (lead α find texts) leader).map
        (candidate find texts)) := by
  induction entries generalizing leader with
  | nil => rfl
  | cons entry rest ih =>
      obtain ⟨short, triggers⟩ := entry
      rw [best]
      cases known : defined short with
      | true =>
          have kept : ((short, triggers) :: rest).filter (fun entry => defined entry.1) =
              (short, triggers) :: rest.filter fun entry => defined entry.1 := List.filter_cons_of_pos known
          rw [if_pos rfl, score_texts, kept, List.foldl_cons, ← ih]
          refine congrArg (fun leader => best find (texts.map .text) defined leader rest) ?_
          rw [lead, apply_ite (Option.map (candidate (α := α) find texts)), Option.elim_map]
          rfl
      | false =>
          have others : ((short, triggers) :: rest).filter (fun entry => defined entry.1) =
              rest.filter fun entry => defined entry.1 := List.filter_cons_of_neg (by simp [known])
          rw [if_neg (by decide), others, ih]

/-- Scores are compared by what they are worth, as far as they are worth more than nothing. -/
structure Weighs (worth : α → ℚ) : Prop where
  above (total : α) : Quantity.less (Quantity.ofNat 0) (capped total) = true ↔ 0 < worth (capped total)
  less {first second : α} (positive : 0 < worth (capped first)) :
    Quantity.less (capped first) (capped second) = true ↔ worth (capped first) < worth (capped second)

/-- The leader of some labels: the first of those that are worth most, if they are worth anything. -/
inductive Leads (worth : String × List Trigger → ℚ) (entries : List (String × List Trigger)) :
    Option (String × List Trigger) → Prop
  | nobody (nothing : ∀ entry ∈ entries, worth entry ≤ 0) : Leads worth entries none
  | somebody {entry : String × List Trigger} (first : Order.IsFirstGreatest worth entries entry)
      (positive : 0 < worth entry) : Leads worth entries (some entry)

namespace Leads

variable {worth : α → ℚ} {entries : List (String × List Trigger)} {leader : Option (String × List Trigger)}

/-- Another label takes the lead if it is worth more than all before it. -/
theorem step (weighs : Weighs worth) (leads : Leads (fun entry => worth (points α find texts entry.2)) entries leader)
    (entry : String × List Trigger) : Leads (fun entry => worth (points α find texts entry.2)) (entries ++ [entry])
      (lead α find texts leader entry) := by
  unfold lead
  split
  · rename_i wins
    obtain ⟨above, beyond⟩ := Bool.and_eq_true_iff.1 wins
    have positive := (weighs.above _).1 above
    apply Leads.somebody _ positive
    apply Order.IsFirstGreatest.append_of_lt
    intro other member
    cases leads with
    | nobody nothing => exact (nothing other member).trans_lt positive
    | somebody first positive => exact (first.le member).trans_lt ((weighs.less positive).1 beyond)
  · rename_i loses
    cases leads with
    | nobody nothing =>
        refine .nobody fun other member => ?_
        rcases List.mem_append.1 member with before | last
        · exact nothing other before
        · obtain rfl := List.mem_singleton.1 last
          by_contra some
          exact loses (Bool.and_eq_true_iff.2 ⟨(weighs.above _).2 (not_le.1 some), rfl⟩)
    | somebody first positive =>
        refine .somebody (first.append_of_le ?_) positive
        by_contra more
        have beyond := not_le.1 more
        have above := (weighs.above _).2 (positive.trans beyond)
        exact loses (Bool.and_eq_true_iff.2 ⟨above, (weighs.less positive).2 beyond⟩)

/-- All labels are gone through. -/
theorem foldl (weighs : Weighs worth)
    (leads : Leads (fun entry => worth (points α find texts entry.2)) entries leader)
    (others : List (String × List Trigger)) :
    Leads (fun entry => worth (points α find texts entry.2)) (entries ++ others)
      (others.foldl (lead α find texts) leader) := by
  induction others generalizing entries leader with
  | nil => simpa using leads
  | cons entry rest ih => simpa using ih (leads.step weighs entry)

end Leads

/-- The leader of a category. -/
def leader (α : Type) [Quantity α] (find : Finder) (texts : List String) (p : Policy) (c : Category) :
    Option (String × List Trigger) := (candidates p c).foldl (lead α find texts) none

theorem leads_leader {worth : α → ℚ} (weighs : Weighs worth) (find : Finder) (texts : List String) (p : Policy)
    (c : Category) :
    Leads (fun entry => worth (points α find texts entry.2)) (candidates p c) (leader α find texts p c) := by
  have nobody : Leads (fun entry => worth (points α find texts entry.2)) [] none := .nobody (by simp)
  exact nobody.foldl weighs (candidates p c)

/-! ## Suggestions -/

/-- A label as a suggestion. -/
def proposal (α : Type) [Quantity α] (find : Finder) (texts : List String) (p : Policy) (c : Category)
    (entry : String × List Trigger) : Suggestion α where
  category := c
  label := p.fullLabel c entry.1
  confidence := Quantity.round 4 (points α find texts entry.2)
  reason := "matched: " ++ ", ".intercalate ((seen find texts entry.2).map Trigger.displayName)

/-- The score of a label reaches the threshold. -/
def reaches (α : Type) [Quantity α] (find : Finder) (texts : List String) (p : Policy)
    (entry : String × List Trigger) : Bool :=
  !Quantity.less (points α find texts entry.2) (Quantity.ofFloat p.automation.inference.threshold)

/-- The leader of a category, if its score reaches the threshold. -/
def chosen (α : Type) [Quantity α] (find : Finder) (texts : List String) (p : Policy) (c : Category) :
    Option (String × List Trigger) := (leader α find texts p c).filter (reaches α find texts p)

/-- What is suggested for a category, if anything. -/
def suggestion? (α : Type) [Quantity α] (find : Finder) (texts : List String) (p : Policy) (c : Category) :
    Option (Suggestion α) := (chosen α find texts p c).map (proposal α find texts p c)

theorem suggest_texts (p : Policy) (c : Category) :
    suggest find (texts.map .text) p c = .ok (suggestion? α find texts p c) := by
  have found : best find (texts.map .text) (p.group c).defines none (p.triggerTable c.name).entries =
      .ok ((leader α find texts p c).map (candidate find texts)) := best_texts find texts _ none _
  rw [suggest, found, suggestion?, chosen]
  cases leader α find texts p c with
  | none => rfl
  | some entry =>
      rw [Option.map_some, Option.filter_some, reaches]
      change (if Quantity.less (points α find texts entry.2) _ = true then _ else _) = _
      cases Quantity.less (points α find texts entry.2) (Quantity.ofFloat p.automation.inference.threshold) <;> rfl

theorem suggestEach_texts (p : Policy) (categories : List Category) :
    suggestEach find (texts.map .text) p categories = .ok (categories.filterMap (suggestion? α find texts p)) := by
  induction categories with
  | nil => rfl
  | cons c rest ih =>
      rw [suggestEach, suggest_texts, ih, List.filterMap_cons]
      cases suggestion? α find texts p c <;> rfl

/-- Which of two suggestions is listed first. -/
def surer (a b : Suggestion α) : Bool := Quantity.less b.confidence a.confidence

/-- The suggestions for an issue with a given title and body. -/
def answer (α : Type) [Quantity α] (find : Finder) (p : Policy) (title body : String) (labels : LabelSet) :
    Suggestions α :=
  if p.automation.inference.enabled && !(Text.isBlankText title && Text.isBlankText body) then
    let found := Category.inferred.filterMap (suggestion? α find (searched title body labels) p)
    ⟨found, Order.sort surer found⟩
  else .none

theorem isSilent_eq {i : Issue} {title body : String} (titled : i.title = .text title) (written : i.body = .text body) :
    isSilent i = .ok (Text.isBlankText title && Text.isBlankText body) := by
  rw [isSilent, titled, written]
  change (if Text.isBlankText title = true then Except.ok (Text.isBlankText body) else Except.ok false) = _
  cases Text.isBlankText title <;> rfl

/-- There is an answer for every issue whose title and body are texts. -/
theorem result_inferWith {i : Issue} {title body : String} (titled : i.title = .text title)
    (written : i.body = .text body) (find : Finder) (p : Policy) :
    (inferWith find p i : Run (Suggestions α)).result = .ok (answer α find p title body i.labels) := by
  have texts : sources i = (searched title body i.labels).map .text := by
    rw [sources, titled, written]
    rfl
  unfold inferWith answer
  cases p.automation.inference.enabled with
  | false => rfl
  | true =>
      change (liftM (isSilent i) >>= _ : Run (Suggestions α)).result = _
      rw [Run.result_bind, Run.result_liftM, isSilent_eq titled written]
      cases Text.isBlankText title && Text.isBlankText body with
      | true => rfl
      | false =>
          change (liftM (suggestEach find (sources i) p Category.inferred) >>= _ : Run (Suggestions α)).result = _
          rw [Run.result_bind, Run.result_liftM, texts, suggestEach_texts]
          change (if _ then _ else _ : Run (Suggestions α)).result = _
          split <;> rfl

theorem category_of_suggestion? {s : Suggestion α} (suggested : suggestion? α find texts p c = some s) :
    s.category = c := by
  obtain ⟨entry, -, rfl⟩ := Option.map_eq_some_iff.1 suggested
  rfl

theorem categories_sublist (categories : List Category) :
    ((categories.filterMap (suggestion? α find texts p)).map Suggestion.category).Sublist categories := by
  induction categories with
  | nil => exact .slnil
  | cons c rest ih =>
      rw [List.filterMap_cons]
      cases suggested : suggestion? α find texts p c with
      | none => exact ih.cons c
      | some s => simpa [category_of_suggestion? suggested] using ih.cons_cons c

theorem find?_filterMap_of_not_mem {categories : List Category} (absent : c ∉ categories) :
    (categories.filterMap (suggestion? α find texts p)).find? (·.category == c) = none := by
  refine List.find?_eq_none.2 fun s among same => absent ?_
  rw [← beq_iff_eq.1 same]
  exact (categories_sublist categories).subset (List.mem_map_of_mem among)

/-- Among suggestions for different categories, the one for a category is found by it. -/
theorem find?_filterMap {categories : List Category} (once : categories.Nodup) (member : c ∈ categories) :
    (categories.filterMap (suggestion? α find texts p)).find? (·.category == c) = suggestion? α find texts p c := by
  induction categories with
  | nil => cases member
  | cons other rest ih =>
      obtain ⟨absent, once⟩ := List.nodup_cons.1 once
      rw [List.filterMap_cons]
      cases suggested : suggestion? α find texts p other with
      | none =>
          rcases List.mem_cons.1 member with rfl | later
          · rw [suggested]
            exact find?_filterMap_of_not_mem absent
          · exact ih once later
      | some s =>
          have named := category_of_suggestion? suggested
          rcases List.mem_cons.1 member with rfl | later
          · simp [named, suggested]
          · have apart : (other == c) = false := by
              rw [beq_eq_false_iff_ne]
              rintro rfl
              exact absent later
            simpa [named, apart] using ih once later

/-- What an answer says of a category that can be inferred. -/
theorem of?_answer {title body : String} {labels : LabelSet} (inferred : c ∈ Category.inferred) :
    (answer α find p title body labels).of? c =
      if p.automation.inference.enabled && !(Text.isBlankText title && Text.isBlankText body) then
        suggestion? α find (searched title body labels) p c
      else none := by
  unfold answer
  split
  · exact find?_filterMap (by decide) inferred
  · rfl

/-- All suggestions are those of the categories that can be inferred. -/
theorem mem_all_answer_iff {title body : String} {labels : LabelSet} {r : Suggestion α} :
    r ∈ (answer α find p title body labels).all ↔
      (p.automation.inference.enabled && !(Text.isBlankText title && Text.isBlankText body)) = true ∧
        ∃ c ∈ Category.inferred, suggestion? α find (searched title body labels) p c = some r := by
  unfold answer
  split
  · rename_i speaks
    rw [and_iff_right speaks]
    exact (List.mergeSort_perm _ _).mem_iff.trans List.mem_filterMap
  · rename_i silent
    exact iff_of_false List.not_mem_nil fun speaks => silent speaks.1

theorem of?_answer_of_not_mem {title body : String} {labels : LabelSet} (beyond : c ∉ Category.inferred) :
    (answer α find p title body labels).of? c = none := by
  unfold answer
  split
  · exact find?_filterMap_of_not_mem beyond
  · rfl

end

/-! ## Scores in fractions -/

section

variable {find : Finder} {texts : List String} {p : Policy} {c : Category} {i : Issue} {title body : String}

/-- The exact score of some triggers. -/
def exactScore (find : Finder) (texts : List String) (triggers : List Trigger) : ℚ :=
  min 1 ((seen find texts triggers).map fun t => ratOf t.weight).sum

theorem points_eq (triggers : List Trigger) : points ℚ find texts triggers = exactScore find texts triggers := by
  have one : (Quantity.ofNat 1 : ℚ) = 1 := Nat.cast_one
  have zero : (Quantity.ofNat 0 : ℚ) = 0 := Nat.cast_zero
  have least (a b : ℚ) : Quantity.least a b = min a b := by
    change (if decide (b < a) = true then b else a) = _
    rw [min_comm, min_def_lt]
    simp only [decide_eq_true_eq]
  rw [points, capped, least, one, Quantity.sum, zero, exactScore, List.sum_eq_foldl]
  rfl

theorem weighs_id : Weighs (id : ℚ → ℚ) where
  above total := by
    have zero : (Quantity.ofNat 0 : ℚ) = 0 := Nat.cast_zero
    rw [zero]
    exact decide_eq_true_iff
  less _ := decide_eq_true_iff

/-- What is suggested for a category: the first label with the best score, if that is above zero and reaches the
threshold. -/
structure Picks (find : Finder) (texts : List String) (p : Policy) (c : Category) (s? : Option (Suggestion ℚ)) :
    Prop where
  present : s?.isSome = true ↔ (∃ entry ∈ candidates p c, 0 < exactScore find texts entry.2) ∧
    ∃ entry ∈ candidates p c, (∀ other ∈ candidates p c, exactScore find texts other.2 ≤ exactScore find texts entry.2) ∧
      ratOf p.automation.inference.threshold ≤ exactScore find texts entry.2
  best : ∀ s ∈ s?, ∃ entry,
    Order.IsFirstGreatest (fun entry => exactScore find texts entry.2) (candidates p c) entry ∧
      s = ⟨c, p.fullLabel c entry.1, Decimal.roundPlacesRat 4 (exactScore find texts entry.2),
        "matched: " ++ ", ".intercalate ((seen find texts entry.2).map Trigger.displayName)⟩

theorem reaches_iff (entry : String × List Trigger) : reaches ℚ find texts p entry = true ↔
    ratOf p.automation.inference.threshold ≤ exactScore find texts entry.2 := by
  have less (a b : ℚ) : Quantity.less a b = decide (a < b) := rfl
  rw [reaches, points_eq, less, Bool.not_eq_true', decide_eq_false_iff_not, not_lt]
  rfl

theorem picks_suggestion? (find : Finder) (texts : List String) (p : Policy) (c : Category) :
    Picks find texts p c (suggestion? ℚ find texts p c) := by
  have leads := leads_leader weighs_id find texts p c
  simp only [points_eq, id_eq] at leads
  rw [suggestion?, chosen]
  generalize leader ℚ find texts p c = leader at leads ⊢
  cases leads with
  | nobody nothing =>
      refine ⟨iff_of_false (by simp) ?_, by simp⟩
      rintro ⟨⟨entry, member, positive⟩, -⟩
      exact absurd positive (not_lt.2 (nothing entry member))
  | @somebody entry first positive =>
      by_cases enough : reaches ℚ find texts p entry = true
      · rw [Option.filter_some_pos enough, Option.map_some]
        refine ⟨iff_of_true rfl ⟨⟨entry, first.mem, positive⟩, entry, first.mem, ?_, reaches_iff entry |>.1 enough⟩, ?_⟩
        · exact fun other member => first.le member
        · rintro s ⟨⟩
          refine ⟨entry, first, ?_⟩
          rw [proposal, points_eq]
          rfl
      · rw [Option.filter_some_neg (Bool.eq_false_iff.2 enough), Option.map_none]
        refine ⟨iff_of_false (by simp) ?_, by simp⟩
        rintro ⟨-, other, member, -, reached⟩
        exact enough ((reaches_iff entry).2 (reached.trans (first.le member)))

/-! ## The list of suggestions -/

/-- At most one suggestion for each category; all of them once more, the most confident first, and in the order of
categories where the confidence is the same. -/
structure Lists (s : Suggestions ℚ) : Prop where
  single : (s.byCategory.map Suggestion.category).Sublist Category.inferred
  complete : s.all.Perm s.byCategory
  ordered : s.all.Pairwise fun a b => b.confidence < a.confidence ∨
    b.confidence = a.confidence ∧ Category.inferred.idxOf a.category < Category.inferred.idxOf b.category

theorem lists_answer (find : Finder) (p : Policy) (title body : String) (labels : LabelSet) :
    Lists (answer ℚ find p title body labels) := by
  unfold answer
  split
  · have single : ((Category.inferred.filterMap (suggestion? ℚ find (searched title body labels) p)).map
        Suggestion.category).Sublist Category.inferred := categories_sublist _
    generalize Category.inferred.filterMap (suggestion? ℚ find (searched title body labels) p) = found at single ⊢
    have byKey (a b : Suggestion ℚ) : surer a b = true ↔ -a.confidence < -b.confidence :=
      decide_eq_true_iff.trans neg_lt_neg_iff.symm
    have rising : Category.inferred.Pairwise fun a b =>
        Category.inferred.idxOf a < Category.inferred.idxOf b := by decide
    have placed : found.Pairwise fun a b =>
        Category.inferred.idxOf a.category < Category.inferred.idxOf b.category := by
      have sorted := rising.sublist single
      rwa [List.pairwise_map] at sorted
    refine ⟨single, List.mergeSort_perm found _, ?_⟩
    apply (Order.pairwise_sort_of_pairwise (fun s => -s.confidence) byKey placed).imp
    rintro a b (less | ⟨same, before⟩)
    · exact .inl (neg_lt_neg_iff.1 less)
    · exact .inr ⟨(neg_inj.1 same).symm, before⟩
  · exact ⟨List.nil_sublist _, .nil, .nil⟩

/-- In each category that can be inferred the first of the best labels is suggested, and all suggestions are listed
by confidence. -/
theorem infer_picks_best (enabled : p.automation.inference.enabled = true) (titled : i.title = .text title)
    (written : i.body = .text body) (spoken : ¬ (Text.isBlankText title = true ∧ Text.isBlankText body = true))
    (find : Finder) : ∃ suggestions : Suggestions ℚ, (inferWith find p i).result = .ok suggestions ∧
      (∀ c ∈ Category.inferred, Picks find (searched title body i.labels) p c (suggestions.of? c)) ∧
      Lists suggestions := by
  refine ⟨_, result_inferWith titled written find p, fun c inferred => ?_, lists_answer find p title body i.labels⟩
  have spoken : (Text.isBlankText title && Text.isBlankText body) = false := by simpa using spoken
  rw [of?_answer inferred, enabled, spoken]
  exact picks_suggestion? find _ p c

end

/-! ## An issue -/

/-- An issue with a title and labels. -/
def titled (title : String) (labels : List String) : Issue where
  number := 1
  title := .text title
  body := .text ""
  labels := .ofList labels
  createdAt := ⟨⟨2026, 3, 1⟩, 9, 0, 0, 0, some 0⟩
  updatedAt := ⟨⟨2026, 3, 1⟩, 9, 0, 0, 0, some 0⟩
  state := .text "open"

/-- A new project's policy. -/
def project : Policy := .starter ⟨.backend, none, none, none⟩

/-- Documentation and refactoring score the same here, and documentation comes first in the table. -/
theorem tie_is_inferred :
    project.automation.inference.enabled = true ∧
      ¬ (Text.isBlankText "Urgent: documentation needs a refactor" = true ∧ Text.isBlankText "" = true) ∧
      ∃ suggestions : Suggestions ℚ,
        (inferWith Pattern.found project (titled "Urgent: documentation needs a refactor" [])).result = .ok suggestions ∧
        (∀ c ∈ Category.inferred, Picks Pattern.found
          (searched "Urgent: documentation needs a refactor" "" (.ofList [])) project c (suggestions.of? c)) ∧
        Lists suggestions :=
  ⟨rfl, by decide +kernel, infer_picks_best rfl rfl rfl (by decide +kernel) Pattern.found⟩

end Inference

end Triage
