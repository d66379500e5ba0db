import Triage.Proofs.Decimal.Places
import Triage.Proofs.Inference.Scores
import Triage.Proofs.Policy.Text

/-!
# Confidences

The score of a suggested label is above zero, at most one, and reaches the threshold. Its confidence is the score
rounded to four places: it stays between zero and one and reaches the rounded threshold, but a score of half a unit of
the last place or less leaves nothing of it, and a score that is rounded down may fall below the threshold.
-/

namespace Triage

namespace Policy

theorem exists_spec {p : Policy} {c : Category} {short : String} (defined : (p.group c).defines short = true) :
    ∃ spec ∈ p.allLabels, spec.name = p.fullLabel c short ∧ spec.category = c.name := by
  obtain ⟨⟨_, definition⟩, entry, rfl⟩ := List.mem_map.1 (List.contains_iff_mem.1 defined)
  refine ⟨⟨_, c.name, definition.color, definition.description⟩, ?_, rfl, rfl⟩
  exact List.mem_flatMap.2 ⟨c, Category.mem_all c, List.mem_map.2 ⟨_, entry, rfl⟩⟩

end Policy

namespace Inference

open Decimal

variable {find : Finder} {texts : List String} {p : Policy} {c : Category} {r : Suggestion Float} {i : Issue}
  {title body : String} {labels : LabelSet}

/-- A suggestion rests on a label of the policy: its confidence is the score of the label, rounded, and the score is
above zero, at most one, and reaches the threshold. -/
structure Rests (find : Finder) (texts : List String) (p : Policy) (r : Suggestion Float)
    (entry : String × List Trigger) : Prop where
  candidate : entry ∈ candidates p r.category
  label : r.label = p.fullLabel r.category entry.1
  confidence : r.confidence = roundPlaces 4 (points Float find texts entry.2)
  positive : 0 < points Float find texts entry.2
  most : points Float find texts entry.2 ≤ 1
  reached : p.automation.inference.threshold ≤ points Float find texts entry.2

/-- What rounding leaves of a score. -/
structure Rounded (threshold score confidence : Float) : Prop where
  least : 0 ≤ confidence
  most : confidence ≤ 1
  positive : 0 < confidence ↔ 1 / 20000 < ratOf score
  reached : roundPlaces 4 threshold ≤ confidence

theorem rounded {threshold score : Float} (bounded : (Number.float threshold).inUnit = true)
    (finite : score.isFinite = true) (reached : ratOf threshold ≤ ratOf score) (most : ratOf score ≤ 1) :
    Rounded threshold score (roundPlaces 4 score) := by
  have few : 4 ≤ 22 := by decide
  have bottom : ratOf (roundPlaces 4 0) = 0 := by decide +kernel
  have top : ratOf (roundPlaces 4 1) = 1 := by decide +kernel
  have finite' := isFinite_of_inUnit bounded
  obtain ⟨low, high⟩ := ratOf_of_inUnit bounded
  have least := low.trans reached
  have kept := isFinite_roundPlaces few finite least most
  constructor
  case least =>
    rw [nonneg_iff_ratOf kept, ← bottom]
    exact ratOf_roundPlaces_mono few isFinite_zero finite ratOf_zero.ge (ratOf_zero.trans_le least) most
  case most =>
    rw [le_one_iff_ratOf kept, ← top]
    exact ratOf_roundPlaces_mono few finite isFinite_one least (most.trans ratOf_one.ge) ratOf_one.le
  case positive =>
    rw [pos_iff_ratOf kept, ratOf_roundPlaces_pos_iff few finite least most]
    constructor <;> intro more <;> linarith
  case reached =>
    rw [le_iff_ratOf (isFinite_roundPlaces few finite' low high) kept]
    exact ratOf_roundPlaces_mono few finite' finite low reached most

theorem exists_rests (bounded : (Number.float p.automation.inference.threshold).inUnit = true)
    (suggested : suggestion? Float find texts p c = some r) : ∃ entry, Rests find texts p r entry ∧
      Rounded p.automation.inference.threshold (points Float find texts entry.2) r.confidence := by
  have leads := leads_leader weighs_ratOf find texts p c
  obtain ⟨entry, found, rfl⟩ := Option.map_eq_some_iff.1 suggested
  obtain ⟨led, enough⟩ := Option.filter_eq_some_iff.1 found
  rw [led] at leads
  rcases leads with - | ⟨first, positive⟩
  have finite := isFinite_of_ratOf_ne_zero positive.ne'
  have finite' := isFinite_of_inUnit bounded
  rw [reaches_iff_not_lt, lt_iff_ratOf finite finite', not_lt] at enough
  have most : ratOf (points Float find texts entry.2) ≤ 1 := ratOf_capped_le _
  exact ⟨entry, ⟨first.mem, rfl, rfl, (pos_iff_ratOf finite).2 positive, (le_one_iff_ratOf finite).2 most,
    (le_iff_ratOf finite' finite).2 enough⟩, rounded bounded finite enough most⟩

/-- Every suggestion under a policy that was read names a label of its category that the policy defines, and rests on
the score of that label. -/
theorem confidences_rounded {document : String} (read : (Policy.ofText document).result = .ok p)
    (titled : i.title = .text title) (written : i.body = .text body) (find : Finder) :
    ∃ suggestions : Suggestions Float, (inferWith find p i).result = .ok suggestions ∧ ∀ r ∈ suggestions.all,
      (∃ spec ∈ p.allLabels, spec.name = r.label ∧ spec.category = r.category.name) ∧
      ∃ entry, Rests find (searched title body i.labels) p r entry ∧
        Rounded p.automation.inference.threshold (points Float find (searched title body i.labels) entry.2)
          r.confidence := by
  refine ⟨_, result_inferWith titled written find p, fun r member => ?_⟩
  have bounded := (Policy.wellFormed_of_ofText read).inference.threshold
  obtain ⟨-, c, -, suggested⟩ := mem_all_answer_iff.1 member
  obtain ⟨entry, rests, rounded⟩ := exists_rests bounded suggested
  refine ⟨?_, entry, rests, rounded⟩
  rw [rests.label]
  exact Policy.exists_spec (List.mem_filter.1 rests.candidate).2

/-- A policy for bugs alone, with a trigger that weighs little. -/
def faint : Policy :=
  { project with
    labels := .ofGroups fun c => ⟨c.standardLead, if c = .type then .ofList [("bug", ⟨"d73a4a", "", none⟩)] else ∅⟩
    automation.inference := ⟨true, 0.00003, some (.ofList [("type", .ofList [("bug", [⟨"crash", 0.00004, none⟩])])])⟩ }

theorem wellFormed_faint : faint.WellFormed where
  labels c entry member := by
    rw [Policy.group, faint, Taxonomy.group_ofGroups] at member
    by_cases kind : c = .type
    · rw [if_pos kind] at member
      obtain rfl := List.mem_singleton.1 member
      exact ⟨by decide, by decide, by simp⟩
    · rw [if_neg kind] at member
      cases member
  board := (Policy.wellFormed_starter ⟨.backend, none, none, none⟩).board
  inference := by
    refine ⟨by decide +kernel, ?_⟩
    have read : ∃ node, Pattern.read {} "crash" = .ok node := exists_eq_ok_of_isOk (by decide +kernel)
    rintro tables ⟨⟩ table member
    obtain rfl := List.mem_singleton.1 member
    refine ⟨⟨.type, by decide, rfl⟩, fun row member t among => ?_⟩
    obtain rfl := List.mem_singleton.1 member
    obtain rfl := List.mem_singleton.1 among
    exact ⟨by decide, read, by decide +kernel⟩
  blocked := (Policy.wellFormed_starter ⟨.backend, none, none, none⟩).blocked

theorem faint_is_read : ∃ document, (Policy.ofText document).result = .ok faint :=
  Policy.exists_document wellFormed_faint (by decide +kernel) (by decide +kernel) (by decide +kernel)

theorem chosen_crash : chosen Float Pattern.found ["Crash on startup", ""] faint .type =
    some ("bug", [⟨"crash", 0.00004, none⟩]) := by
  decide +kernel

theorem faint_confidences_rounded : ∃ document, (Policy.ofText document).result = .ok faint ∧
    ∃ suggestions : Suggestions Float,
      (inferWith Pattern.found faint (titled "Crash on startup" [])).result = .ok suggestions ∧
      ∀ r ∈ suggestions.all,
        (∃ spec ∈ faint.allLabels, spec.name = r.label ∧ spec.category = r.category.name) ∧
        ∃ entry, Rests Pattern.found (searched "Crash on startup" "" (.ofList [])) faint r entry ∧
          Rounded 0.00003 (points Float Pattern.found (searched "Crash on startup" "" (.ofList [])) entry.2)
            r.confidence := by
  obtain ⟨document, read⟩ := faint_is_read
  exact ⟨document, read, confidences_rounded read rfl rfl Pattern.found⟩

/-- A label is suggested whose confidence is neither above zero nor as much as the threshold. -/
theorem crash_without_confidence : (∃ document, (Policy.ofText document).result = .ok faint) ∧
    ∃ suggestions : Suggestions Float, (infer faint (titled "Crash on startup" [])).result = .ok suggestions ∧
      ∃ r ∈ suggestions.all, ¬ 0 < r.confidence ∧ ¬ faint.automation.inference.threshold ≤ r.confidence := by
  have texts : searched "Crash on startup" "" (titled "Crash on startup" []).labels = ["Crash on startup", ""] := by
    have none : (titled "Crash on startup" []).labels.sorted = [] := List.mergeSort_nil
    rw [searched, none]
  refine ⟨faint_is_read, _, result_inferWith rfl rfl Pattern.found faint, ?_⟩
  refine ⟨proposal Float Pattern.found ["Crash on startup", ""] faint .type ("bug", [⟨"crash", 0.00004, none⟩]),
    ?_, by decide +kernel, by decide +kernel⟩
  refine mem_all_answer_iff.2 ⟨by decide +kernel, .type, by decide, ?_⟩
  rw [texts, suggestion?, chosen_crash]
  rfl

end Inference

end Triage
