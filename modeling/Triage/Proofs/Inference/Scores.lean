import Triage.Proofs.Decimal.Order
import Triage.Proofs.Inference.Best

/-!
# Scores in binary64 numbers

A score is a number up to one or negative infinity, whatever the weights add up to. Scores are compared by their
values as far as they are above zero, and a threshold that a score reaches is reached by every greater score.
-/

namespace Triage

namespace Decimal

open Float.Model

variable {x y t : Float}

theorem isFinite_of_ratOf_ne_zero (some : ratOf x ≠ 0) : x.isFinite = true := by
  by_contra special
  exact some (by rw [ratOf, finite?, if_neg special]; rfl)

theorem ratOf_bottom (bottom : x.toModel.unpack = .infinity .negative) : ratOf x = 0 := by
  rw [ratOf_eq_valueOf, bottom, valueOf]

/-- Nothing is below negative infinity. -/
theorem not_lt_bottom (bottom : t.toModel.unpack = .infinity .negative) : ¬ x < t := by
  rw [lt_iff_unpack, bottom]
  cases x.toModel.unpack with
  | infinity sign => cases sign <;> decide
  | notANumber => decide
  | zero sign | finite sign => exact Bool.false_ne_true

/-- What a number is below, every lesser number is below. -/
theorem lt_of_ratOf_le (finite : x.isFinite = true) (finite' : y.isFinite = true) (le : ratOf x ≤ ratOf y)
    (less : y < t) : x < t := by
  rcases unpack_cases t with ⟨parts, found, -⟩ | ⟨-, none | ⟨sign, infinite⟩⟩
  · have bounded := (finite?_eq_some found).1
    exact (lt_iff_ratOf finite bounded).2 (le.trans_lt ((lt_iff_ratOf finite' bounded).1 less))
  · rw [lt_iff_unpack, none] at less
    cases given : y.toModel.unpack <;> rw [given] at less <;> cases less
  · cases sign with
    | negative => exact absurd less (not_lt_bottom infinite)
    | positive =>
        rw [lt_iff_unpack, infinite]
        change x.toModel.unpack.isFinite = true at finite
        cases given : x.toModel.unpack with
        | notANumber | infinity =>
            rw [given] at finite
            cases finite
        | zero | finite => rfl

end Decimal

namespace Inference

open Decimal

theorem capped_eq (total : Float) : capped total = if total < 1 then total else 1 := by
  have one : (Quantity.ofNat 1 : Float) = 1 := by decide +kernel
  have less (a b : Float) : Quantity.less a b = decide (a < b) := rfl
  rw [capped, Quantity.least, one, less]
  exact if_congr decide_eq_true_iff rfl rfl

/-- A score is finite unless it is negative infinity. -/
theorem capped_cases (total : Float) : (capped total).isFinite = true ∧ ratOf (capped total) ≤ 1 ∨
    (capped total).toModel.unpack = .infinity .negative := by
  rw [capped_eq]
  split
  · rename_i below
    rcases unpack_cases total with ⟨parts, found, -⟩ | ⟨-, none | ⟨sign, infinite⟩⟩
    · have finite := (finite?_eq_some found).1
      exact .inl ⟨finite, ((lt_one_iff_ratOf finite).1 below).le⟩
    · rw [lt_iff_unpack, none] at below
      cases below
    · cases sign with
      | negative => exact .inr infinite
      | positive =>
          rw [lt_iff_unpack, infinite] at below
          cases below
  · exact .inl ⟨isFinite_one, ratOf_one.le⟩

theorem ratOf_capped_le (total : Float) : ratOf (capped total) ≤ 1 := by
  rcases capped_cases total with ⟨-, most⟩ | bottom
  · exact most
  · exact (ratOf_bottom bottom).trans_le zero_le_one

theorem weighs_ratOf : Weighs ratOf where
  above total := by
    have zero : (Quantity.ofNat 0 : Float) = 0 := by decide +kernel
    rw [zero]
    refine decide_eq_true_iff.trans ?_
    rcases capped_cases total with ⟨finite, -⟩ | bottom
    · exact pos_iff_ratOf finite
    · exact iff_of_false (not_lt_bottom bottom) (ratOf_bottom bottom).not_gt
  less {first second} positive := by
    refine decide_eq_true_iff.trans ?_
    rcases capped_cases second with ⟨finite, -⟩ | bottom
    · exact lt_iff_ratOf (isFinite_of_ratOf_ne_zero positive.ne') finite
    · exact iff_of_false (not_lt_bottom bottom) (by rw [ratOf_bottom bottom]; exact positive.not_gt)

section

variable {find : Finder} {texts : List String} {p : Policy} {entry first second : String × List Trigger}

theorem reaches_iff_not_lt : reaches Float find texts p entry = true ↔
    ¬ points Float find texts entry.2 < p.automation.inference.threshold := by
  have less (a b : Float) : Quantity.less a b = decide (a < b) := rfl
  rw [reaches, less, Bool.not_eq_true', decide_eq_false_iff_not]
  rfl

/-- A threshold that a score reaches is reached by every greater score. -/
theorem reaches_of_le (positive : 0 < ratOf (points Float find texts first.2))
    (le : ratOf (points Float find texts first.2) ≤ ratOf (points Float find texts second.2))
    (enough : reaches Float find texts p first = true) : reaches Float find texts p second = true := by
  have finite := isFinite_of_ratOf_ne_zero positive.ne'
  have finite' := isFinite_of_ratOf_ne_zero (positive.trans_le le).ne'
  rw [reaches_iff_not_lt] at enough ⊢
  exact fun below => enough (lt_of_ratOf_le finite finite' le below)

end

end Inference

end Triage
