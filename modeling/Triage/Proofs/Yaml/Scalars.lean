import Triage.Proofs.Yaml.Laid
import Triage.Proofs.Yaml.Numbers
import Triage.Yaml.Reading

/-!
# What scalars are read as

A value on its own is read as itself: its plain form has its tag, or it stands in quotes. Only a text may
change, where single quotes do not keep a line break of it.
-/

namespace Triage.Yaml

open Triage.Data (isWritable)

/-- A text as it is read back. -/
def settleText (s : String) : String :=
  match Style.choose (Tag.ofForm s == .str) false s.toList with
  | .single => String.ofList (Pen.reread s.toList)
  | _ => s

/-! ## Values -/

/-- A value on its own as it is read back. -/
def settleScalar : Data → Data
  | .text s => .text (settleText s)
  | value => value

/-- A token of a scalar that has a value. -/
def Content.Holds (content : Content) (d : Data) : Prop :=
  ∃ text plain, content = .scalar text plain ∧ (Assembly.scalarTag plain text none).isCollection = false ∧
    ∀ mark, (Assembly.scalarTag plain text none).scalarValue mark text = .ok d

theorem choose_plain {plainTag key : Bool} {cs : List Char} (tagged : plainTag = true) (filled : cs ≠ [])
    (allowed : Style.allowsPlain cs = true) : Style.choose plainTag key cs = .plain := by
  have oneLine : Style.isMultiline cs = false := by
    simp only [Style.allowsPlain, Bool.not_eq_true', Bool.or_eq_false_iff] at allowed
    exact allowed.1.1.2
  rw [Style.choose, oneLine, tagged, allowed]
  simp [filled]

/-- A plain scalar has the value that its form gives. -/
theorem holds_plain {d : Data} {key : Bool} {tag : Tag} {text : String} (form : scalarForm d = (tag, text))
    (tagged : Tag.ofForm text = tag) (allowed : Style.allowsPlain text.toList = true)
    (single : tag.isCollection = false) (value : ∀ mark, tag.scalarValue mark text = .ok d) :
    (scalarToken key d).Holds d := by
  have filled : (scalarForm d).2.toList ≠ [] := scalarForm_filled (by rw [form, tagged]; exact beq_self_eq_true tag)
  rw [form] at filled
  have style : Style.choose (Tag.ofForm text == tag) key text.toList = .plain :=
    choose_plain (beq_iff_eq.2 tagged) filled allowed
  refine ⟨text, true, ?_, ?_, ?_⟩
  · rw [scalarToken, form]
    simp only [style]
  · rw [Assembly.scalarTag, if_pos rfl, tagged]
    exact single
  · rw [Assembly.scalarTag, if_pos rfl, tagged]
    exact value

/-- A key that stands on one line has the style of a value. -/
theorem choose_of_isSimpleKey {s : String} {plainTag : Bool} (simple : isSimpleKey (.text s) = true) :
    Style.choose plainTag true s.toList = Style.choose plainTag false s.toList := by
  simp only [isSimpleKey, Bool.and_eq_true, bne_iff_ne, Bool.not_eq_true'] at simple
  obtain ⟨⟨-, filled⟩, oneLine⟩ := simple
  have some : s.toList.isEmpty = false := by
    rw [List.isEmpty_eq_false_iff]
    exact fun none => filled (String.toList_eq_nil_iff.1 none)
  change Style.isMultiline s.toList = false at oneLine
  simp [Style.choose, oneLine, some]

theorem holds_text {s : String} {key : Bool} (fits : key = true → isSimpleKey (.text s) = true) :
    (scalarToken key (.text s)).Holds (.text (settleText s)) := by
  have same : Style.choose (Tag.ofForm s == .str) key s.toList =
      Style.choose (Tag.ofForm s == .str) false s.toList := by
    cases key with
    | false => rfl
    | true => exact choose_of_isSimpleKey (fits rfl)
  rw [settleText, scalarToken]
  simp only [scalarForm, Data.display, same]
  cases style : Style.choose (Tag.ofForm s == .str) false s.toList with
  | plain =>
      have tagged : Tag.ofForm s = .str := beq_iff_eq.1 (Style.choose_eq_plain style).1
      refine ⟨s, true, rfl, ?_, fun mark => ?_⟩
      · rw [Assembly.scalarTag, if_pos rfl, tagged]
        rfl
      · rw [Assembly.scalarTag, if_pos rfl, tagged]
        rfl
  | single => exact ⟨_, false, rfl, rfl, fun _ => rfl⟩
  | double => exact ⟨_, false, rfl, rfl, fun _ => rfl⟩

/-- A scalar on its own, also a key, is read as a value. -/
theorem scalarToken_holds {d : Data} {key : Bool} (alone : Data.isScalar d = true) (short : isWritable d = true)
    (fits : key = true → isSimpleKey d = true) : (scalarToken key d).Holds (settleScalar d) := by
  cases d with
  | null => exact holds_plain rfl (by decide) (by decide) rfl fun _ => rfl
  | bool b => cases b <;> exact holds_plain rfl (by decide) (by decide) rfl fun _ => by rfl
  | int n =>
      rw [isWritable, Bool.not_eq_true'] at short
      refine holds_plain rfl (ofForm_int n) (allowsPlain_int n) rfl fun _ => ?_
      rw [Tag.scalarValue, integer_toString short]
      rfl
  | float x =>
      refine holds_plain rfl (ofForm_float x) (allowsPlain_float x) rfl fun _ => ?_
      rw [Tag.scalarValue, float_floatText x]
      rfl
  | text s => exact holds_text fits
  | _ => cases alone

end Triage.Yaml
