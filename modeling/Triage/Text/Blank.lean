/-!
# Blanks

A blank is any character of white space, in any script, the four information separators included.
Stripping removes blanks at both ends of a text and nothing between.
-/

namespace Triage.Text

def isBlank (c : Char) : Bool :=
  let code := c.toNat
  (9 ≤ code && code ≤ 13) || (28 ≤ code && code ≤ 32) || code == 0x85 || code == 0xA0
    || code == 0x1680 || (0x2000 ≤ code && code ≤ 0x200A) || code == 0x2028 || code == 0x2029
    || code == 0x202F || code == 0x205F || code == 0x3000

/-- Removes the characters of a class from both ends. -/
def trimBy (drop : Char → Bool) (cs : List Char) : List Char :=
  ((cs.dropWhile drop).reverse.dropWhile drop).reverse

def strip (s : String) : String := String.ofList (trimBy isBlank s.toList)

/-- A text without any character other than blanks. -/
def isBlankText (s : String) : Bool := s.toList.all isBlank

/-- What follows a given beginning, if the text begins so. -/
def after? (start s : String) : Option String :=
  (start.toList.isPrefixOf? s.toList).map String.ofList

def beginsWith (start s : String) : Bool := start.toList.isPrefixOf s.toList

theorem after?_append (start rest : String) : after? start (start ++ rest) = some rest := by
  have h : ∀ (a b : List Char), a.isPrefixOf? (a ++ b) = some b := by
    intro a b
    induction a with
    | nil => rfl
    | cons c cs ih =>
      change (if (c == c) = true then List.isPrefixOf? cs (cs ++ b) else none) = some b
      simp [ih]
  simp [after?, String.toList_append, h]

theorem eq_append_of_after? {start s rest : String} (h : after? start s = some rest) : s = start ++ rest := by
  have follows : ∀ {a b tail : List Char}, a.isPrefixOf? b = some tail → b = a ++ tail := by
    intro a
    induction a with
    | nil =>
      intro b tail found
      change some b = some tail at found
      exact Option.some.inj found
    | cons c cs ih =>
      intro b tail found
      cases b with
      | nil => cases found
      | cons d ds =>
        change (if c == d then cs.isPrefixOf? ds else none) = some tail at found
        split at found
        · rename_i same
          rw [eq_of_beq same, ih found]
          rfl
        · cases found
  obtain ⟨tail, found, rfl⟩ := Option.map_eq_some_iff.1 h
  rw [← String.toList_inj, String.toList_append, String.toList_ofList]
  exact follows found

/-- Whether one text occurs inside another. -/
def occursIn (part whole : List Char) : Bool :=
  match whole with
  | [] => part.isEmpty
  | _ :: rest => part.isPrefixOf whole || occursIn part rest

end Triage.Text
