import Triage.Proofs.Yaml.Steps

/-!
# The tokens of a value

The token stream of a text that is laid out by the description holds the tokens of the value, as long as
every key in front of its colon is short enough to stay pending.
-/

namespace Triage.Yaml

mutual

/-- The tokens of a value; behind a key on one line a list has no start of its own. -/
def spoken (after : Bool) : Data → List Content
  | .list [] => [.flowSequenceStart, .flowSequenceEnd]
  | .map [] => [.flowMappingStart, .flowMappingEnd]
  | .list (item :: rest) =>
    if after then spokenItems (item :: rest)
    else .blockSequenceStart :: (spokenItems (item :: rest) ++ [.blockEnd])
  | .map (entry :: rest) => .blockMappingStart :: (spokenEntries (entry :: rest) ++ [.blockEnd])
  | value => [scalarToken false value]

def spokenItems : List Data → List Content
  | [] => []
  | item :: rest => .blockEntry :: (spoken false item ++ spokenItems rest)

def spokenEntries : List (Data × Data) → List Content
  | [] => []
  | (key, value) :: rest =>
    .key :: scalarToken (isSimpleKey key) key :: .value :: (spoken (isSimpleKey key) value ++ spokenEntries rest)

end

/-- Whether a key that stands in front of its colon stays pending up to it. -/
def keyFits (key : Data) : Bool := !isSimpleKey key || (keyText key).length ≤ 1024

mutual

/-- Whether all keys in a value fit. -/
def keysFit : Data → Bool
  | .list items => itemsFit items
  | .map entries => entriesFit entries
  | _ => true

def itemsFit : List Data → Bool
  | [] => true
  | item :: rest => keysFit item && itemsFit rest

def entriesFit : List (Data × Data) → Bool
  | [] => true
  | (key, value) :: rest => keyFits key && keysFit value && entriesFit rest

end

namespace Part

def fits : Part → Bool
  | .value _ d => keysFit d
  | .items ds => itemsFit ds
  | .entries es => entriesFit es

end Part

open Triage.Yaml.Stream

variable {column k : Nat} {indent : Int} {outer : List Int} {said : List Content} {s : Stream} {w t tail : List Char}
  {key : Data} {after : Bool} {x : Char}

theorem Laid.lead {d : Data} (laid : Laid column (.value after d) t) :
    ∃ x t', t = x :: t' ∧ isSpaceOrEnd x = true ∧ (after = false → x = ' ') := by
  cases laid with
  | scalar _ _ => exact ⟨_, _, rfl, rfl, fun _ => rfl⟩
  | noItems => exact ⟨_, _, rfl, rfl, fun _ => rfl⟩
  | noEntries => exact ⟨_, _, rfl, rfl, fun _ => rfl⟩
  | list _ => cases after <;> exact ⟨_, _, rfl, rfl, by simp⟩
  | map _ => cases after <;> exact ⟨_, _, rfl, rfl, by simp⟩

theorem Keyed.startsText (keyed : Keyed column key after w) : Scan.startsText (w ++ tail) = true := by
  cases keyed with
  | simple _ text =>
      rw [List.append_assoc]
      exact text.startsText
  | explicit _ _ => rfl

/-- A key leads to the place in front of its value. -/
theorem Keyed.leads (keyed : Keyed column key after w) (fits : keyFits key = true)
    (stands : s.Stands (w ++ x :: t) column indent outer said true) (inside : indent ≤ column)
    (gap : isSpaceOrEnd x = true) (blank : after = false → x = ' ') :
    ∃ r place, Leads s r ∧ column < place ∧ (after = false → place = column + 1) ∧
      r.Stands (x :: t) place column (around indent outer column)
        (said ++ opening indent column .blockMappingStart ++ [.key, scalarToken (isSimpleKey key) key, .value])
          (!after) := by
  cases keyed with
  | simple simple text =>
      rw [List.append_assoc] at stands
      have short : (keyText key).length ≤ 1024 := by simpa [keyFits, simple] using fits
      obtain ⟨r, leads, there⟩ := stands.simpleKey text (Nat.succ_pos _) (by omega) inside gap short
      rw [simple]
      exact ⟨r, _, leads, by omega, by simp, there⟩
  | @explicit w long text =>
      obtain rfl := blank rfl
      have here :
          s.Stands ('?' :: ' ' :: (w ++ (Yaml.gap column ++ ':' :: ' ' :: t))) column indent outer said true := by
        simpa using stands
      obtain ⟨a, leadsA, atKey⟩ := here.key inside
      obtain ⟨b, leadsB, atText⟩ := atKey.blank text.startsText
      obtain ⟨c, leadsC, atColon⟩ :=
        atText.scalar text (Nat.succ_pos _) (by omega) (by push_cast; omega) rfl (Int.le_refl _)
      obtain ⟨r, leadsR, there⟩ := atColon.value
      rw [long]
      refine ⟨r, _, leadsA.trans (leadsB.trans (leadsC.trans leadsR)), Nat.lt_succ_self _, fun _ => rfl, ?_⟩
      simpa using there

/-- What a stream does with a part of a value that is followed by the end of its line. -/
def Scanned (column : Nat) (text : List Char) : Part → Prop
  | .value after d => ∀ {s : Stream} {outer : List Int} {said : List Content} {k place : Nat} {tail : List Char},
    s.Stands (text ++ (gap k ++ tail)) place column outer said (!after) → column < place →
    (after = false → place = column + 1) → k ≤ column → Scan.startsText tail = true →
    ∃ v, Leads s v ∧ v.Stands tail k column outer (said ++ spoken after d) true
  | .items ds => ∀ {s : Stream} {indent : Int} {outer : List Int} {said : List Content} {k : Nat} {tail : List Char},
    s.Stands (text ++ (gap k ++ tail)) column indent outer said true → indent ≤ column → k ≤ column →
    Scan.startsText tail = true →
    ∃ v, Leads s v ∧ v.Stands tail k column (around indent outer column)
      (said ++ opening indent column .blockSequenceStart ++ spokenItems ds) true
  | .entries es => ∀ {s : Stream} {indent : Int} {outer : List Int} {said : List Content} {k : Nat} {tail : List Char},
    s.Stands (text ++ (gap k ++ tail)) column indent outer said true → indent ≤ column → k ≤ column →
    Scan.startsText tail = true →
    ∃ v, Leads s v ∧ v.Stands tail k column (around indent outer column)
      (said ++ opening indent column .blockMappingStart ++ spokenEntries es) true

theorem Laid.startsText_items {ds : List Data} (laid : Laid column (.items ds) t) :
    Scan.startsText (t ++ tail) = true := by
  cases laid <;> rfl

theorem Laid.startsText_entries {es : List (Data × Data)} (laid : Laid column (.entries es) t) :
    Scan.startsText (t ++ tail) = true := by
  cases laid with
  | lastEntry keyed _ => rw [List.append_assoc]; exact keyed.startsText
  | entries keyed _ _ => rw [List.append_assoc]; exact keyed.startsText

theorem spoken_scalar {d : Data} (alone : Data.isScalar d = true) (after : Bool) :
    spoken after d = [scalarToken false d] := by
  cases d with
  | null | bool | int | float | text => simp [spoken]
  | _ => cases alone

theorem exists_scalarToken (key : Bool) (d : Data) : ∃ text plain, scalarToken key d = .scalar text plain := by
  rw [scalarToken]
  split
  split <;> exact ⟨_, _, rfl⟩

section

theorem scanned_scalar {d : Data} (alone : Data.isScalar d = true)
    (text : ScalarText true (column + 2) w (scalarToken false d)) :
    Scanned column (' ' :: w) (.value after d) := by
  intro s outer said k place tail stands right _ outside starts
  obtain ⟨a, leadsA, there⟩ := Stream.Stands.blank stands text.startsText
  obtain ⟨v, leadsV, gone⟩ := there.scalar text (Nat.succ_pos _) (by push_cast; omega) (by push_cast; omega) starts
    (by exact_mod_cast outside)
  exact ⟨v, leadsA.trans leadsV, by rw [spoken_scalar alone]; exact gone⟩

theorem scanned_noItems : Scanned column [' ', '[', ']'] (.value after (.list [])) := by
  intro s outer said k place tail stands right _ _ starts
  obtain ⟨a, leadsA, there⟩ := Stream.Stands.blank stands rfl
  obtain ⟨v, leadsV, gone⟩ := there.brackets (a := .flowSequenceStart) (b := .flowSequenceEnd)
    (fun rest => by simp [dispatch, Cursor.peek, Cursor.atIndicator, rest])
    (fun rest => by simp [dispatch, Cursor.peek, Cursor.atIndicator, rest]) (fun _ => rfl) (fun _ => rfl)
    (by push_cast; omega) starts
  exact ⟨v, leadsA.trans leadsV, by rw [spoken]; exact gone⟩

theorem scanned_noEntries : Scanned column [' ', '\x7b', '\x7d'] (.value after (.map [])) := by
  intro s outer said k place tail stands right _ _ starts
  obtain ⟨a, leadsA, there⟩ := Stream.Stands.blank stands rfl
  obtain ⟨v, leadsV, gone⟩ := there.brackets (a := .flowMappingStart) (b := .flowMappingEnd)
    (fun rest => by simp [dispatch, Cursor.peek, Cursor.atIndicator, rest])
    (fun rest => by simp [dispatch, Cursor.peek, Cursor.atIndicator, rest]) (fun _ => rfl) (fun _ => rfl)
    (by push_cast; omega) starts
  exact ⟨v, leadsA.trans leadsV, by rw [spoken]; exact gone⟩

/-- The items of a list behind a key stand at the column of the key. -/
theorem scanned_list_after {d : Data} {ds : List Data} (items : Laid column (.items (d :: ds)) t)
    (scanned : Scanned column t (.items (d :: ds))) :
    Scanned column (gap column ++ t) (.value true (.list (d :: ds))) := by
  intro s outer said k place tail stands _ _ outside starts
  rw [List.append_assoc] at stands
  obtain ⟨a, leadsA, there⟩ := Stream.Stands.line stands items.startsText_items
  obtain ⟨v, leadsV, gone⟩ := scanned there (Int.le_refl _) outside starts
  rw [around_same, opening_same, List.append_nil] at gone
  exact ⟨v, leadsA.trans leadsV, by simpa [spoken] using gone⟩

/-- What starts a collection of its own ends it as well. -/
theorem scanned_list_inside {d : Data} {ds : List Data} (items : Laid (column + 2) (.items (d :: ds)) t)
    (scanned : Scanned (column + 2) t (.items (d :: ds))) :
    Scanned column (' ' :: t) (.value false (.list (d :: ds))) := by
  intro s outer said k place tail stands _ start outside starts
  obtain rfl := start rfl
  obtain ⟨a, leadsA, there⟩ := Stream.Stands.blank stands items.startsText_items
  obtain ⟨b, leadsB, inner⟩ := scanned there (by push_cast; omega) (by omega) starts
  rw [around_right (by push_cast; omega), opening_right (by push_cast; omega)] at inner
  obtain ⟨v, leadsV, gone⟩ := inner.close starts (by push_cast; omega)
  exact ⟨v, leadsA.trans (leadsB.trans leadsV), by simpa [spoken] using gone⟩

theorem scanned_map {e : Data × Data} {es : List (Data × Data)} (entries : Laid (column + 2) (.entries (e :: es)) t)
    (scanned : Scanned (column + 2) t (.entries (e :: es))) :
    Scanned column ((if after then gap (column + 2) else [' ']) ++ t) (.value after (.map (e :: es))) := by
  intro s outer said k place tail stands _ start outside starts
  rw [List.append_assoc] at stands
  have begun : ∃ a, Leads s a ∧ a.Stands (t ++ (gap k ++ tail)) (column + 2) column outer said true := by
    cases after with
    | true => exact Stream.Stands.line stands entries.startsText_entries
    | false =>
        obtain rfl := start rfl
        exact Stream.Stands.blank stands entries.startsText_entries
  obtain ⟨a, leadsA, there⟩ := begun
  obtain ⟨b, leadsB, inner⟩ := scanned there (by push_cast; omega) (by omega) starts
  rw [around_right (by push_cast; omega), opening_right (by push_cast; omega)] at inner
  obtain ⟨v, leadsV, gone⟩ := inner.close starts (by push_cast; omega)
  exact ⟨v, leadsA.trans (leadsB.trans leadsV), by simpa [spoken] using gone⟩

/-- One item is passed with its value. -/
theorem scanned_item {d : Data} (value : Laid column (.value false d) t) (scanned : Scanned column t (.value false d))
    {s : Stream} {tail : List Char} (stands : s.Stands ('-' :: (t ++ (gap k ++ tail))) column indent outer said true)
    (inside : indent ≤ column) (outside : k ≤ column) (starts : Scan.startsText tail = true) :
    ∃ v, Leads s v ∧ v.Stands tail k column (around indent outer column)
      (said ++ opening indent column .blockSequenceStart ++ .blockEntry :: spoken false d) true := by
  obtain ⟨x, t', rfl, -, blank⟩ := value.lead
  obtain rfl := blank rfl
  obtain ⟨a, leadsA, there⟩ := Stream.Stands.entry stands inside
  obtain ⟨v, leadsV, gone⟩ := scanned there (Nat.lt_succ_self _) (fun _ => rfl) outside starts
  exact ⟨v, leadsA.trans leadsV, by simpa using gone⟩

/-- One entry is passed with its key and its value. -/
theorem scanned_entry {value : Data} (keyed : Keyed column key after w) (fits : keyFits key = true)
    (laid : Laid column (.value after value) t) (scanned : Scanned column t (.value after value)) {s : Stream}
    {tail : List Char} (stands : s.Stands (w ++ (t ++ (gap k ++ tail))) column indent outer said true)
    (inside : indent ≤ column) (outside : k ≤ column) (starts : Scan.startsText tail = true) :
    ∃ v, Leads s v ∧ v.Stands tail k column (around indent outer column)
      (said ++ opening indent column .blockMappingStart ++
        .key :: scalarToken (isSimpleKey key) key :: .value :: spoken (isSimpleKey key) value) true := by
  obtain ⟨x, t', rfl, gap, blank⟩ := laid.lead
  obtain ⟨a, place, leadsA, right, start, there⟩ := keyed.leads fits stands inside gap blank
  obtain ⟨v, leadsV, gone⟩ := scanned there right start outside starts
  have same : after = isSimpleKey key := by
    cases keyed with
    | simple simple _ => exact simple.symm
    | explicit long _ => exact long.symm
  rw [same] at gone
  exact ⟨v, leadsA.trans leadsV, by simpa using gone⟩

end

/-- Text that is laid out is read as the tokens of its value. -/
theorem Laid.scanned {part : Part} (laid : Laid column part t) (fits : part.fits = true) : Scanned column t part := by
  -- Behind a first item or entry its collection is open, so the others open nothing more.
  induction laid with
  | scalar alone text => exact scanned_scalar alone text
  | noItems => exact scanned_noItems
  | noEntries => exact scanned_noEntries
  | @list column after d ds t items ih =>
      cases after with
      | true => exact scanned_list_after items (ih fits)
      | false => exact scanned_list_inside items (ih fits)
  | @map column after e es t entries ih => exact scanned_map entries (ih fits)
  | @lastItem column d t value ih =>
      simp only [Part.fits, itemsFit, Bool.and_true] at fits
      intro s indent outer said k tail stands inside outside starts
      obtain ⟨v, leads, gone⟩ := scanned_item value (ih fits) stands inside outside starts
      exact ⟨v, leads, by simpa [spokenItems] using gone⟩
  | @items column d next ds t r value rest ihValue ihRest =>
      rw [Part.fits, itemsFit, Bool.and_eq_true] at fits
      intro s indent outer said k tail stands inside outside starts
      have here : s.Stands ('-' :: (t ++ (gap column ++ (r ++ (gap k ++ tail))))) column indent outer said true := by
        simpa using stands
      obtain ⟨a, leadsA, there⟩ := scanned_item value (ihValue fits.1) here inside (Nat.le_refl _) rest.startsText_items
      obtain ⟨v, leadsV, gone⟩ := ihRest fits.2 there (Int.le_refl _) outside starts
      rw [around_same, opening_same, List.append_nil] at gone
      refine ⟨v, leadsA.trans leadsV, ?_⟩
      rw [spokenItems]
      simpa using gone
  | @lastEntry column after k v w t key value ih =>
      simp only [Part.fits, entriesFit, Bool.and_true, Bool.and_eq_true] at fits
      intro s indent outer said k tail stands inside outside starts
      rw [List.append_assoc] at stands
      obtain ⟨v, leads, gone⟩ := scanned_entry key fits.1 value (ih fits.2) stands inside outside starts
      exact ⟨v, leads, by simpa [spokenEntries] using gone⟩
  | @entries column after k v next es w t r key value rest ihValue ihRest =>
      rw [Part.fits, entriesFit, Bool.and_eq_true, Bool.and_eq_true] at fits
      intro s indent outer said k tail stands inside outside starts
      have here : s.Stands (w ++ (t ++ (gap column ++ (r ++ (gap k ++ tail))))) column indent outer said true := by
        simpa using stands
      obtain ⟨a, leadsA, there⟩ := scanned_entry key fits.1.1 value (ihValue fits.1.2) here inside (Nat.le_refl _)
        rest.startsText_entries
      obtain ⟨v, leadsV, gone⟩ := ihRest fits.2 there (Int.le_refl _) outside starts
      rw [around_same, opening_same, List.append_nil] at gone
      refine ⟨v, leadsA.trans leadsV, ?_⟩
      rw [spokenEntries]
      simpa using gone

/-! ## Whole documents -/

/-- A stream at the end of its text ends what is open. -/
theorem Stream.Stands.finish {s : Stream} {said : List Content} (stands : s.Stands [] 0 (0 : Nat) [-1] said true) :
    ∃ last, s.step = .ok last ∧ last.finished = true ∧
      last.tokens.toList.map Token.content = said ++ [.blockEnd, .streamEnd] := by
  have ended : ({ s.push .blockEnd with indent := -1, outer := [] } : Stream).Stands [] 0 (-1) []
      (said ++ [.blockEnd]) true :=
    { stands with
      indent := rfl
      outer := rfl
      said := by simp [push, stands.said] }
  have unwound : s.unwind (-1) = { s.push .blockEnd with indent := -1, outer := [] } := by
    rw [unwind, if_pos stands.inBlock, stands.outer, unwind.close, if_pos (by rw [stands.indent]; decide)]
    rfl
  have found : s.dispatch = .ok { ({ s.push .blockEnd with indent := -1, outer := [] } : Stream).push .streamEnd with
      keyAllowed := false, pending := [], finished := true } := by
    have here : s.cursor.peek = '\x00' := by rw [Cursor.peek, stands.rest]; rfl
    rw [dispatch, here]
    change s.finish = _
    rw [Stream.finish, unwound, ended.dropKey]
    rfl
  refine ⟨_, (stands.step rfl (Int.le_refl _) found).trans (dropStale_line (by simp) (by simp)), rfl, ?_⟩
  simp [push, stands.said]

/-- A document of entries is read as their tokens. -/
theorem tokens_entries {es : List (Data × Data)} (laid : Laid 0 (.entries es) t) (fits : entriesFit es = true) :
    ∃ ts, tokens (t ++ ['\n']) = (ts, none) ∧ ts.map Token.content =
      .streamStart :: .blockMappingStart :: (spokenEntries es ++ [.blockEnd, .streamEnd]) := by
  have start : (Stream.start (t ++ ['\n'])).Stands (t ++ (gap 0 ++ [])) 0 (-1) [] [.streamStart] true :=
    { rest := rfl, column := rfl, flow := rfl, indent := rfl, outer := rfl, said := rfl, allowed := rfl, pending := rfl
      unfinished := rfl }
  obtain ⟨z, leads, there⟩ := laid.scanned fits start (by decide) (Nat.le_refl 0) rfl
  rw [around_right (by decide), opening_right (by decide)] at there
  obtain ⟨last, found, finished, said⟩ := there.finish
  obtain ⟨next, first, unfinished, whole⟩ := leads.run found there.unfinished finished
  refine ⟨last.tokens.toList, ?_, by simpa using said⟩
  rw [tokens, Stream.run, unfinished, if_neg Bool.false_ne_true, first]
  exact whole _ (Nat.lt_succ_self _)

end Triage.Yaml
