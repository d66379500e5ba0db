import Triage.Proofs.Yaml.Spoken
import Triage.Proofs.Yaml.Scalars

/-!
# The value of the tokens

Reading the tokens of a value gives a node without circles, and the value of the node is the value that was
written, up to the texts that do not keep their line breaks in single quotes.
-/

namespace Triage.Yaml

open Triage.Data (isWritable allWritable entriesWritable)

/-! ## Nodes and their values -/

/-- A list of faults by depth with no fault in it. -/
def Sound (faults : List (Option Fault)) : Prop := ∀ fault ∈ faults, fault = none

/-- A node without circles that has a value and no fault. -/
structure Node.Means (node : Node) (d : Data) : Prop where
  straight : node.isCircular = false
  ordinary : node.tag ≠ .merge ∧ node.tag ≠ .value
  opening : (node.outcomeAs node.tag).opening = none
  later : Sound (node.outcomeAs node.tag).later
  data : (node.outcomeAs node.tag).data = d

section

variable {node : Node} {nodes : List Node} {pairs : List (Node × Node)} {d : Data} {ds : List Data}
  {entries : List (Data × Data)} {faults more : List (Option Fault)} {id : Nat} {mark : Mark} {tag : Tag}
    {text : String}

theorem sound_firstFaults (first : Sound faults) (second : Sound more) : Sound (firstFaults faults more) := by
  induction faults generalizing more with
  | nil =>
      rw [firstFaults]
      exact second
  | cons a faults ih =>
      cases more with
      | nil => exact first
      | cons b more =>
          rw [firstFaults, first a List.mem_cons_self, second b List.mem_cons_self]
          intro fault member
          obtain rfl | later := List.mem_cons.1 member
          · rfl
          · exact ih (fun f m => first f (List.mem_cons_of_mem _ m)) (fun f m => second f (List.mem_cons_of_mem _ m))
              fault later

theorem sound_later {parts : List Outcome} (each : ∀ part ∈ parts, Sound part.later) :
    Sound ((parts.map Outcome.later).foldr firstFaults []) := by
  induction parts with
  | nil =>
      intro fault member
      cases member
  | cons part parts ih =>
      exact sound_firstFaults (each part List.mem_cons_self)
        (ih fun other member => each other (List.mem_cons_of_mem _ member))

theorem sound_cons (rest : Sound faults) : Sound (none :: faults) := by
  intro fault member
  obtain rfl | later := List.mem_cons.1 member
  · rfl
  · exact rest fault later

theorem means_scalar (ordinary : tag.isCollection = false) (value : tag.scalarValue mark text = .ok d) :
    (Node.scalar id mark tag text).Means d := by
  have outcome : (Node.scalar id mark tag text).outcomeAs tag = ⟨none, [], d⟩ := by
    rw [Node.outcomeAs, ordinary, if_neg Bool.false_ne_true, value]
    rfl
  have empty : Sound ((Node.scalar id mark tag text).outcomeAs tag).later := by
    intro fault member
    rw [outcome] at member
    cases member
  refine ⟨rfl, ?_, by rw [Node.tag, outcome], empty, by rw [Node.tag, outcome]⟩
  constructor
  · rintro rfl
    cases ordinary
  · rintro rfl
    cases ordinary

theorem outcomes_of_means (each : List.Forall₂ Node.Means nodes ds) :
    (Node.outcomes nodes).findSome? Outcome.opening = none ∧ (∀ part ∈ Node.outcomes nodes, Sound part.later) ∧
      (Node.outcomes nodes).map Outcome.data = ds ∧ Node.anyCircular nodes = false := by
  induction each with
  | nil => simp [Node.outcomes, Node.anyCircular]
  | cons first _ ih =>
      obtain ⟨opening, later, data, straight⟩ := ih
      refine ⟨?_, ?_, ?_, ?_⟩
      · rw [Node.outcomes, List.findSome?_cons, first.opening, opening]
      · rw [Node.outcomes, List.forall_mem_cons]
        exact ⟨first.later, later⟩
      · rw [Node.outcomes, List.map_cons, first.data, data]
      · rw [Node.anyCircular, first.straight, straight]
        rfl

theorem means_sequence (each : List.Forall₂ Node.Means nodes ds) :
    (Node.sequence id mark .seq nodes).Means (.list ds) := by
  obtain ⟨opening, later, data, straight⟩ := outcomes_of_means each
  have outcome : (Node.sequence id mark .seq nodes).outcomeAs .seq =
      .collection none (Node.outcomes nodes) (.list ds) := by
    rw [Node.outcomeAs]
    simp only [Outcome.sequence, opening, data]
  refine ⟨?_, by simp [Node.tag], by rw [Node.tag, outcome]; rfl, ?_, by rw [Node.tag, outcome]; rfl⟩
  · rw [Node.isCircular]
    exact straight
  · rw [Node.tag, outcome]
    exact sound_cons (sound_later later)

/-- The entries of a mapping one after the other: an equal key keeps its place and takes the later value. -/
def gather (entries : List (Data × Data)) : List (Data × Data) :=
  entries.foldl (fun t entry => Data.put entry.1 entry.2 t) []

/-- Two nodes that mean a key and its value. -/
structure Node.MeansEntry (pair : Node × Node) (entry : Data × Data) : Prop where
  key : pair.1.Means entry.1
  value : pair.2.Means entry.2
  hashable : entry.1.unhashable = false

theorem ownEntries_of_means (each : List.Forall₂ Node.MeansEntry pairs entries) :
    Node.merged pairs = .ok [] ∧ (Node.ownEntries pairs).findSome? Entry.fault? = none ∧
      (∀ part ∈ (Node.ownEntries pairs).flatMap Entry.parts, Sound part.later) ∧
      (Node.ownEntries pairs).map (fun entry => (entry.key.data, entry.value.data)) = entries ∧
      Node.anyCircularEntry pairs = false := by
  induction each with
  | nil => simp [Node.merged, Node.ownEntries, Node.anyCircularEntry]
  | @cons pair entry pairs entries first _ ih =>
      obtain ⟨key, value⟩ := pair
      obtain ⟨merges, faults, later, data, straight⟩ := ih
      have fault : (Entry.mk key.mark (key.outcomeAs key.tag) (value.outcomeAs value.tag)).fault? = none := by
        simp [Entry.fault?, first.key.opening, first.key.data, first.value.opening, first.hashable]
      have own : Node.ownEntries ((key, value) :: pairs) =
          ⟨key.mark, key.outcomeAs key.tag, value.outcomeAs value.tag⟩ :: Node.ownEntries pairs := by
        rw [Node.ownEntries]
        simp only [if_neg first.key.ordinary.1, if_neg first.key.ordinary.2]
      refine ⟨?_, ?_, ?_, ?_, ?_⟩
      · rw [Node.merged, if_neg first.key.ordinary.1, merges]
      · rw [own, List.findSome?_cons, fault, faults]
      · rw [own, List.flatMap_cons]
        intro part member
        obtain here | there := List.mem_append.1 member
        · obtain rfl | here := List.mem_cons.1 here
          · exact first.key.later
          · obtain rfl := List.mem_singleton.1 here
            exact first.value.later
        · exact later part there
      · rw [own, List.map_cons, data, first.key.data, first.value.data]
      · rw [Node.anyCircularEntry, first.key.straight, first.value.straight, straight]
        rfl

theorem means_mapping (each : List.Forall₂ Node.MeansEntry pairs entries) :
    (Node.mapping id mark .map pairs).Means (.map (gather entries)) := by
  obtain ⟨merges, faults, later, data, straight⟩ := ownEntries_of_means each
  have table : Entry.table (Node.ownEntries pairs) = gather entries := by
    rw [← data, gather, List.foldl_map]
    rfl
  have outcome : (Node.mapping id mark .map pairs).outcomeAs .map =
      .collection none ((Node.ownEntries pairs).flatMap Entry.parts) (.map (gather entries)) := by
    rw [Node.outcomeAs, Node.table, merges]
    simp only [List.nil_append, faults, table]
  refine ⟨?_, by simp [Node.tag], by rw [Node.tag, outcome]; rfl, ?_, by rw [Node.tag, outcome]; rfl⟩
  · rw [Node.isCircular]
    exact straight
  · rw [Node.tag, outcome]
    exact sound_cons (sound_later later)

/-- What a node means is its value. -/
theorem Node.Means.value (means : node.Means d) : node.data = .ok d := by
  have faults : (node.outcomeAs node.tag).later.findSome? (fun fault => fault) = none :=
    List.findSome?_eq_none_iff.2 means.later
  rw [Node.data, Node.unfold, means.straight, if_neg Bool.false_ne_true]
  simp only [means.opening, faults, Option.or_none, means.data]

end

/-! ## Readings of nodes -/

namespace Assembly

variable {α β : Type} {read : Reader α} {f : α → Reader β} {ts mid tail : List Token} {token : Token}
  {P : α → Prop} {Q : β → Prop}

/-- In front of some tokens a reading takes those up to a tail and gives a result with a property. -/
def Gives (read : Reader α) (ts tail : List Token) (P : α → Prop) : Prop :=
  ∀ s : State, s.tokens = ts → ∃ a n, read.run s = .ok (a, { s with tokens := tail, next := n }) ∧ P a

namespace Gives

theorem pure {a : α} (holds : P a) : Gives (Pure.pure a) ts ts P := by
  rintro s rfl
  exact ⟨a, s.next, rfl, holds⟩

theorem bind (first : Gives read ts mid P) (later : ∀ a, P a → Gives (f a) mid tail Q) :
    Gives (read >>= f) ts tail Q := by
  intro s here
  obtain ⟨a, n, found, holds⟩ := first s here
  obtain ⟨b, k, behind, meant⟩ := later a holds { s with tokens := mid, next := n } rfl
  refine ⟨b, k, ?_, meant⟩
  rw [StateT.run_bind, found]
  exact behind

theorem imp {R : α → Prop} (gives : Gives read ts tail P) (weaker : ∀ a, P a → R a) : Gives read ts tail R := by
  intro s here
  obtain ⟨a, n, found, holds⟩ := gives s here
  exact ⟨a, n, found, weaker a holds⟩

theorem peek : Gives Assembly.peek (token :: ts) (token :: ts) (· = token) := by
  intro s here
  refine ⟨token, s.next, ?_, rfl⟩
  obtain ⟨tokens, fault, next, anchors, handles⟩ := s
  cases here
  rfl

theorem forward : Gives Assembly.forward (token :: ts) ts fun _ => True := by
  intro s here
  refine ⟨(), s.next, ?_, trivial⟩
  obtain ⟨tokens, fault, next, anchors, handles⟩ := s
  cases here
  rfl

theorem fresh : Gives Assembly.fresh ts ts fun _ => True := by
  rintro s rfl
  exact ⟨s.next, s.next + 1, rfl, trivial⟩

/-- Behind a look at the next token. -/
theorem look {f : Token → Reader β} (later : Gives (f token) (token :: ts) tail Q) :
    Gives (Assembly.peek >>= f) (token :: ts) tail Q :=
  .bind .peek fun _ same => same ▸ later

/-- Behind the next token. -/
theorem step {f : Unit → Reader β} (later : Gives (f ()) ts tail Q) :
    Gives (Assembly.forward >>= f) (token :: ts) tail Q :=
  .bind .forward fun _ _ => later

theorem content : Gives Assembly.content (token :: ts) (token :: ts) (· = token.content) :=
  .look (.pure rfl)

theorem atAny (cs : List Content) :
    Gives (Assembly.atAny cs) (token :: ts) (token :: ts) (· = cs.contains token.content) :=
  .bind .content fun _ same => .pure (by rw [same])

end Gives

/-- Nothing stands in front of a node that is neither named nor tagged. -/
theorem gives_properties (noAnchor : ∀ name, token.content ≠ .anchor name)
    (noTag : ∀ handle tail, token.content ≠ .tag handle tail) :
    Gives properties (token :: ts) (token :: ts) (· = none) := by
  have anchor : Gives takeAnchor (token :: ts) (token :: ts) (· = none) := by
    refine .look ?_
    split
    · rename_i name same
      exact absurd same (noAnchor name)
    · exact .pure rfl
  have tag : Gives takeTag (token :: ts) (token :: ts) (· = none) := by
    refine .look ?_
    split
    · rename_i handle tail same
      exact absurd same (noTag handle tail)
    · exact .pure rfl
  refine .bind anchor ?_
  rintro _ rfl
  refine .bind tag ?_
  rintro _ rfl
  exact .pure rfl

/-! ## Nodes -/

variable {depth : Nat} {block indentless : Bool} {d : Data} {nodes : Reader (List Node)}
  {pairs : Reader (List (Node × Node))}
  {ds : List Data} {entries : List (Data × Data)} {mark : Mark}

/-- A token that is no alias and no property. -/
def Content.starts : Content → Bool
  | .reference _ | .anchor _ | .tag _ _ => false
  | _ => true

/-- The reading of a node, once it is clear that nothing stands in front of it. -/
theorem gives_read {Q : Node → Prop} (starts : Content.starts token.content = true)
    (body : Gives (match token.content, block, indentless with
      | .blockEntry, _, true => newSequence (bare token.start) (indentlessEntries (Node.read depth) depth)
      | .scalar text plain, _, _ => do
        forward
        newScalar (bare token.start) plain text
      | .flowSequenceStart, _, _ => newSequence (bare token.start) (do forward; flowItems (Node.read depth) depth true)
      | .flowMappingStart, _, _ => newMapping (bare token.start) (do forward; flowPairs (Node.read depth) depth true)
      | .blockSequenceStart, true, _ =>
        newSequence (bare token.start) (do forward; blockEntries (Node.read depth) depth)
      | .blockMappingStart, true, _ => newMapping (bare token.start) (do forward; blockPairs (Node.read depth) depth)
      | _, _, _ => failWanting "the node content") (token :: ts) tail Q) :
    Gives (Node.read (depth + 1) block indentless) (token :: ts) tail Q := by
  rw [Node.read]
  refine .look ?_
  split
  · rename_i name same
    rw [same] at starts
    cases starts
  · refine .bind (gives_properties ?_ ?_) ?_
    · intro name same
      rw [same] at starts
      cases starts
    · intro handle tail same
      rw [same] at starts
      cases starts
    · rintro _ rfl
      exact .look body

theorem gives_newScalar {text : String} {plain : Bool} (single : (scalarTag plain text none).isCollection = false)
    (value : (scalarTag plain text none).scalarValue mark text = .ok d) :
    Gives (newScalar (bare mark) plain text) ts ts (·.Means d) := by
  refine .bind (.pure trivial : Gives (checkAnchor none mark) ts ts fun _ => True) fun _ _ => ?_
  refine .bind .fresh fun id _ => ?_
  refine .bind (.pure trivial : Gives (name none _) ts ts fun _ => True) fun _ _ => ?_
  exact .pure (means_scalar single value)

theorem gives_newSequence (items : Gives nodes ts tail (List.Forall₂ Node.Means · ds)) :
    Gives (newSequence (bare mark) nodes) ts tail (·.Means (.list ds)) := by
  refine .bind (.pure trivial : Gives (checkAnchor none mark) ts ts fun _ => True) fun _ _ => ?_
  refine .bind .fresh fun id _ => ?_
  refine .bind (.pure trivial : Gives (name none _) ts ts fun _ => True) fun _ _ => ?_
  refine .bind items fun found means => ?_
  refine .bind (.pure trivial : Gives (name none _) tail tail fun _ => True) fun _ _ => ?_
  exact .pure (means_sequence means)

theorem gives_newMapping (items : Gives pairs ts tail (List.Forall₂ Node.MeansEntry · entries)) :
    Gives (newMapping (bare mark) pairs) ts tail (·.Means (.map (gather entries))) := by
  refine .bind (.pure trivial : Gives (checkAnchor none mark) ts ts fun _ => True) fun _ _ => ?_
  refine .bind .fresh fun id _ => ?_
  refine .bind (.pure trivial : Gives (name none _) ts ts fun _ => True) fun _ _ => ?_
  refine .bind items fun found means => ?_
  refine .bind (.pure trivial : Gives (name none _) tail tail fun _ => True) fun _ _ => ?_
  exact .pure (means_mapping means)

theorem gives_scalar (holds : token.content.Holds d) :
    Gives (Node.read (depth + 1) block indentless) (token :: ts) ts (·.Means d) := by
  obtain ⟨text, plain, same, single, value⟩ := holds
  refine gives_read (by rw [same]; rfl) ?_
  rw [same]
  have body : Gives (do forward; newScalar (bare token.start) plain text) (token :: ts) ts (·.Means d) :=
    .step (gives_newScalar single (value _))
  cases block <;> cases indentless <;> exact body

end Assembly

/-! ## Values -/

mutual

/-- A value as it is read back. -/
def settle : Data → Data
  | .list items => .list (settleItems items)
  | .map entries => .map (gather (settleEntries entries))
  | value => settleScalar value

def settleItems : List Data → List Data
  | [] => []
  | item :: rest => settle item :: settleItems rest

def settleEntries : List (Data × Data) → List (Data × Data)
  | [] => []
  | (key, value) :: rest => (settle key, settle value) :: settleEntries rest

end

namespace Assembly

variable {after : Bool} {items : List Data} {es : List (Data × Data)} {fuel : Nat} {ends : List Content}

/-- Tokens that do not go on with items. -/
def Follows (tail : List Token) : Prop := ∃ token rest, tail = token :: rest ∧ token.content ≠ .blockEntry

/-- The tokens of a value are read as a node that means the value. -/
def Composes (after : Bool) (d : Data) : Prop :=
  ∀ {depth : Nat} {indentless : Bool} {ts tail : List Token}, ts.map Token.content = spoken after d →
    ts.length < depth → (after = true → indentless = true ∧ Follows tail) →
    Gives (Node.read depth true indentless) (ts ++ tail) tail (·.Means (settle d))

/-- What the tokens of a value start with. -/
theorem spoken_starts (after : Bool) {n : Nat} (outline : Outline n d) : ∃ c rest, spoken after d = c :: rest ∧
    [Content.key, .value, .blockEnd].contains c = false ∧ (after = false → c ≠ .blockEntry) := by
  cases outline with
  | scalar alone =>
      obtain ⟨text, plain, same⟩ := exists_scalarToken false d
      rw [spoken_scalar alone, same]
      exact ⟨.scalar text plain, [], rfl, rfl, by simp⟩
  | @list n items each =>
      cases items with
      | nil => exact ⟨.flowSequenceStart, _, by rw [spoken], rfl, by simp⟩
      | cons item rest =>
          rw [spoken]
          cases after with
          | true => exact ⟨.blockEntry, _, by rw [if_pos rfl, spokenItems], rfl, by simp⟩
          | false => exact ⟨.blockSequenceStart, _, rfl, rfl, by simp⟩
  | @record n fields distinct each =>
      cases fields with
      | nil => exact ⟨.flowMappingStart, _, by rw [Data.record, List.map_nil, spoken], rfl, by simp⟩
      | cons field rest =>
          exact ⟨.blockMappingStart, _, by rw [Data.record, List.map_cons, spoken], rfl, by simp⟩

/-- Behind a mark, in front of a node. -/
theorem gives_behind {node : Bool → Bool → Reader Node} {mark : Token} {Q : Node → Prop}
    (other : ends.contains token.content = false) (given : Gives (node block indentless) (token :: ts) tail Q) :
    Gives (behind node mark ends block indentless) (token :: ts) tail Q := by
  refine .bind (.atAny ends) ?_
  rintro _ rfl
  rw [other, if_neg Bool.false_ne_true]
  exact given

/-- One item behind its mark. -/
theorem gives_item {n : Nat} {mark : Token} (outline : Outline n d) (composes : Composes false d)
    (said : ts.map Token.content = spoken false d) (enough : ts.length < depth)
    (only : ∀ c, ends.contains c = true → c = .blockEntry ∨ [Content.key, .value, .blockEnd].contains c = true) :
    Gives (behind (Node.read depth) mark ends true false) (ts ++ tail) tail (·.Means (settle d)) := by
  obtain ⟨c, cs, starts, inside, noEntry⟩ := spoken_starts false outline
  rw [starts] at said
  obtain ⟨token, ts, rfl, rfl, rfl⟩ := List.map_eq_cons_iff.1 said
  refine gives_behind ?_ (composes (by rw [said, starts]) enough (by simp))
  rw [Bool.eq_false_iff]
  intro among
  obtain entry | kept := only _ among
  · exact noEntry rfl entry
  · exact Bool.noConfusion (inside.symm.trans kept)

/-- A loop that reads an item behind each dash gives the items, where it ends at what stands behind them. -/
theorem gives_items {n : Nat} (loop : Nat → Reader (List Node)) (ends : List Content) {last : List Content}
    (stop : ∀ {fuel : Nat} {ts : List Token}, ts.map Token.content = last →
      Gives (loop (fuel + 1)) (ts ++ tail) tail (· = []))
    (more : ∀ {fuel : Nat} {token : Token} {ts : List Token} {Q : List Node → Prop}, token.content = .blockEntry →
      Gives (do return (← behind (Node.read depth) token ends true false) :: (← loop fuel)) ts tail Q →
      Gives (loop (fuel + 1)) (token :: ts) tail Q)
    (only : ∀ c, ends.contains c = true → c = .blockEntry ∨ [Content.key, .value, .blockEnd].contains c = true)
    (outlines : ∀ item ∈ items, Outline n item) (each : ∀ item ∈ items, Composes false item)
    (said : ts.map Token.content = spokenItems items ++ last) (enough : ts.length ≤ depth)
    (steps : items.length < fuel) :
    Gives (loop fuel) (ts ++ tail) tail (List.Forall₂ Node.Means · (settleItems items)) := by
  induction items generalizing ts fuel with
  | nil =>
      obtain ⟨fuel, rfl⟩ := Nat.exists_eq_add_one.2 steps
      exact (stop said).imp fun _ none => none ▸ .nil
  | cons item items ih =>
      obtain ⟨fuel, rfl⟩ := Nat.exists_eq_add_one.2 (Nat.zero_lt_of_lt steps)
      rw [spokenItems, List.cons_append, List.append_assoc] at said
      obtain ⟨token, ts, rfl, same, said⟩ := List.map_eq_cons_iff.1 said
      obtain ⟨first, rest, rfl, head, said⟩ := List.map_eq_append_iff.1 said
      rw [List.length_cons, List.length_append] at enough
      rw [List.cons_append, List.append_assoc]
      refine more same (.bind (gives_item (outlines item List.mem_cons_self) (each item List.mem_cons_self) head
        (by omega) only) fun node means => ?_)
      refine .bind (ih (fun i m => outlines i (List.mem_cons_of_mem _ m))
        (fun i m => each i (List.mem_cons_of_mem _ m)) said (by omega) (by simpa using steps)) fun nodes meant => ?_
      rw [settleItems]
      exact .pure (.cons means meant)

theorem gives_blockEntries {n : Nat} (outlines : ∀ item ∈ items, Outline n item)
    (each : ∀ item ∈ items, Composes false item)
    (said : ts.map Token.content = spokenItems items ++ [.blockEnd]) (enough : ts.length ≤ depth)
    (steps : items.length < fuel) :
    Gives (blockEntries (Node.read depth) fuel) (ts ++ tail) tail
      (List.Forall₂ Node.Means · (settleItems items)) := by
  refine gives_items (blockEntries (Node.read depth)) [.blockEntry, .blockEnd] (fun said => ?_) (fun same given => ?_)
    (by simp) outlines each said enough steps
  · obtain ⟨token, ts, rfl, same, last⟩ := List.map_eq_cons_iff.1 said
    obtain rfl := List.map_eq_nil_iff.1 last
    refine .look ?_
    rw [if_neg (by simp [same]), if_pos same]
    exact .step (.pure rfl)
  · refine .look ?_
    rw [if_pos same]
    exact .step given

/-- The items of a list behind a key end where no mark of an item follows. -/
theorem gives_indentlessEntries {n : Nat} (outlines : ∀ item ∈ items, Outline n item)
    (each : ∀ item ∈ items, Composes false item) (said : ts.map Token.content = spokenItems items)
    (enough : ts.length ≤ depth) (steps : items.length < fuel) (follows : Follows tail) :
    Gives (indentlessEntries (Node.read depth) fuel) (ts ++ tail) tail
      (List.Forall₂ Node.Means · (settleItems items)) := by
  rw [← List.append_nil (spokenItems items)] at said
  refine gives_items (indentlessEntries (Node.read depth)) [.blockEntry, .key, .value, .blockEnd] (fun said => ?_)
    (fun same given => ?_) (by simp) outlines each said enough steps
  · obtain rfl := List.map_eq_nil_iff.1 said
    obtain ⟨token, rest, rfl, other⟩ := follows
    refine .look ?_
    rw [if_neg other]
    exact .pure rfl
  · refine .look ?_
    rw [if_pos same]
    exact .step given

/-- The value of an entry behind its mark, in front of the next entry or of the end. -/
theorem gives_entryValue {n : Nat} (outline : Outline n d) (composes : Composes after d) (same : token.content = .value)
    (said : ts.map Token.content = spoken after d) (enough : ts.length < depth) (follows : Follows tail) :
    Gives (entryValue (Node.read depth) [.key, .value, .blockEnd] true true) (token :: (ts ++ tail)) tail
      (·.Means (settle d)) := by
  obtain ⟨c, cs, starts, inside, -⟩ := spoken_starts after outline
  refine .look ?_
  rw [if_pos same]
  refine .step ?_
  rw [starts] at said
  obtain ⟨token, ts, rfl, rfl, rfl⟩ := List.map_eq_cons_iff.1 said
  exact gives_behind inside (composes (by rw [said, starts]) enough fun _ => ⟨rfl, follows⟩)

theorem follows_entries {rest : List Token} (said : rest.map Token.content = spokenEntries es ++ [.blockEnd]) :
    Follows (rest ++ tail) := by
  cases es with
  | nil =>
      obtain ⟨token, ts, rfl, same, -⟩ := List.map_eq_cons_iff.1 said
      exact ⟨token, ts ++ tail, rfl, by simp [same]⟩
  | cons entry es =>
      obtain ⟨key, value⟩ := entry
      rw [spokenEntries] at said
      obtain ⟨token, ts, rfl, same, -⟩ := List.map_eq_cons_iff.1 said
      exact ⟨token, ts ++ tail, rfl, by simp [same]⟩

/-- An entry with a key that is a text, and a value that its tokens compose. -/
structure ComposesEntry (n : Nat) (entry : Data × Data) : Prop where
  key : ∃ s, entry.1 = .text s
  outline : Outline n entry.2
  composes : ∀ after, Composes after entry.2

theorem gives_blockPairs {n : Nat} (each : ∀ entry ∈ es, ComposesEntry n entry)
    (said : ts.map Token.content = spokenEntries es ++ [.blockEnd]) (enough : ts.length ≤ depth)
    (steps : es.length < fuel) :
    Gives (blockPairs (Node.read depth) fuel) (ts ++ tail) tail
      (List.Forall₂ Node.MeansEntry · (settleEntries es)) := by
  induction es generalizing ts fuel with
  | nil =>
      obtain ⟨fuel, rfl⟩ := Nat.exists_eq_add_one.2 steps
      obtain ⟨token, ts, rfl, same, last⟩ := List.map_eq_cons_iff.1 said
      obtain rfl := List.map_eq_nil_iff.1 last
      refine .look ?_
      rw [if_neg (by simp [same]), if_pos same]
      exact .step (.pure .nil)
  | cons entry es ih =>
      obtain ⟨key, value⟩ := entry
      obtain ⟨⟨s, rfl⟩, outline, composes⟩ := each _ List.mem_cons_self
      obtain ⟨fuel, rfl⟩ := Nat.exists_eq_add_one.2 (Nat.zero_lt_of_lt steps)
      have holds := scalarToken_holds (d := .text s) rfl rfl id
      -- an entry is spoken as its mark, its key, its colon and its value
      rw [spokenEntries, List.cons_append, List.cons_append, List.cons_append, List.append_assoc] at said
      obtain ⟨mark, ts, rfl, same, said⟩ := List.map_eq_cons_iff.1 said
      obtain ⟨name, ts, rfl, named, said⟩ := List.map_eq_cons_iff.1 said
      obtain ⟨colon, ts, rfl, behind, said⟩ := List.map_eq_cons_iff.1 said
      obtain ⟨first, rest, rfl, head, said⟩ := List.map_eq_append_iff.1 said
      simp only [List.length_cons, List.length_append] at enough
      obtain ⟨depth, rfl⟩ := Nat.exists_eq_add_one.2 (Nat.zero_lt_of_lt enough)
      have notMark : [Content.key, .value, .blockEnd].contains name.content = false := by
        obtain ⟨text, plain, scalar⟩ := exists_scalarToken (isSimpleKey (.text s)) (.text s)
        rw [named, scalar]
        rfl
      rw [List.cons_append, List.cons_append, List.cons_append, List.append_assoc]
      refine .look ?_
      dsimp only
      rw [if_pos same]
      refine .step (.bind (gives_behind notMark (gives_scalar (named ▸ holds))) fun k meansKey => ?_)
      refine .bind (gives_entryValue outline (composes _) behind head (by omega) (follows_entries said))
        fun v meansValue => ?_
      refine .bind (ih (fun e m => each e (List.mem_cons_of_mem _ m)) said (by omega) (by simpa using steps))
        fun pairs meant => ?_
      rw [settleEntries]
      exact .pure (.cons ⟨meansKey, meansValue, rfl⟩ meant)

theorem settle_scalar (alone : Data.isScalar d = true) : settle d = settleScalar d := by
  cases d with
  | null | bool | int | float | text => rw [settle] <;> simp
  | _ => cases alone

theorem spoken_pos (after : Bool) (d : Data) : 0 < (spoken after d).length := by
  cases d with
  | list items =>
      cases items with
      | nil => simp [spoken]
      | cons item items => cases after <;> simp [spoken, spokenItems]
  | map es => cases es <;> simp [spoken]
  | _ => simp [spoken]

theorem length_lt_spokenItems (item : Data) (items : List Data) :
    (item :: items).length < (spokenItems (item :: items)).length := by
  have some := spoken_pos false item
  induction items generalizing item with
  | nil =>
      rw [spokenItems]
      simp only [List.length_cons, List.length_append, List.length_nil]
      omega
  | cons next items ih =>
      have later := ih next (spoken_pos false next)
      rw [spokenItems]
      simp only [List.length_cons, List.length_append] at *
      omega

theorem length_le_spokenEntries (es : List (Data × Data)) : es.length ≤ (spokenEntries es).length := by
  induction es with
  | nil => exact Nat.le_refl 0
  | cons entry es ih =>
      rw [spokenEntries]
      simp only [List.length_cons, List.length_append]
      omega

theorem allWritable_iff : allWritable items = true ↔ ∀ item ∈ items, isWritable item = true := by
  induction items with
  | nil => simp [allWritable]
  | cons item items ih => rw [allWritable, Bool.and_eq_true, ih, List.forall_mem_cons]

theorem entriesWritable_iff : entriesWritable es = true ↔
    ∀ entry ∈ es, isWritable entry.1 = true ∧ isWritable entry.2 = true := by
  induction es with
  | nil => simp [entriesWritable]
  | cons entry es ih => rw [entriesWritable, Bool.and_eq_true, Bool.and_eq_true, ih, List.forall_mem_cons]

/-- A pair of brackets is a list without items. -/
theorem composes_noItems : Composes after (.list []) := by
  intro depth indentless ts tail said enough _
  rw [spoken] at said
  obtain ⟨opened, ts, rfl, same, said⟩ := List.map_eq_cons_iff.1 said
  obtain ⟨closed, ts, rfl, last, said⟩ := List.map_eq_cons_iff.1 said
  obtain rfl := List.map_eq_nil_iff.1 said
  obtain ⟨depth, rfl⟩ := Nat.exists_eq_add_one.2 (Nat.zero_lt_of_lt enough)
  obtain ⟨more, rfl⟩ := Nat.exists_eq_add_one.2 (Nat.zero_lt_of_lt (Nat.lt_of_succ_lt_succ enough))
  have items : Gives (do forward; flowItems (Node.read (more + 1)) (more + 1) true) (opened :: closed :: tail) tail
      (List.Forall₂ Node.Means · []) := by
    refine .step (.bind .content ?_)
    rintro _ rfl
    rw [if_pos last]
    exact .step (.pure .nil)
  refine gives_read (by rw [same]; rfl) ?_
  rw [same, settle, settleItems]
  cases indentless <;> exact gives_newSequence items

/-- A pair of braces is a mapping without entries. -/
theorem composes_noEntries : Composes after (.map []) := by
  intro depth indentless ts tail said enough _
  rw [spoken] at said
  obtain ⟨opened, ts, rfl, same, said⟩ := List.map_eq_cons_iff.1 said
  obtain ⟨closed, ts, rfl, last, said⟩ := List.map_eq_cons_iff.1 said
  obtain rfl := List.map_eq_nil_iff.1 said
  obtain ⟨depth, rfl⟩ := Nat.exists_eq_add_one.2 (Nat.zero_lt_of_lt enough)
  obtain ⟨more, rfl⟩ := Nat.exists_eq_add_one.2 (Nat.zero_lt_of_lt (Nat.lt_of_succ_lt_succ enough))
  have pairs : Gives (do forward; flowPairs (Node.read (more + 1)) (more + 1) true) (opened :: closed :: tail) tail
      (List.Forall₂ Node.MeansEntry · []) := by
    refine .step (.bind .content ?_)
    rintro _ rfl
    rw [if_pos last]
    exact .step (.pure .nil)
  refine gives_read (by rw [same]; rfl) ?_
  rw [same, settle, settleEntries]
  cases indentless <;> exact gives_newMapping pairs

/-- A list of values that are composed is composed, with marks of its own or behind a key. -/
theorem composes_list {n : Nat} {item : Data} (outlines : ∀ i ∈ item :: items, Outline n i)
    (each : ∀ i ∈ item :: items, Composes false i) : Composes after (.list (item :: items)) := by
  intro depth indentless ts tail said enough kind
  obtain ⟨depth, rfl⟩ := Nat.exists_eq_add_one.2 (Nat.zero_lt_of_lt enough)
  have few := length_lt_spokenItems item items
  have length := congrArg List.length said
  rw [settle]
  -- behind a key no token starts the list
  cases after with
  | true =>
      obtain ⟨rfl, follows⟩ := kind rfl
      rw [spoken, if_pos rfl] at said length
      rw [List.length_map] at length
      have body : Gives (indentlessEntries (Node.read depth) depth) (ts ++ tail) tail
          (List.Forall₂ Node.Means · (settleItems (item :: items))) :=
        gives_indentlessEntries outlines each said (by omega) (by omega) follows
      rw [spokenItems] at said
      obtain ⟨token, ts, rfl, same, said⟩ := List.map_eq_cons_iff.1 said
      refine gives_read (by rw [same]; rfl) ?_
      rw [same]
      exact gives_newSequence body
  | false =>
      rw [spoken, if_neg Bool.false_ne_true] at said length
      simp only [List.length_map, List.length_cons, List.length_append, List.length_nil] at length few
      obtain ⟨token, ts, rfl, same, said⟩ := List.map_eq_cons_iff.1 said
      simp only [List.length_cons] at length enough
      have body : Gives (blockEntries (Node.read depth) depth) (ts ++ tail) tail
          (List.Forall₂ Node.Means · (settleItems (item :: items))) :=
        gives_blockEntries outlines each said (by omega) (by simp only [List.length_cons]; omega)
      refine gives_read (by rw [same]; rfl) ?_
      rw [same]
      cases indentless <;> exact gives_newSequence (.step body)

theorem composes_map {n : Nat} {entry : Data × Data} (each : ∀ e ∈ entry :: es, ComposesEntry n e) :
    Composes after (.map (entry :: es)) := by
  intro depth indentless ts tail said enough _
  obtain ⟨depth, rfl⟩ := Nat.exists_eq_add_one.2 (Nat.zero_lt_of_lt enough)
  have few := length_le_spokenEntries (entry :: es)
  have length := congrArg List.length said
  rw [spoken] at said length
  simp only [List.length_map, List.length_cons, List.length_append, List.length_nil] at length few
  obtain ⟨token, ts, rfl, same, said⟩ := List.map_eq_cons_iff.1 said
  simp only [List.length_cons] at length enough
  have body : Gives (blockPairs (Node.read depth) depth) (ts ++ tail) tail
      (List.Forall₂ Node.MeansEntry · (settleEntries (entry :: es))) :=
    gives_blockPairs each said (by omega) (by simp only [List.length_cons]; omega)
  refine gives_read (by rw [same]; rfl) ?_
  rw [same, settle]
  cases indentless <;> exact gives_newMapping (.step body)

/-- What is written is composed again. -/
theorem composes {n : Nat} (outline : Outline n d) (short : isWritable d = true) (after : Bool) : Composes after d := by
  -- The depth left only has to exceed the number of tokens, which is smaller for every part.
  induction outline generalizing after with
  | @scalar n d alone =>
      intro depth indentless ts tail said enough _
      obtain ⟨depth, rfl⟩ := Nat.exists_eq_add_one.2 (Nat.zero_lt_of_lt enough)
      rw [spoken_scalar alone] at said
      obtain ⟨token, ts, rfl, same, last⟩ := List.map_eq_cons_iff.1 said
      obtain rfl := List.map_eq_nil_iff.1 last
      rw [settle_scalar alone]
      exact gives_scalar (same ▸ scalarToken_holds alone short (by simp))
  | @list n items each ih =>
      rw [isWritable, allWritable_iff] at short
      cases items with
      | nil => exact composes_noItems
      | cons item items => exact composes_list each fun i member => ih i member (short i member) false
  | @record n fields distinct each ih =>
      rw [Data.record, isWritable, entriesWritable_iff] at short
      have entries : ∀ entry ∈ fields.map (fun field => (Data.text field.1, field.2)), ComposesEntry n entry := by
        intro entry member
        obtain ⟨field, among, rfl⟩ := List.mem_map.1 member
        exact ⟨⟨_, rfl⟩, each field among, ih field among (short _ member).2⟩
      cases fields with
      | nil => exact @composes_noEntries after
      | cons field fields => exact @composes_map after _ _ _ entries

/-! ## Documents -/

/-- Nothing follows the document but the end. -/
theorem gives_finish {root : Node} (ended : token.content = .streamEnd) :
    Gives (finish (fuel + 1) root) [token] [token] (· = some root) := by
  have skipped : Gives (skipEnds (fuel + 1)) [token] [token] fun _ => True := by
    refine .bind .content ?_
    rintro _ rfl
    rw [if_neg (by simp [ended])]
    exact .pure trivial
  have noStart : Gives (documentStart (fuel + 1)) [token] [token] (· = none) := by
    refine .bind skipped fun _ _ => .look ?_
    rw [if_pos ended]
    exact .pure rfl
  refine .bind .content ?_
  rintro _ rfl
  rw [if_neg (by simp [ended])]
  refine .bind noStart ?_
  rintro _ rfl
  exact .pure rfl

theorem run_single {start stop : Mark} {s : State}
    (here : s.tokens = token :: ⟨.blockMappingStart, start, stop⟩ :: ts) :
    (single fuel).run s = (do finish fuel (← Node.read fuel true false)).run
      { s with tokens := ⟨.blockMappingStart, start, stop⟩ :: ts, handles := standardHandles } := by
  obtain ⟨tokens, fault, next, anchors, handles⟩ := s
  cases here
  rfl

end Assembly

open Assembly

/-- The tokens of a mapping that is not empty are read as its value. -/
theorem exists_single {n fuel : Nat} {entry : Data × Data} {es : List (Data × Data)} {ts : List Token} {s : State}
    (outline : Outline n (.map (entry :: es))) (short : isWritable (.map (entry :: es)) = true)
    (said : ts.map Token.content =
      .streamStart :: .blockMappingStart :: (spokenEntries (entry :: es) ++ [.blockEnd, .streamEnd]))
    (here : s.tokens = ts) (enough : ts.length ≤ fuel) :
    ∃ node after, (single fuel).run s = .ok (some node, after) ∧ node.Means (settle (.map (entry :: es))) := by
  obtain ⟨start, ts, rfl, -, said⟩ := List.map_eq_cons_iff.1 said
  have grouped : ts.map Token.content = spoken false (.map (entry :: es)) ++ [.streamEnd] := by
    simpa [spoken] using said
  obtain ⟨⟨content, a, b⟩, rest, rfl, rfl, -⟩ := List.map_eq_cons_iff.1 said
  obtain ⟨body, last, whole, composed, ended⟩ := List.map_eq_append_iff.1 grouped
  obtain ⟨stop, nothing, rfl, same, empty⟩ := List.map_eq_cons_iff.1 ended
  obtain rfl := List.map_eq_nil_iff.1 empty
  have length := congrArg List.length whole
  simp only [List.length_cons, List.length_append, List.length_nil] at length enough
  obtain ⟨fuel, rfl⟩ := Nat.exists_eq_add_one.2 (Nat.zero_lt_of_lt enough)
  have reading : Gives (do finish (fuel + 1) (← Node.read (fuel + 1) true false)) (body ++ [stop]) [stop]
      (fun root => ∃ node, root = some node ∧ node.Means (settle (.map (entry :: es)))) :=
    .bind (composes outline short false composed (by omega) (by simp)) fun node means =>
      (gives_finish same).imp fun _ found => ⟨node, found, means⟩
  obtain ⟨_, next, found, node, rfl, means⟩ :=
    reading { s with tokens := body ++ [stop], handles := standardHandles } rfl
  have run : (single (fuel + 1)).run s = _ := run_single here
  rw [whole] at run
  exact ⟨node, _, run.trans found, means⟩

/-- What is written is read as the value, up to texts that are not kept, where every key fits. -/
theorem read_layout {n : Nat} {f : String × Data} {fs : List (String × Data)}
    (distinct : ((f :: fs).map Prod.fst).Nodup)
    (each : ∀ field ∈ f :: fs, Outline n field.2) (narrow : 2 * n + 2 < lineWidth)
    (short : isWritable (.record (f :: fs)) = true) (fits : keysFit (.record (f :: fs)) = true) :
    read (layout (.record (f :: fs))) = .ok (settle (.record (f :: fs))) := by
  obtain ⟨t, whole, laid⟩ := layout_record each narrow
  have acceptable : (t ++ ['\n']).findIdx? (!isAcceptable ·) = none := by
    have line : isAcceptable '\n' = true := rfl
    rw [List.findIdx?_eq_none_iff]
    simpa [or_imp, forall_and, line] using laid.acceptable
  obtain ⟨ts, found, said⟩ := tokens_entries laid fits
  have enough : ts.length ≤ 3 * ts.length + 10 := by omega
  obtain ⟨node, after, composed, means⟩ :=
    exists_single (s := ⟨ts, none, 0, [], []⟩) (.record distinct each) short said rfl enough
  have document : Node.ofText (String.ofList (t ++ ['\n'])) = .ok (some node) := by
    rw [Node.ofText, String.toList_ofList, found]
    dsimp only
    rw [composed]
    rfl
  rw [whole, read, String.toList_ofList]
  simp only [acceptable]
  rw [document]
  exact means.value

end Triage.Yaml
