import Triage.Yaml.Reading

/-!
# Where the faults of scalars come from

A document can stop its reading with a fault of its structure or with the fault of a scalar. The latter comes
either from the text of its tokens or from a node whose text has no value under the tag of the node.
-/

namespace Triage.Yaml

namespace Fault

/-- The fault is one of the structure of a document. -/
def IsStructural (fault : Fault) : Prop := ∃ problem mark, fault = .malformed problem mark

theorem isStructural_malformed (problem : Problem) (mark : Mark) : (malformed problem mark).IsStructural :=
  ⟨problem, mark, rfl⟩

theorem not_isStructural_scalar (fault : ScalarFault) : ¬(scalar fault).IsStructural := by
  rintro ⟨problem, mark, ⟨⟩⟩

end Fault

/-! ## Nodes from tokens -/

namespace Assembly

variable {α β : Type}

/-- What a reader stops with is a fault of the structure or the one that ends the tokens, and that one stays as
it is. -/
structure Loyal (r : Reader α) : Prop where
  fault : ∀ s fault, r s = .error fault → fault.IsStructural ∨ s.fault = some fault
  kept : ∀ s a t, r s = .ok (a, t) → t.fault = s.fault

namespace Loyal

theorem pure {a : α} : Loyal (Pure.pure a) := by
  constructor
  · rintro s fault ⟨⟩
  · rintro s b t ⟨rfl⟩
    rfl

theorem bind {r : Reader α} {f : α → Reader β} (first : Loyal r) (later : ∀ a, Loyal (f a)) : Loyal (r >>= f) := by
  have run (s : State) : (r >>= f) s = match r s with
      | .error fault => .error fault
      | .ok (a, t) => f a t := by
    show (r s >>= fun (a, t) => f a t) = _
    cases r s <;> rfl
  constructor
  · intro s fault stopped
    rw [run] at stopped
    cases given : r s with
    | error before =>
        rw [given] at stopped
        cases stopped
        exact first.fault s fault given
    | ok answer =>
        obtain ⟨a, t⟩ := answer
        rw [given] at stopped
        rw [← first.kept s a t given]
        exact (later a).fault t fault stopped
  · intro s b u answered
    rw [run] at answered
    cases given : r s with
    | error before =>
        rw [given] at answered
        cases answered
    | ok answer =>
        obtain ⟨a, t⟩ := answer
        rw [given] at answered
        exact ((later a).kept t b u answered).trans (first.kept s a t given)

theorem fail {problem : Problem} {mark : Mark} : Loyal (Assembly.fail problem mark : Reader α) := by
  constructor
  · rintro s fault ⟨rfl⟩
    exact .inl (Fault.isStructural_malformed problem mark)
  · rintro s a t ⟨⟩

theorem get : Loyal (MonadState.get : Reader State) := by
  constructor
  · rintro s fault ⟨⟩
  · rintro s a t ⟨rfl⟩
    rfl

theorem change {f : State → State} (kept : ∀ s, (f s).fault = s.fault) : Loyal (modify f : Reader Unit) := by
  constructor
  · rintro s fault ⟨⟩
  · rintro s a t ⟨rfl⟩
    exact kept s

end Loyal

theorem peek_eq (s : State) : peek s = match s.tokens with
    | token :: _ => .ok (token, s)
    | [] => .error (s.fault.getD (.malformed .endOfStream ⟨0, 0, 0⟩)) := by
  obtain ⟨tokens, fault, next, anchors, handles⟩ := s
  cases tokens <;> rfl

theorem loyal_peek : Loyal peek := by
  constructor
  · intro s fault stopped
    rw [peek_eq] at stopped
    cases tokens : s.tokens with
    | cons token rest =>
        rw [tokens] at stopped
        cases stopped
    | nil =>
        rw [tokens] at stopped
        cases stopped
        cases last : s.fault with
        | none => exact .inl (Fault.isStructural_malformed ..)
        | some fault => exact .inr rfl
  · intro s token t answered
    rw [peek_eq] at answered
    cases tokens : s.tokens with
    | cons token rest =>
        rw [tokens] at answered
        cases answered
        rfl
    | nil =>
        rw [tokens] at answered
        cases answered

theorem loyal_content : Loyal content := loyal_peek.bind fun _ => .pure

theorem loyal_forward : Loyal forward := .change fun _ => rfl

theorem loyal_failWanting (wanted : String) : Loyal (failWanting wanted : Reader α) :=
  loyal_peek.bind fun _ => .fail

theorem loyal_fresh : Loyal fresh := by
  refine Loyal.get.bind fun s => Loyal.bind ?_ fun _ => .pure
  exact .change fun _ => rfl

theorem loyal_atAny (cs : List Content) : Loyal (atAny cs) := loyal_content.bind fun _ => .pure

/-! ### Properties -/

theorem loyal_tagName (mark : Mark) (handle : Option String) (tail : String) : Loyal (tagName mark handle tail) := by
  cases handle with
  | none => exact .pure
  | some handle =>
      refine Loyal.get.bind fun s => ?_
      split
      · exact .pure
      · exact .fail

theorem loyal_takeTag : Loyal takeTag := by
  refine loyal_peek.bind fun token => ?_
  split
  · exact loyal_forward.bind fun _ => .pure
  · exact .pure

theorem loyal_takeAnchor : Loyal takeAnchor := by
  refine loyal_peek.bind fun token => ?_
  split
  · exact loyal_forward.bind fun _ => .pure
  · exact .pure

theorem loyal_properties : Loyal properties := by
  refine loyal_takeAnchor.bind fun anchor => ?_
  split
  · refine loyal_takeTag.bind fun tag => ?_
    split
    · exact (loyal_tagName ..).bind fun _ => .pure
    · exact .pure
  · refine loyal_takeTag.bind fun tag => ?_
    split
    · refine loyal_takeAnchor.bind fun anchor => ?_
      split
      · exact (loyal_tagName ..).bind fun _ => .pure
      · exact (loyal_tagName ..).bind fun _ => .pure
    · exact .pure

/-! ### Nodes -/

theorem loyal_name (anchor : Option String) (node : Node) : Loyal (name anchor node) := by
  cases anchor with
  | none => exact .pure
  | some name => exact .change fun _ => rfl

theorem loyal_checkAnchor (anchor : Option String) (start : Mark) : Loyal (checkAnchor anchor start) := by
  cases anchor with
  | none => exact .pure
  | some name =>
      refine Loyal.get.bind fun s => ?_
      split
      · exact .fail
      · exact .pure

theorem loyal_newScalar (p : Properties) (plain : Bool) (text : String) : Loyal (newScalar p plain text) :=
  (loyal_checkAnchor ..).bind fun _ => loyal_fresh.bind fun _ => (loyal_name ..).bind fun _ => .pure

theorem loyal_empty (mark : Mark) : Loyal (empty mark) := loyal_fresh.bind fun _ => .pure

theorem loyal_reference (name : String) (mark : Mark) : Loyal (reference name mark) := by
  refine Loyal.get.bind fun s => ?_
  split
  · exact .pure
  · exact .fail

theorem loyal_newSequence (p : Properties) {items : Reader (List Node)} (loyal : Loyal items) :
    Loyal (newSequence p items) :=
  (loyal_checkAnchor ..).bind fun _ => loyal_fresh.bind fun _ => (loyal_name ..).bind fun _ =>
    loyal.bind fun _ => (loyal_name ..).bind fun _ => .pure

theorem loyal_newMapping (p : Properties) {entries : Reader (List (Node × Node))} (loyal : Loyal entries) :
    Loyal (newMapping p entries) :=
  (loyal_checkAnchor ..).bind fun _ => loyal_fresh.bind fun _ => (loyal_name ..).bind fun _ =>
    loyal.bind fun _ => (loyal_name ..).bind fun _ => .pure

/-! ### Collections -/

section

variable {node : Bool → Bool → Reader Node} (loyal : ∀ block indentless, Loyal (node block indentless))

include loyal

theorem loyal_behind (token : Token) (ends : List Content) (block indentless : Bool) :
    Loyal (behind node token ends block indentless) := by
  refine (loyal_atAny ends).bind fun ended => ?_
  split
  · exact loyal_empty _
  · exact loyal _ _

theorem loyal_entryValue (ends : List Content) (block indentless : Bool) :
    Loyal (entryValue node ends block indentless) := by
  refine loyal_peek.bind fun token => ?_
  split
  · exact loyal_forward.bind fun _ => loyal_behind loyal ..
  · exact loyal_empty _

theorem loyal_blockEntries (fuel : Nat) : Loyal (blockEntries node fuel) := by
  induction fuel with
  | zero => exact .pure
  | succ fuel ih =>
      refine loyal_peek.bind fun token => ?_
      split
      · exact loyal_forward.bind fun _ => (loyal_behind loyal ..).bind fun _ => ih.bind fun _ => .pure
      · split
        · exact loyal_forward.bind fun _ => .pure
        · exact loyal_failWanting _

theorem loyal_indentlessEntries (fuel : Nat) : Loyal (indentlessEntries node fuel) := by
  induction fuel with
  | zero => exact .pure
  | succ fuel ih =>
      refine loyal_peek.bind fun token => ?_
      split
      · exact loyal_forward.bind fun _ => (loyal_behind loyal ..).bind fun _ => ih.bind fun _ => .pure
      · exact .pure

theorem loyal_blockPairs (fuel : Nat) : Loyal (blockPairs node fuel) := by
  induction fuel with
  | zero => exact .pure
  | succ fuel ih =>
      refine loyal_peek.bind fun token => ?_
      dsimp only
      split
      · exact loyal_forward.bind fun _ => (loyal_behind loyal ..).bind fun _ =>
          (loyal_entryValue loyal ..).bind fun _ => ih.bind fun _ => .pure
      · split
        · exact loyal_forward.bind fun _ => .pure
        · exact loyal_failWanting _

end

theorem loyal_comma (first : Bool) (wanted : String) : Loyal (comma first wanted) := by
  cases first with
  | true => exact .pure
  | false =>
      refine loyal_peek.bind fun token => ?_
      split
      · exact loyal_forward
      · exact .fail

section

variable {node : Bool → Bool → Reader Node} (loyal : ∀ block indentless, Loyal (node block indentless))

include loyal

theorem loyal_flowItems (fuel : Nat) (first : Bool) : Loyal (flowItems node fuel first) := by
  induction fuel generalizing first with
  | zero => exact .pure
  | succ fuel ih =>
      refine loyal_content.bind fun content => ?_
      split
      · exact loyal_forward.bind fun _ => .pure
      · refine (loyal_comma ..).bind fun _ => loyal_peek.bind fun token => ?_
        split
        · refine loyal_forward.bind fun _ => (loyal_newMapping _ ?_).bind fun _ => (ih false).bind fun _ => .pure
          exact (loyal_behind loyal ..).bind fun _ => (loyal_entryValue loyal ..).bind fun _ => .pure
        · split
          · exact loyal_forward.bind fun _ => .pure
          · exact (loyal _ _).bind fun _ => (ih false).bind fun _ => .pure

theorem loyal_flowPairs (fuel : Nat) (first : Bool) : Loyal (flowPairs node fuel first) := by
  induction fuel generalizing first with
  | zero => exact .pure
  | succ fuel ih =>
      refine loyal_content.bind fun content => ?_
      split
      · exact loyal_forward.bind fun _ => .pure
      · refine (loyal_comma ..).bind fun _ => loyal_peek.bind fun token => ?_
        split
        · exact loyal_forward.bind fun _ => (loyal_behind loyal ..).bind fun _ =>
            (loyal_entryValue loyal ..).bind fun _ => (ih false).bind fun _ => .pure
        · split
          · exact loyal_forward.bind fun _ => .pure
          · exact (loyal _ _).bind fun _ => loyal_peek.bind fun _ => (loyal_empty _).bind fun _ =>
              (ih false).bind fun _ => .pure

end

/-- Nodes are read with faults of the structure only, up to the end of the tokens. -/
theorem loyal_read (depth : Nat) (block indentless : Bool) : Loyal (Node.read depth block indentless) := by
  induction depth generalizing block indentless with
  | zero => exact loyal_peek.bind fun _ => .fail
  | succ depth ih =>
      rw [Node.read]
      refine loyal_peek.bind fun token => ?_
      split
      · exact loyal_forward.bind fun _ => loyal_reference ..
      · refine loyal_properties.bind fun given => loyal_peek.bind fun token => ?_
        dsimp only
        split
        · exact loyal_newSequence _ (loyal_indentlessEntries ih depth)
        · exact loyal_forward.bind fun _ => loyal_newScalar ..
        · exact loyal_newSequence _ (loyal_forward.bind fun _ => loyal_flowItems ih depth true)
        · exact loyal_newMapping _ (loyal_forward.bind fun _ => loyal_flowPairs ih depth true)
        · exact loyal_newSequence _ (loyal_forward.bind fun _ => loyal_blockEntries ih depth)
        · exact loyal_newMapping _ (loyal_forward.bind fun _ => loyal_blockPairs ih depth)
        · split
          · exact loyal_newScalar ..
          · exact loyal_failWanting _

/-! ### Documents -/

theorem loyal_skipEnds (fuel : Nat) : Loyal (skipEnds fuel) := by
  induction fuel with
  | zero => exact .pure
  | succ fuel ih =>
      refine loyal_content.bind fun content => ?_
      split
      · exact loyal_forward.bind fun _ => ih
      · exact .pure

theorem loyal_directives (version : Bool) (given : List (String × String)) (fuel : Nat) :
    Loyal (directives version given fuel) := by
  induction fuel generalizing version given with
  | zero => exact .pure
  | succ fuel ih =>
      refine loyal_peek.bind fun token => ?_
      split
      · refine loyal_forward.bind fun _ => ?_
        split
        · split
          · exact .fail
          · split
            · exact .fail
            · exact ih ..
        · split
          · exact .fail
          · exact ih ..
        · exact ih ..
      · exact .change fun _ => rfl

theorem loyal_documentStart (fuel : Nat) : Loyal (documentStart fuel) := by
  refine (loyal_skipEnds fuel).bind fun _ => loyal_peek.bind fun token => ?_
  split
  · exact .pure
  · refine (loyal_directives ..).bind fun _ => loyal_content.bind fun content => ?_
    split
    · exact .pure
    · exact loyal_failWanting _

theorem loyal_finish (fuel : Nat) (root : Node) : Loyal (finish fuel root) := by
  refine loyal_content.bind fun content => ?_
  split
  · refine loyal_forward.bind fun _ => (loyal_documentStart fuel).bind fun start => ?_
    split
    · exact .fail
    · exact .pure
  · refine (loyal_documentStart fuel).bind fun start => ?_
    split
    · exact .fail
    · exact .pure

theorem loyal_single (fuel : Nat) : Loyal (single fuel) := by
  have bare (mark : Mark) := (loyal_empty mark).bind fun root => loyal_finish fuel root
  have filled := (loyal_read fuel true false).bind fun root => loyal_finish fuel root
  refine loyal_forward.bind fun _ => loyal_content.bind fun content => ?_
  split
  case h_4 =>
    refine Loyal.bind ?_ fun _ => filled
    exact .change fun _ => rfl
  -- a document with a mark of its own, behind directives or not
  all_goals
    refine (loyal_documentStart fuel).bind fun start => ?_
    split
    · exact .pure
    · refine loyal_forward.bind fun _ => loyal_peek.bind fun token => ?_
      split
      · exact bare _
      · exact bare _
      · exact bare _
      · exact bare _
      · exact filled

end Assembly

/-- A text is read as nodes with faults of the structure only, up to the fault that ends its tokens. -/
theorem ofText_fault {s : String} {fault : Fault} (stopped : Node.ofText s = .error fault) :
    fault.IsStructural ∨ (tokens s.toList).2 = some fault := by
  unfold Node.ofText at stopped
  dsimp only [StateT.run] at stopped
  cases read : Assembly.single (3 * (tokens s.toList).1.length + 10)
      ⟨(tokens s.toList).1, (tokens s.toList).2, 0, [], []⟩ with
  | error before =>
      rw [read] at stopped
      cases stopped
      exact (Assembly.loyal_single _).fault _ fault read
  | ok answer =>
      rw [read] at stopped
      cases stopped

/-! ## Nodes without a value -/

namespace Outcome

variable {blamed other : ScalarFault → Prop}

/-- Faults of scalars are those that are blamed. -/
def Blames (o : Outcome) (blamed : ScalarFault → Prop) : Prop :=
  ∀ fault, o.opening = some (.scalar fault) ∨ some (.scalar fault) ∈ o.later → blamed fault

namespace Blames

theorem mono {o : Outcome} (blames : o.Blames blamed) (more : ∀ fault, blamed fault → other fault) :
    o.Blames other := fun fault found => more fault (blames fault found)

theorem failed {fault : Fault} (structural : fault.IsStructural) : (Outcome.failed fault).Blames blamed := by
  rintro scalar (found | found)
  · cases found
    exact absurd structural (Fault.not_isStructural_scalar scalar)
  · cases found

theorem leaf {value : Except Fault Data} (blames : ∀ fault, value = .error (.scalar fault) → blamed fault) :
    (Outcome.leaf value).Blames blamed := by
  rintro scalar (found | found)
  · cases value with
    | ok data => cases found
    | error fault =>
        cases found
        exact blames scalar rfl
  · cases value <;> cases found

theorem mem_firstFaults {first second : List (Option Fault)} {fault : Fault}
    (member : some fault ∈ firstFaults first second) : some fault ∈ first ∨ some fault ∈ second := by
  induction first generalizing second with
  | nil =>
      rw [firstFaults] at member
      exact .inr member
  | cons a first ih =>
      cases second with
      | nil => exact .inl member
      | cons b second =>
          rw [firstFaults] at member
          rcases List.mem_cons.1 member with here | later
          · cases a with
            | none => exact .inr (here ▸ List.mem_cons_self)
            | some a => exact .inl (here ▸ List.mem_cons_self)
          · exact (ih later).imp (List.mem_cons_of_mem _) (List.mem_cons_of_mem _)

theorem collection {own : Option Fault} {parts : List Outcome} {data : Data}
    (here : ∀ fault, own = some (.scalar fault) → blamed fault) (each : ∀ part ∈ parts, part.Blames blamed) :
    (Outcome.collection own parts data).Blames blamed := by
  -- faults further down are those of the parts, the first one at each depth
  have deeper : ∀ fault, some (Fault.scalar fault) ∈ (parts.map later).foldr firstFaults [] → blamed fault := by
    intro fault member
    induction parts with
    | nil => cases member
    | cons part parts ih =>
        rcases mem_firstFaults member with first | others
        · exact each part List.mem_cons_self fault (.inr first)
        · exact ih (fun other among => each other (List.mem_cons_of_mem _ among)) others
  rintro fault (found | found)
  · cases found
  · rcases List.mem_cons.1 found with same | later
    · exact here fault same.symm
    · exact deeper fault later

theorem sequence {items : List Outcome} {build : List Data → Data} (each : ∀ item ∈ items, item.Blames blamed) :
    (Outcome.sequence items build).Blames blamed := by
  refine collection (fun fault found => ?_) each
  obtain ⟨item, member, opened⟩ := List.exists_of_findSome?_eq_some found
  exact each item member fault (.inl opened)

theorem pair {first second : Outcome} {data : Data} (here : first.Blames blamed) (there : second.Blames blamed) :
    (⟨first.opening.or second.opening, firstFaults first.later second.later, data⟩ : Outcome).Blames blamed := by
  rintro fault (found | found)
  · rcases Option.or_eq_some_iff.1 found with opened | ⟨-, opened⟩
    · exact here fault (.inl opened)
    · exact there fault (.inl opened)
  · rcases mem_firstFaults found with later | later
    · exact here fault (.inr later)
    · exact there fault (.inr later)

end Blames

end Outcome

namespace Tag

theorem blames_unfit (tag : Tag) (mark : Mark) (kind : Kind) (blamed : ScalarFault → Prop) :
    (tag.unfit mark kind).Blames blamed := by
  have wrong (wanted : String) (fault : ScalarFault) : some (wrongNode wanted kind mark) ≠ some (.scalar fault) := by
    rintro ⟨⟩
  cases tag with
  | seq | omap | pairs | map | set =>
      exact .collection (fun fault found => absurd found (wrong _ fault)) (by simp)
  | merge | value | other => exact .failed (Fault.isStructural_malformed ..)
  | _ => exact .failed (Fault.isStructural_malformed ..)

theorem blames_hollow (tag : Tag) (mark : Mark) (kind : Kind) (blamed : ScalarFault → Prop) :
    (tag.hollow mark kind).Blames blamed := by
  have hollow (data : Data) : (⟨none, [], data⟩ : Outcome).Blames blamed := by
    rintro fault (found | found)
    · cases found
    · cases found
  cases tag with
  | seq | omap | pairs | map | set => exact hollow _
  | _ => exact blames_unfit _ mark kind blamed

end Tag

namespace Node

/-- A node is within another when it is that one or within a node of it. -/
inductive Within (node : Node) : Node → Prop
  | self : Within node node
  | item {id : Nat} {mark : Mark} {tag : Tag} {items : List Node} {item : Node} (member : item ∈ items)
      (deeper : Within node item) : Within node (.sequence id mark tag items)
  | key {id : Nat} {mark : Mark} {tag : Tag} {entries : List (Node × Node)} {entry : Node × Node}
      (member : entry ∈ entries) (deeper : Within node entry.1) : Within node (.mapping id mark tag entries)
  | value {id : Nat} {mark : Mark} {tag : Tag} {entries : List (Node × Node)} {entry : Node × Node}
      (member : entry ∈ entries) (deeper : Within node entry.2) : Within node (.mapping id mark tag entries)

/-- The text of the node has no value under its tag. -/
def Fails (node : Node) (fault : ScalarFault) : Prop :=
  ∃ text, node.text = .ok text ∧ node.tag.scalarValue node.mark text = .error (.scalar fault)

/-- A node within this one fails. -/
def Holds (root : Node) (fault : ScalarFault) : Prop := ∃ node, Within node root ∧ node.Fails fault

/-- A node within one of these fails. -/
def HoldsAny (nodes : List Node) (fault : ScalarFault) : Prop := ∃ node ∈ nodes, node.Holds fault

/-- A node within a key or a value of these fails. -/
def HoldsEntry (entries : List (Node × Node)) (fault : ScalarFault) : Prop :=
  ∃ entry ∈ entries, entry.1.Holds fault ∨ entry.2.Holds fault

section

variable {id : Nat} {mark : Mark} {tag : Tag} {fault : ScalarFault}

theorem holds_sequence {items : List Node} (any : HoldsAny items fault) :
    (Node.sequence id mark tag items).Holds fault := by
  obtain ⟨item, member, node, within, fails⟩ := any
  exact ⟨node, .item member within, fails⟩

theorem holds_mapping {entries : List (Node × Node)} (any : HoldsEntry entries fault) :
    (Node.mapping id mark tag entries).Holds fault := by
  rcases any with ⟨entry, member, ⟨node, within, fails⟩ | ⟨node, within, fails⟩⟩
  · exact ⟨node, .key member within, fails⟩
  · exact ⟨node, .value member within, fails⟩

theorem HoldsAny.cons {node : Node} {nodes : List Node} (any : HoldsAny nodes fault) :
    HoldsAny (node :: nodes) fault := by
  obtain ⟨other, member, holds⟩ := any
  exact ⟨other, List.mem_cons_of_mem _ member, holds⟩

theorem HoldsEntry.cons {entry : Node × Node} {entries : List (Node × Node)} (any : HoldsEntry entries fault) :
    HoldsEntry (entry :: entries) fault := by
  obtain ⟨other, member, holds⟩ := any
  exact ⟨other, List.mem_cons_of_mem _ member, holds⟩

end

mutual

theorem text_error (node : Node) (fault : Fault) (stopped : node.text = .error fault) : fault.IsStructural := by
  match node with
  | .scalar .. =>
      rw [Node.text] at stopped
      cases stopped
  | .sequence .. =>
      simp only [Node.text] at stopped
      cases stopped
      exact Fault.isStructural_malformed ..
  | .mapping _ mark _ entries =>
      rw [Node.text] at stopped
      exact valueText_error mark entries fault stopped
  | .again .. =>
      simp only [Node.text] at stopped
      cases stopped
      exact Fault.isStructural_malformed ..

theorem valueText_error (mark : Mark) (entries : List (Node × Node)) (fault : Fault)
    (stopped : text.valueText mark entries = .error fault) : fault.IsStructural := by
  match entries with
  | [] =>
      rw [text.valueText] at stopped
      cases stopped
      exact Fault.isStructural_malformed ..
  | (key, value) :: rest =>
      rw [text.valueText] at stopped
      split at stopped
      · exact text_error value fault stopped
      · exact valueText_error mark rest fault stopped

end

/-- A text that is read from a node under its own tag fails only where the node does. -/
theorem blames_text {node : Node} {tag : Tag} (own : tag = node.tag ∨ tag = .str) :
    (Outcome.leaf (node.text >>= tag.scalarValue node.mark)).Blames node.Holds := by
  refine .leaf fun fault stopped => ?_
  cases text : node.text with
  | error before =>
      rw [text] at stopped
      cases stopped
      exact absurd (text_error node _ text) (Fault.not_isStructural_scalar fault)
  | ok given =>
      rw [text] at stopped
      rcases own with rfl | rfl
      · exact ⟨node, .self, given, text, stopped⟩
      · cases stopped

/-- The entries blame what fails within them. -/
def EntriesBlame (entries : List Entry) (blamed : ScalarFault → Prop) : Prop :=
  ∀ entry ∈ entries, entry.key.Blames blamed ∧ entry.value.Blames blamed

theorem EntriesBlame.mono {entries : List Entry} {blamed other : ScalarFault → Prop}
    (blame : EntriesBlame entries blamed) (more : ∀ fault, blamed fault → other fault) :
    EntriesBlame entries other :=
  fun entry member => ⟨(blame entry member).1.mono more, (blame entry member).2.mono more⟩

theorem EntriesBlame.append {first second : List Entry} {blamed : ScalarFault → Prop}
    (here : EntriesBlame first blamed) (there : EntriesBlame second blamed) : EntriesBlame (first ++ second) blamed := by
  intro entry member
  rcases List.mem_append.1 member with among | later
  · exact here entry among
  · exact there entry later

/-- What merges bring in blames what fails within them; they stop with faults of the structure. -/
structure Merges (found : Except Fault (List Entry)) (blamed : ScalarFault → Prop) : Prop where
  entries : ∀ entries, found = .ok entries → EntriesBlame entries blamed
  fault : ∀ fault, found = .error fault → fault.IsStructural

namespace Merges

variable {blamed other : ScalarFault → Prop} {found : Except Fault (List Entry)}

theorem pure {entries : List Entry} (blame : EntriesBlame entries blamed) : Merges (Pure.pure entries) blamed := by
  constructor
  · rintro same ⟨rfl⟩
    exact blame
  · rintro fault ⟨⟩

theorem error {fault : Fault} (structural : fault.IsStructural) : Merges (.error fault) blamed := by
  constructor
  · rintro entries ⟨⟩
  · rintro same ⟨rfl⟩
    exact structural

theorem bind {f : List Entry → Except Fault (List Entry)} (first : Merges found blamed)
    (later : ∀ entries, EntriesBlame entries blamed → Merges (f entries) blamed) : Merges (found >>= f) blamed := by
  cases given : found with
  | error fault => exact error (first.fault fault given)
  | ok entries => exact later entries (first.entries entries given)

theorem mono (merges : Merges found blamed) (more : ∀ fault, blamed fault → other fault) : Merges found other :=
  ⟨fun entries given => (merges.entries entries given).mono more, merges.fault⟩

end Merges

theorem blames_fault {entry : Entry} {blamed : ScalarFault → Prop} {fault : ScalarFault}
    (key : entry.key.Blames blamed) (value : entry.value.Blames blamed)
    (stopped : entry.fault? = some (.scalar fault)) : blamed fault := by
  unfold Entry.fault? at stopped
  cases opening : entry.key.opening with
  | some first =>
      rw [opening] at stopped
      cases stopped
      exact key fault (.inl opening)
  | none =>
      rw [opening] at stopped
      split at stopped
      · cases stopped
      · exact value fault (.inl stopped)

/-- A mapping blames what its entries blame. -/
theorem blames_table {entries : List (Node × Node)} {build : List (Data × Data) → Data}
    {blamed : ScalarFault → Prop} (above : Merges (merged entries) blamed)
    (own : EntriesBlame (ownEntries entries) blamed) : (table entries build).Blames blamed := by
  unfold table
  split
  · rename_i fault stopped
    refine .collection (fun scalar found => ?_) (by simp)
    cases found
    exact absurd (above.fault _ stopped) (Fault.not_isStructural_scalar scalar)
  · rename_i merged found
    have all := (above.entries merged found).append own
    refine .collection (fun fault stopped => ?_) fun part member => ?_
    · obtain ⟨entry, member, stopped⟩ := List.exists_of_findSome?_eq_some stopped
      exact blames_fault (all entry member).1 (all entry member).2 stopped
    · obtain ⟨entry, among, member⟩ := List.mem_flatMap.1 member
      rcases List.mem_cons.1 member with rfl | member
      · exact (all entry among).1
      · rcases List.mem_singleton.1 member with rfl
        exact (all entry among).2

mutual

/-- What comes of a node under its own tag, or as a text, fails only where a node within it does. -/
theorem blames_outcomeAs (node : Node) (tag : Tag) (own : tag = node.tag ∨ tag = .str) :
    (outcomeAs tag node).Blames node.Holds := by
  match node with
  | .scalar _ mark _ text =>
      rw [outcomeAs]
      split
      · exact tag.blames_unfit mark .scalar _
      · exact blames_text own
  | .sequence _ mark _ items =>
      unfold outcomeAs
      split
      · exact (Outcome.Blames.sequence (blames_outcomes items)).mono fun _ => holds_sequence
      · exact (Outcome.Blames.sequence (blames_singles mark items)).mono fun _ => holds_sequence
      · exact (Outcome.Blames.sequence (blames_singles mark items)).mono fun _ => holds_sequence
      · exact tag.blames_unfit mark .sequence _
  | .mapping _ mark _ entries =>
      have table (build : List (Data × Data) → Data) : (Node.table entries build).Blames (HoldsEntry entries) :=
        blames_table (merges_merged entries) (blames_ownEntries entries)
      unfold outcomeAs
      split
      · exact (table _).mono fun _ => holds_mapping
      · exact (table _).mono fun _ => holds_mapping
      · split
        · exact tag.blames_unfit mark .mapping _
        · exact blames_text own
  | .again _ mark kind _ =>
      rw [outcomeAs]
      exact tag.blames_hollow mark kind _

theorem blames_outcomes (nodes : List Node) : ∀ o ∈ outcomes nodes, o.Blames (HoldsAny nodes) := by
  match nodes with
  | [] => simp [outcomes]
  | node :: rest =>
      rw [outcomes, List.forall_mem_cons]
      constructor
      · exact (blames_outcomeAs node node.tag (.inl rfl)).mono fun _ holds => ⟨node, List.mem_cons_self, holds⟩
      · intro o member
        exact (blames_outcomes rest o member).mono fun _ => HoldsAny.cons

theorem blames_ownEntries (entries : List (Node × Node)) :
    EntriesBlame (ownEntries entries) (HoldsEntry entries) := by
  match entries with
  | [] =>
      rw [ownEntries]
      rintro entry ⟨⟩
  | (key, value) :: rest =>
      rw [ownEntries]
      split
      · exact (blames_ownEntries rest).mono fun _ => HoldsEntry.cons
      · -- a key that stands for the value of its mapping is read as a text
        have tag : (if key.tag = .value then .str else key.tag) = key.tag ∨
            (if key.tag = .value then .str else key.tag) = Tag.str := by
          split
          · exact .inr rfl
          · exact .inl rfl
        intro entry member
        rcases List.mem_cons.1 member with rfl | among
        · constructor
          · exact (blames_outcomeAs key _ tag).mono fun _ holds => ⟨(key, value), List.mem_cons_self, .inl holds⟩
          · exact (blames_outcomeAs value value.tag (.inl rfl)).mono fun _ holds =>
              ⟨(key, value), List.mem_cons_self, .inr holds⟩
        · exact ((blames_ownEntries rest).mono fun _ => HoldsEntry.cons) entry among

theorem merges_merged (entries : List (Node × Node)) : Merges (merged entries) (HoldsEntry entries) := by
  match entries with
  | [] =>
      rw [merged]
      refine .pure ?_
      rintro entry ⟨⟩
  | (key, value) :: rest =>
      have others : Merges (merged rest) (HoldsEntry ((key, value) :: rest)) :=
        (merges_merged rest).mono fun _ => HoldsEntry.cons
      rw [merged]
      split
      · refine .bind ((merges_contribution value).mono fun _ holds => ⟨(key, value), List.mem_cons_self, .inr holds⟩)
          fun first here => others.bind fun later there => .pure (here.append there)
      · exact others

theorem merges_contribution (node : Node) : Merges (contribution node) node.Holds := by
  match node with
  | .mapping _ _ _ entries =>
      rw [contribution]
      exact .mono (.bind (merges_merged entries) fun first here => .pure (here.append (blames_ownEntries entries)))
        fun _ => holds_mapping
  | .sequence _ _ _ items =>
      rw [contribution]
      exact (merges_contributions items).mono fun _ => holds_sequence
  | .again _ mark kind _ =>
      rw [contribution]
      split
      · exact .error (Fault.isStructural_malformed ..)
      · refine .pure ?_
        rintro entry ⟨⟩
  | .scalar _ mark .. =>
      rw [contribution]
      exact .error (Fault.isStructural_malformed ..)

theorem merges_contributions (nodes : List Node) : Merges (contributions nodes) (HoldsAny nodes) := by
  match nodes with
  | [] =>
      rw [contributions]
      refine .pure ?_
      rintro entry ⟨⟩
  | .mapping id mark tag entries :: rest =>
      have here : ∀ fault, HoldsEntry entries fault → HoldsAny (.mapping id mark tag entries :: rest) fault :=
        fun _ any => ⟨_, List.mem_cons_self, holds_mapping any⟩
      have own := (blames_ownEntries entries).mono here
      have others : Merges (contributions rest) (HoldsAny (.mapping id mark tag entries :: rest)) :=
        (merges_contributions rest).mono fun _ => HoldsAny.cons
      rw [contributions]
      exact .bind ((merges_merged entries).mono here) fun first above => others.bind fun later there =>
        .pure (there.append (above.append own))
  | .again id mark kind tag :: rest =>
      rw [contributions]
      split
      · exact (merges_contributions rest).mono fun _ => HoldsAny.cons
      · exact .error (Fault.isStructural_malformed ..)
  | .sequence .. :: _ =>
      rw [contributions]
      exact .error (Fault.isStructural_malformed ..)
  | .scalar .. :: _ =>
      rw [contributions]
      exact .error (Fault.isStructural_malformed ..)

theorem blames_singles (mark : Mark) (nodes : List Node) :
    ∀ o ∈ singles mark nodes, o.Blames (HoldsAny nodes) := by
  match nodes with
  | [] => simp [singles]
  | .mapping id at_ tag entries :: rest =>
      unfold singles
      rw [List.forall_mem_cons]
      constructor
      · split
        · rename_i key value
          have first : (outcomeAs key.tag key).Blames (HoldsEntry [(key, value)]) :=
            (blames_outcomeAs key key.tag (.inl rfl)).mono fun _ holds => ⟨(key, value), List.mem_cons_self, .inl holds⟩
          have second : (outcomeAs value.tag value).Blames (HoldsEntry [(key, value)]) :=
            (blames_outcomeAs value value.tag (.inl rfl)).mono fun _ holds =>
              ⟨(key, value), List.mem_cons_self, .inr holds⟩
          exact (first.pair second).mono fun _ any => ⟨_, List.mem_cons_self, holds_mapping any⟩
        · exact .failed (Fault.isStructural_malformed ..)
      · intro o member
        exact (blames_singles mark rest o member).mono fun _ => HoldsAny.cons
  | .again .. :: _ =>
      rw [singles]
      intro o member
      rcases List.mem_singleton.1 member with rfl
      exact .failed (Fault.isStructural_malformed ..)
  | .sequence .. :: _ =>
      rw [singles]
      intro o member
      rcases List.mem_singleton.1 member with rfl
      exact .failed (Fault.isStructural_malformed ..)
  | .scalar .. :: _ =>
      rw [singles]
      intro o member
      rcases List.mem_singleton.1 member with rfl
      exact .failed (Fault.isStructural_malformed ..)

end

/-! ## Documents -/

theorem tag_expand (node : Node) : (expand [] node).tag = node.tag := by
  cases node <;> rw [expand] <;> rfl

/-- Following circles leaves the tag of the whole as it is. -/
theorem tag_unfold (node : Node) : node.unfold.tag = node.tag := by
  have repeated (n : Nat) : (n.repeat (expand []) node).tag = node.tag := by
    induction n with
    | zero => rfl
    | succ n ih => exact (tag_expand _).trans ih
  unfold unfold
  split
  · exact repeated circleDepth
  · rfl

/-- A node that fails with a scalar holds a node whose text has no value. -/
theorem holds_of_data {node : Node} {fault : ScalarFault} (stopped : node.data = .error (.scalar fault)) :
    node.unfold.Holds fault := by
  have blames := blames_outcomeAs node.unfold node.tag (.inl (tag_unfold node).symm)
  unfold data at stopped
  dsimp only at stopped
  split at stopped
  · rename_i found given
    cases stopped
    rcases Option.or_eq_some_iff.1 given with opened | ⟨-, later⟩
    · exact blames fault (.inl opened)
    · obtain ⟨found, member, same⟩ := List.exists_of_findSome?_eq_some later
      exact blames fault (.inr (same ▸ member))
  · cases stopped

end Node

/-- The fault of a scalar comes from the tokens, or from a node of the document whose text has no value under its
tag. -/
theorem scalar_origin {s : String} {fault : ScalarFault} (stopped : read s = .error (.scalar fault)) :
    (tokens s.toList).2 = some (.scalar fault) ∨
      ∃ root, Node.ofText s = .ok (some root) ∧ root.unfold.Holds fault := by
  unfold read at stopped
  dsimp only at stopped
  split at stopped
  · cases stopped
  · cases parsed : Node.ofText s with
    | error before =>
        rw [parsed] at stopped
        cases stopped
        exact .inl ((ofText_fault parsed).resolve_left (Fault.not_isStructural_scalar fault))
    | ok root =>
        rw [parsed] at stopped
        cases root with
        | none => cases stopped
        | some root => exact .inr ⟨root, rfl, Node.holds_of_data stopped⟩

end Triage.Yaml
