import Triage.Proofs.Yaml.Cursor

/-!
# What ends the tokens of a document

Characters become tokens up to the first fault. Nearly all such faults are those of the structure of a document;
besides them an escape can give a code of no character, and a version a number of too many digits.
-/

namespace Triage.Yaml

/-- Why a scalar can be without a value while it is still part of a token. -/
inductive ScalarFault.OfToken : ScalarFault → Prop
  /-- An escape gives a code behind the last character. -/
  | character : OfToken .character
  /-- An escape gives a code that is no machine number. -/
  | overflow : OfToken .overflow
  /-- A version has too many digits. -/
  | version {digits : Nat} (many : Decimal.digitLimit < digits) : OfToken (.integer (.tooLong digits))

/-- What the reading of tokens can stop at. -/
inductive Fault.OfToken : Fault → Prop
  | malformed (problem : Problem) (mark : Mark) : OfToken (.malformed problem mark)
  | scalar {fault : ScalarFault} (kind : fault.OfToken) : OfToken (.scalar fault)

/-- The result is no fault, or one of tokens. -/
structure Lexical {α : Type} (x : Except Fault α) : Prop where
  ofToken : ∀ fault, x = .error fault → fault.OfToken

namespace Lexical

variable {α β : Type}

theorem ok {a : α} : Lexical (.ok a) := by
  constructor
  rintro fault ⟨⟩

theorem error {fault : Fault} (kind : fault.OfToken) : Lexical (.error fault : Except Fault α) := by
  constructor
  rintro other ⟨rfl⟩
  exact kind

theorem bind {x : Except Fault α} {f : α → Except Fault β} (first : Lexical x) (later : ∀ a, Lexical (f a)) :
    Lexical (x >>= f) := by
  cases x with
  | error fault => exact .error (first.ofToken fault rfl)
  | ok a => exact later a

theorem ite {p : Prop} [Decidable p] {x y : Except Fault α} (then_ : Lexical x) (else_ : Lexical y) :
    Lexical (if p then x else y) := by
  split
  · exact then_
  · exact else_

end Lexical

namespace Scan

variable {α β : Type}

/-- From every place the reading gives an answer or stops at a fault of tokens. -/
structure Lexes (scan : Scan α) : Prop where
  lexical : ∀ c, Lexical (scan.run c)

namespace Lexes

theorem pure {a : α} : Lexes (Pure.pure a) := ⟨fun _ => .ok⟩

theorem bind {scan : Scan α} {f : α → Scan β} (first : Lexes scan) (later : ∀ a, Lexes (f a)) : Lexes (scan >>= f) := by
  constructor
  intro c
  rw [StateT.run_bind]
  exact (first.lexical c).bind fun answer => (later answer.1).lexical answer.2

theorem throw {fault : Fault} (kind : fault.OfToken) : Lexes (MonadExcept.throw fault : Scan α) :=
  ⟨fun _ => .error kind⟩

theorem map {scan : Scan α} (first : Lexes scan) (f : α → β) : Lexes (f <$> scan) := by
  rw [map_eq_pure_bind]
  exact first.bind fun _ => .pure

end Lexes

/-! ## Walking -/

theorem lexes_get : Lexes (MonadState.get : Scan Cursor) := ⟨fun _ => .ok⟩

theorem lexes_peek : Lexes peek := ⟨fun _ => .ok⟩

theorem lexes_peekAt (k : Nat) : Lexes (peekAt k) := ⟨fun _ => .ok⟩

theorem lexes_mark : Lexes mark := ⟨fun _ => .ok⟩

theorem lexes_forward : Lexes forward := ⟨fun _ => .ok⟩

theorem lexes_skip (count : Nat) : Lexes (skip count) := ⟨fun _ => .ok⟩

theorem lexes_takeWhile (p : Char → Bool) : Lexes (takeWhile p) := ⟨fun _ => .ok⟩

theorem lexes_skipWhile (p : Char → Bool) : Lexes (skipWhile p) := ⟨fun _ => .ok⟩

theorem lexes_left : Lexes left := ⟨fun _ => .ok⟩

theorem lexes_fail (problem : Problem) : Lexes (fail problem : Scan α) :=
  lexes_mark.bind fun mark => .throw (.malformed problem mark)

theorem lexes_failWanting (wanted : String) : Lexes (failWanting wanted : Scan α) :=
  lexes_peek.bind fun _ => lexes_fail _

theorem lexes_lineBreak : Lexes lineBreak := by
  refine lexes_get.bind fun c => ?_
  dsimp only
  split
  · exact (lexes_skip 2).bind fun _ => .pure
  · split
    · exact lexes_forward.bind fun _ => .pure
    · split
      · exact lexes_forward.bind fun _ => .pure
      · exact .pure

theorem lexes_ignoreLine : Lexes ignoreLine := by
  -- with a comment or without one
  have ends : Lexes (do
      if isBreakOrEnd (← peek) then
        let _ ← lineBreak
      else failWanting "a comment or a line break") := by
    refine lexes_peek.bind fun c => ?_
    split
    · exact lexes_lineBreak.bind fun _ => .pure
    · exact lexes_failWanting _
  refine (lexes_skipWhile _).bind fun _ => lexes_peek.bind fun c => ?_
  split
  · exact (lexes_skipWhile _).bind fun _ => ends
  · exact ends

/-! ## Anchors and tags -/

theorem lexes_anchorName : Lexes anchorName := by
  refine lexes_forward.bind fun _ => (lexes_takeWhile _).bind fun name => ?_
  split
  · exact lexes_failWanting _
  · refine lexes_peek.bind fun c => ?_
    split
    · exact .pure
    · exact lexes_failWanting _

theorem lexes_escapedOctets (start : Mark) (fuel : Nat) (done : List UInt8) : Lexes (escapedOctets start fuel done) := by
  induction fuel generalizing done with
  | zero => exact .pure
  | succ fuel ih =>
      refine lexes_peek.bind fun c => ?_
      split
      · refine lexes_forward.bind fun _ => lexes_peek.bind fun a => ?_
        split
        · exact lexes_failWanting _
        · refine (lexes_peekAt 1).bind fun b => ?_
          split
          · exact lexes_fail _
          · exact (lexes_skip 2).bind fun _ => ih _
      · split
        · exact .pure
        · exact .throw (.malformed ..)

theorem lexes_tailChars (fuel : Nat) : Lexes (tailChars fuel) := by
  induction fuel with
  | zero => exact .pure
  | succ fuel ih =>
      refine (lexes_takeWhile _).bind fun plain => lexes_peek.bind fun c => ?_
      split
      · exact lexes_mark.bind fun _ => lexes_left.bind fun _ => (lexes_escapedOctets ..).bind fun _ =>
          ih.bind fun _ => .pure
      · exact .pure

theorem lexes_tagTail : Lexes tagTail := by
  refine lexes_peek.bind fun first => lexes_left.bind fun _ => (lexes_tailChars _).bind fun tail => ?_
  split
  · exact lexes_failWanting _
  · exact .pure

theorem lexes_tagHandle : Lexes tagHandle := by
  refine lexes_peek.bind fun c => ?_
  split
  · exact lexes_failWanting _
  · refine lexes_forward.bind fun _ => lexes_peek.bind fun c => ?_
    split
    · exact .pure
    · refine (lexes_takeWhile _).bind fun name => lexes_peek.bind fun c => ?_
      split
      · exact lexes_failWanting _
      · exact lexes_forward.bind fun _ => .pure

theorem lexes_tag : Lexes tag := by
  -- every form of tag ends in front of a gap
  have ends (content : Content) : Lexes (do
      if isGapOrEnd (← peek) then return content else failWanting "' '") := by
    refine lexes_peek.bind fun c => ?_
    split
    · exact .pure
    · exact lexes_failWanting _
  have handled (handle : String) : Lexes (do
      let content ← pure (Content.tag (some handle) (← tagTail))
      if isGapOrEnd (← peek) then return content else failWanting "' '") :=
    lexes_tagTail.bind fun _ => Lexes.pure.bind ends
  refine (lexes_peekAt 1).bind fun c => ?_
  dsimp only
  split
  · refine (lexes_skip 2).bind fun _ => lexes_tagTail.bind fun tail => lexes_peek.bind fun c => ?_
    split
    · exact (lexes_failWanting _).bind ends
    · exact lexes_forward.bind fun _ => Lexes.pure.bind ends
  · split
    · exact lexes_forward.bind fun _ => Lexes.pure.bind ends
    · refine lexes_get.bind fun c => ?_
      split
      · exact lexes_tagHandle.bind handled
      · exact lexes_forward.bind fun _ => Lexes.pure.bind handled

/-! ## Directives -/

theorem lexes_versionNumber : Lexes versionNumber := by
  refine (lexes_takeWhile _).bind fun digits => ?_
  split
  · exact lexes_failWanting _
  · split
    · rename_i many
      exact .throw (.scalar (.version many))
    · exact .pure

theorem lexes_version : Lexes version := by
  refine (lexes_skipWhile _).bind fun _ => lexes_versionNumber.bind fun major => lexes_peek.bind fun c => ?_
  split
  · exact lexes_failWanting _
  · refine lexes_forward.bind fun _ => lexes_versionNumber.bind fun minor => lexes_peek.bind fun c => ?_
    split
    · exact .pure
    · exact lexes_failWanting _

theorem lexes_tagMeaning : Lexes tagMeaning := by
  refine (lexes_skipWhile _).bind fun _ => lexes_tagHandle.bind fun handle => lexes_peek.bind fun c => ?_
  split
  · exact lexes_failWanting _
  · refine (lexes_skipWhile _).bind fun _ => lexes_tagTail.bind fun meaning => lexes_peek.bind fun c => ?_
    split
    · exact .pure
    · exact lexes_failWanting _

theorem lexes_directive : Lexes directive := by
  have ends (d : Directive) : Lexes (do
      ignoreLine
      return d) := lexes_ignoreLine.bind fun _ => .pure
  refine lexes_forward.bind fun _ => (lexes_takeWhile _).bind fun name => lexes_peek.bind fun c => ?_
  dsimp only
  split
  · exact lexes_failWanting _
  · split
    · exact lexes_version.bind ends
    · split
      · exact lexes_tagMeaning.bind ends
      · exact (lexes_skipWhile _).bind fun _ => Lexes.pure.bind ends

/-! ## Quoted scalars -/

theorem lexes_quotedBreaks (fuel : Nat) : Lexes (quotedBreaks fuel) := by
  induction fuel with
  | zero => exact .pure
  | succ fuel ih =>
      refine lexes_get.bind fun c => ?_
      split
      · exact lexes_fail _
      · refine (lexes_skipWhile _).bind fun _ => lexes_peek.bind fun c => ?_
        split
        · exact lexes_lineBreak.bind fun _ => ih.bind fun _ => .pure
        · exact .pure

theorem lexes_codeChar (code : Nat) : Lexes (codeChar code) := by
  unfold codeChar
  split
  · exact .throw (.scalar .overflow)
  · split
    · exact .throw (.scalar .character)
    · exact .pure

theorem lexes_escape : Lexes escape := by
  refine lexes_peek.bind fun c => ?_
  split
  · exact lexes_forward.bind fun _ => .pure
  · refine lexes_forward.bind fun _ => lexes_get.bind fun c => ?_
    dsimp only
    split
    · exact (lexes_peekAt _).bind fun _ => lexes_fail _
    · exact (lexes_codeChar _).bind fun _ => (lexes_skip _).bind fun _ => .pure
  · split
    · exact lexes_lineBreak.bind fun _ => lexes_left.bind fun _ => lexes_quotedBreaks _
    · exact lexes_fail _

theorem lexes_afterRun (double : Bool) {more : Scan (List Char)} (others : Lexes more) (run : List Char) (c : Char) :
    Lexes (afterRun double more run c) := by
  unfold afterRun
  split
  · exact lexes_fail _
  · split
    · refine (lexes_takeWhile _).bind fun spaces => lexes_peek.bind fun next => ?_
      split
      · exact lexes_fail _
      · split
        · exact lexes_lineBreak.bind fun _ => lexes_left.bind fun _ => (lexes_quotedBreaks _).bind fun _ =>
            others.bind fun _ => .pure
        · exact others.bind fun _ => .pure
    · split
      · split
        · exact .pure
        · split
          · exact lexes_forward.bind fun _ => lexes_escape.bind fun _ => others.bind fun _ => .pure
          · exact lexes_forward.bind fun _ => others.bind fun _ => .pure
      · split
        · refine (lexes_peekAt 1).bind fun next => ?_
          split
          · exact (lexes_skip 2).bind fun _ => others.bind fun _ => .pure
          · exact .pure
        · exact lexes_forward.bind fun _ => others.bind fun _ => .pure

theorem lexes_quotedChars (double : Bool) (fuel : Nat) : Lexes (quotedChars double fuel) := by
  induction fuel with
  | zero => exact .pure
  | succ fuel ih => exact (lexes_takeWhile _).bind fun _ => lexes_peek.bind fun _ => lexes_afterRun double ih ..

theorem lexes_quoted (double : Bool) : Lexes (quoted double) :=
  lexes_forward.bind fun _ => lexes_left.bind fun _ => (lexes_quotedChars ..).bind fun _ =>
    lexes_forward.bind fun _ => .pure

/-! ## Plain scalars -/

theorem lexes_plainBreaks (fuel : Nat) : Lexes (plainBreaks fuel) := by
  induction fuel with
  | zero => exact .pure
  | succ fuel ih =>
      refine lexes_peek.bind fun c => ?_
      split
      · exact lexes_forward.bind fun _ => ih
      · split
        · refine lexes_lineBreak.bind fun b => lexes_get.bind fun c => ?_
          split
          · exact .pure
          · exact ih.bind fun _ => .pure
        · exact .pure

theorem lexes_plainSpaces : Lexes plainSpaces := by
  refine (lexes_takeWhile _).bind fun spaces => lexes_peek.bind fun c => ?_
  split
  · refine lexes_lineBreak.bind fun first => lexes_get.bind fun c => ?_
    split
    · exact .pure
    · refine lexes_left.bind fun _ => (lexes_plainBreaks _).bind fun rest => ?_
      split
      · exact .pure
      · exact .pure
  · exact .pure

theorem lexes_plainWords (flow : Bool) (indent : Int) (fuel : Nat) (spaces : List Char) :
    Lexes (plainWords flow indent fuel spaces) := by
  induction fuel generalizing spaces with
  | zero => exact .pure
  | succ fuel ih =>
      refine lexes_get.bind fun c => (lexes_skip _).bind fun _ => lexes_plainSpaces.bind fun found =>
        lexes_get.bind fun c => ?_
      dsimp only
      split
      · exact .pure
      · exact (ih _).bind fun _ => .pure

theorem lexes_plain (flow : Bool) (indent : Int) : Lexes (plain flow indent) :=
  lexes_left.bind fun _ => (lexes_plainWords ..).bind fun _ => .pure

/-! ## Block scalars -/

theorem lexes_indentation : Lexes indentation := by
  refine lexes_peek.bind fun c => ?_
  split
  · split
    · exact lexes_fail _
    · exact lexes_forward.bind fun _ => .pure
  · exact .pure

theorem lexes_blockHeader : Lexes blockHeader := by
  have ends (header : Chomping × Option Nat) : Lexes (do
      if isGapOrEnd (← peek) then return header else failWanting "chomping or indentation indicators") := by
    refine lexes_peek.bind fun c => ?_
    split
    · exact .pure
    · exact lexes_failWanting _
  refine lexes_peek.bind fun c => ?_
  dsimp only
  split
  · exact lexes_forward.bind fun _ => lexes_indentation.bind fun _ => Lexes.pure.bind ends
  · refine lexes_indentation.bind fun increment => lexes_peek.bind fun c => ?_
    split
    · exact lexes_forward.bind fun _ => Lexes.pure.bind ends
    · exact Lexes.pure.bind ends

theorem lexes_leadingBreaks (fuel widest : Nat) : Lexes (leadingBreaks fuel widest) := by
  induction fuel generalizing widest with
  | zero => exact .pure
  | succ fuel ih =>
      refine lexes_peek.bind fun c => ?_
      split
      · exact lexes_forward.bind fun _ => lexes_mark.bind fun _ => ih _
      · split
        · exact lexes_lineBreak.bind fun _ => (ih _).bind fun _ => .pure
        · exact .pure

theorem lexes_skipIndent (indent fuel : Nat) : Lexes (skipIndent indent fuel) := by
  induction fuel with
  | zero => exact .pure
  | succ fuel ih =>
      refine lexes_mark.bind fun m => lexes_peek.bind fun c => ?_
      split
      · exact lexes_forward.bind fun _ => ih
      · exact .pure

theorem lexes_blockBreaks (indent fuel : Nat) : Lexes (blockBreaks indent fuel) := by
  induction fuel with
  | zero => exact .pure
  | succ fuel ih =>
      refine (lexes_skipIndent ..).bind fun _ => lexes_peek.bind fun c => ?_
      split
      · exact lexes_lineBreak.bind fun _ => ih.bind fun _ => .pure
      · exact .pure

theorem lexes_blockLines (fold : Bool) (indent fuel : Nat) (breaks : List Char) :
    Lexes (blockLines fold indent fuel breaks) := by
  induction fuel generalizing breaks with
  | zero => exact .pure
  | succ fuel ih =>
      refine lexes_get.bind fun c => ?_
      dsimp only
      split
      · refine lexes_peek.bind fun first => (lexes_takeWhile _).bind fun line => lexes_lineBreak.bind fun b =>
          lexes_left.bind fun _ => (lexes_blockBreaks ..).bind fun more => lexes_get.bind fun c => ?_
        split
        · exact (ih _).bind fun _ => .pure
        · exact .pure
      · exact .pure

theorem lexes_block (fold : Bool) (parent : Int) : Lexes (block fold parent) := by
  refine lexes_forward.bind fun _ => lexes_blockHeader.bind fun header => lexes_ignoreLine.bind fun _ => ?_
  dsimp only
  split
  · exact lexes_left.bind fun _ => (lexes_leadingBreaks ..).bind fun _ => Lexes.pure.bind fun _ =>
      lexes_left.bind fun _ => (lexes_blockLines ..).bind fun _ => .pure
  · exact lexes_left.bind fun _ => (lexes_blockBreaks ..).bind fun _ => Lexes.pure.bind fun _ =>
      lexes_left.bind fun _ => (lexes_blockLines ..).bind fun _ => .pure

end Scan

/-! ## Steps of the stream -/

namespace Stream

variable {s : Stream}

theorem lexical_fail {α : Type} (problem : Problem) : Lexical (s.fail problem : Except Fault α) :=
  .error (.malformed ..)

theorem lexical_read {scan : Scan Content} (lexes : scan.Lexes) : Lexical (s.read scan) :=
  (lexes.lexical s.cursor).bind fun _ => .ok

theorem lexical_dropStale : Lexical s.dropStale := by
  unfold dropStale
  split
  · exact lexical_fail _
  · exact .ok

theorem lexical_dropKey : Lexical s.dropKey := by
  unfold dropKey
  split
  · exact lexical_fail _
  · exact .ok

theorem lexical_saveKey : Lexical s.saveKey := by
  unfold saveKey
  split
  · exact lexical_dropKey.bind fun _ => .ok
  · exact .ok

theorem lexes_gap : gap.Lexes := by
  have ends : Scan.Lexes (do return !(← Scan.lineBreak).isEmpty) := Scan.lexes_lineBreak.bind fun _ => .pure
  refine (Scan.lexes_skipWhile _).bind fun _ => Scan.lexes_peek.bind fun c => ?_
  split
  · exact (Scan.lexes_skipWhile _).bind fun _ => ends
  · exact ends

theorem lexical_skipGaps : Lexical s.skipGaps := by
  have passed (fuel : Nat) (s : Stream) : Lexical (skipGaps.go fuel s) := by
    induction fuel generalizing s with
    | zero => exact .ok
    | succ fuel ih =>
        refine (lexes_gap.lexical s.cursor).bind fun found => ?_
        dsimp only
        split
        · exact ih _
        · exact .ok
  exact passed _ _

theorem lexical_finish : Lexical s.finish := lexical_dropKey.bind fun _ => .ok

theorem lexical_directive : Lexical s.directive :=
  lexical_dropKey.bind fun _ => lexical_read (Scan.lexes_directive.map _)

theorem lexical_documentMark (content : Content) : Lexical (s.documentMark content) :=
  lexical_dropKey.bind fun _ => .ok

theorem lexical_flowStart (content : Content) : Lexical (s.flowStart content) := lexical_saveKey.bind fun _ => .ok

theorem lexical_flowEnd (content : Content) : Lexical (s.flowEnd content) := lexical_dropKey.bind fun _ => .ok

theorem lexical_flowEntry : Lexical s.flowEntry := lexical_dropKey.bind fun _ => .ok

theorem lexical_blockEntry : Lexical s.blockEntry := by
  unfold blockEntry
  split
  · exact lexical_fail _
  · exact lexical_dropKey.bind fun _ => .ok

theorem lexical_key : Lexical s.key := by
  unfold key
  split
  · exact lexical_fail _
  · exact lexical_dropKey.bind fun _ => .ok

theorem lexical_value : Lexical s.value := by
  unfold value
  split
  · exact .ok
  · split
    · exact lexical_fail _
    · exact lexical_dropKey.bind fun _ => .ok

theorem lexical_candidate {scan : Scan Content} (lexes : scan.Lexes) : Lexical (s.candidate scan) :=
  lexical_saveKey.bind fun _ => lexical_read lexes

theorem lexical_plain : Lexical s.plain :=
  lexical_saveKey.bind fun s => ((Scan.lexes_plain ..).lexical s.cursor).bind fun _ => .ok

theorem lexical_block (fold : Bool) : Lexical (s.block fold) :=
  lexical_dropKey.bind fun _ => lexical_read (Scan.lexes_block ..)

theorem lexical_dispatch : Lexical s.dispatch := by
  have name := Scan.lexes_anchorName
  exact .ite lexical_finish <| .ite lexical_directive <| .ite (lexical_documentMark _) <|
    .ite (lexical_documentMark _) <| .ite (lexical_flowStart _) <| .ite (lexical_flowStart _) <|
    .ite (lexical_flowEnd _) <| .ite (lexical_flowEnd _) <| .ite lexical_flowEntry <| .ite lexical_blockEntry <|
    .ite lexical_key <| .ite lexical_value <| .ite (lexical_candidate (name.map _)) <|
    .ite (lexical_candidate (name.map _)) <| .ite (lexical_candidate Scan.lexes_tag) <| .ite (lexical_block _) <|
    .ite (lexical_block _) <| .ite (lexical_candidate (Scan.lexes_quoted _)) <|
    .ite (lexical_candidate (Scan.lexes_quoted _)) <| .ite lexical_plain (lexical_fail _)

theorem lexical_step : Lexical s.step := by
  have approached : Lexical s.approach := lexical_skipGaps.bind fun _ => lexical_dropStale
  have fetched : Lexical s.fetch := approached.bind fun _ => lexical_dispatch
  exact fetched.bind fun _ => lexical_dropStale

/-- Steps end with a fault of tokens, if with any. -/
theorem ofToken_run {fuel : Nat} {fault : Fault} (ended : (s.run fuel).2 = some fault) : fault.OfToken := by
  induction fuel generalizing s with
  | zero => cases ended
  | succ fuel ih =>
      rw [run] at ended
      split at ended
      · cases ended
      · cases stepped : s.step with
        | ok next =>
            rw [stepped] at ended
            exact ih ended
        | error before =>
            rw [stepped] at ended
            cases ended
            exact lexical_step.ofToken fault stepped

end Stream

/-- Tokens end where the structure of the document is wrong, where the code of an escape is that of no character,
or where a version has too many digits. -/
theorem ofToken_tokens {cs : List Char} {fault : Fault} (ended : (tokens cs).2 = some fault) : fault.OfToken :=
  Stream.ofToken_run ended

end Triage.Yaml
