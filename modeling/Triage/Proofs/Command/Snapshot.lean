import Mathlib.Data.List.Forall2
import Triage.Command.Snapshot
import Triage.Proofs.Command.Job
import Triage.Proofs.FileTree
import Triage.Proofs.Text.Utf8

/-!
# What loading a snapshot comes to

Loading goes through the entries in order and stops at the first that is no record. Labels and columns
report whatever can be wrong with one; an issue can also fail in three ways that are not reported.
-/

namespace Triage

namespace Snapshot

variable {α : Type} {kind : RecordKind α} {path : String} {data : Data}

/-! ## Answers that are as they should be -/

/-- An answer with a record for every entry, or with a report of what is wrong: the snapshot has no list of
entries, or there is a first entry that is no record, which is named by its place. -/
inductive Reported (kind : RecordKind α) (path : String) (data : Data) : Except Halt (List α) → Prop
  | records {entries : List Data} {records : List α} (listed : entries? kind data = some entries)
      (each : List.Forall₂ (fun entry record => kind.read entry = .ok record) entries records) :
      Reported kind path data (.ok records)
  | noList (unlisted : entries? kind data = none) :
      Reported kind path data (.error (.refused s!"{path}: expected a JSON list of {kind.many}"))
  | malformed {before after : List Data} {entry : Data} {fault : Fault}
      (listed : entries? kind data = some (before ++ entry :: after))
      (earlier : ∀ other ∈ before, ∃ record, kind.read other = .ok record)
      (fails : kind.read entry = .error fault) :
      Reported kind path data (.error (.refused (Snapshot.malformed kind path before.length fault)))

/-- An answer that is a bare fault: there is a first entry that is no record, for a reason that is not
reported. -/
inductive Escaped (kind : RecordKind α) (data : Data) : Except Halt (List α) → Prop
  | escaped {before after : List Data} {entry : Data} {fault : Fault}
      (listed : entries? kind data = some (before ++ entry :: after))
      (earlier : ∀ other ∈ before, ∃ record, kind.read other = .ok record)
      (fails : kind.read entry = .error fault) (silent : fault.classOf ∉ kind.reported) :
      Escaped kind data (.error (.fault fault))

/-! ## Going through the entries -/

/-- Reading either gives a record for every entry or stops at the first that is none; places count from the
given one. -/
theorem readEntries_cases (kind : RecordKind α) (path : String) (place : Nat) (entries : List Data) :
    (∃ records, readEntries kind path place entries = .ok records ∧
      List.Forall₂ (fun entry record => kind.read entry = .ok record) entries records) ∨
    ∃ before entry after fault, entries = before ++ entry :: after ∧
      (∀ other ∈ before, ∃ record, kind.read other = .ok record) ∧ kind.read entry = .error fault ∧
      readEntries kind path place entries = .error
        (if fault.classOf ∈ kind.reported then .refused (malformed kind path (place + before.length) fault)
        else .fault fault) := by
  induction entries generalizing place with
  | nil => exact .inl ⟨[], rfl, .nil⟩
  | cons entry rest ih =>
      rw [readEntries]
      cases here : kind.read entry with
      | error fault =>
          refine .inr ⟨[], entry, rest, fault, rfl, by simp, here, ?_⟩
          simp only [List.length_nil, Nat.add_zero]
          split <;> rfl
      | ok record =>
          rcases ih (place + 1) with ⟨records, later, each⟩ | ⟨before, failing, after, fault, rfl, earlier, fails, later⟩
          · refine .inl ⟨record :: records, ?_, .cons here each⟩
            simp only [later]
            rfl
          · refine .inr ⟨entry :: before, failing, after, fault, rfl, ?_, fails, ?_⟩
            · intro other member
              rcases List.mem_cons.1 member with rfl | among
              · exact ⟨record, here⟩
              · exact earlier other among
            · simp only [later]
              rw [List.length_cons, Nat.add_comm before.length 1, ← Nat.add_assoc]
              rfl

theorem reported_or_escaped (kind : RecordKind α) (path : String) (data : Data) :
    Reported kind path data (ofData kind path data) ∨ Escaped kind data (ofData kind path data) := by
  cases listed : entries? kind data with
  | none =>
      rw [ofData, listed]
      exact .inl (.noList listed)
  | some entries =>
      have goes : ofData kind path data = readEntries kind path 0 entries := by rw [ofData, listed]
      rw [goes]
      rcases readEntries_cases kind path 0 entries with
        ⟨records, answer, each⟩ | ⟨before, entry, after, fault, rfl, earlier, fails, answer⟩
      · rw [answer]
        exact .inl (.records listed each)
      · rw [answer, Nat.zero_add]
        by_cases told : fault.classOf ∈ kind.reported
        · rw [if_pos told]
          exact .inl (.malformed listed earlier fails)
        · rw [if_neg told]
          exact .inr (.escaped listed earlier fails told)

/-- Nothing escapes from a kind of records that reports every fault of its entries. -/
theorem reported_of_faults (told : ∀ raw fault, kind.read raw = .error fault → fault.classOf ∈ kind.reported) :
    Reported kind path data (ofData kind path data) := by
  rcases reported_or_escaped kind path data with reported | escaped
  · exact reported
  · generalize ofData kind path data = answer at escaped ⊢
    cases escaped with
    | escaped _ _ fails silent => exact absurd (told _ _ fails) silent

/-! ## Labels and columns -/

/-- Every fault that can come instead of an answer is of one of some classes. -/
def FaultsIn (classes : List FaultClass) (x : Except Fault α) : Prop :=
  ∀ fault, x = .error fault → fault.classOf ∈ classes

namespace FaultsIn

variable {β : Type} {classes : List FaultClass}

theorem pure {a : α} : FaultsIn classes (Pure.pure a : Except Fault α) := by
  intro fault fails
  cases fails

theorem bind {x : Except Fault α} {f : α → Except Fault β} (first : FaultsIn classes x)
    (later : ∀ a, FaultsIn classes (f a)) : FaultsIn classes (x >>= f) := by
  intro fault fails
  cases here : x with
  | error earlier =>
      rw [here] at fails
      cases fails
      exact first fault here
  | ok a =>
      rw [here] at fails
      exact later a fault fails

theorem require {key : String} {raw : Data} (missing : .key ∈ classes) (other : .kind ∈ classes) :
    FaultsIn classes (raw.require key) := by
  intro fault fails
  cases raw with
  | map entries =>
      rw [Data.require] at fails
      split at fails
      · cases fails
      · cases fails
        exact missing
  | _ =>
      cases fails
      exact other

theorem ask {key : String} {raw : Data} (other : .member ∈ classes) : FaultsIn classes (raw.ask key) := by
  intro fault fails
  cases raw with
  | map entries => cases fails
  | _ =>
      cases fails
      exact other

end FaultsIn

theorem labels_faultsIn (raw : Data) : FaultsIn labels.reported (labels.read raw) :=
  .bind (.require (by decide) (by decide)) fun _ => .bind (.ask (by decide)) fun _ =>
    .bind (.ask (by decide)) fun _ => .bind (.ask (by decide)) fun _ => .pure

theorem columns_faultsIn (raw : Data) : FaultsIn columns.reported (columns.read raw) := by
  have named : FaultsIn columns.reported (do
      let name := (← raw.ask "name").orElse (← raw.ask "title")
      if name.truthy then return ⟨name, ← raw.ask "id"⟩ else throw .namelessColumn : Except Fault RemoteColumn) := by
    refine .bind (.ask (by decide)) fun name => .bind (.ask (by decide)) fun title => ?_
    dsimp only
    split
    · exact .bind (.ask (by decide)) fun _ => .pure
    · rintro _ ⟨⟩
      decide
  cases raw with
  | text name => exact .pure
  | _ => exact named

/-! ## Issues -/

/-- Values that are read as a time, though the reading can fail. -/
def isTimely : Data → Bool
  | .text _ | .moment _ => true
  | _ => false

/-- The three ways in which an issue fails without a report, in the order in which they are met. -/
inductive Unreported (entries : List (Data × Data)) : Fault → Prop
  /-- The time of its creation is something else. -/
  | created {value : Data} (given : Data.lookup "created_at" entries = some value) (other : isTimely value = false) :
      Unreported entries (.noMember value.kind "strip")
  /-- The time of the last touch is something else. -/
  | touched {value : Data} {createdAt : Time.Moment} (given : Data.lookup "created_at" entries = some value)
      (reads : value.toMoment = .ok createdAt) (present : (Data.field "updated_at" entries).truthy = true)
      (other : isTimely (Data.field "updated_at" entries) = false) :
      Unreported entries (.noMember (Data.field "updated_at" entries).kind "strip")
  /-- The number is an infinity. -/
  | number {value : Data} {createdAt : Time.Moment} {x : Float}
      (given : Data.lookup "created_at" entries = some value) (reads : value.toMoment = .ok createdAt)
      (touched : (Data.field "updated_at" entries).truthy = true →
        ∃ updatedAt, (Data.field "updated_at" entries).toMoment = .ok updatedAt)
      (numbered : Data.lookup "number" entries = some (.float x)) (unbounded : Decimal.finite? x = none)
      (signed : x.isNaN = false) : Unreported entries .infinite

/-- A fault that is not reported as one of an issue. -/
def Silent (x : Except Fault α) (fault : Fault) : Prop := x = .error fault ∧ fault.classOf ∉ issues.reported

theorem silent_bind_iff {β : Type} {x : Except Fault α} {f : α → Except Fault β} {fault : Fault} :
    Silent (x >>= f) fault ↔ Silent x fault ∨ ∃ a, x = .ok a ∧ Silent (f a) fault := by
  cases x with
  | error earlier => simp [Silent, bind, Except.bind]
  | ok a => simp [Silent, bind, Except.bind]

theorem not_silent_ok (a : α) (fault : Fault) : ¬Silent (.ok a) fault := by
  rintro ⟨fails, -⟩
  cases fails

theorem FaultsIn.not_silent {x : Except Fault α} (faults : FaultsIn issues.reported x) (fault : Fault) :
    ¬Silent x fault :=
  fun silent => silent.2 (faults fault silent.1)

theorem silent_toMoment_iff {value : Data} {fault : Fault} : Silent value.toMoment fault ↔
    isTimely value = false ∧ fault = .noMember value.kind "strip" := by
  have reads (s : String) : FaultsIn issues.reported (Data.text s).toMoment := by
    intro fault fails
    rw [Data.toMoment] at fails
    cases read : Time.timestamp s with
    | ok t =>
        rw [read] at fails
        cases fails
    | error problem =>
        rw [read] at fails
        cases fails
        exact (by decide : FaultClass.value ∈ issues.reported)
  have unread : FaultClass.member ∉ issues.reported := by decide
  cases value with
  | text s => simpa only [isTimely, Bool.true_eq_false, false_and, iff_false] using (reads s).not_silent fault
  | moment t =>
      simp only [isTimely, Bool.true_eq_false, false_and, iff_false]
      exact not_silent_ok t.assumeUniversal fault
  | _ =>
      simp only [Silent, Data.toMoment, isTimely, Except.error.injEq, true_and]
      constructor
      · rintro ⟨same, -⟩
        exact same.symm
      · rintro rfl
        exact ⟨rfl, unread⟩

theorem whole_faultsIn {value : Data} (other : ∀ x, value ≠ .float x) : FaultsIn issues.reported value.whole := by
  intro fault fails
  cases value with
  | float x => exact absurd rfl (other x)
  | text s =>
      rw [Data.whole] at fails
      cases read : Decimal.integer 10 s with
      | ok n =>
          rw [read] at fails
          cases fails
      | error problem =>
          rw [read] at fails
          cases fails
          exact (by decide : FaultClass.value ∈ issues.reported)
  | bool | int => cases fails
  | _ =>
      cases fails
      exact (by decide : FaultClass.kind ∈ issues.reported)

theorem silent_whole_float_iff {x : Float} {fault : Fault} : Silent (Data.float x).whole fault ↔
    Decimal.finite? x = none ∧ x.isNaN = false ∧ fault = .infinite := by
  have known : FaultClass.value ∈ issues.reported ∧ FaultClass.magnitude ∉ issues.reported := by decide
  rw [Data.whole]
  cases Decimal.finite? x with
  | some parts => simpa using not_silent_ok _ fault
  | none =>
      cases x.isNaN with
      | true =>
          simp only [Silent, if_true, Except.error.injEq, Bool.true_eq_false, false_and, and_false, iff_false]
          rintro ⟨rfl, silent⟩
          exact silent known.1
      | false =>
          simp only [Silent, Bool.false_eq_true, if_false, Except.error.injEq, true_and]
          constructor
          · rintro ⟨same, -⟩
            exact same.symm
          · rintro rfl
            exact ⟨rfl, known.2⟩

theorem silent_whole_iff {value : Data} {fault : Fault} : Silent value.whole fault ↔
    ∃ x, value = .float x ∧ Decimal.finite? x = none ∧ x.isNaN = false ∧ fault = .infinite := by
  by_cases number : ∃ x, value = .float x
  · obtain ⟨x, rfl⟩ := number
    simpa only [Data.float.injEq, exists_eq_left'] using silent_whole_float_iff
  · refine ⟨fun silent => ?_, fun ⟨x, same, _⟩ => absurd ⟨x, same⟩ number⟩
    exact absurd silent ((whole_faultsIn fun x same => number ⟨x, same⟩).not_silent fault)

theorem labelNames_faultsIn (raw : Data) : FaultsIn issues.reported raw.labelNames := by
  have items : FaultsIn issues.reported raw.items := by
    intro fault fails
    cases raw <;> cases fails <;> exact (by decide : FaultClass.kind ∈ issues.reported)
  rw [Data.labelNames]
  split
  · exact .bind items fun _ => .pure
  · exact .pure

theorem require_eq_ok_iff {key : String} {entries : List (Data × Data)} {value : Data} :
    (Data.map entries).require key = .ok value ↔ Data.lookup key entries = some value := by
  rw [Data.require]
  cases Data.lookup key entries <;> simp

/-- An issue fails without a report exactly in the three ways. -/
theorem silent_ofData_iff {raw : Data} {fault : Fault} : Silent (Issue.ofData raw) fault ↔
    ∃ entries, raw = .map entries ∧ Unreported entries fault := by
  have required (key : String) (raw : Data) : ¬Silent (raw.require key) fault :=
    FaultsIn.not_silent (.require (by decide) (by decide)) fault
  cases raw with
  | map entries =>
      simp only [Data.map.injEq, exists_eq_left']
      rw [Issue.ofData]
      -- the later time is read only where it is given
      by_cases present : (Data.field "updated_at" entries).truthy = true
      · simp only [silent_bind_iff, required, Data.ask, not_silent_ok, (labelNames_faultsIn _).not_silent, false_or,
          Except.ok.injEq, exists_eq_left', pure, Except.pure, silent_toMoment_iff, silent_whole_iff, exists_false,
          and_false, or_false, present, if_true, require_eq_ok_iff]
        constructor
        · rintro ⟨value, given, ⟨other, rfl⟩ | ⟨_, reads, ⟨other, rfl⟩ | ⟨_, touched, _, numbered, x, rfl, unbounded,
            signed, rfl⟩⟩⟩
          · exact .created given other
          · exact .touched given reads present other
          · exact .number given reads (fun _ => ⟨_, touched⟩) numbered unbounded signed
        · intro unreported
          cases unreported with
          | created given other => exact ⟨_, given, .inl ⟨other, rfl⟩⟩
          | touched given reads _ other => exact ⟨_, given, .inr ⟨_, reads, .inl ⟨other, rfl⟩⟩⟩
          | number given reads touched numbered unbounded signed =>
              obtain ⟨_, touched⟩ := touched present
              exact ⟨_, given, .inr ⟨_, reads, .inr ⟨_, touched, _, numbered, _, rfl, unbounded, signed, rfl⟩⟩⟩
      · simp only [silent_bind_iff, required, Data.ask, not_silent_ok, (labelNames_faultsIn _).not_silent, false_or,
          Except.ok.injEq, exists_eq_left', pure, Except.pure, silent_toMoment_iff, silent_whole_iff, exists_false,
          and_false, or_false, present, Bool.false_eq_true, if_false, require_eq_ok_iff]
        constructor
        · rintro ⟨value, given, ⟨other, rfl⟩ | ⟨_, reads, _, numbered, x, rfl, unbounded, signed, rfl⟩⟩
          · exact .created given other
          · exact .number given reads (fun touched => absurd touched present) numbered unbounded signed
        · intro unreported
          cases unreported with
          | created given other => exact ⟨_, given, .inl ⟨other, rfl⟩⟩
          | touched _ _ touched _ => exact absurd touched present
          | number given reads _ numbered unbounded signed =>
              exact ⟨_, given, .inr ⟨_, reads, _, numbered, _, rfl, unbounded, signed, rfl⟩⟩
  | _ =>
      simp only [reduceCtorEq, false_and, exists_false, iff_false]
      rintro ⟨fails, silent⟩
      cases fails
      exact silent (by decide : FaultClass.kind ∈ issues.reported)

/-! ## Loading -/

/-- A snapshot that is read is answered from its value alone, and nothing else is done. -/
theorem run_load {here : Surroundings} {s : Session} {text : String}
    (stored : (Job.readText path).run here s = (.ok text, s)) (decoded : decode text = .ok data) :
    (load kind path).run here s = (ofData kind path data, s) := by
  have bound : decode text >>= ofData kind path = ofData kind path data := by
    rw [decoded]
    rfl
  rw [load, Job.run_bind_of_ok stored, bound]
  cases ofData kind path data with
  | ok records => rfl
  | error halt => rfl

/-- Loading labels or columns gives a record for every entry or reports what is wrong. Loading issues does too,
unless the first entry that is no issue fails in one of three ways; then the bare fault is all that comes. -/
theorem load_answers {here : Surroundings} {s : Session} {text : String}
    (stored : (Job.readText path).run here s = (.ok text, s)) (decoded : decode text = .ok data) :
    (∃ answer, (load labels path).run here s = (answer, s) ∧ Reported labels path data answer) ∧
    (∃ answer, (load columns path).run here s = (answer, s) ∧ Reported columns path data answer) ∧
    ∃ answer, (load issues path).run here s = (answer, s) ∧
      (Reported issues path data answer ∨
        ∃ before entries after fault, entries? issues data = some (before ++ .map entries :: after) ∧
          (∀ other ∈ before, ∃ issue, Issue.ofData other = .ok issue) ∧ Unreported entries fault ∧
          answer = .error (.fault fault)) := by
  refine ⟨⟨_, run_load stored decoded, reported_of_faults labels_faultsIn⟩,
    ⟨_, run_load stored decoded, reported_of_faults columns_faultsIn⟩, _, run_load stored decoded, ?_⟩
  rcases reported_or_escaped issues path data with reported | escaped
  · exact .inl reported
  · generalize ofData issues path data = answer at escaped ⊢
    cases escaped with
    | escaped listed earlier fails silent =>
        obtain ⟨entries, rfl, unreported⟩ := silent_ofData_iff.1 ⟨fails, silent⟩
        exact .inr ⟨_, entries, _, _, listed, earlier, unreported, rfl⟩

/-- A program that starts at the root, without an environment. -/
def atRoot : Surroundings := ⟨[], .empty, default⟩

/-- The session before anything is done, with a text as the only file. -/
def holding (text : String) : Session :=
  .initial (FileTree.empty.put ["i.json"] (.file (Text.Utf8.encode text)))

theorem run_readText_holding {text : String} (plain : '\r' ∉ text.toList) :
    (Job.readText "i.json").run atRoot (holding text) = (.ok text, holding text) := by
  have located : (holding text).tree.locate atRoot.cwd "i.json" = .ok ["i.json"] := by rfl
  have kept : (holding text).tree.get? ["i.json"] = some (.file (Text.Utf8.encode text)) := by
    rw [holding, Session.initial, FileTree.get?_put _ _ _ _ (List.cons_ne_nil _ _), if_pos rfl]
  exact Job.run_readText (FileTree.find_eq_ok_iff.2 ⟨located, kept⟩) (Text.ofStored_encode plain)

/-- What the user is told in place of an answer. -/
def told? : Except Halt α → Option String
  | .error (.refused message) => some message
  | _ => none

/-- The bare fault that comes in place of an answer. -/
def bare? : Except Halt α → Option Fault
  | .error (.fault fault) => some fault
  | _ => none

theorem Reported.bare?_eq_none {answer : Except Halt (List α)} (reported : Reported kind path data answer) :
    bare? answer = none := by
  cases reported <;> rfl

/-- A snapshot of two issues, the second of which has no number. -/
def numberless : String :=
  "\x7b\"issues\": [\x7b\"number\": 1, \"created_at\": \"2024-01-01\"\x7d, \x7b\"created_at\": \"2024-01-02\"\x7d]\x7d"

theorem numberless_is_reported : ∃ data answer, decode numberless = .ok data ∧
    (load issues "i.json").run atRoot (holding numberless) = (answer, holding numberless) ∧
    Reported issues "i.json" data answer ∧
    told? answer = some "i.json: issue at index 1 is malformed ('number')" := by
  have plain : '\r' ∉ numberless.toList := by decide +kernel
  have stored := run_readText_holding plain
  have shown : told? (decode numberless >>= ofData issues "i.json") =
      some "i.json: issue at index 1 is malformed ('number')" := by
    decide +kernel
  obtain ⟨data, decoded⟩ : ∃ data, decode numberless = .ok data := exists_eq_ok_of_isOk (by decide +kernel)
  rw [decoded] at shown
  obtain ⟨-, -, answer, run, answered⟩ := load_answers stored decoded
  have same := (Prod.mk.inj (run.symm.trans (run_load stored decoded))).1
  have told : told? answer = some "i.json: issue at index 1 is malformed ('number')" := same ▸ shown
  refine ⟨data, answer, decoded, run, ?_, told⟩
  rcases answered with reported | ⟨_, _, _, _, -, -, -, escaped⟩
  · exact reported
  · rw [escaped] at told
    cases told

/-- A snapshot of one issue, the creation of which is a number. -/
def timeless : String := "[\x7b\"number\": 1, \"created_at\": 5\x7d]"

/-- Loading it comes to a bare fault, which is no answer that it should have. -/
theorem timeless_is_not_reported : ∃ data, decode timeless = .ok data ∧
    ¬∃ answer, (load issues "i.json").run atRoot (holding timeless) = (answer, holding timeless) ∧
      Reported issues "i.json" data answer := by
  have plain : '\r' ∉ timeless.toList := by decide +kernel
  have stored := run_readText_holding plain
  have shown : bare? (decode timeless >>= ofData issues "i.json") = some (.noMember "int" "strip") := by
    decide +kernel
  obtain ⟨data, decoded⟩ : ∃ data, decode timeless = .ok data := exists_eq_ok_of_isOk (by decide +kernel)
  rw [decoded] at shown
  refine ⟨data, decoded, ?_⟩
  rintro ⟨answer, run, reported⟩
  have same := (Prod.mk.inj (run.symm.trans (run_load stored decoded))).1
  have silent : bare? (ofData issues "i.json" data) = none := same ▸ reported.bare?_eq_none
  exact Option.some_ne_none _ (shown.symm.trans silent)

end Snapshot

end Triage
