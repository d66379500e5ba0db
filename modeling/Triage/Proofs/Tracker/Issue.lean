import Triage.Proofs.Command.Snapshot
import Triage.Proofs.Escalation.Decisions
import Triage.Proofs.Inference.Best
import Triage.Proofs.Policy.Document
import Triage.Proofs.Sla.Standings

/-!
# Issues that were read

Number, labels and times of an issue are read, and the times get an offset. Title, body and state stay what they are in
the snapshot: texts, unless a value of another kind stands there and is not empty. Such a value comes to light only when
the issue is evaluated, and ends the evaluation. Where all three are texts an evaluation fails at most for a number that
is too large or too long.
-/

namespace Triage

open Snapshot (FaultsIn)

/-! ## What is read -/

namespace Data

/-- A text, or a value that counts as none, under a key: what may stand where a text is wanted. -/
def HasText (raw : Data) (key : String) : Prop :=
  ∀ value, raw.ask key = .ok value → value.truthy = true → ∃ s, value = .text s

theorem orElse_text_iff {raw value : Data} {key standard : String} (asked : raw.ask key = .ok value) :
    (∃ s, value.orElse (.text standard) = .text s) ↔ raw.HasText key := by
  have only : raw.HasText key ↔ (value.truthy = true → ∃ s, value = .text s) := by
    simp only [HasText, asked, Except.ok.injEq, forall_eq']
  rw [only, orElse]
  cases value.truthy <;> simp

/-- A moment that was read has an offset from universal time. -/
theorem isSome_offset_of_toMoment {value : Data} {t : Time.Moment} (read : value.toMoment = .ok t) :
    t.offset.isSome = true := by
  cases value with
  | text s =>
      rw [toMoment] at read
      cases parsed : Time.timestamp s with
      | error problem =>
          rw [parsed] at read
          cases read
      | ok moment =>
          rw [parsed] at read
          cases read
          obtain ⟨_, -, rfl⟩ := map_eq_ok_iff.1 parsed
          rfl
  | moment t' =>
      cases read
      rfl
  | _ => cases read

end Data

namespace Issue

/-- What an issue has from the value that it was read from. -/
structure From (raw : Data) (i : Issue) : Prop where
  createdAt : i.createdAt.offset.isSome = true
  updatedAt : i.updatedAt.offset.isSome = true
  title : (∃ s, i.title = .text s) ↔ raw.HasText "title"
  body : (∃ s, i.body = .text s) ↔ raw.HasText "body"
  state : (∃ s, i.state = .text s) ↔ raw.HasText "state"

theorem from_of_ofData {raw : Data} {i : Issue} (read : ofData raw = .ok i) : i.From raw := by
  simp only [ofData, bind_eq_ok_iff] at read
  obtain ⟨_, -, createdAt, created, touched, -, read⟩ := read
  have offset := Data.isSome_offset_of_toMoment created
  split at read
  · simp only [bind_eq_ok_iff] at read
    obtain ⟨updatedAt, updated, _, -, _, -, _, titled, _, written, _, -, _, -, _, stated, ⟨⟩⟩ := read
    exact ⟨offset, Data.isSome_offset_of_toMoment updated, Data.orElse_text_iff titled, Data.orElse_text_iff written,
      Data.orElse_text_iff stated⟩
  · simp only [bind_eq_ok_iff] at read
    obtain ⟨_, ⟨⟩, _, -, _, -, _, titled, _, written, _, -, _, -, _, stated, ⟨⟩⟩ := read
    exact ⟨offset, offset, Data.orElse_text_iff titled, Data.orElse_text_iff written, Data.orElse_text_iff stated⟩

/-- An issue is well typed where the value has texts, or nothing, for all three. -/
theorem From.wellTyped_iff {raw : Data} {i : Issue} (source : i.From raw) :
    i.WellTyped ↔ ∀ key ∈ ["title", "body", "state"], raw.HasText key := by
  simp only [List.forall_mem_cons, List.not_mem_nil, IsEmpty.forall_iff, implies_true, and_true, ← source.title,
    ← source.body, ← source.state]
  exact ⟨fun ⟨title, body, state⟩ => ⟨title, body, state⟩, fun ⟨title, body, state⟩ => ⟨title, body, state⟩⟩

/-- An issue can be asked whether it is open where its state is a text. -/
theorem exists_isOpen_iff {i : Issue} : (∃ b, i.isOpen = .ok b) ↔ ∃ s, i.state = .text s := by
  constructor
  · rintro ⟨b, asked⟩
    rw [isOpen] at asked
    split at asked
    · rename_i s state
      exact ⟨s, state⟩
    · cases asked
  · intro text
    exact ⟨_, isOpen_eq text⟩

end Issue

/-! ## Evaluations of texts -/

namespace Snapshot.FaultsIn

variable {α β : Type} {classes : List FaultClass}

theorem map {x : Except Fault α} {f : α → β} (faults : FaultsIn classes x) : FaultsIn classes (x.map f) := by
  intro fault fails
  cases x with
  | ok a => cases fails
  | error earlier =>
      cases fails
      exact faults fault rfl

theorem mapM {f : α → Except Fault β} {xs : List α} (each : ∀ x ∈ xs, FaultsIn classes (f x)) :
    FaultsIn classes (xs.mapM f) := by
  induction xs with
  | nil => exact .pure
  | cons x rest ih =>
      obtain ⟨here, later⟩ := List.forall_mem_cons.1 each
      rw [List.mapM_cons]
      exact here.bind fun _ => (ih later).bind fun _ => .pure

theorem filterMapM {f : α → Except Fault (Option β)} {xs : List α} (each : ∀ x ∈ xs, FaultsIn classes (f x)) :
    FaultsIn classes (xs.filterMapM f) := by
  induction xs with
  | nil => exact .pure
  | cons x rest ih =>
      obtain ⟨here, later⟩ := List.forall_mem_cons.1 each
      rw [List.filterMapM_cons]
      refine here.bind fun found => ?_
      cases found with
      | none => exact ih later
      | some y => exact (ih later).bind fun _ => .pure

end Snapshot.FaultsIn

section

variable {p : Policy} {override : Option Number} {labels : Option (List RemoteLabel)} {dryRun : Bool}
  {now : Time.Moment} {i : Issue} {issues : List Issue}

/-- An evaluation of issues with states fails at most for a number that is too large. -/
theorem Sla.evaluate_faultsIn (texts : ∀ i ∈ issues, ∃ s, i.state = .text s) :
    FaultsIn [.magnitude] (evaluate p override now issues : Run (List (Standing Float))).result := by
  rw [result_evaluate texts]
  refine (Snapshot.FaultsIn.mapM fun i _ => ?_).map
  intro fault fails
  unfold standingOf standing at fails
  dsimp only at fails
  split at fails
  · cases fails
    decide
  · cases fails

/-- Decisions about issues with states fail at most for a number that is too long to be written. -/
theorem Escalation.decide_faultsIn (hashable : ∀ label ∈ labels.getD [], label.name.unhashable = false)
    (texts : ∀ i ∈ issues, ∃ s, i.state = .text s) :
    FaultsIn [.value] (decide p labels dryRun now issues).result := by
  cases enabled : p.automation.escalation.enabled with
  | false =>
      rw [decide, decideWith, enabled]
      exact .pure
  | true =>
      rw [decide, result_decideWith enabled hashable]
      refine Snapshot.FaultsIn.filterMapM fun i member => ?_
      rw [outcome, Issue.isOpen_eq (texts i member)]
      cases Decidable.decide i.IsOpen with
      | false => exact .pure
      | true =>
          change FaultsIn _ (decide? ..).result
          rw [result_decide? (p.result_priorityLabel i)]
          refine Snapshot.FaultsIn.map fun fault fails => ?_
          obtain ⟨rfl, -⟩ := target?_eq_error fails
          decide

/-- The times of an issue that was read have offsets. Where the values that issues were read from have texts, or
nothing, for title and body, there are suggestions for each issue; where they have them for the state, every issue can
be asked whether it is open, and evaluations fail at most for a number that is too large or too long. -/
theorem Issue.texts_are_evaluated {raws : List Data}
    (read : List.Forall₂ (fun raw i => Issue.ofData raw = .ok i) raws issues)
    (hashable : ∀ label ∈ labels.getD [], label.name.unhashable = false) (p : Policy) (override : Option Number)
    (dryRun : Bool) (now : Time.Moment) :
    List.Forall₂ Issue.From raws issues ∧
    ((∀ raw ∈ raws, raw.HasText "title" ∧ raw.HasText "body") →
      ∀ i ∈ issues, ∃ suggestions, (Inference.infer p i).result = .ok suggestions) ∧
    ((∀ raw ∈ raws, raw.HasText "state") →
      (∀ i ∈ issues, ∃ b, i.isOpen = .ok b) ∧
      FaultsIn [.magnitude] (Sla.evaluate p override now issues : Run (List (Standing Float))).result ∧
      FaultsIn [.value] (Escalation.decide p labels dryRun now issues).result) := by
  have taken : List.Forall₂ Issue.From raws issues := read.imp fun _ _ => Issue.from_of_ofData
  refine ⟨taken, fun spoken i member => ?_, fun stated => ?_⟩
  · obtain ⟨raw, among, source⟩ := exists_of_forall₂ taken member
    obtain ⟨title, titled⟩ := source.title.2 (spoken raw among).1
    obtain ⟨body, written⟩ := source.body.2 (spoken raw among).2
    exact ⟨_, Inference.result_inferWith titled written Pattern.found p⟩
  · have texts : ∀ i ∈ issues, ∃ s, i.state = .text s := by
      intro i member
      obtain ⟨raw, among, source⟩ := exists_of_forall₂ taken member
      exact source.state.2 (stated raw among)
    exact ⟨fun i member => Issue.exists_isOpen_iff.2 (texts i member), Sla.evaluate_faultsIn texts,
      Escalation.decide_faultsIn hashable texts⟩

end

/-! ## Two values -/

/-- An issue as a tracker writes it, without a body. -/
def plainIssue : Data := .record [
  ("number", .text "17"), ("title", .text "Crash on save"), ("body", .null),
  ("labels", .list [.record [("name", .text "type/bug")], .text "priority/P1"]),
  ("created_at", .text "2026-03-01T00:00:00Z"), ("state", .text "open")]

theorem plainIssue_hasText : ∀ key ∈ ["title", "body", "state"], plainIssue.HasText key := by
  intro key asked
  rintro _ ⟨⟩ truthy
  simp only [List.mem_cons, List.not_mem_nil, or_false] at asked
  rcases asked with rfl | rfl | rfl
  · exact ⟨_, rfl⟩
  · cases truthy
  · exact ⟨_, rfl⟩

theorem plainIssue_is_evaluated : ∃ i, Issue.ofData plainIssue = .ok i ∧ i.From plainIssue ∧ i.WellTyped ∧
    (∃ suggestions, (Inference.infer Sla.newProject i).result = .ok suggestions) ∧ (∃ b, i.isOpen = .ok b) ∧
    FaultsIn [.magnitude]
      (Sla.evaluate Sla.newProject none Sla.noonOfTheTwentieth [i] : Run (List (Standing Float))).result ∧
    FaultsIn [.value] (Escalation.decide Sla.newProject none true Sla.noonOfTheTwentieth [i]).result := by
  obtain ⟨i, read⟩ : ∃ i, Issue.ofData plainIssue = .ok i := exists_eq_ok_of_isOk (by decide +kernel)
  have hashable : ∀ label ∈ (none : Option (List RemoteLabel)).getD [], label.name.unhashable = false := by simp
  obtain ⟨taken, inferred, evaluated⟩ := Issue.texts_are_evaluated (.cons read .nil) hashable Sla.newProject none
    true Sla.noonOfTheTwentieth
  simp only [List.forall₂_cons, List.forall₂_nil_right_iff, and_true] at taken
  simp only [List.forall_mem_singleton] at inferred evaluated
  have texts := plainIssue_hasText
  obtain ⟨isOpen, stood, decided⟩ := evaluated (texts "state" (by simp))
  exact ⟨i, read, taken, taken.wellTyped_iff.2 texts, inferred ⟨texts "title" (by simp), texts "body" (by simp)⟩,
    isOpen, stood, decided⟩

/-- A value with numbers for the title and the state. -/
def misstated : Data := .record [
  ("number", .int 1), ("title", .int 5), ("created_at", .text "2026-03-01T00:00:00Z"), ("state", .int 5)]

/-- The issue that it is read as. -/
def misstatedIssue : Issue :=
  let opened : Time.Moment := ⟨⟨2026, 3, 1⟩, 0, 0, 0, 0, some 0⟩
  ⟨1, .int 5, .text "", .empty, opened, opened, .int 5⟩

/-- It is read as an issue, and each evaluation of that issue asks a number for what only a text has. -/
theorem misstated_is_not_evaluated : ∃ i fault fault', Issue.ofData misstated = .ok i ∧ ¬ i.WellTyped ∧
    fault.classOf = .member ∧ fault'.classOf = .member ∧
    (Inference.infer Sla.newProject i).result = .error fault ∧ i.isOpen = .error fault' ∧
    (Sla.evaluate Sla.newProject none Sla.noonOfTheTwentieth [i] : Run (List (Standing Float))).result = .error fault' ∧
    (Escalation.decide Sla.newProject none true Sla.noonOfTheTwentieth [i]).result = .error fault' := by
  have opened : Time.timestamp "2026-03-01T00:00:00Z" = .ok ⟨⟨2026, 3, 1⟩, 0, 0, 0, 0, some 0⟩ :=
    by decide +kernel
  have read : Issue.ofData misstated = .ok misstatedIssue := by
    change ((Time.timestamp "2026-03-01T00:00:00Z").mapError Fault.moment >>= _) = _
    rw [opened]
    rfl
  refine ⟨misstatedIssue, .noMember "int" "strip", .noMember "int" "lower", read, ?_, rfl, rfl, rfl, rfl, rfl, rfl⟩
  rintro ⟨⟨_, ⟨⟩⟩, -, -⟩

end Triage
