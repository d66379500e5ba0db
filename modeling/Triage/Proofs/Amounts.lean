import Triage.Proofs.Decimal.Order
import Triage.Proofs.Policy.Document
import Triage.Settings

/-!
# Amounts

Weights and hours are accepted if they are not zero or less. So they are positive, unless the document or the settings
have a value that is no number in their place: that one is accepted as well.
-/

namespace Triage

/-! ## Numbers that are not zero or less -/

/-- Only a value that is no number is neither positive nor zero or less. -/
theorem Decimal.pos_iff_not_isNaN {x : Float} (above : ¬ x ≤ 0) : 0 < x ↔ ¬ x.isNaN = true := by
  have zero : (0 : Float).toModel.unpack = .zero .positive := by rfl
  rw [le_iff_unpack, zero] at above
  rw [lt_iff_unpack, zero]
  change _ ↔ ¬ x.toModel.unpack.isNaN = true
  cases given : x.toModel.unpack with
  | notANumber => exact iff_of_false (by decide) (not_not.2 rfl)
  | infinity s =>
      rw [given] at above
      cases s with
      | negative => exact absurd rfl above
      | positive => exact iff_of_true rfl Bool.false_ne_true
  | zero s =>
      rw [given] at above
      exact absurd rfl above
  | finite s m e positive =>
      rw [given] at above
      cases s with
      | negative => exact absurd rfl above
      | positive => exact iff_of_true rfl Bool.false_ne_true

theorem Decimal.isFinite_of_ofInt? {m : ℕ} {x : Float} (near : ofInt? m = some x) : x.isFinite = true := by
  unfold ofInt? at near
  simp only [Int.natAbs_natCast, Int.natCast_nonneg, not_lt.2, if_false] at near
  split at near
  · cases near
  · split at near
    · rename_i finite
      cases near
      exact finite
    · cases near

/-- A number that is greater than zero. -/
def Number.Positive : Number → Prop
  | .int n => 0 < n
  | .float x => 0 < x

/-- A value that is no number. -/
def Number.IsNaN : Number → Prop
  | .int _ => False
  | .float x => x.isNaN = true

/-- A value of a document that is no number, although it stands for one. -/
def Data.IsNaN (value : Data) : Prop := ∃ x : Float, value = .float x ∧ x.isNaN = true

/-- What is accepted as an amount for a value of a document: a positive number, unless the value is no number. -/
structure Number.AcceptedFor (value : Data) (n : Number) : Prop where
  positive : n.Positive ↔ ¬ value.IsNaN
  isNaN : n.IsNaN ↔ value.IsNaN

variable {value : Data} {n : Number} {x : Float}

theorem Number.acceptedFor_float (above : ¬ x ≤ 0) : (Number.float x).AcceptedFor (.float x) := by
  have here : Data.IsNaN (.float x) ↔ x.isNaN = true := by
    constructor
    · rintro ⟨_, ⟨⟩, isNaN⟩
      exact isNaN
    · intro isNaN
      exact ⟨x, rfl, isNaN⟩
  constructor
  · rw [here]
    exact Decimal.pos_iff_not_isNaN above
  · exact here.symm

/-- A number whose value in the document is a whole one. -/
theorem Number.acceptedFor_int {k : ℤ} (positive : n.Positive) (isNumber : ¬ n.IsNaN) : n.AcceptedFor (.int k) := by
  have whole : ¬ Data.IsNaN (.int k) := by
    rintro ⟨_, ⟨⟩, -⟩
  exact ⟨iff_of_true positive whole, iff_of_false isNumber whole⟩

theorem weight?_cases (weighs : value.weight? = some n) :
    (∃ k : ℤ, value = .int k ∧ n = .int k ∧ 0 < k) ∨ ∃ x : Float, value = .float x ∧ n = .float x ∧ ¬ x ≤ 0 := by
  obtain ⟨measured, positive⟩ := Option.filter_eq_some_iff.1 weighs
  cases value with
  | int k =>
      cases measured
      exact .inl ⟨k, rfl, rfl, by simpa [Number.nonpositive] using positive⟩
  | float x =>
      cases measured
      exact .inr ⟨x, rfl, rfl, by simpa [Number.nonpositive] using positive⟩
  | _ => cases measured

theorem acceptedFor_of_weight? (weighs : value.weight? = some n) : n.AcceptedFor value := by
  rcases weight?_cases weighs with ⟨k, rfl, rfl, positive⟩ | ⟨x, rfl, rfl, above⟩
  · exact Number.acceptedFor_int positive id
  · exact Number.acceptedFor_float above

/-- The binary64 number nearest to an amount is accepted like the amount itself. -/
theorem acceptedFor_of_toFloat? (weighs : value.weight? = some n) (near : n.toFloat? = some x) :
    (Number.float x).AcceptedFor value := by
  rcases weight?_cases weighs with ⟨k, rfl, rfl, positive⟩ | ⟨y, rfl, rfl, above⟩
  · obtain ⟨m, rfl⟩ := Int.eq_ofNat_of_zero_le positive.le
    have above : ¬ x ≤ 0 := Decimal.positive_of_ofInt? (by exact_mod_cast positive) near
    have number : ¬ x.isNaN = true := by
      rw [(Decimal.ordinary_of_isFinite (Decimal.isFinite_of_ofInt? near)).1]
      exact Bool.false_ne_true
    exact Number.acceptedFor_int ((Decimal.pos_iff_not_isNaN above).2 number) number
  · cases near
    exact Number.acceptedFor_float above

/-! ## Policies -/

/-- The weights and the hours of a policy are accepted for values of its document, and those of its labels are
positive. -/
structure Policy.AmountsFrom (document : Data) (p : Policy) : Prop where
  weights : ∀ tables ∈ p.automation.inference.overrides, ∀ table ∈ tables.entries, ∀ row ∈ table.2.entries,
    ∃ entry ∈ (document.inside ["automation", "label_inference", "triggers"]).entries, entry.1 = .text table.1 ∧
      ∃ lists ∈ entry.2.entries, lists.1.display = row.1 ∧ ∃ items, lists.2 = .list items ∧
        List.Forall₂ (fun item t => (Number.float t.weight).AcceptedFor (item.inside ["weight"])) items row.2
  sla : ∀ row ∈ p.automation.blocked.sla.entries,
    ∃ entry ∈ (document.inside ["automation", "blocked_detection", "sla"]).entries,
      entry.1.display = row.1 ∧ row.2.AcceptedFor entry.2
  hours : ∀ label ∈ p.labels.priority.labels.entries, ∀ hours ∈ label.2.slaHours, 0 < hours

theorem Trigger.From.accepted {item : Data} {t : Trigger} (source : t.From item) :
    (Number.float t.weight).AcceptedFor (item.inside ["weight"]) := by
  obtain ⟨weight, weighs, near⟩ := source.weight
  exact acceptedFor_of_toFloat? weighs near

theorem Policy.amountsFrom_of_ofData {document : Data} {p : Policy} (read : (ofData document).result = .ok p) :
    p.AmountsFrom document where
  weights tables given table member row among := by
    obtain ⟨entry, present, named, lists⟩ :=
      triggers_of_automationFrom (automation_of_ofData read) tables given table member
    obtain ⟨line, there, short, items, listed, triggers⟩ := lists row among
    exact ⟨entry, present, named, line, there, short, items, listed, triggers.imp fun _ _ => Trigger.From.accepted⟩
  sla row member := by
    obtain ⟨rows, taken, whole⟩ := (automation_of_ofData read).sla
    rw [whole] at member
    obtain ⟨entry, present, short, weighs⟩ := exists_of_forall₂ taken (Table.mem_ofList member)
    exact ⟨entry, present, short, acceptedFor_of_weight? weighs⟩
  hours label member hours given :=
    (((wellFormed_of_ofData read).labels .priority label member).2.sla hours given).2

/-! ## Settings -/

namespace Settings

variable {source : String} {values : Table String} {settings : Settings} {hours : Float}

/-- The text that settings have for the hours of all priorities. -/
def writtenThreshold (values : Table String) : String := valueOf values "SLA_THRESHOLD_HOURS"

theorem readThreshold_ensures (values : Table String) : (readThreshold values).Ensures fun found =>
    ∀ hours ∈ found, Decimal.float? (writtenThreshold values) = some hours ∧ ¬ hours ≤ 0 := by
  unfold readThreshold
  dsimp only
  split
  · exact .pure (by simp)
  · split
    · exact .flawed
    · rename_i hours written
      split
      · exact .flawed
      · rename_i above
        refine .pure ?_
        rintro _ ⟨rfl⟩
        exact ⟨written, above⟩

theorem ofTable_ensures (values : Table String) : (ofTable values).Ensures fun settings =>
    ∀ hours ∈ settings.threshold, Decimal.float? (writtenThreshold values) = some hours ∧ ¬ hours ≤ 0 :=
  .skip fun _ => .bind (readThreshold_ensures values) fun _ known => .skip fun _ => .skip fun _ => .pure known

theorem threshold_of_ofSource (loaded : ofSource source values = .ok settings) (given : hours ∈ settings.threshold) :
    Decimal.float? (writtenThreshold values) = some hours ∧ (0 < hours ↔ ¬ hours.isNaN = true) := by
  rw [ofSource] at loaded
  split at loaded
  · rename_i sound
    obtain rfl := Except.ok.inj loaded
    obtain ⟨written, above⟩ := ofTable_ensures values (List.isEmpty_iff.1 sound) hours given
    exact ⟨written, Decimal.pos_iff_not_isNaN above⟩
  · cases loaded

end Settings

/-! ## All amounts -/

/-- All amounts that are accepted are positive, unless a value that is no number stands in the document of the policy
or in the settings. -/
theorem amounts_accepted (document : Data) (source : String) (values : Table String) :
    (∀ p, (Policy.ofData document).result = .ok p → p.AmountsFrom document) ∧
    ∀ settings, Settings.ofSource source values = .ok settings → ∀ hours ∈ settings.threshold,
      Decimal.float? (Settings.writtenThreshold values) = some hours ∧ (0 < hours ↔ ¬ hours.isNaN = true) :=
  ⟨fun _ read => Policy.amountsFrom_of_ofData read, fun _ loaded _ given => Settings.threshold_of_ofSource loaded given⟩

theorem stocked_amounts_accepted : (∃ p, (Policy.ofData Policy.stocked).result = .ok p ∧
      p.AmountsFrom Policy.stocked) ∧
    ∃ settings, Settings.ofSource "environment" (.ofList [("SLA_THRESHOLD_HOURS", "2.5")]) = .ok settings ∧
      settings.threshold = some 2.5 ∧ Decimal.float? "2.5" = some 2.5 ∧ (0 < 2.5 ↔ ¬ (2.5 : Float).isNaN = true) := by
  obtain ⟨p, read⟩ := Policy.stocked_is_read
  have hours : (Settings.ofSource "environment" (.ofList [("SLA_THRESHOLD_HOURS", "2.5")])).map Settings.threshold =
      .ok (some 2.5) := by decide +kernel
  obtain ⟨settings, loaded, given⟩ := map_eq_ok_iff.1 hours
  obtain ⟨taken, set⟩ := amounts_accepted Policy.stocked "environment" (.ofList [("SLA_THRESHOLD_HOURS", "2.5")])
  exact ⟨⟨p, read, taken p read⟩, settings, loaded, given, set settings loaded 2.5 given⟩

/-- A document with a weight and hours that are no numbers. -/
def unsettled : Data := .record [
  ("project", .record [("type", .text "backend")]),
  ("labels", .record [("type", .record [("bug", .record [("color", .text "d73a4a")])])]),
  ("automation", .record [
    ("label_inference", .record [("triggers", .record [("type", .record [("bug", .list [
      .record [("pattern", .text "crash"), ("weight", .float (0 / 0))]])])])]),
    ("blocked_detection", .record [("sla", .record [("P0", .float (0 / 0))])])])]

/-- They are accepted, as they are in the settings, and do not compare with zero. -/
theorem unsettled_is_accepted :
    (∃ p, (Policy.ofData unsettled).result = .ok p ∧
      (∃ tables ∈ p.automation.inference.overrides, ∃ table ∈ tables.entries, ∃ row ∈ table.2.entries,
        ∃ t ∈ row.2, ¬ 0 < t.weight) ∧
      ∃ row ∈ p.automation.blocked.sla.entries, ¬ row.2.Positive) ∧
    ∃ settings, Settings.ofSource "environment" (.ofList [("SLA_THRESHOLD_HOURS", "nan")]) = .ok settings ∧
      ∃ hours ∈ settings.threshold, ¬ 0 < hours := by
  have taken : (Policy.ofData unsettled).result.map
        (fun p => (p.automation.inference.overrides, p.automation.blocked.sla)) =
      .ok (some (.ofList [("type", .ofList [("bug", [⟨"crash", 0 / 0, none⟩])])]),
        .ofList [("P0", .float (0 / 0))]) := by
    decide +kernel
  have hours : (Settings.ofSource "environment" (.ofList [("SLA_THRESHOLD_HOURS", "nan")])).map Settings.threshold =
      .ok (some (0 / 0)) := by decide +kernel
  have incomparable : ¬ (0 : Float) < 0 / 0 := by decide +kernel
  constructor
  · obtain ⟨p, read, parts⟩ := map_eq_ok_iff.1 taken
    obtain ⟨overrides, sla⟩ := Prod.mk.inj parts
    refine ⟨p, read, ⟨_, overrides, _, List.mem_singleton_self _, _, List.mem_singleton_self _, _,
      List.mem_singleton_self _, incomparable⟩, ?_⟩
    rw [sla]
    exact ⟨_, List.mem_singleton_self _, incomparable⟩
  · obtain ⟨settings, loaded, set⟩ := map_eq_ok_iff.1 hours
    exact ⟨settings, loaded, _, set, incomparable⟩

end Triage
