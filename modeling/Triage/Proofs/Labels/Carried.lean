import Mathlib.Data.Prod.Lex
import Mathlib.Data.String.Basic
import Triage.Proofs.Labels
import Triage.Proofs.Order
import Triage.Sla

/-!
# The labels that an issue carries

Of the short names of a category, in the order of definition, an issue carries those whose full names are
among its labels. Every way of looking for labels of a category comes down to this list.
-/

namespace Triage

namespace Table

variable {α : Type}

theorem nodup_keys (t : Table α) : t.keys.Nodup := t.nodup

/-- The places of the keys rise. -/
theorem rising_position (t : Table α) : t.keys.Pairwise fun a b => t.position a < t.position b := by
  refine List.pairwise_iff_getElem.2 fun i j first second before => ?_
  rw [position, position, t.nodup_keys.idxOf_getElem, t.nodup_keys.idxOf_getElem]
  exact before

theorem position_lt_iff {t : Table α} {key : String} :
    t.position key < t.keys.length ↔ t.contains key = true := by
  rw [position, List.idxOf_lt_length_iff, contains, List.contains_iff_mem]

end Table

namespace Policy

/-- The short names of a category whose labels an issue carries, in the order of definition. -/
def carriedNames (p : Policy) (i : Issue) (c : Category) : List String :=
  (p.group c).names.filter fun short => decide (p.fullLabel c short ∈ i.labels)

/-- The labels of a category that an issue carries, in the order of definition. -/
def carried (p : Policy) (i : Issue) (c : Category) : List String :=
  (p.carriedNames i c).map (p.fullLabel c)

section

variable {p : Policy} {i : Issue} {c : Category}

theorem mem_carriedNames {short : String} :
    short ∈ p.carriedNames i c ↔ (p.group c).defines short = true ∧ p.fullLabel c short ∈ i.labels := by
  rw [carriedNames, List.mem_filter, decide_eq_true_iff, LabelGroup.defines, Table.contains,
    List.contains_iff_mem]
  rfl

theorem mem_carriedNames_iff_match {short : String} :
    short ∈ p.carriedNames i c ↔ ∃ label ∈ i.labels, p.matchLabel? c label = some short := by
  rw [mem_carriedNames]
  constructor
  · rintro ⟨defined, present⟩
    exact ⟨_, present, LabelGroup.match?_fullName defined⟩
  · rintro ⟨label, present, matched⟩
    obtain ⟨rfl, defined⟩ := LabelGroup.match?_eq_some_iff.1 matched
    exact ⟨defined, present⟩

theorem mem_carried {label : String} : label ∈ p.carried i c ↔
    label ∈ i.labels ∧ ∃ short, (p.group c).defines short = true ∧ p.fullLabel c short = label := by
  rw [carried, List.mem_map]
  constructor
  · rintro ⟨short, named, rfl⟩
    obtain ⟨defined, present⟩ := mem_carriedNames.1 named
    exact ⟨present, short, defined, rfl⟩
  · rintro ⟨present, short, defined, rfl⟩
    exact ⟨short, mem_carriedNames.2 ⟨defined, present⟩, rfl⟩

/-- Carried names stand in the order of definition. -/
theorem rising_carriedNames (p : Policy) (i : Issue) (c : Category) :
    (p.carriedNames i c).Pairwise fun a b => (p.group c).labels.position a < (p.group c).labels.position b :=
  ((p.group c).labels.rising_position).filter _

theorem nodup_carriedNames (p : Policy) (i : Issue) (c : Category) : (p.carriedNames i c).Nodup :=
  (p.group c).labels.nodup.filter _

theorem nodup_carried (p : Policy) (i : Issue) (c : Category) : (p.carried i c).Nodup :=
  (p.nodup_carriedNames i c).map (p.group c).fullName_injective

/-- The labels of a category on an issue are those that it carries, in the order of definition. -/
theorem categoryLabels_eq_carried (p : Policy) (i : Issue) (c : Category) :
    p.categoryLabels i c = p.carried i c := by
  have placed : (p.carriedNames i c).Pairwise fun a b =>
      toLex ((p.group c).labels.position a, p.fullLabel c a) <
        toLex ((p.group c).labels.position b, p.fullLabel c b) :=
    (p.rising_carriedNames i c).imp fun before => Prod.Lex.toLex_lt_toLex.2 (.inl before)
  have distinct : ((p.carriedNames i c).map fun short =>
      ((p.group c).labels.position short, p.fullLabel c short)).Nodup :=
    (p.nodup_carriedNames i c).map fun _ _ same =>
      (p.group c).fullName_injective (congrArg Prod.snd same)
  have unsorted := (List.mergeSort_perm _ _).nodup_iff.1 (p.nodup_categoryLabels i c).of_map
  rw [categoryLabels, Order.sort_eq_of_perm toLex toLex.injective ?_
    (List.pairwise_map.2 placed) ((List.perm_ext_iff_of_nodup unsorted distinct).2 ?_), List.map_map]
  · rfl
  · intro a b
    simp [Prod.Lex.toLex_lt_toLex]
  · rintro ⟨place, label⟩
    simp only [List.mem_filterMap, List.mem_map, Option.map_eq_some_iff, Prod.mk.injEq]
    constructor
    · rintro ⟨_, present, short, matched, rfl, rfl⟩
      obtain ⟨rfl, defined⟩ := LabelGroup.match?_eq_some_iff.1 matched
      exact ⟨short, mem_carriedNames.2 ⟨defined, present⟩, rfl, rfl⟩
    · rintro ⟨short, carried, rfl, rfl⟩
      obtain ⟨defined, present⟩ := mem_carriedNames.1 carried
      exact ⟨_, present, short, LabelGroup.match?_fullName defined, rfl, rfl⟩

/-- The head of the carried names is the one defined before all others. -/
theorem head?_carriedNames_eq_some_iff {short : String} :
    (p.carriedNames i c).head? = some short ↔ short ∈ p.carriedNames i c ∧
      ∀ other ∈ p.carriedNames i c, (p.group c).labels.position short ≤ (p.group c).labels.position other := by
  have least := Order.leastBy?_eq_head? (fun _ => Iff.rfl) (p.rising_carriedNames i c)
  rw [← least]
  refine ⟨Order.leastBy?_eq_some, ?_⟩
  rintro ⟨member, first⟩
  cases found : Order.leastBy? (p.group c).labels.position (p.carriedNames i c) with
  | none => simp [Order.leastBy?_eq_none_iff.1 found] at member
  | some other =>
      obtain ⟨among, below⟩ := Order.leastBy?_eq_some found
      have place := Nat.le_antisymm (below short member) (first other among)
      have defined : other ∈ (p.group c).labels.keys := List.mem_of_mem_filter among
      exact congrArg some ((List.idxOf_inj defined).1 place)

theorem head?_carried (p : Policy) (i : Issue) (c : Category) :
    (p.carried i c).head? = (p.carriedNames i c).head?.map (p.fullLabel c) := List.head?_map

theorem statusLabel?_eq_head? (p : Policy) (i : Issue) : p.statusLabel? i = (p.carried i .status).head? := by
  rw [statusLabel?, categoryLabels_eq_carried]

/-- The most urgent priority on an issue is the first that it carries. -/
theorem priorityOn?_eq_head? (p : Policy) (i : Issue) :
    p.priorityOn? i = ((p.carriedNames i .priority).map fun short => (short, p.fullLabel .priority short)).head? := by
  refine Order.leastBy?_eq_head? ?_ (List.pairwise_map.2 (p.rising_carriedNames i .priority))
  rintro ⟨short, label⟩
  simp only [priorityLabels, List.mem_filter, List.mem_filterMap, LabelSet.mem_sorted, Option.map_eq_some_iff,
    List.mem_map, Prod.mk.injEq]
  constructor
  · rintro ⟨⟨_, present, _, split, rfl, rfl⟩, defined⟩
    obtain rfl := LabelGroup.eq_fullName_of_split? split
    exact ⟨_, mem_carriedNames.2 ⟨defined, present⟩, rfl, rfl⟩
  · rintro ⟨_, carried, rfl, rfl⟩
    obtain ⟨defined, present⟩ := mem_carriedNames.1 carried
    exact ⟨⟨_, present, _, LabelGroup.split?_fullName defined, rfl, rfl⟩, defined⟩

/-- An issue has the first priority that it carries, or the fallback without a label. -/
theorem result_priorityLabel (p : Policy) (i : Issue) :
    (p.priorityLabel i).result =
      .ok ((p.carriedNames i .priority).headD fallbackPriority, (p.carried i .priority).head?) := by
  have first := p.priorityOn?_eq_head? i
  rw [priorityLabel, head?_carried]
  cases names : p.carriedNames i .priority with
  | nil =>
      rw [names] at first
      simp only [first, List.map_nil, List.head?_nil]
      split <;> rfl
  | cons short rest =>
      rw [names] at first
      simp [first]

end

end Policy

end Triage
