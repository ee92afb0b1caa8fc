import Mathlib.Data.List.Chain
import HHModbus.SensorGroup

/-!
# Clusters of overlapping sensors

What `cluster_sensors_by_contiguous_registers` makes of sensors whose registers may overlap.
-/
namespace HHModbus

open Ranges

/-- The sensor's registers are all those from one to another. -/
def BaseSensor.Spanning (s : BaseSensor) : Prop := ∃ lo hi, Spans s.registrars lo hi

theorem BaseSensor.Spanning.spans {s : BaseSensor} (spanning : s.Spanning) :
    Spans s.registrars s.minRegister s.maxRegister := by
  obtain ⟨lo, hi, spans⟩ := spanning
  have low : s.minRegister = lo := spans.min_eq s.registrars_ne
  have high : s.maxRegister = hi := spans.max_eq s.registrars_ne
  rw [low, high]
  exact spans

theorem mem_registersOf {sensors : List BaseSensor} {r : Nat} :
    r ∈ registersOf sensors ↔ ∃ s ∈ sensors, r ∈ s.registrars := List.mem_flatMap

/-- Some register lies between the clusters, and none of the sensors has it. -/
def GapBetween (sensors c d : List BaseSensor) : Prop :=
  ∃ r, (∀ q ∈ registersOf c, q < r) ∧ (∀ q ∈ registersOf d, r < q) ∧ r ∉ registersOf sensors

/-- What the loop knows of the cluster it works on and of the sensors that it has not seen. -/
structure Sweep (sensors current : List BaseSensor) (lo curHi : Nat) (rest : List BaseSensor) :
    Prop where
  covered : Spans (registersOf current) lo curHi
  spanning : ∀ s ∈ rest, s.Spanning
  sorted : rest.Pairwise fun a b => a.minRegister ≤ b.minRegister
  above : ∀ s ∈ rest, lo ≤ s.minRegister
  /-- The running maximum is above all registers seen so far. -/
  seen : ∀ q ∈ registersOf sensors, q ≤ curHi ∨ q ∈ registersOf rest

namespace Sweep

variable {sensors current : List BaseSensor} {lo curHi : Nat} {s : BaseSensor}
  {rest : List BaseSensor}

/-- A sensor that touches the cluster joins it. -/
theorem join (sweep : Sweep sensors current lo curHi (s :: rest)) (near : s.minRegister ≤ curHi + 1) :
    Sweep sensors (current ++ [s]) lo (max curHi s.maxRegister) rest where
  covered := by
    rw [registersOf_append, registersOf_singleton]
    have own := (sweep.spanning s List.mem_cons_self).spans
    exact sweep.covered.append own (sweep.above s List.mem_cons_self) near
  spanning t member := sweep.spanning t (List.mem_cons_of_mem s member)
  sorted := (List.pairwise_cons.mp sweep.sorted).2
  above t member := sweep.above t (List.mem_cons_of_mem s member)
  seen := by
    intro q known
    have own := (sweep.spanning s List.mem_cons_self).spans
    rcases sweep.seen q known with old | later
    · exact .inl (old.trans (Nat.le_max_left ..))
    · obtain ⟨t, member, inside⟩ := mem_registersOf.mp later
      rcases List.mem_cons.mp member with rfl | behind
      · exact .inl (((own q).mp inside).2.trans (Nat.le_max_right ..))
      · exact .inr (mem_registersOf.mpr ⟨t, behind, inside⟩)

/-- A sensor behind a gap starts a cluster of its own. -/
theorem restart (sweep : Sweep sensors current lo curHi (s :: rest)) (far : curHi + 1 < s.minRegister) :
    Sweep sensors [s] s.minRegister s.maxRegister rest where
  covered := by
    rw [registersOf_singleton]
    exact (sweep.spanning s List.mem_cons_self).spans
  spanning t member := sweep.spanning t (List.mem_cons_of_mem s member)
  sorted := (List.pairwise_cons.mp sweep.sorted).2
  above := (List.pairwise_cons.mp sweep.sorted).1
  seen := by
    intro q known
    have own := (sweep.spanning s List.mem_cons_self).spans
    rcases sweep.seen q known with old | later
    · have order := own.le s.registrars_ne
      exact .inl (by omega)
    · obtain ⟨t, member, inside⟩ := mem_registersOf.mp later
      rcases List.mem_cons.mp member with rfl | behind
      · exact .inl ((own q).mp inside).2
      · exact .inr (mem_registersOf.mpr ⟨t, behind, inside⟩)

/-- Everything that has not been seen lies behind the gap. -/
theorem behind (sweep : Sweep sensors current lo curHi (s :: rest)) {q : Nat}
    (member : q ∈ registersOf (s :: rest)) : s.minRegister ≤ q := by
  obtain ⟨t, here, inside⟩ := mem_registersOf.mp member
  have low := (((sweep.spanning t here).spans q).mp inside).1
  rcases List.mem_cons.mp here with rfl | later
  · exact low
  · exact ((List.pairwise_cons.mp sweep.sorted).1 t later).trans low

end Sweep

theorem clusterLoop_spans {sensors current : List BaseSensor} {lo curHi : Nat}
    {rest : List BaseSensor} (sweep : Sweep sensors current lo curHi rest) :
    ∀ c ∈ clusterLoop current curHi rest, ∃ lo hi, Spans (registersOf c) lo hi := by
  induction rest generalizing current lo curHi with
  | nil =>
    intro c member
    rw [List.mem_singleton.mp member]
    exact ⟨lo, curHi, sweep.covered⟩
  | cons s rest ih =>
    simp only [clusterLoop]
    split
    next near => exact ih (sweep.join near)
    next far =>
      intro c member
      rcases List.mem_cons.mp member with rfl | member
      · exact ⟨lo, curHi, sweep.covered⟩
      · exact ih (sweep.restart (Nat.not_le.mp far)) c member

theorem clusterLoop_apart {sensors current : List BaseSensor} {lo curHi : Nat}
    {rest : List BaseSensor} (sweep : Sweep sensors current lo curHi rest) :
    (clusterLoop current curHi rest).IsChain (GapBetween sensors) := by
  induction rest generalizing current lo curHi with
  | nil => exact .singleton _
  | cons s rest ih =>
    simp only [clusterLoop]
    split
    next near => exact ih (sweep.join near)
    next far =>
      have gap := Nat.not_le.mp far
      refine List.isChain_cons.mpr ⟨fun d next => ?_, ih (sweep.restart gap)⟩
      -- The register right behind the closed cluster separates it from all that follows.
      refine ⟨curHi + 1, fun q member => ?_, fun q member => ?_, fun known => ?_⟩
      · have inside := ((sweep.covered q).mp member).2
        omega
      · have flat : q ∈ registersOf (clusterLoop [s] s.maxRegister rest).flatten := by
          obtain ⟨t, here, inside⟩ := mem_registersOf.mp member
          exact mem_registersOf.mpr
            ⟨t, List.mem_flatten.mpr ⟨d, List.mem_of_head? next, here⟩, inside⟩
        rw [clusterLoop_flatten, List.singleton_append] at flat
        have low := sweep.behind flat
        omega
      · rcases sweep.seen _ known with old | later
        · omega
        · have low := sweep.behind later
          omega

/-! ### The whole clustering -/

/-- The enabled sensors in the order of the sweep. -/
def sortedSensors (enabled : Nat → Bool) (sensors : List BaseSensor) : List BaseSensor :=
  (sensors.filter fun s => enabled s.id).insertionSort fun a b => a.minRegister ≤ b.minRegister

theorem sortedSensors_perm (enabled : Nat → Bool) (sensors : List BaseSensor) :
    (sortedSensors enabled sensors).Perm (sensors.filter fun s => enabled s.id) :=
  List.perm_insertionSort ..

theorem sortedSensors_pairwise (enabled : Nat → Bool) (sensors : List BaseSensor) :
    (sortedSensors enabled sensors).Pairwise fun a b => a.minRegister ≤ b.minRegister :=
  List.pairwise_insertionSort ..

theorem clusterSensors_cases (enabled : Nat → Bool) (sensors : List BaseSensor) :
    (sortedSensors enabled sensors = [] ∧ clusterSensors enabled sensors = []) ∨
      ∃ first rest, sortedSensors enabled sensors = first :: rest ∧
        clusterSensors enabled sensors = clusterLoop [first] first.maxRegister rest := by
  unfold clusterSensors
  dsimp only
  split
  next empty => exact .inl ⟨empty, rfl⟩
  next first rest order => exact .inr ⟨first, rest, order, rfl⟩

theorem clusterSensors_flatten (enabled : Nat → Bool) (sensors : List BaseSensor) :
    (clusterSensors enabled sensors).flatten = sortedSensors enabled sensors := by
  rcases clusterSensors_cases enabled sensors with ⟨empty, clusters⟩ | ⟨first, rest, order, clusters⟩
  · rw [clusters, empty, List.flatten_nil]
  · rw [clusters, order, clusterLoop_flatten, List.singleton_append]

/-- The sweep begins with a cluster of the first sensor alone. -/
theorem sweep_start {enabled : Nat → Bool} {sensors : List BaseSensor} {first : BaseSensor}
    {rest : List BaseSensor} (order : sortedSensors enabled sensors = first :: rest)
    (spanning : ∀ s ∈ sensors, s.Spanning) :
    Sweep (sensors.filter fun s => enabled s.id) [first] first.minRegister first.maxRegister rest := by
  have perm := order ▸ sortedSensors_perm enabled sensors
  have sorted := order ▸ sortedSensors_pairwise enabled sensors
  have known (s : BaseSensor) (member : s ∈ first :: rest) : s.Spanning :=
    spanning s (List.mem_filter.mp (perm.mem_iff.mp member)).1
  have own := (known first List.mem_cons_self).spans
  refine ⟨?_, fun s member => known s (List.mem_cons_of_mem first member),
    (List.pairwise_cons.mp sorted).2, (List.pairwise_cons.mp sorted).1, fun q member => ?_⟩
  · rw [registersOf_singleton]
    exact own
  · obtain ⟨s, here, inside⟩ := mem_registersOf.mp member
    rcases List.mem_cons.mp (perm.mem_iff.mpr here) with rfl | later
    · exact .inl ((own q).mp inside).2
    · exact .inr (mem_registersOf.mpr ⟨s, later, inside⟩)

/-- The clusters of sensors on ranges partition the enabled sensors in the order of their first
registers. Each covers a range, and each is as large as it can be: a register that no enabled sensor
has lies between it and the next. -/
theorem clusterSensors_partition (enabled : Nat → Bool) (sensors : List BaseSensor)
    (spanning : ∀ s ∈ sensors, s.Spanning) :
    (clusterSensors enabled sensors).flatten.Perm (sensors.filter fun s => enabled s.id) ∧
      (clusterSensors enabled sensors).flatten.Pairwise
        (fun a b => a.minRegister ≤ b.minRegister) ∧
      (∀ c ∈ clusterSensors enabled sensors, c ≠ [] ∧ ∃ lo hi, Spans (registersOf c) lo hi) ∧
      (clusterSensors enabled sensors).IsChain
        (GapBetween (sensors.filter fun s => enabled s.id)) := by
  refine ⟨clusterSensors_perm enabled sensors, ?_, fun c member => ⟨?_, ?_⟩, ?_⟩
  · rw [clusterSensors_flatten]
    exact sortedSensors_pairwise enabled sensors
  · exact clusterSensors_ne_nil enabled sensors c member
  · rcases clusterSensors_cases enabled sensors with ⟨-, clusters⟩ | ⟨first, rest, order, clusters⟩
    · rw [clusters] at member
      cases member
    · rw [clusters] at member
      exact clusterLoop_spans (sweep_start order spanning) c member
  · rcases clusterSensors_cases enabled sensors with ⟨-, clusters⟩ | ⟨first, rest, order, clusters⟩
    · rw [clusters]
      exact .nil
    · rw [clusters]
      exact clusterLoop_apart (sweep_start order spanning)

/-- A long sensor with one inside it, one behind a gap, and a disabled one that would close it. -/
def overlappingSensors : List BaseSensor := [
  { id := 1, registrars := [1106, 1107], registrars_ne := List.cons_ne_nil _ _ },
  { id := 2, registrars := [1100, 1101, 1102, 1103], registrars_ne := List.cons_ne_nil _ _ },
  { id := 3, registrars := [1101, 1102], registrars_ne := List.cons_ne_nil _ _ },
  { id := 4, registrars := [1104], registrars_ne := List.cons_ne_nil _ _ },
  { id := 5, registrars := [1105], registrars_ne := List.cons_ne_nil _ _ }]

theorem overlappingSensors_partition :
    (clusterSensors (· != 5) overlappingSensors).map registersOf =
        [[1100, 1101, 1102, 1103, 1101, 1102, 1104], [1106, 1107]] ∧
      (clusterSensors (· != 5) overlappingSensors).IsChain
        (GapBetween (overlappingSensors.filter fun s => s.id != 5)) := by
  refine ⟨by decide, (clusterSensors_partition (· != 5) overlappingSensors fun s member => ?_).2.2.2⟩
  simp only [overlappingSensors, List.mem_cons, List.not_mem_nil, or_false] at member
  rcases member with rfl | rfl | rfl | rfl | rfl
  · exact ⟨1106, 1107, fun q => by simp only [List.mem_cons, List.not_mem_nil, or_false]; omega⟩
  · exact ⟨1100, 1103, fun q => by simp only [List.mem_cons, List.not_mem_nil, or_false]; omega⟩
  · exact ⟨1101, 1102, fun q => by simp only [List.mem_cons, List.not_mem_nil, or_false]; omega⟩
  · exact ⟨1104, 1104, fun q => by simp only [List.mem_cons, List.not_mem_nil, or_false]; omega⟩
  · exact ⟨1105, 1105, fun q => by simp only [List.mem_cons, List.not_mem_nil, or_false]; omega⟩

end HHModbus
