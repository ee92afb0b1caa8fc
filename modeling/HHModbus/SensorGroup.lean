import Mathlib.Algebra.GroupWithZero.Nat
import Mathlib.Data.List.Flatten
import Mathlib.Data.List.Sort
import HHModbus.Lib.Ranges
import HHModbus.Decode

/-!
# Sensors and the register blocks they are polled in

`SolisBaseSensor` as far as polling and decoding read it, `SolisSensorGroup`, and the
clustering that rebuilds groups from sensors.
-/
namespace HHModbus

/-- A sensor object. Its `enabled` flag changes, so it is kept with the state. -/
structure BaseSensor where
  id : Nat
  registrars : List Nat
  registrars_ne : registrars ≠ []
  dataType : Option DataType := none
  multiplier : ℚ := 1
  deriving DecidableEq

inductive PollSpeed where
  | once
  | startup
  | fast
  | normal
  | slow
  deriving DecidableEq, Repr

inductive RegisterType where
  | input
  | holding
  deriving DecidableEq, Repr

/-- A group object: `list.index` and `in` compare groups by identity. -/
structure SensorGroup where
  id : Nat
  sensors : List BaseSensor
  pollSpeed : PollSpeed
  identification : Option String := none
  registerType : RegisterType
  deriving DecidableEq

namespace BaseSensor

def minRegister (s : BaseSensor) : Nat := s.registrars.min s.registrars_ne

def maxRegister (s : BaseSensor) : Nat := s.registrars.max s.registrars_ne

def convertValue (s : BaseSensor) (words : List Nat) : Option SensorValue :=
  convertRawValue s.registrars.length s.dataType s.multiplier words

/-- A sensor of one register, identified by it. -/
def single (register : Nat) : BaseSensor :=
  { id := register, registrars := [register], registrars_ne := List.cons_ne_nil _ _ }

end BaseSensor

/-- All registers of some sensors, sensor by sensor. -/
def registersOf (sensors : List BaseSensor) : List Nat := sensors.flatMap BaseSensor.registrars

namespace SensorGroup

/-- `min` over the registers of a group; groups are built from at least one sensor. -/
def startRegister (g : SensorGroup) : Nat := (registersOf g.sensors).min?.getD 0

def registrarCount (g : SensorGroup) : Nat := (g.sensors.map fun s => s.registrars.length).sum

/-- The registers of the block that is read for the group. -/
def block (g : SensorGroup) : List Nat := List.range' g.startRegister g.registrarCount

/-- `from_sensors`; the type falls back on the address only when none is given. -/
def fromSensors (id : Nat) (sensors : List BaseSensor) (pollSpeed : PollSpeed)
    (identification : Option String) (registerType : Option RegisterType) : SensorGroup :=
  let start := (registersOf sensors).min?.getD 0
  let defaultType := if 40000 ≤ start then RegisterType.holding else .input
  { id, sensors, pollSpeed, identification, registerType := registerType.getD defaultType }

end SensorGroup

/-- The loop of `cluster_sensors_by_contiguous_registers` over the sorted sensors. -/
def clusterLoop (current : List BaseSensor) (curHi : Nat) : List BaseSensor → List (List BaseSensor)
  | [] => [current]
  | s :: rest =>
    -- A sensor that touches or overlaps the cluster joins it.
    if s.minRegister ≤ curHi + 1 then clusterLoop (current ++ [s]) (max curHi s.maxRegister) rest
    else current :: clusterLoop [s] s.maxRegister rest

def clusterSensors (enabled : Nat → Bool) (sensors : List BaseSensor) : List (List BaseSensor) :=
  let active := sensors.filter fun s => enabled s.id
  -- `list.sort` is stable, as insertion sort is.
  match active.insertionSort fun a b => a.minRegister ≤ b.minRegister with
  | [] => []
  | first :: rest => clusterLoop [first] first.maxRegister rest

/-! ### Clusters -/

theorem clusterLoop_flatten (current : List BaseSensor) (curHi : Nat) (rest : List BaseSensor) :
    (clusterLoop current curHi rest).flatten = current ++ rest := by
  induction rest generalizing current curHi with
  | nil => simp [clusterLoop]
  | cons s rest ih =>
    simp only [clusterLoop]
    split
    · rw [ih, List.append_assoc, List.singleton_append]
    · rw [List.flatten_cons, ih, List.singleton_append]

/-- Clustering keeps exactly the enabled sensors. -/
theorem clusterSensors_perm (enabled : Nat → Bool) (sensors : List BaseSensor) :
    (clusterSensors enabled sensors).flatten.Perm (sensors.filter fun s => enabled s.id) := by
  have sorted := List.perm_insertionSort (fun a b : BaseSensor => a.minRegister ≤ b.minRegister)
    (sensors.filter fun s => enabled s.id)
  unfold clusterSensors
  dsimp only
  split
  next empty =>
    rw [empty] at sorted
    exact sorted
  next first rest order =>
    rw [order] at sorted
    rw [clusterLoop_flatten]
    exact sorted

theorem clusterLoop_ne_nil (current : List BaseSensor) (curHi : Nat) (rest : List BaseSensor)
    (nonempty : current ≠ []) : ∀ c ∈ clusterLoop current curHi rest, c ≠ [] := by
  induction rest generalizing current curHi with
  | nil =>
    intro c member
    rw [List.mem_singleton.mp member]
    exact nonempty
  | cons s rest ih =>
    simp only [clusterLoop]
    split
    · exact ih _ _ (by simp)
    · intro c member
      rcases List.mem_cons.mp member with rfl | later
      · exact nonempty
      · exact ih _ _ (by simp) c later

/-- No cluster is empty, so a group built from one always has a lowest register to start at. -/
theorem clusterSensors_ne_nil (enabled : Nat → Bool) (sensors : List BaseSensor) :
    ∀ c ∈ clusterSensors enabled sensors, c ≠ [] := by
  unfold clusterSensors
  dsimp only
  split
  · simp
  · exact clusterLoop_ne_nil _ _ _ (by simp)

/-- The sensor's registers form one range. -/
def BaseSensor.Contiguous (s : BaseSensor) : Prop := ∃ lo n, Ranges.Tiles s.registrars lo n

theorem BaseSensor.Contiguous.tiles {s : BaseSensor} (contiguous : s.Contiguous) :
    ∃ n, 0 < n ∧ Ranges.Tiles s.registrars s.minRegister n ∧
      s.maxRegister + 1 = s.minRegister + n := by
  obtain ⟨lo, n, tiles⟩ := contiguous
  have low : s.minRegister = lo := tiles.min_eq s.registrars_ne
  have high : s.maxRegister + 1 = lo + n := tiles.max_eq s.registrars_ne
  exact ⟨n, tiles.pos s.registrars_ne, low ▸ tiles, low ▸ high⟩

@[simp] theorem registersOf_append (a b : List BaseSensor) :
    registersOf (a ++ b) = registersOf a ++ registersOf b := List.flatMap_append

theorem registersOf_singleton (s : BaseSensor) : registersOf [s] = s.registrars := by
  simp [registersOf]

/-- The cluster being built covers the range up to `curHi`, and a sensor that may join it
starts right behind it, because the registers are disjoint and the sensors sorted. -/
theorem clusterLoop_tiles (current : List BaseSensor) (curHi : Nat) (rest : List BaseSensor)
    (lo n : Nat) (covered : Ranges.Tiles (registersOf current) lo n) (high : curHi + 1 = lo + n)
    (contiguous : ∀ s ∈ rest, s.Contiguous)
    (sorted : rest.Pairwise fun a b => a.minRegister ≤ b.minRegister)
    (above : ∀ s ∈ rest, lo ≤ s.minRegister) (disjoint : (registersOf (current ++ rest)).Nodup) :
    ∀ c ∈ clusterLoop current curHi rest, ∃ lo n, Ranges.Tiles (registersOf c) lo n := by
  induction rest generalizing current curHi lo n with
  | nil =>
    intro c member
    rw [List.mem_singleton.mp member]
    exact ⟨lo, n, covered⟩
  | cons s rest ih =>
    obtain ⟨k, positive, own, ownHigh⟩ := (contiguous s (by simp)).tiles
    have later := fun t member => contiguous t (List.mem_cons_of_mem s member)
    have order := List.pairwise_cons.mp sorted
    simp only [clusterLoop]
    split
    next near =>
      -- Disjoint from the cluster, not below it and at most one above it: it is the next one.
      have apart : ∀ r ∈ s.registrars, r ∉ registersOf current := by
        intro r inside old
        rw [registersOf_append] at disjoint
        have joined : r ∈ registersOf (s :: rest) := List.mem_flatMap.mpr ⟨s, by simp, inside⟩
        exact List.disjoint_of_nodup_append disjoint old joined
      have next : s.minRegister = lo + n :=
        covered.adjacent own s.registrars_ne apart (above s (by simp)) (by omega)
      apply ih (current ++ [s]) (max curHi s.maxRegister) lo (n + k)
      · rw [registersOf_append, registersOf_singleton]
        exact covered.append (next ▸ own)
      · omega
      · exact later
      · exact order.2
      · exact fun t member => above t (List.mem_cons_of_mem s member)
      · simpa using disjoint
    next far =>
      -- The cluster is closed, and the sensor starts one of its own.
      intro c member
      rcases List.mem_cons.mp member with rfl | member
      · exact ⟨lo, n, covered⟩
      · refine ih [s] s.maxRegister s.minRegister k ?_ ownHigh later order.2 order.1 ?_ c member
        · rw [registersOf_singleton]
          exact own
        · rw [registersOf_append] at disjoint
          exact disjoint.of_append_right

/-- Sensors on disjoint ranges are clustered into groups that each tile one range. -/
theorem clusterSensors_tiles (enabled : Nat → Bool) (sensors : List BaseSensor)
    (contiguous : ∀ s ∈ sensors, s.Contiguous) (disjoint : (registersOf sensors).Nodup) :
    ∀ c ∈ clusterSensors enabled sensors, ∃ lo n, Ranges.Tiles (registersOf c) lo n := by
  have sorting := List.perm_insertionSort (fun a b : BaseSensor => a.minRegister ≤ b.minRegister)
    (sensors.filter fun s => enabled s.id)
  have sorted := List.pairwise_insertionSort (fun a b : BaseSensor => a.minRegister ≤ b.minRegister)
    (sensors.filter fun s => enabled s.id)
  unfold clusterSensors
  dsimp only
  split
  next => simp
  next first rest order =>
    rw [order] at sorting sorted
    have member (s : BaseSensor) (h : s ∈ first :: rest) : s ∈ sensors :=
      (List.mem_filter.mp (sorting.mem_iff.mp h)).1
    obtain ⟨n, -, own, ownHigh⟩ := (contiguous first (member first (by simp))).tiles
    -- The enabled sensors are as disjoint as all of them.
    have sub : (registersOf (sensors.filter fun s => enabled s.id)).Nodup :=
      (List.Sublist.flatMap List.filter_sublist _).nodup disjoint
    apply clusterLoop_tiles [first] first.maxRegister rest first.minRegister n
    · rw [registersOf_singleton]
      exact own
    · exact ownHigh
    · exact fun s h => contiguous s (member s (List.mem_cons_of_mem _ h))
    · exact (List.pairwise_cons.mp sorted).2
    · exact (List.pairwise_cons.mp sorted).1
    · exact (List.Perm.flatMap_right _ sorting).nodup_iff.mpr sub

example : (clusterSensors (fun _ => true) ([103, 100, 101].map .single)).map registersOf =
    [[100, 101], [103]] := by decide

end HHModbus
