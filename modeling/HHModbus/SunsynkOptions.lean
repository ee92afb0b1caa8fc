import Mathlib.Data.Rat.Defs
import HHModbus.Lib.Worklist

/-!
# The sensors of the addon

`SensorOptions` of the Sunsynk addon: a sensor that can be written needs those that bound it, these
may need others, and the programs' times need each other in a ring. `init_sensors` adds what the
configured sensors need, first for all inverters, then for the first one only.
-/
namespace HHModbus

open Transition

/-- A schedule; `key` is as `__post_init__` leaves it. -/
structure Schedule where
  key : String
  readEvery : Nat := 0
  reportEvery : Nat := 0
  changeBy : ℚ := 0
  changePercent : Int := 0
  changeAny : Bool := false
  deriving DecidableEq

/-- `SCHEDULES`, before `init_schedules`. -/
def defaultSchedules : List Schedule := [
  { key := "date_time", readEvery := 60, reportEvery := 60, changeAny := true },
  { key := "rw", readEvery := 5, reportEvery := 5 * 60, changeAny := true },
  { key := "enum", readEvery := 5, reportEvery := 5 * 60, changeAny := true },
  { key := "w", readEvery := 5, reportEvery := 60, changeBy := 80 },
  { key := "kwh", readEvery := 5 * 60, reportEvery := 5 * 60 },
  { key := "any_unit", readEvery := 15, reportEvery := 5 * 60 },
  { key := "no_unit", readEvery := 15, reportEvery := 5 * 60, changeAny := true }]

abbrev Schedules := String → Option Schedule

def Schedules.set (schedules : Schedules) (s : Schedule) : Schedules :=
  Function.update schedules s.key (some s)

/-- `SCHEDULES` with those that are configured. -/
def initSchedules (configured : List Schedule) : Schedules :=
  (defaultSchedules ++ configured).foldl Schedules.set fun _ => none

/-- What the addon asks of the sensors of the definitions. Of a name and of a unit it reads the slug. -/
structure Definitions (κ : Type) where
  id : κ → String
  unit : κ → String
  /-- An `RWSensor`. -/
  rw : κ → Bool
  /-- An `EnumSensor`. -/
  enum : κ → Bool
  dependencies : κ → List κ

section

variable {κ : Type} (defs : Definitions κ)

/-- The `search_keys`; a key that does not apply is empty. -/
def Definitions.searchKeys (x : κ) : List String := [
  defs.id x,
  if defs.rw x then "rw" else "",
  if defs.enum x then "enum" else "",
  defs.unit x,
  if defs.unit x ≠ "" then "any_unit" else "",
  if defs.unit x = "" then "no_unit" else ""]

/-- `none` is the `ValueError`. -/
def Definitions.getSchedule (schedules : Schedules) (x : κ) : Option Schedule :=
  ((defs.searchKeys x).filter (· ≠ "")).findSome? schedules

/-- The sensors that a sensor makes the addon add. -/
def Definitions.needs (x : κ) : List κ := if defs.rw x then defs.dependencies x else []

theorem Schedules.isSome_set {schedules : Schedules} {s : Schedule} {key : String} (known : (schedules key).isSome) :
    (schedules.set s key).isSome := by
  unfold Schedules.set
  by_cases same : key = s.key
  · simp [same]
  · rwa [Function.update_of_ne same]

theorem initSchedules_isSome (configured : List Schedule) {s : Schedule} (default : s ∈ defaultSchedules) :
    (initSchedules configured s.key).isSome := by
  -- What is configured may replace a default, but takes no key away.
  have all : ∀ (added : List Schedule) (schedules : Schedules),
      s ∈ added ∨ (schedules s.key).isSome → (added.foldl Schedules.set schedules s.key).isSome := by
    intro added
    induction added with
    | nil => simp
    | cons t rest ih =>
      intro schedules known
      apply ih
      rcases known with member | before
      · rcases List.mem_cons.mp member with rfl | later
        · exact .inr (by simp [Schedules.set])
        · exact .inl later
      · exact .inr (Schedules.isSome_set before)
  exact all _ _ (.inl (List.mem_append_left _ default))

/-- Every sensor has a schedule, whatever is configured. -/
theorem Definitions.getSchedule_isSome (configured : List Schedule) (x : κ) :
    (defs.getSchedule (initSchedules configured) x).isSome := by
  -- The last two keys are for any sensor.
  have last : ∃ key ∈ (defs.searchKeys x).filter (· ≠ ""),
      (initSchedules configured key).isSome := by
    by_cases unit : defs.unit x = ""
    · refine ⟨"no_unit", by simp [Definitions.searchKeys, unit], ?_⟩
      exact initSchedules_isSome configured (List.mem_of_getElem? (i := 6) rfl)
    · refine ⟨"any_unit", by simp [Definitions.searchKeys, unit], ?_⟩
      exact initSchedules_isSome configured (List.mem_of_getElem? (i := 5) rfl)
  obtain ⟨key, member, found⟩ := last
  rw [Definitions.getSchedule, List.findSome?_isSome_iff]
  exact ⟨key, member, found⟩

end

structure SensorOption (κ : Type) where
  sensor : κ
  schedule : Schedule
  visible : Bool
  /-- The sensors that depend on this one. -/
  affects : List κ
  /-- Only on the first inverter. -/
  first : Bool
  deriving DecidableEq

structure SensorOptions (κ : Type) where
  options : List (SensorOption κ)
  deps : List κ

namespace SensorOptions

variable {κ : Type} [DecidableEq κ] (defs : Definitions κ) (schedules : Schedules)

/-- The keys of the dictionary. -/
def sensors (o : SensorOptions κ) : List κ := o.options.map (·.sensor)

/-- `_add_sensor`. -/
def addSensor (o : SensorOptions κ) (x : κ) (visible first : Bool) : Option (SensorOptions κ) :=
  -- A sensor that is known keeps the option it was added with.
  if x ∈ o.sensors then some o
  else (defs.getSchedule schedules x).map fun schedule =>
    ⟨o.options ++ [⟨x, schedule, visible, [], first⟩], defs.needs x ∪ o.deps⟩

/-- `_add_sensor` for each sensor of a list. -/
def addSensors (first : Bool) (visible : κ → Bool) (o : SensorOptions κ) (sens : List κ) :
    Option (SensorOptions κ) :=
  sens.foldlM (fun o x => o.addSensor defs schedules x (visible x) first) o

/-- A pass of `while self._deps`. Any element may be popped. -/
def popDep (first : Bool) (visible : κ → Bool) (o : SensorOptions κ) (x : κ) :
    Option (SensorOptions κ) :=
  if x ∈ o.deps then
    ({ o with deps := o.deps.erase x } : SensorOptions κ).addSensor defs schedules x (visible x) first
  else none

/-- The whole loop, for an order in which the set is emptied. -/
def popDeps (first : Bool) (visible : κ → Bool) (o : SensorOptions κ) (pops : List κ) :
    Option (SensorOptions κ) :=
  (exec (popDep defs schedules first visible) o pops).filter (·.deps.isEmpty)

/-- `self[dep].affects.add(sen)`; `none` is the `KeyError`. -/
def affect (o : SensorOptions κ) (dep sen : κ) : Option (SensorOptions κ) :=
  if dep ∈ o.sensors then
    some { o with options := o.options.map fun e =>
      if e.sensor = dep then { e with affects := e.affects.insert sen } else e }
  else none

/-- The dependencies that the last loop comes by, each with the sensor that it is of. -/
def dependencyPairs (o : SensorOptions κ) : List (κ × κ) :=
  o.sensors.flatMap fun sen => (defs.needs sen).map fun dep => (dep, sen)

/-- The last loop. -/
def addAffects (o : SensorOptions κ) : Option (SensorOptions κ) :=
  (o.dependencyPairs defs).foldlM (fun o pair => o.affect pair.1 pair.2) o

/-- `init_sensors`, of the sensors that `get_sensors` yields for all inverters and for the first. -/
def initSensors (startup sensorsAll sensors1st before after : List κ) : Option (SensorOptions κ) := do
  let o ← addSensors defs schedules false (fun x => x ∈ sensors1st ∨ x ∈ sensorsAll) ⟨[], []⟩ startup
  let o ← addSensors defs schedules false (fun _ => true) o sensorsAll
  -- Dependencies of the common sensors are for all inverters.
  let o ← popDeps defs schedules false (fun x => x ∈ sensors1st) o before
  let o ← addSensors defs schedules true (fun _ => true) o sensors1st
  -- What only the first inverter needs stays hidden.
  let o ← popDeps defs schedules true (fun _ => false) o after
  addAffects defs o

variable {defs schedules}

/-! ### What the steps add -/

variable {o o' m : SensorOptions κ} {x : κ} {first : Bool} {visible : κ → Bool}

/-- The sensors that have been added, and those that they depend on. -/
def worklist (o : SensorOptions κ) : Worklist κ := ⟨o.sensors, o.deps⟩

/-- An option as `_add_sensor` makes it. -/
structure Fresh (defs : Definitions κ) (schedules : Schedules) (first : Bool) (visible : κ → Bool)
    (e : SensorOption κ) : Prop where
  schedule : defs.getSchedule schedules e.sensor = some e.schedule
  visible : e.visible = visible e.sensor
  affects : e.affects = []
  first : e.first = first

/-- Some of the sensors that `among` allows have been added. -/
structure Grown (defs : Definitions κ) (schedules : Schedules) (first : Bool) (visible : κ → Bool)
    (among : κ → Prop) (o o' : SensorOptions κ) : Prop where
  kept : ∀ e ∈ o.options, e ∈ o'.options
  origin : ∀ e ∈ o'.options, e ∈ o.options ∨
    (e.sensor ∉ o.sensors ∧ among e.sensor ∧ Fresh defs schedules first visible e)

namespace Grown

variable {among : κ → Prop}

omit [DecidableEq κ] in
theorem refl (o : SensorOptions κ) : Grown defs schedules first visible among o o :=
  ⟨fun _ member => member, fun _ member => .inl member⟩

omit [DecidableEq κ] in
theorem sensors (grown : Grown defs schedules first visible among o o') (known : x ∈ o.sensors) :
    x ∈ o'.sensors := by
  obtain ⟨e, member, rfl⟩ := List.mem_map.mp known
  exact List.mem_map_of_mem (grown.kept e member)

omit [DecidableEq κ] in
theorem trans (grown : Grown defs schedules first visible among o m)
    (later : Grown defs schedules first visible among m o') :
    Grown defs schedules first visible among o o' where
  kept e member := later.kept e (grown.kept e member)
  origin e member := by
    rcases later.origin e member with before | ⟨new, allowed, fresh⟩
    · exact grown.origin e before
    · exact .inr ⟨fun old => new (grown.sensors old), allowed, fresh⟩

end Grown

theorem addSensor_cases {visible first : Bool}
    (added : o.addSensor defs schedules x visible first = some o') :
    (x ∈ o.sensors ∧ o' = o) ∨ (x ∉ o.sensors ∧ ∃ schedule,
      defs.getSchedule schedules x = some schedule ∧
      o' = ⟨o.options ++ [⟨x, schedule, visible, [], first⟩], defs.needs x ∪ o.deps⟩) := by
  unfold addSensor at added
  split at added
  case isTrue known => exact .inl ⟨known, (Option.some.inj added).symm⟩
  case isFalse new =>
    obtain ⟨schedule, found, rfl⟩ := Option.map_eq_some_iff.mp added
    exact .inr ⟨new, schedule, found, rfl⟩

theorem worklist_addSensor {visible first : Bool}
    (added : o.addSensor defs schedules x visible first = some o') :
    o'.worklist = o.worklist.add defs.needs x := by
  rcases addSensor_cases added with ⟨known, rfl⟩ | ⟨new, schedule, -, rfl⟩
  · simp [worklist, Worklist.add, known]
  · have unknown : x ∉ o.worklist.done := new
    rw [Worklist.add, if_neg unknown]
    simp [worklist, sensors]

theorem grown_addSensor {among : κ → Prop} (allowed : among x)
    (added : o.addSensor defs schedules x (visible x) first = some o') :
    Grown defs schedules first visible among o o' := by
  rcases addSensor_cases added with ⟨-, rfl⟩ | ⟨new, schedule, found, rfl⟩
  · exact .refl _
  · constructor
    · exact fun e member => List.mem_append_left _ member
    · intro e member
      rcases List.mem_append.mp member with before | last
      · exact .inl before
      · cases List.mem_singleton.mp last
        exact .inr ⟨new, allowed, found, rfl, rfl, rfl⟩

theorem addSensors_cons (x : κ) (rest : List κ) :
    addSensors defs schedules first visible o (x :: rest) =
      (o.addSensor defs schedules x (visible x) first).bind fun m =>
        addSensors defs schedules first visible m rest := by
  simp [addSensors, List.foldlM_cons, bind]

theorem grown_addSensors {sens : List κ}
    (added : addSensors defs schedules first visible o sens = some o') {roots : List κ}
    (explored : Worklist.Explored defs.needs roots o.worklist) :
    Grown defs schedules first visible (· ∈ sens) o o' ∧
      Worklist.Explored defs.needs (roots ++ sens) o'.worklist := by
  -- The list is generalised to a part of it, for what is left in the loop.
  have general : ∀ (sens' : List κ) (o : SensorOptions κ) (roots : List κ), sens' ⊆ sens →
      addSensors defs schedules first visible o sens' = some o' →
      Worklist.Explored defs.needs roots o.worklist →
      Grown defs schedules first visible (· ∈ sens) o o' ∧
        Worklist.Explored defs.needs (roots ++ sens') o'.worklist := by
    intro sens'
    induction sens' with
    | nil =>
      intro o roots _ added explored
      cases added
      simpa using ⟨Grown.refl _, explored⟩
    | cons x rest ih =>
      intro o roots sub added explored
      rw [addSensors_cons] at added
      obtain ⟨m, first_, later⟩ := Option.bind_eq_some_iff.mp added
      have grown : Grown defs schedules first visible (· ∈ sens) o m :=
        grown_addSensor (sub List.mem_cons_self) first_
      have next := explored.add x
      rw [← worklist_addSensor first_] at next
      obtain ⟨further, all⟩ := ih m (roots ++ [x]) (List.subset_of_cons_subset sub) later next
      refine ⟨grown.trans further, ?_⟩
      simpa using all
  exact general sens o roots (List.Subset.refl _) added explored

theorem popDep_cases (popped : popDep defs schedules first visible o x = some o') :
    o.worklist.pop defs.needs x = some o'.worklist ∧
      Grown defs schedules first visible (fun _ => True) o o' := by
  unfold popDep at popped
  split at popped
  case isTrue waits =>
    constructor
    · exact Worklist.pop_eq_some_iff.mpr ⟨waits, worklist_addSensor popped⟩
    · have grown : Grown defs schedules first visible (fun _ => True) { o with deps := o.deps.erase x } o' :=
        grown_addSensor trivial popped
      exact ⟨grown.kept, grown.origin⟩
  case isFalse => cases popped

theorem exec_popDep {pops : List κ} (run : exec (popDep defs schedules first visible) o pops = some o') :
    exec (Worklist.pop defs.needs) o.worklist pops = some o'.worklist ∧
      Grown defs schedules first visible (fun _ => True) o o' := by
  induction pops generalizing o with
  | nil =>
    cases run
    exact ⟨rfl, .refl _⟩
  | cons x rest ih =>
    obtain ⟨m, popped, later⟩ := exec_cons_iff.mp run
    obtain ⟨followed, grown⟩ := popDep_cases popped
    obtain ⟨rest_, further⟩ := ih later
    exact ⟨exec_cons_iff.mpr ⟨_, followed, rest_⟩, grown.trans further⟩

theorem grown_popDeps {pops : List κ} (run : popDeps defs schedules first visible o pops = some o')
    {roots : List κ} (explored : Worklist.Explored defs.needs roots o.worklist) :
    Grown defs schedules first visible (fun _ => True) o o' ∧
      Worklist.Explored defs.needs roots o'.worklist ∧ o'.deps = [] := by
  obtain ⟨emptied, finished⟩ := Option.filter_eq_some_iff.mp run
  obtain ⟨followed, grown⟩ := exec_popDep emptied
  refine ⟨grown, ?_, by simpa using finished⟩
  -- Whichever element is popped, the table stays explored up to those that wait.
  exact invariant (fun _ _ _ known popped => known.pop popped) explored followed

/-! ### What the last loop notes -/

/-- The option after some pairs of a dependency and a sensor have been noted. -/
def affected (pairs : List (κ × κ)) (e : SensorOption κ) : SensorOption κ :=
  { e with affects := pairs.foldl (fun l p => if e.sensor = p.1 then l.insert p.2 else l) e.affects }

theorem mem_foldl_insert (x sen : κ) (pairs : List (κ × κ)) (l : List κ) :
    sen ∈ pairs.foldl (fun l p => if x = p.1 then l.insert p.2 else l) l ↔
      sen ∈ l ∨ (x, sen) ∈ pairs := by
  induction pairs generalizing l with
  | nil => simp
  | cons p rest ih =>
    rw [List.foldl_cons, ih, List.mem_cons]
    split
    case isTrue same =>
      subst same
      simp [Prod.ext_iff, or_assoc, or_left_comm]
    case isFalse other => simp [Prod.ext_iff, other]

theorem mem_affects {pairs : List (κ × κ)} {e : SensorOption κ} {sen : κ} :
    sen ∈ (affected pairs e).affects ↔ sen ∈ e.affects ∨ (e.sensor, sen) ∈ pairs :=
  mem_foldl_insert e.sensor sen pairs e.affects

omit [DecidableEq κ] in
theorem mem_dependencyPairs {p : κ × κ} :
    p ∈ o.dependencyPairs defs ↔ p.2 ∈ o.sensors ∧ p.1 ∈ defs.needs p.2 := by
  simp only [dependencyPairs, List.mem_flatMap, List.mem_map]
  constructor
  · rintro ⟨sen, known, dep, needed, rfl⟩
    exact ⟨known, needed⟩
  · rintro ⟨known, needed⟩
    exact ⟨p.2, known, p.1, needed, rfl⟩

theorem foldlM_affect (pairs : List (κ × κ)) (o : SensorOptions κ) (known : ∀ p ∈ pairs, p.1 ∈ o.sensors) :
    pairs.foldlM (fun o pair => o.affect pair.1 pair.2) o =
      some { o with options := o.options.map (affected pairs) } := by
  induction pairs generalizing o with
  | nil =>
    have same : (affected [] : SensorOption κ → SensorOption κ) = id := rfl
    simp [same]
  | cons p rest ih =>
    have first := known p List.mem_cons_self
    rw [List.foldlM_cons, affect, if_pos first]
    -- Noting a dependent changes no key, so the other pairs are still found.
    have names : ({ o with options := o.options.map fun e =>
        if e.sensor = p.1 then { e with affects := e.affects.insert p.2 } else e } :
          SensorOptions κ).sensors = o.sensors := by
      simp only [sensors, List.map_map]
      apply List.map_congr_left
      intro e _
      simp only [Function.comp_apply]
      split <;> rfl
    simp only [Option.bind_eq_bind, Option.bind_some]
    rw [ih _ fun q member => names ▸ known q (List.mem_cons_of_mem p member)]
    simp only [List.map_map, Option.some.injEq, SensorOptions.mk.injEq, and_true]
    apply List.map_congr_left
    intro e _
    simp only [Function.comp_apply, affected, List.foldl_cons]
    split <;> rfl

/-- The table that is filled and has nothing left to add can be completed. -/
theorem addAffects_eq {roots : List κ} (explored : Worklist.Explored defs.needs roots o.worklist)
    (finished : o.deps = []) : addAffects defs o =
      some { o with options := o.options.map (affected (o.dependencyPairs defs)) } := by
  apply foldlM_affect
  intro p member
  obtain ⟨known, needed⟩ := mem_dependencyPairs.mp member
  -- With nothing left to pop, each dependency is in the table.
  rcases explored.closed p.2 known p.1 needed with done | waits
  · exact done
  · have none_ : p.1 ∈ o.deps := waits
    simp [finished] at none_

/-! ### The result -/

/-- What `init_sensors` leaves. -/
structure Settled (defs : Definitions κ) (schedules : Schedules)
    (startup sensorsAll sensors1st : List κ) (o : SensorOptions κ) : Prop where
  distinct : o.sensors.Nodup
  listed : ∀ x, x ∈ o.sensors ↔ Worklist.Reached defs.needs (startup ++ sensorsAll ++ sensors1st) x
  schedule : ∀ e ∈ o.options, defs.getSchedule schedules e.sensor = some e.schedule
  visible : ∀ e ∈ o.options, e.visible = true ↔ e.sensor ∈ sensorsAll ∨ e.sensor ∈ sensors1st
  first : ∀ e ∈ o.options,
    e.first = true ↔ ¬Worklist.Reached defs.needs (startup ++ sensorsAll) e.sensor
  affects : ∀ e ∈ o.options, ∀ sen, sen ∈ e.affects ↔ sen ∈ o.sensors ∧ e.sensor ∈ defs.needs sen

theorem settled_of_initSensors {startup sensorsAll sensors1st before after : List κ}
    (made : initSensors defs schedules startup sensorsAll sensors1st before after = some o) :
    Settled defs schedules startup sensorsAll sensors1st o := by
  simp only [initSensors, Option.bind_eq_bind, Option.bind_eq_some_iff] at made
  obtain ⟨o₁, added₁, o₂, added₂, o₃, popped₃, o₄, added₄, o₅, popped₅, noted⟩ := made
  obtain ⟨grown₁, explored₁⟩ := grown_addSensors added₁ Worklist.Explored.nil
  obtain ⟨grown₂, explored₂⟩ := grown_addSensors added₂ explored₁
  obtain ⟨grown₃, explored₃, finished₃⟩ := grown_popDeps popped₃ explored₂
  obtain ⟨grown₄, explored₄⟩ := grown_addSensors added₄ explored₃
  obtain ⟨grown₅, explored₅, finished₅⟩ := grown_popDeps popped₅ explored₄
  rw [List.nil_append] at explored₃ explored₅
  -- When the first loop has ended, the table has what the common sensors lead to.
  have common (x : κ) : x ∈ o₃.sensors ↔ Worklist.Reached defs.needs (startup ++ sensorsAll) x :=
    explored₃.mem_done_iff finished₃
  have inAll (x : κ) (configured : x ∈ sensorsAll) : x ∈ o₂.sensors :=
    explored₂.roots x (by simp [configured])
  have in1st (x : κ) (configured : x ∈ sensors1st) : x ∈ o₄.sensors :=
    explored₄.roots x (by simp [configured])
  -- Where each option comes from.
  have kind : ∀ e ∈ o₅.options, defs.getSchedule schedules e.sensor = some e.schedule ∧
      (e.visible = true ↔ e.sensor ∈ sensorsAll ∨ e.sensor ∈ sensors1st) ∧
      (e.first = true ↔ e.sensor ∉ o₃.sensors) ∧ e.affects = [] := by
    intro e member
    have known (early : e ∈ o₃.options) : e.sensor ∈ o₃.sensors := List.mem_map_of_mem early
    rcases grown₅.origin e member with early₄ | ⟨new, -, fresh⟩
    · rcases grown₄.origin e early₄ with early₃ | ⟨new, configured, fresh⟩
      · rcases grown₃.origin e early₃ with early₂ | ⟨new, -, fresh⟩
        · rcases grown₂.origin e early₂ with early₁ | ⟨-, configured, fresh⟩
          · rcases grown₁.origin e early₁ with none_ | ⟨-, -, fresh⟩
            · cases none_
            · refine ⟨fresh.schedule, ?_, by simp [fresh.first, known early₃], fresh.affects⟩
              simp [fresh.visible, or_comm]
          · refine ⟨fresh.schedule, ?_, by simp [fresh.first, known early₃], fresh.affects⟩
            simp [fresh.visible, configured]
        · refine ⟨fresh.schedule, ?_, by simp [fresh.first, known early₃], fresh.affects⟩
          have other : e.sensor ∉ sensorsAll := fun configured => new (inAll _ configured)
          simp [fresh.visible, other]
      · refine ⟨fresh.schedule, ?_, by simp [fresh.first, new], fresh.affects⟩
        simp [fresh.visible, configured]
    · -- Added as a dependency of the first inverter only.
      have new₃ : e.sensor ∉ o₃.sensors := fun old => new (grown₄.sensors old)
      refine ⟨fresh.schedule, ?_, by simp [fresh.first, new₃], fresh.affects⟩
      have other : e.sensor ∉ sensorsAll := fun configured =>
        new₃ (grown₃.sensors (inAll _ configured))
      have other1st : e.sensor ∉ sensors1st := fun configured => new (in1st _ configured)
      simp [fresh.visible, other, other1st]
  rw [addAffects_eq explored₅ finished₅] at noted
  cases noted
  have names : (SensorOptions.mk (o₅.options.map (affected (o₅.dependencyPairs defs)))
      o₅.deps).sensors = o₅.sensors := by
    simp [sensors, affected, Function.comp_def]
  constructor
  case distinct =>
    rw [names]
    exact explored₅.distinct
  case listed =>
    intro x
    rw [names]
    exact explored₅.mem_done_iff finished₅
  case affects =>
    intro e member sen
    obtain ⟨f, inside, rfl⟩ := List.mem_map.mp member
    rw [mem_affects, (kind f inside).2.2.2, names, mem_dependencyPairs]
    simp [affected]
  all_goals
    intro e member
    obtain ⟨f, inside, rfl⟩ := List.mem_map.mp member
  · exact (kind f inside).1
  · exact (kind f inside).2.1
  · rw [← common]
    exact (kind f inside).2.2.1

/-! ### The loops end -/

theorem addSensor_isSome (configured : List Schedule) (o : SensorOptions κ) (x : κ)
    (visible first : Bool) : ∃ o', o.addSensor defs (initSchedules configured) x visible first = some o' := by
  obtain ⟨schedule, found⟩ := Option.isSome_iff_exists.mp (defs.getSchedule_isSome configured x)
  unfold addSensor
  split
  case isTrue => exact ⟨_, rfl⟩
  case isFalse => exact ⟨_, by rw [found]; rfl⟩

theorem addSensors_isSome (configured : List Schedule) (sens : List κ) (o : SensorOptions κ) :
    ∃ o', addSensors defs (initSchedules configured) first visible o sens = some o' ∧
      o'.worklist = sens.foldl (Worklist.add defs.needs) o.worklist := by
  induction sens generalizing o with
  | nil => exact ⟨o, rfl, rfl⟩
  | cons x rest ih =>
    obtain ⟨m, added⟩ := @addSensor_isSome _ _ defs configured o x (visible x) first
    rw [addSensors_cons, added, List.foldl_cons, ← worklist_addSensor added]
    exact ih m

/-- Whichever element that waits is popped, nothing is raised. -/
theorem popDep_isSome (configured : List Schedule) {w : Worklist κ} (pops : o.worklist.pop defs.needs x = some w) :
    ∃ o', popDep defs (initSchedules configured) first visible o x = some o' ∧ o'.worklist = w := by
  obtain ⟨waits, rfl⟩ := Worklist.pop_eq_some_iff.mp pops
  obtain ⟨m, added⟩ := @addSensor_isSome _ _ defs configured
    { o with deps := o.deps.erase x } x (visible x) first
  have known : x ∈ o.deps := waits
  refine ⟨m, ?_, worklist_addSensor added⟩
  rw [popDep, if_pos known, added]

theorem popDeps_isSome (configured : List Schedule) {pops : List κ} {w : Worklist κ}
    (order : exec (Worklist.pop defs.needs) o.worklist pops = some w) (emptied : w.waiting = []) :
    ∃ o', popDeps defs (initSchedules configured) first visible o pops = some o' ∧ o'.worklist = w := by
  have followed : ∃ o', exec (popDep defs (initSchedules configured) first visible) o pops = some o' ∧
      o'.worklist = w := by
    induction pops generalizing o with
    | nil => exact ⟨o, rfl, Option.some.inj order⟩
    | cons x rest ih =>
      obtain ⟨v, pops, later⟩ := exec_cons_iff.mp order
      obtain ⟨m, popped, rfl⟩ := @popDep_isSome _ _ defs o x first visible configured v pops
      obtain ⟨o', run, same⟩ := ih later
      exact ⟨o', exec_cons_iff.mpr ⟨m, popped, run⟩, same⟩
  obtain ⟨o', run, rfl⟩ := followed
  refine ⟨o', ?_, rfl⟩
  have none_ : o'.deps = [] := emptied
  simp [popDeps, run, none_]

/-- Orders in which the two sets of dependencies may be emptied: what is popped waits, and nothing
waits at the end of each loop. -/
def PopOrders (defs : Definitions κ) (startup sensorsAll sensors1st before after : List κ) : Prop :=
  ∃ w w', exec (Worklist.pop defs.needs)
      ((startup ++ sensorsAll).foldl (Worklist.add defs.needs) ⟨[], []⟩) before = some w ∧ w.waiting = [] ∧
    exec (Worklist.pop defs.needs) (sensors1st.foldl (Worklist.add defs.needs) w) after = some w' ∧
    w'.waiting = []

theorem initSensors_isSome (configured : List Schedule) {startup sensorsAll sensors1st before after : List κ}
    (orders : PopOrders defs startup sensorsAll sensors1st before after) :
    ∃ o, initSensors defs (initSchedules configured) startup sensorsAll sensors1st before after = some o := by
  obtain ⟨w, w', order, emptied, order', emptied'⟩ := orders
  obtain ⟨o₁, added₁, list₁⟩ := @addSensors_isSome _ _ defs false
    (fun x => x ∈ sensors1st ∨ x ∈ sensorsAll) configured startup ⟨[], []⟩
  obtain ⟨o₂, added₂, list₂⟩ := @addSensors_isSome _ _ defs false (fun _ => true) configured sensorsAll o₁
  rw [list₁, ← List.foldl_append] at list₂
  obtain ⟨o₃, popped₃, rfl⟩ := @popDeps_isSome _ _ defs o₂ false (fun x => x ∈ sensors1st) configured before w
    (list₂ ▸ order) emptied
  obtain ⟨o₄, added₄, list₄⟩ := @addSensors_isSome _ _ defs true (fun _ => true) configured sensors1st o₃
  obtain ⟨o₅, popped₅, rfl⟩ := @popDeps_isSome _ _ defs o₄ true (fun _ => false) configured after w'
    (list₄ ▸ order') emptied'
  -- With nothing left to pop, the last loop finds each dependency in the table.
  obtain ⟨-, explored₁⟩ := grown_addSensors added₁ Worklist.Explored.nil
  obtain ⟨-, explored₂⟩ := grown_addSensors added₂ explored₁
  obtain ⟨-, explored₃, -⟩ := grown_popDeps popped₃ explored₂
  obtain ⟨-, explored₄⟩ := grown_addSensors added₄ explored₃
  obtain ⟨-, explored₅, finished⟩ := grown_popDeps popped₅ explored₄
  obtain ⟨o, noted⟩ : ∃ o, addAffects defs o₅ = some o := ⟨_, addAffects_eq explored₅ finished⟩
  refine ⟨o, ?_⟩
  simp only [initSensors, Option.bind_eq_bind, Option.bind_some, added₁, added₂, popped₃, added₄,
    popped₅, noted]

variable [Fintype κ]

theorem exists_popOrders (startup sensorsAll sensors1st : List κ) :
    ∃ before after, PopOrders defs startup sensorsAll sensors1st before after := by
  obtain ⟨before, w, order, emptied⟩ := @Worklist.exists_emptied _ defs.needs _ _
    ((startup ++ sensorsAll).foldl (Worklist.add defs.needs) ⟨[], []⟩)
  obtain ⟨after, w', order', emptied'⟩ := @Worklist.exists_emptied _ defs.needs _ _
    (sensors1st.foldl (Worklist.add defs.needs) w)
  exact ⟨before, after, w, w', order, emptied, order', emptied'⟩

/-- **`init_sensors` adds what is needed, and only that.** Whatever is configured and in whatever
order the sets of dependencies are emptied: the loops end, a schedule is found for each sensor, no
dependency is missing at the end, the table has the sensors that those of the configuration lead to,
and those that are only needed for the first inverter are marked so. -/
theorem initSensors_settles (defs : Definitions κ) (configured : List Schedule)
    (startup sensorsAll sensors1st : List κ) :
    (∀ before after o,
      initSensors defs (initSchedules configured) startup sensorsAll sensors1st before after = some o →
        Settled defs (initSchedules configured) startup sensorsAll sensors1st o) ∧
    (∀ before after, PopOrders defs startup sensorsAll sensors1st before after → ∃ o,
      initSensors defs (initSchedules configured) startup sensorsAll sensors1st before after = some o) ∧
    (∃ before after, PopOrders defs startup sensorsAll sensors1st before after) ∧
    ∃ bound, ∀ first visible (o o' : SensorOptions κ) pops,
      exec (popDep defs (initSchedules configured) first visible) o pops = some o' →
        pops.length ≤ o.deps.length + bound := by
  refine ⟨fun before after o => settled_of_initSensors, fun before after => initSensors_isSome configured,
    exists_popOrders startup sensorsAll sensors1st, ∑ x, (defs.needs x).length, ?_⟩
  intro first visible o o' pops run
  have bound := Worklist.length_le_budget (exec_popDep run).1
  have part : ∑ x ∈ Finset.univ.filter (· ∉ o.worklist.done), (defs.needs x).length ≤
      ∑ x, (defs.needs x).length :=
    Finset.sum_le_sum_of_subset (Finset.filter_subset _ _)
  simp only [Worklist.budget, worklist] at bound part
  omega

/-- The times of the programs depend on the time before and the time after. -/
def programTimes : Definitions (Fin 6) where
  id i := "prog" ++ toString (i.val + 1) ++ "_time"
  unit _ := ""
  rw _ := true
  enum _ := false
  dependencies i := [i - 1, i + 1]

/-- The second time brings all six, and only it is shown. -/
example : ((initSensors programTimes (initSchedules []) [] [1] [] [0, 2, 5, 3, 4, 1, 0, 2, 3, 5] []).map
    fun o => o.options.map fun e => (e.sensor, e.visible)) =
      some [(1, true), (0, false), (2, false), (5, false), (3, false), (4, false)] := by
  decide +kernel

end SensorOptions

end HHModbus
