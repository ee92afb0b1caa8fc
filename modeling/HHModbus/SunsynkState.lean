import Mathlib.Data.Rat.Defs
import Mathlib.Data.List.Induction

/-!
# The register state of the library

`InverterState` of the bundled `sunsynk` library: the registers that were read or written last, the
values of the tracked sensors, what `onchange` is told, and the histories that reports are made of.
-/
namespace HHModbus

/-- A `ValType`. A number is exact. -/
inductive ValType
  | none
  | bool (b : Bool)
  | num (q : ℚ)
  | str (s : String)
  deriving DecidableEq

/-- A `Sensor` whose `reg_to_value` has no state of its own and a result for every content of its
registers. -/
structure StateSensor where
  address : List Nat
  name : String
  bitmask : Nat
  /-- An `RWSensor` or a `BinarySensor`. -/
  discrete : Bool
  regToValue : List Nat → ValType

/-- What the hash is made of. Sensors with other hashes are different keys, even if their ids are equal. -/
abbrev SensorKey := List Nat × String

def StateSensor.key (s : StateSensor) : SensorKey := (s.address, s.name)

/-- Registers by address, as far as they are known. -/
abbrev Registers := Nat → Option Nat

/-- `dict.update`. -/
def Registers.update (old new : Registers) : Registers := fun a => (new a).or (old a)

namespace StateSensor

variable (s : StateSensor)

/-- Some register of the sensor is among the new ones. -/
def touched (newRegs : Registers) : Bool := s.address.any fun a => (newRegs a).isSome

/-- `reg_to_value` of the registers; a mask is for a single one. -/
def decode (registers : Registers) : ValType :=
  let regs := s.address.map fun a => (registers a).getD 0
  s.regToValue (if s.bitmask ≠ 0 then [regs.headD 0 &&& s.bitmask] else regs)

end StateSensor

/-- A call of `onchange`. -/
structure Change where
  sensor : StateSensor
  new : ValType
  old : ValType

structure InverterState where
  values : List (StateSensor × ValType)
  registers : Registers
  history : SensorKey → Option (List ℚ)
  historynn : SensorKey → Option (List ValType)

namespace InverterState

def initial : InverterState where
  values := []
  registers := fun _ => none
  history := fun _ => none
  historynn := fun _ => none

/-- `track` of one sensor; those that an `RWSensor` depends on are tracked after it. -/
def track (st : InverterState) (s : StateSensor) : InverterState :=
  if st.values.any fun entry => entry.1.key = s.key then st
  else { st with values := st.values ++ [(s, .none)] }

/-- The entry of `values` after the loop of `update` has passed it. -/
def refreshed (st : InverterState) (newRegs : Registers) (entry : StateSensor × ValType) : ValType :=
  if entry.1.touched newRegs then entry.1.decode (st.registers.update newRegs) else entry.2

/-- The histories after a sensor has got a value. -/
def remember (s : StateSensor) (newv : ValType) (st : InverterState) : InverterState :=
  match newv, s.discrete, st.historynn s.key with
  -- A sensor with a value in `historynn` stays there, also when it gets a number.
  | .num q, false, none =>
    { st with history := Function.update st.history s.key (some ((st.history s.key).getD [] ++ [q])) }
  | _, _, old =>
    -- Only the last two values are kept.
    let last := (old.getD [.none] ++ [newv])
    { st with historynn := Function.update st.historynn s.key (some (last.drop (last.length - 2))) }

def update (st : InverterState) (newRegs : Registers) : InverterState :=
  let remembered := st.values.foldl (fun st' entry =>
    if entry.1.touched newRegs then remember entry.1 (st.refreshed newRegs entry) st' else st') st
  { remembered with
    values := st.values.map fun entry => (entry.1, st.refreshed newRegs entry)
    registers := st.registers.update newRegs }

/-- The calls of `onchange` at the end of `update`. -/
def changes (st : InverterState) (newRegs : Registers) : List Change :=
  st.values.filterMap fun entry =>
    if st.refreshed newRegs entry = entry.2 then none
    else some ⟨entry.1, st.refreshed newRegs entry, entry.2⟩

/-- What `write_sensor` notes of a register that it has written. -/
def noteWritten (st : InverterState) (address value : Nat) : InverterState :=
  { st with registers := Function.update st.registers address (some value) }

end InverterState

/-! ### Runs -/

inductive StateEvent
  | track (s : StateSensor)
  | update (newRegs : Registers)
  | wrote (address value : Nat)

namespace InverterState

def step (st : InverterState) : StateEvent → InverterState
  | .track s => st.track s
  | .update newRegs => st.update newRegs
  | .wrote address value => st.noteWritten address value

def run (events : List StateEvent) : InverterState := events.foldl step initial

theorem run_append_singleton (events : List StateEvent) (e : StateEvent) :
    run (events ++ [e]) = (run events).step e := by
  simp [run]

/-- The calls of `onchange` that an event leads to. -/
def told (st : InverterState) : StateEvent → List Change
  | .update newRegs => st.changes newRegs
  | .track _ | .wrote _ _ => []

/-- The calls of `onchange` over a run. -/
def reported : List StateEvent → InverterState → List Change
  | [], _ => []
  | e :: rest, st => st.told e ++ reported rest (st.step e)

variable {st : InverterState} {newRegs : Registers} {s : StateSensor} {v : ValType}

@[simp] theorem update_values :
    (st.update newRegs).values = st.values.map fun entry => (entry.1, st.refreshed newRegs entry) := rfl

@[simp] theorem update_registers : (st.update newRegs).registers = st.registers.update newRegs := rfl

/-- A sensor is tracked once. -/
theorem track_cases (st : InverterState) (t : StateSensor) :
    st.track t = st ∨ ((∀ entry ∈ st.values, entry.1.key ≠ t.key) ∧
      st.track t = { st with values := st.values ++ [(t, .none)] }) := by
  unfold track
  split
  case isTrue => exact .inl rfl
  case isFalse unknown =>
    -- `setdefault` adds what is not there.
    refine .inr ⟨?_, rfl⟩
    simpa using unknown

theorem track_registers (t : StateSensor) : (st.track t).registers = st.registers := by
  rcases track_cases st t with same | ⟨-, new⟩
  · rw [same]
  · rw [new]

theorem keys_nodup (events : List StateEvent) :
    ((run events).values.map fun entry => entry.1.key).Nodup := by
  induction events using List.reverseRecOn with
  | nil => simp [run, initial]
  | append_singleton events e ih =>
    rw [run_append_singleton]
    cases e with
    | wrote address value => exact ih
    | update newRegs => simpa [step, Function.comp_def] using ih
    | track t =>
      simp only [step]
      rcases track_cases (run events) t with same | ⟨unknown, new⟩
      · rwa [same]
      · rw [new, List.map_append, List.nodup_append]
        refine ⟨ih, by simp, ?_⟩
        intro key old key' new same
        obtain ⟨entry, member, rfl⟩ := List.mem_map.mp old
        exact unknown entry member (same.trans (List.mem_singleton.mp new))

/-! ### Values and registers -/

/-- No reading has brought a register of the sensor. -/
def Untouched (s : StateSensor) (events : List StateEvent) : Prop :=
  ∀ newRegs, .update newRegs ∈ events → s.touched newRegs = false

/-- No register of the sensor was written. -/
def Unwritten (s : StateSensor) (events : List StateEvent) : Prop :=
  ∀ a ∈ s.address, ∀ value, .wrote a value ∉ events

theorem Untouched.concat {events : List StateEvent} {e : StateEvent} (untouched : Untouched s events)
    (last : ∀ newRegs, e = .update newRegs → s.touched newRegs = false) :
    Untouched s (events ++ [e]) := by
  intro newRegs member
  rcases List.mem_append.mp member with old | new
  · exact untouched newRegs old
  · exact last newRegs (List.mem_singleton.mp new).symm

theorem decode_congr {registers registers' : Registers}
    (same : ∀ a ∈ s.address, registers a = registers' a) : s.decode registers = s.decode registers' := by
  have words : (s.address.map fun a => (registers a).getD 0) =
      s.address.map fun a => (registers' a).getD 0 := by
    apply List.map_congr_left
    intro a member
    rw [same a member]
  simp only [StateSensor.decode, words]

/-- What is neither read nor written stays. -/
theorem registers_kept {before after : List StateEvent} (untouched : Untouched s after)
    (unwritten : Unwritten s after) {a : Nat} (own : a ∈ s.address) :
    (run (before ++ after)).registers a = (run before).registers a := by
  induction after using List.reverseRecOn with
  | nil => simp
  | append_singleton after e ih =>
    have earlier := ih (fun newRegs member => untouched newRegs (List.mem_append_left _ member))
      (fun b known value member => unwritten b known value (List.mem_append_left _ member))
    rw [← List.append_assoc, run_append_singleton, ← earlier]
    cases e with
    | track t => rw [step, track_registers]
    | update newRegs =>
      -- A reading that brought the register would have touched the sensor.
      have missing : newRegs a = none := by
        have none := untouched newRegs (by simp)
        simp only [StateSensor.touched, List.any_eq_false] at none
        simpa using none a own
      simp [step, Registers.update, missing]
    | wrote b value =>
      have other : a ≠ b := by
        rintro rfl
        exact unwritten a own value (by simp)
      simp [step, noteWritten, Function.update_of_ne other]

/-- The sensor shows what was read last. -/
structure Shown (events : List StateEvent) (s : StateSensor) (v : ValType)
    (before : List StateEvent) (newRegs : Registers) (after : List StateEvent) : Prop where
  split : events = before ++ .update newRegs :: after
  tracked : ∃ w, (s, w) ∈ (run before).values
  touched : s.touched newRegs = true
  untouched : Untouched s after
  value : v = s.decode (run (before ++ [.update newRegs])).registers

theorem Shown.concat {events before after : List StateEvent} {e : StateEvent}
    (shown : Shown events s v before newRegs after)
    (last : ∀ newRegs, e = .update newRegs → s.touched newRegs = false) :
    Shown (events ++ [e]) s v before newRegs (after ++ [e]) where
  split := by simp [shown.split]
  tracked := shown.tracked
  touched := shown.touched
  untouched := shown.untouched.concat last
  value := shown.value

/-- No sensor of this key is tracked. -/
def Unknown (st : InverterState) (s : StateSensor) : Prop := ∀ entry ∈ st.values, entry.1.key ≠ s.key

/-- Tracked, and not read since. -/
def Unread (events : List StateEvent) (s : StateSensor) : Prop :=
  ∃ before after, events = before ++ .track s :: after ∧ Unknown (run before) s ∧ Untouched s after

theorem Unread.concat {events : List StateEvent} {e : StateEvent} (unread : Unread events s)
    (last : ∀ newRegs, e = .update newRegs → s.touched newRegs = false) : Unread (events ++ [e]) s := by
  obtain ⟨before, after, split, unknown, untouched⟩ := unread
  exact ⟨before, after ++ [e], by simp [split], unknown, untouched.concat last⟩

theorem shown_or_unread (events : List StateEvent) (member : (s, v) ∈ (run events).values) :
    (v = .none ∧ Unread events s) ∨ ∃ before newRegs after, Shown events s v before newRegs after := by
  induction events using List.reverseRecOn generalizing v with
  | nil => simp [run, initial] at member
  | append_singleton events e ih =>
    rw [run_append_singleton] at member
    -- An event that brings nothing for the sensor leaves what it showed, and why.
    have carry (known : (s, v) ∈ (run events).values)
        (last : ∀ newRegs, e = .update newRegs → s.touched newRegs = false) :
        (v = .none ∧ Unread (events ++ [e]) s) ∨
          ∃ before newRegs after, Shown (events ++ [e]) s v before newRegs after := by
      rcases ih known with ⟨empty, unread⟩ | ⟨before, newRegs, after, shown⟩
      · exact .inl ⟨empty, unread.concat last⟩
      · exact .inr ⟨before, newRegs, after ++ [e], shown.concat last⟩
    cases e with
    | wrote address value => exact carry member (by simp)
    | track t =>
      simp only [step] at member
      rcases track_cases (run events) t with same | ⟨unknown, new⟩
      · exact carry (same ▸ member) (by simp)
      · rw [new] at member
        rcases List.mem_append.mp member with old | fresh
        · exact carry old (by simp)
        · -- It has just been tracked.
          cases List.mem_singleton.mp fresh
          exact .inl ⟨rfl, events, [], rfl, unknown, by simp [Untouched]⟩
    | update newRegs =>
      simp only [step, update_values, List.mem_map] at member
      obtain ⟨entry, known, same⟩ := member
      obtain ⟨rfl, rfl⟩ := Prod.mk.inj same
      by_cases touched : entry.1.touched newRegs = true
      · -- This reading has brought the sensor's value.
        refine .inr ⟨events, newRegs, [], rfl, ⟨entry.2, known⟩, touched, by simp [Untouched], ?_⟩
        simp [refreshed, touched, run_append_singleton, step]
      · -- The reading was for others.
        have kept : (run events).refreshed newRegs entry = entry.2 := by simp [refreshed, touched]
        rw [kept] at carry ⊢
        apply carry known
        intro newRegs' same
        cases same
        simpa using touched

/-- **A tracked sensor shows its registers as they were read last.** What it shows is decoded from
the registers as the last reading left them that brought one of its own, with the sensor tracked
already; before there was one it shows nothing. Only a write since then can make it differ from the
registers as they are known. -/
theorem values_follow_registers (events : List StateEvent) (s : StateSensor) (v : ValType)
    (tracked : (s, v) ∈ (run events).values) :
    (v = .none ∧ ∃ before after, events = before ++ .track s :: after ∧ Unknown (run before) s ∧
      Untouched s after) ∨
    ∃ before newRegs after, events = before ++ .update newRegs :: after ∧
      (∃ w, (s, w) ∈ (run before).values) ∧ s.touched newRegs = true ∧ Untouched s after ∧
      v = s.decode (run (before ++ [.update newRegs])).registers ∧
      (Unwritten s after → v = s.decode (run events).registers) := by
  rcases shown_or_unread events tracked with unread | ⟨before, newRegs, after, shown⟩
  · exact .inl unread
  · refine .inr ⟨before, newRegs, after, shown.split, shown.tracked, shown.touched, shown.untouched,
      shown.value, ?_⟩
    intro unwritten
    -- Without a write the registers are still those of that reading.
    rw [shown.value]
    apply decode_congr
    intro a own
    have kept : (run (before ++ [.update newRegs] ++ after)).registers a =
        (run (before ++ [.update newRegs])).registers a := registers_kept shown.untouched unwritten own
    rw [shown.split, ← kept]
    simp

/-- A percentage, read twice. -/
def batterySoc : StateSensor where
  address := [184]
  name := "Battery SOC"
  bitmask := 0
  discrete := false
  regToValue regs := .num (regs.headD 0 : Nat)

def socReadings : List StateEvent := [.track batterySoc,
  .update fun a => if a = 184 then some 75 else none, .update fun a => if a = 184 then some 76 else none]

theorem mem_socReadings : (batterySoc, .num (76 : Nat)) ∈ (run socReadings).values :=
  List.mem_of_getElem? (i := 0) rfl

theorem values_follow_registers_soc : ∃ before newRegs after,
    socReadings = before ++ .update newRegs :: after ∧ (∃ w, (batterySoc, w) ∈ (run before).values) ∧
      batterySoc.touched newRegs = true := by
  rcases values_follow_registers socReadings batterySoc _ mem_socReadings with
    ⟨empty, -⟩ | ⟨before, newRegs, after, split, tracked, touched, -⟩
  · cases empty
  · exact ⟨before, newRegs, after, split, tracked, touched⟩

/-! ### What the callback is told -/

/-- Calls that lead from one value of a sensor to another, each from the value of the one before. -/
def Linked : ValType → List Change → ValType → Prop
  | v, [], w => w = v
  | v, c :: rest, w => c.old = v ∧ c.new ≠ v ∧ Linked c.new rest w

theorem Linked.append {u w : ValType} {calls more : List Change} (first : Linked u calls v)
    (later : Linked v more w) : Linked u (calls ++ more) w := by
  induction calls generalizing u with
  | nil =>
    have same : v = u := first
    rwa [List.nil_append, ← same]
  | cons c rest ih => exact ⟨first.1, first.2.1, ih first.2.2⟩

/-- The calls for a sensor. -/
def callsFor (key : SensorKey) (calls : List Change) : List Change :=
  calls.filter fun c => c.sensor.key = key

/-- What each entry of a table contributes, under the entry's own key. -/
theorem filter_filterMap_of_nodup {α β κ : Type*} [DecidableEq κ] {key : α → κ} {key' : β → κ}
    {f : α → Option β} (own : ∀ a b, f a = some b → key' b = key a) {l : List α}
    (distinct : (l.map key).Nodup) {a : α} (member : a ∈ l) :
    (l.filterMap f).filter (fun b => key' b = key a) = (f a).toList := by
  induction l with
  | nil => exact absurd member List.not_mem_nil
  | cons x rest ih =>
    obtain ⟨fresh, distinct⟩ := List.nodup_cons.mp (by simpa using distinct : (key x :: rest.map key).Nodup)
    rcases List.mem_cons.mp member with rfl | behind
    · -- No later entry has the key, so none contributes under it.
      have others : (rest.filterMap f).filter (fun b => key' b = key a) = [] := by
        apply List.filter_eq_nil_iff.mpr
        intro b made
        obtain ⟨y, later, some⟩ := List.mem_filterMap.mp made
        have different : key y ≠ key a := fun same => fresh (same ▸ List.mem_map_of_mem later)
        simpa [own y b some] using different
      cases here : f a with
      | none => simpa [here] using others
      | some b => simp [here, own a b here, others]
    · have different : key x ≠ key a := fun same => fresh (same ▸ List.mem_map_of_mem behind)
      cases here : f x with
      | none => simpa [here] using ih distinct behind
      | some b => simpa [here, own x b here, different] using ih distinct behind

theorem callsFor_changes (distinct : (st.values.map fun entry => entry.1.key).Nodup)
    {entry : StateSensor × ValType} (member : entry ∈ st.values) :
    callsFor entry.1.key (st.changes newRegs) =
      if st.refreshed newRegs entry = entry.2 then []
      else [⟨entry.1, st.refreshed newRegs entry, entry.2⟩] := by
  unfold callsFor changes
  have own (entry : StateSensor × ValType) (c : Change) (made : (if st.refreshed newRegs entry = entry.2
      then none else some ⟨entry.1, st.refreshed newRegs entry, entry.2⟩) = some c) :
      c.sensor.key = entry.1.key := by
    split at made
    · cases made
    · cases made
      rfl
  rw [filter_filterMap_of_nodup own distinct member]
  split <;> simp_all

theorem reported_append_singleton (events : List StateEvent) (e : StateEvent) (st : InverterState) :
    reported (events ++ [e]) st = reported events st ++ (events.foldl step st).told e := by
  induction events generalizing st with
  | nil => simp [reported]
  | cons first events ih => simp [reported, ih]

theorem callsFor_changes_of_unknown {key : SensorKey}
    (unknown : ∀ entry ∈ st.values, entry.1.key ≠ key) : callsFor key (st.changes newRegs) = [] := by
  apply List.filter_eq_nil_iff.mpr
  intro c made
  obtain ⟨entry, member, some⟩ := List.mem_filterMap.mp made
  split at some
  · cases some
  · cases some
    simpa using unknown entry member

theorem callsFor_reported_append (key : SensorKey) (events : List StateEvent) (e : StateEvent) :
    callsFor key (reported (events ++ [e]) initial) =
      callsFor key (reported events initial) ++ callsFor key ((run events).told e) := by
  simp [reported_append_singleton, callsFor, run]

theorem tracked_step {e : StateEvent} {key : SensorKey}
    (unknown : ∀ entry ∈ (st.step e).values, entry.1.key ≠ key) :
    ∀ entry ∈ st.values, entry.1.key ≠ key := by
  intro entry member
  cases e with
  | wrote address value => exact unknown entry member
  | update newRegs =>
    exact unknown (entry.1, st.refreshed newRegs entry) (List.mem_map.mpr ⟨entry, member, rfl⟩)
  | track t =>
    apply unknown entry
    rcases track_cases st t with same | ⟨-, new⟩
    · simpa [step, same] using member
    · simp [step, new, member]

/-- Nothing is told of a sensor that is not tracked. -/
theorem callsFor_eq_nil {key : SensorKey} (events : List StateEvent)
    (unknown : ∀ entry ∈ (run events).values, entry.1.key ≠ key) :
    callsFor key (reported events initial) = [] := by
  induction events using List.reverseRecOn with
  | nil => rfl
  | append_singleton events e ih =>
    rw [run_append_singleton] at unknown
    have before := tracked_step unknown
    rw [callsFor_reported_append, ih before]
    cases e with
    | update newRegs => exact callsFor_changes_of_unknown before
    | track t => rfl
    | wrote address value => rfl

/-- **The callback can follow every sensor.** The calls for a tracked sensor lead from nothing to
the value it shows: each starts from the value of the call before, and each brings another value. -/
theorem changes_linked (events : List StateEvent) (s : StateSensor) (v : ValType)
    (tracked : (s, v) ∈ (run events).values) :
    Linked .none (callsFor s.key (reported events initial)) v := by
  induction events using List.reverseRecOn generalizing v with
  | nil => simp [run, initial] at tracked
  | append_singleton events e ih =>
    rw [run_append_singleton] at tracked
    rw [callsFor_reported_append]
    cases e with
    | wrote address value => simpa [told, callsFor] using ih v tracked
    | track t =>
      simp only [step, told, callsFor, List.filter_nil, List.append_nil] at tracked ⊢
      rcases track_cases (run events) t with same | ⟨unknown, new⟩
      · exact ih v (same ▸ tracked)
      · rw [new] at tracked
        rcases List.mem_append.mp tracked with old | fresh
        · exact ih v old
        · cases List.mem_singleton.mp fresh
          -- Before it was tracked there was no call for it.
          have none := callsFor_eq_nil events unknown
          rw [callsFor] at none
          rw [none]
          rfl
    | update newRegs =>
      simp only [step, update_values, List.mem_map] at tracked
      obtain ⟨entry, known, same⟩ := tracked
      obtain ⟨rfl, rfl⟩ := Prod.mk.inj same
      -- The calls so far lead to the old value, from which one more may lead on.
      apply (ih entry.2 known).append
      rw [told, callsFor_changes (keys_nodup events) known]
      split
      case isTrue unchanged => exact unchanged
      case isFalse changed => exact ⟨rfl, changed, rfl⟩

theorem changes_linked_soc :
    Linked .none (callsFor batterySoc.key (reported socReadings initial)) (.num (76 : Nat)) :=
  changes_linked socReadings batterySoc _ mem_socReadings

end InverterState

end HHModbus
