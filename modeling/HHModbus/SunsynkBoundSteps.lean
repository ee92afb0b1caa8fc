import HHModbus.SunsynkBounds
import HHModbus.SunsynkCommands
import HHModbus.SunsynkNewest

/-!
# Numbers are written one after the other

What holds of an inverter's numbers at any time: its state shows what the unit has, but for a number
that was written and is still to be read back. So what is written next is cut to the bounds as they
are, whatever the other inverters on the connector do.
-/
namespace HHModbus

open Transition

variable {table : List NumberRWSensor}

/-- The callback has the lock. -/
def CallbackPhase.holds : CallbackPhase → Bool
  | .writing _ | .readingBack _ | .polling _ => true
  | _ => false

namespace Connector

/-- What the registers of a unit hold. -/
def words (c : Connector) (unit : Nat) : Nat → Nat := fun a => (c.units unit a).toNat

end Connector

/-- What is gathered, or comes first in one of the groups. -/
def Expected (x : NumberRWSensor) (groups : List (List Nat)) (newRegs : Registers) : Prop :=
  newRegs x.register ≠ none ∨ ∃ group ∈ groups, group ≠ [] ∧ group.headD 0 = x.register

/-- The number was written, and is still to be read back. -/
def Pending (float : String → Option ℚ) (x : NumberRWSensor) (c : Connector) : CallbackPhase → Prop
  | .toReadBack s => s = x.setting float
  | .readingBack _ | .polling _ => ∃ groups newRegs, c.job = some (.reading groups newRegs) ∧ Expected x groups newRegs
  | _ => False

/-- What is to be written leaves the numbers alone, or is one of them within its bounds. -/
def Proper (float : String → Option ℚ) (table : List NumberRWSensor) (registers : Nat → Nat) (s : Setting)
    (left : List (Nat × Nat)) : Prop :=
  (∀ entry ∈ left, ∀ x ∈ table, entry.1 ≠ x.register) ∨
    ∃ x ∈ table, s = x.setting float ∧ ∃ v, left = [(x.register, v)] ∧ v < 65536 ∧
      x.min.at registers ≤ v ∧ v ≤ x.max.at registers

/-- The state shows the numbers as the unit has them, but for one that is still to be read back. -/
def Followed (float : String → Option ℚ) (table : List NumberRWSensor) (unit i : Nat) (c : Connector)
    (p : CallbackPhase) : Prop :=
  ∀ x ∈ table, (∃ n, (c.states i).Shows x n) ∧
    ((c.states i).Shows x (c.words unit x.register) ∨ Pending float x c p)

/-- What holds at any time of an inverter, of the connector and of the phase of its callback. -/
structure Guarded (options : ConnectorOptions) (float : String → Option ℚ) (table : List NumberRWSensor) (i : Nat)
    (c : Connector) (p : CallbackPhase) : Prop where
  inside : InBounds table (c.words (options.modbusId i))
  held : c.job ≠ none → c.serverId = options.modbusId c.active
  turn : p.holds = true ↔ c.job ≠ none ∧ c.active = i
  reading : c.active = i → ∀ groups newRegs, c.job = some (.reading groups newRegs) →
    (∀ s, p ≠ .writing s) ∧ ∀ x ∈ table, ∀ v, newRegs x.register = some v → v = c.words (options.modbusId i) x.register
  fetching : c.active = i → ∀ s regs, c.job = some (.fetching s regs) →
    p = .writing s ∧ s.address ≠ [] ∧ ∀ x ∈ table, x.register ∉ s.address
  writing : c.active = i → ∀ s left, c.job = some (.writing s left) →
    p = .writing s ∧ Proper float table (c.words (options.modbusId i)) s left
  followed : Followed float table (options.modbusId i) i c p

variable {options : ConnectorOptions} {float : String → Option ℚ} {i : Nat} {c c' : Connector} {p p' : CallbackPhase}

/-- While the inverter does not have the lock, nothing is asked of a job. -/
theorem guarded_unlocked (inside : InBounds table (c.words (options.modbusId i)))
    (held : c.job ≠ none → c.serverId = options.modbusId c.active) (free : p.holds = false)
    (idle : ¬(c.job ≠ none ∧ c.active = i)) (followed : Followed float table (options.modbusId i) i c p) :
    Guarded options float table i c p where
  inside := inside
  held := held
  turn := by simpa [free] using idle
  reading active groups newRegs job := absurd ⟨by simp [job], active⟩ idle
  fetching active s regs job := absurd ⟨by simp [job], active⟩ idle
  writing active s left job := absurd ⟨by simp [job], active⟩ idle
  followed := followed

/-- Another inverter's operation. -/
theorem Guarded.foreign (guarded : Guarded options float table i c p) (c' : Connector) (free : p.holds = false)
    (held : c'.job ≠ none → c'.serverId = options.modbusId c'.active) (other : c'.active ≠ i ∨ c'.job = none)
    (state : c'.states i = c.states i)
    (words : c'.words (options.modbusId i) = c.words (options.modbusId i)) :
    Guarded options float table i c' p := by
  -- Whoever has the lock now, it is not this inverter.
  have idle : ¬(c'.job ≠ none ∧ c'.active = i) := by
    rintro ⟨busy, active⟩
    rcases other with different | done
    · exact different active
    · exact busy done
  refine guarded_unlocked ?_ held free idle ?_
  · rw [words]
    exact guarded.inside
  · intro x member
    -- The state and the unit are as they were; what is pending does not depend on the job.
    have before := guarded.followed x member
    rw [state, words]
    refine ⟨before.1, before.2.imp_right ?_⟩
    intro pending
    cases p <;> first | exact pending | cases free

/-- Where the callback is after a step of its operation. -/
def CallbackPhase.onward (p : CallbackPhase) (raised : Bool) (c : Connector) : CallbackPhase :=
  if c.job.isNone then p.unlocked raised else p

/-- A reading goes on, or ends with all numbers shown. -/
theorem guarded_reading {groups : List (List Nat)} {newRegs : Registers} (raised : Bool)
    (inside : InBounds table (c.words (options.modbusId i))) (held : c.serverId = options.modbusId c.active)
    (active : c.active = i) (phase : (∃ failed, p = .readingBack failed) ∨ ∃ failed, p = .polling failed)
    (heard : ∀ x ∈ table, ∀ v, newRegs x.register = some v → v = c.words (options.modbusId i) x.register)
    (followed : ∀ x ∈ table, (∃ n, (c.states i).Shows x n) ∧
      ((c.states i).Shows x (c.words (options.modbusId i) x.register) ∨ Expected x groups newRegs)) :
    Guarded options float table i (c.settle (.reading groups newRegs))
      (p.onward raised (c.settle (.reading groups newRegs))) := by
  cases groups with
  | nil =>
    -- The reading is over, and the lock with it.
    have quiet : (p.unlocked raised).holds = false ∧ ∀ x c', ¬Pending float x c' (p.unlocked raised) := by
      rcases phase with ⟨failed, rfl⟩ | ⟨failed, rfl⟩
      · cases failed <;> exact ⟨rfl, fun _ _ => id⟩
      · exact ⟨rfl, fun _ _ => id⟩
    apply guarded_unlocked
    · exact inside
    · exact fun busy => absurd rfl busy
    · simpa [CallbackPhase.onward, Connector.settle] using quiet.1
    · exact fun locked => locked.1 rfl
    · intro x member
      obtain ⟨⟨n, shown⟩, current⟩ := followed x member
      have after : (c.state.update newRegs).Shows x (c.words (options.modbusId i) x.register) := by
        rw [Connector.state, active]
        -- The number was shown, or is among what was gathered; no group is left to bring it.
        rcases current with current | gathered | ⟨group, none_, -⟩
        · exact shows_update current (fun w new => heard x member w new) fun _ => rfl
        · exact shows_update shown (fun w new => heard x member w new) fun missing => absurd missing gathered
        · cases none_
      have state : (c.settle (.reading [] newRegs)).states i = c.state.update newRegs := by
        simp [Connector.settle, Connector.setState, active]
      rw [state]
      exact ⟨⟨_, after⟩, .inl after⟩
  | cons group rest =>
    have job : (c.settle (.reading (group :: rest) newRegs)).job = some (.reading (group :: rest) newRegs) := rfl
    -- There is a group to be asked for, so the callback stays where it is.
    have same : p.onward raised (c.settle (.reading (group :: rest) newRegs)) = p := by
      simp [CallbackPhase.onward, job]
    rw [same]
    constructor
    · exact inside
    · exact fun _ => held
    · have holds : p.holds = true := by rcases phase with ⟨failed, rfl⟩ | ⟨failed, rfl⟩ <;> rfl
      simp only [holds, job, true_iff]
      exact ⟨by simp, active⟩
    · intro _ groups newRegs' busy
      cases busy
      refine ⟨?_, heard⟩
      rintro s rfl
      rcases phase with ⟨failed, same⟩ | ⟨failed, same⟩ <;> cases same
    · intro _ s regs busy
      cases busy
    · intro _ s left busy
      cases busy
    · intro x member
      obtain ⟨tracked, current⟩ := followed x member
      refine ⟨tracked, current.imp_right ?_⟩
      intro expected
      rcases phase with ⟨failed, rfl⟩ | ⟨failed, rfl⟩
      · exact ⟨group :: rest, newRegs, rfl, expected⟩
      · exact ⟨group :: rest, newRegs, rfl, expected⟩

/-- A write goes on, or is over and to be read back. -/
theorem guarded_writing {s : Setting} {left : List (Nat × Nat)} {raised : Bool} (finished : left = [] → raised = false)
    (inside : InBounds table (c.words (options.modbusId i))) (held : c.serverId = options.modbusId c.active)
    (active : c.active = i) (proper : Proper float table (c.words (options.modbusId i)) s left)
    (followed : ∀ x ∈ table, (∃ n, (c.states i).Shows x n) ∧
      ((c.states i).Shows x (c.words (options.modbusId i) x.register) ∨ left = [] ∧ s = x.setting float)) :
    Guarded options float table i (c.settle (.writing s left))
      ((CallbackPhase.writing s).onward raised (c.settle (.writing s left))) := by
  cases left with
  | nil =>
    -- All is written: the callback goes on to read it back.
    rw [finished rfl]
    apply guarded_unlocked
    · exact inside
    · exact fun busy => absurd rfl busy
    · simp [CallbackPhase.onward, Connector.settle, CallbackPhase.unlocked, CallbackPhase.holds]
    · exact fun locked => locked.1 rfl
    · intro x member
      exact ⟨(followed x member).1, (followed x member).2.imp_right And.right⟩
  | cons next left =>
    have job : (c.settle (.writing s (next :: left))).job = some (.writing s (next :: left)) := rfl
    -- The next register is written with the lock still held.
    have same : (CallbackPhase.writing s).onward raised (c.settle (.writing s (next :: left))) = .writing s := by
      simp [CallbackPhase.onward, job]
    rw [same]
    constructor
    · exact inside
    · exact fun _ => held
    · simp only [CallbackPhase.holds, job, true_iff]
      exact ⟨by simp, active⟩
    · intro _ groups newRegs busy
      cases busy
    · intro _ s regs busy
      cases busy
    · intro _ s' left' busy
      cases busy
      exact ⟨rfl, proper⟩
    · intro x member
      refine ⟨(followed x member).1, .inl ?_⟩
      rcases (followed x member).2 with shown | ⟨none_, -⟩
      · exact shown
      · cases none_

namespace Connector

/-- An operation of one inverter leaves the others' states and units alone. -/
structure Apart (c c' : Connector) : Prop where
  active : c'.active = c.active
  serverId : c'.serverId = c.serverId
  states : ∀ j ≠ c.active, c'.states j = c.states j
  units : ∀ unit ≠ c.serverId, c'.units unit = c.units unit

theorem apart_settle (job : Job) : c.Apart (c.settle job) := by
  match job with
  | .reading [] newRegs =>
    constructor
    · rfl
    · rfl
    · intro j other
      simp [settle, setState, Function.update_of_ne other]
    · exact fun _ _ => rfl
  | .writing s [] => exact ⟨rfl, rfl, fun _ _ => rfl, fun _ _ => rfl⟩
  | .reading (group :: rest) newRegs => exact ⟨rfl, rfl, fun _ _ => rfl, fun _ _ => rfl⟩
  | .fetching s regs => exact ⟨rfl, rfl, fun _ _ => rfl, fun _ _ => rfl⟩
  | .writing s (next :: left) => exact ⟨rfl, rfl, fun _ _ => rfl, fun _ _ => rfl⟩

theorem apart_start (options : ConnectorOptions) (c : Connector) (op : Operation) : c.Apart (c.start options op) := by
  cases op with
  | readSensors sensors => exact apart_settle _
  | writeSensor s value =>
    simp only [start]
    split
    · exact ⟨rfl, rfl, fun _ _ => rfl, fun _ _ => rfl⟩
    · split
      · exact apart_settle _
      · exact apart_settle _

theorem start_units (op : Operation) : (c.start options op).units = c.units := by
  cases op with
  | readSensors sensors => exact settle_units _
  | writeSensor s value =>
    simp only [start]
    split
    · rfl
    · split
      · exact settle_units _
      · exact settle_units _

theorem storing_units {unit : Nat} (address value : Nat) (applied : Bool) (other : unit ≠ c.serverId) :
    (c.storing address value applied).units unit = c.units unit := by
  cases applied with
  | false => rfl
  | true => simp [storing, setRegister, Function.update_of_ne other]

theorem apart_proceed {job : Job} {r : DriverReply} (answered : c.proceed job r = some c') : c.Apart c' := by
  cases progress_of_proceed answered with
  | read => exact apart_settle _
  | readFailed => exact apart_settle _
  | fetched => exact apart_settle _
  | unfetched => exact ⟨rfl, rfl, fun _ _ => rfl, fun _ _ => rfl⟩
  | stored s address value left applied =>
    have after := apart_settle (c := (c.storing address value applied).setState
      ((c.storing address value applied).state.noteWritten address value)) (.writing s left)
    constructor
    · exact after.active.trans (storing_active address value applied)
    · exact after.serverId.trans (storing_serverId address value applied)
    · intro j other
      rw [after.states j (by simpa [setState] using other)]
      simp [setState, Function.update_of_ne other]
    · intro unit other
      rw [after.units unit (by simpa [setState] using other)]
      exact storing_units address value applied other
  | storeRaised s address value left applied =>
    constructor
    · exact storing_active address value applied
    · exact storing_serverId address value applied
    · intro j _
      simp
    · intro unit other
      exact storing_units address value applied other

theorem words_setRegister {unit a v : Nat} (word : v < 65536) :
    (c.setRegister unit a v).words unit = Function.update (c.words unit) a v := by
  funext b
  by_cases same : b = a
  · subst same
    simp [words, setRegister, Nat.mod_eq_of_lt word]
  · simp [words, setRegister, Function.update_of_ne same]

theorem words_setRegister_of_ne {unit u a v b : Nat} (other : u = unit → b ≠ a) :
    (c.setRegister u a v).words unit b = c.words unit b := by
  by_cases same : unit = u
  · subst same
    simp [words, setRegister, Function.update_of_ne (other rfl)]
  · simp [words, setRegister, Function.update_of_ne same]

end Connector

/-- A setting that is one of the numbers, or shares no register with them. -/
def Allowed (float : String → Option ℚ) (table : List NumberRWSensor) (s : Setting) : Prop :=
  (∃ x ∈ table, s = x.setting float) ∨ ∀ x ∈ table, x.register ∉ s.address

/-- Nothing of the inverter is left to be read back. -/
theorem Followed.shown {unit : Nat} (followed : Followed float table unit i c p)
    (quiet : ∀ x, ¬Pending float x c p) {x : NumberRWSensor} (member : x ∈ table) :
    (c.states i).Shows x (c.words unit x.register) :=
  (followed x member).2.resolve_right (quiet x)

theorem expected_groups (x : NumberRWSensor) (allowGap batchSize : Nat) (newRegs : Registers) :
    Expected x (groupSensors allowGap batchSize [[x.register]]) newRegs := by
  have only (a : Nat) : a ∈ (groupSensors allowGap batchSize [[x.register]]).flatten ↔ a = x.register := by
    rw [mem_flatten_groupSensors]
    simp
  obtain ⟨group, member, inside⟩ := List.mem_flatten.mp ((only x.register).mpr rfl)
  have nonempty := List.ne_nil_of_mem inside
  refine .inr ⟨group, member, nonempty, ?_⟩
  -- The only register that is asked for is the first of its group.
  obtain ⟨first, rest, rfl⟩ := List.exists_cons_of_ne_nil nonempty
  exact (only first).mp (List.mem_flatten_of_mem member List.mem_cons_self)

/-- The inverter gets the lock. -/
theorem guarded_lock {op : Operation} (mutual_ : Mutual table) (guarded : Guarded options float table i c p)
    (free : c.job = none) (wanted : p.operation = some op)
    (allowed : ∀ s value, p = .toWrite s value → Allowed float table s) :
    Guarded options float table i ((c.lockIo options i).start options op)
      (p.locked.onward (Addon.raisesAtOnce (c.states i) op) ((c.lockIo options i).start options op)) := by
  have state : (c.lockIo options i).state = c.states i := rfl
  cases p with
  | toWrite s value =>
    -- Nothing is pending before a write, so the state shows the registers as they are.
    obtain rfl : op = .writeSensor s value := (Option.some.inj wanted).symm
    have shown {x : NumberRWSensor} (member : x ∈ table) := guarded.followed.shown (fun _ => id) member
    cases translated : s.valueToReg value (c.states i) with
    | none =>
      -- The text is no number: the write raises, and the callback ends.
      have same : (c.lockIo options i).start options (.writeSensor s value) = c.lockIo options i := by
        simp [Connector.start, state, translated]
      have raises : Addon.raisesAtOnce (c.states i) (.writeSensor s value) = true := by
        simp [Addon.raisesAtOnce, translated]
      have idle : (CallbackPhase.toWrite s value).locked.onward true (c.lockIo options i) = .idle := by
        simp [CallbackPhase.onward, CallbackPhase.locked, CallbackPhase.unlocked, Connector.lockIo, free]
      rw [same, raises, idle]
      refine guarded_unlocked guarded.inside (fun _ => rfl) rfl ?_ ?_
      · exact fun locked => locked.1 free
      · intro x member
        exact ⟨⟨_, shown member⟩, .inl (shown member)⟩
    | some regs =>
      have goes : Addon.raisesAtOnce (c.states i) (.writeSensor s value) = false := by
        simp [Addon.raisesAtOnce, translated]
      rw [goes]
      simp only [Connector.start, state, translated]
      split
      case isTrue masked =>
        constructor
        · exact guarded.inside
        · exact fun _ => rfl
        · simp [CallbackPhase.onward, CallbackPhase.locked, CallbackPhase.holds, Connector.settle, Connector.lockIo]
        · intro _ groups newRegs job
          cases job
        · intro _ t regs' job
          cases job
          -- A number has no mask, so it is another setting that is fetched.
          obtain ⟨a, single⟩ := s.single masked
          refine ⟨rfl, by simp [single], ?_⟩
          rcases allowed s value rfl with ⟨x, member, rfl⟩ | apart
          · exact absurd rfl masked
          · exact apart
        · intro _ t left job
          cases job
        · intro x member
          exact ⟨⟨_, shown member⟩, .inl (shown member)⟩
      case isFalse whole =>
        refine guarded_writing (c := c.lockIo options i) (fun _ => rfl) guarded.inside rfl rfl ?_ ?_
        · rcases allowed s value rfl with ⟨x, member, rfl⟩ | apart
          · -- One of the numbers is cut to the bounds that the state shows.
            obtain ⟨v, rfl, word, low, high⟩ := valueToReg_between mutual_ guarded.inside
              (fun y inTable => shown inTable) member translated
            exact .inr ⟨x, member, rfl, v, rfl, word, low, high⟩
          · left
            rintro ⟨a, v⟩ inside x member rfl
            exact apart x member (List.of_mem_zip inside).1
        · intro x member
          exact ⟨⟨_, shown member⟩, .inl (shown member)⟩
  | toReadBack s =>
    obtain rfl : op = .readSensors [s.toStateSensor] := (Option.some.inj wanted).symm
    refine guarded_reading (c := c.lockIo options i) _ guarded.inside rfl rfl (.inl ⟨false, rfl⟩) ?_ ?_
    · intro x _ v known
      cases known
    · intro x member
      refine ⟨(guarded.followed x member).1, (guarded.followed x member).2.imp_right ?_⟩
      -- What was written is asked for now.
      rintro rfl
      exact expected_groups x _ _ _
  | toPoll due =>
    obtain rfl : op = .readSensors due := (Option.some.inj wanted).symm
    refine guarded_reading (c := c.lockIo options i) _ guarded.inside rfl rfl (.inr ⟨false, rfl⟩) ?_ ?_
    · intro x _ v known
      cases known
    · intro x member
      exact ⟨(guarded.followed x member).1, .inl (guarded.followed.shown (fun _ => id) member)⟩
  | _ => cases wanted

theorem words_storing (unit address value : Nat) (applied : Bool) {a : Nat} (other : a ≠ address) :
    (c.storing address value applied).words unit a = c.words unit a := by
  cases applied with
  | false => rfl
  | true => exact Connector.words_setRegister_of_ne fun _ => other

/-- A write that was carried out. -/
theorem guarded_stored {s : Setting} {address value : Nat} {left : List (Nat × Nat)} (mutual_ : Mutual table)
    (guarded : Guarded options float table i c (.writing s)) (active : c.active = i)
    (job : c.job = some (.writing s ((address, value) :: left))) :
    let stored := c.storing address value true
    let noted := (stored.setState (stored.state.noteWritten address value)).settle (.writing s left)
    Guarded options float table i noted ((CallbackPhase.writing s).onward false noted) := by
  intro stored noted
  have unit : c.serverId = options.modbusId i := active ▸ guarded.held (by simp [job])
  have shown {x : NumberRWSensor} (member : x ∈ table) := guarded.followed.shown (fun _ => id) member
  -- A noted write changes the registers that the state knows, not the values that it shows.
  have states : ((stored.setState (stored.state.noteWritten address value)).states i).values = (c.states i).values := by
    simp [Connector.setState, stored, active, InverterState.noteWritten, Connector.state]
  have shows_ {x : NumberRWSensor} {n : Nat} (shown : (c.states i).Shows x n) :
      ((stored.setState (stored.state.noteWritten address value)).states i).Shows x n := by
    unfold InverterState.Shows
    rw [states]
    exact shown
  have held : (stored.setState (stored.state.noteWritten address value)).serverId =
      options.modbusId (stored.setState (stored.state.noteWritten address value)).active := by
    simpa [Connector.setState, stored, active] using unit
  have same : (stored.setState (stored.state.noteWritten address value)).active = i := by
    simpa [Connector.setState, stored] using active
  obtain ⟨-, proper⟩ := guarded.writing active s _ job
  rcases proper with apart | ⟨x, member, own, v, single, word, low, high⟩
  · -- The numbers' registers are not written.
    have kept : ∀ x ∈ table, stored.words (options.modbusId i) x.register = c.words (options.modbusId i) x.register :=
      fun x member => words_storing _ _ _ _ fun same => apart (address, value) List.mem_cons_self x member same.symm
    apply guarded_writing (fun _ => rfl)
    · exact inBounds_congr mutual_ kept guarded.inside
    · exact held
    · exact same
    · exact .inl fun entry inside => apart entry (List.mem_cons_of_mem _ inside)
    · intro x member
      refine ⟨⟨_, shows_ (shown member)⟩, .inl ?_⟩
      have before := shows_ (shown member)
      rwa [← kept x member] at before
  · -- One of the numbers, which the state shows as it was.
    obtain ⟨⟨rfl, rfl⟩, rfl⟩ : (address = x.register ∧ value = v) ∧ left = [] := by simpa using single
    have updated : stored.words (options.modbusId i) =
        Function.update (c.words (options.modbusId i)) x.register value := by
      rw [← unit]
      exact Connector.words_setRegister word
    apply guarded_writing (fun _ => rfl)
    · have inside := inBounds_update mutual_ guarded.inside member low high
      rw [← updated] at inside
      exact inside
    · exact held
    · exact same
    · exact .inl fun entry inside => by cases inside
    · intro y inTable
      refine ⟨⟨_, shows_ (shown inTable)⟩, ?_⟩
      -- Only the number itself is pending; the registers of the others have not changed.
      by_cases itself : y = x
      · exact .inr ⟨rfl, itself ▸ own⟩
      · have other : y.register ≠ x.register := fun equal => itself (mutual_.registers y inTable x member equal)
        have kept : stored.words (options.modbusId i) y.register = c.words (options.modbusId i) y.register := by
          rw [updated, Function.update_of_ne other]
        have before := shows_ (shown inTable)
        rw [← kept] at before
        exact .inl before

/-- The inverter's operation gets a reply. -/
theorem guarded_reply {r : DriverReply} {job : Job} (mutual_ : Mutual table)
    (guarded : Guarded options float table i c p) (active : c.active = i) (busy : c.job = some job)
    (success : r.Succeeds) (answered : c.proceed job r = some c') (raised : Bool)
    (returned : ∀ applied, r = .returned applied → raised = false) :
    Guarded options float table i c' ((p.noting r).onward raised c') := by
  have unit : c.serverId = options.modbusId i := active ▸ guarded.held (by simp [busy])
  -- Only a request that fails is noted.
  have noted : p.noting r = p := by
    cases r with
    | failed => exact success.elim
    | _ => cases p <;> rfl
  rw [noted]
  match job, r, answered with
  | .reading (group :: rest) newRegs, .words count, rfl =>
    obtain ⟨noWrite, heard⟩ := guarded.reading active _ _ busy
    have holds : p.holds = true := guarded.turn.mpr ⟨by simp [busy], active⟩
    -- A callback that has the lock and does not write is reading.
    have phase : (∃ failed, p = .readingBack failed) ∨ ∃ failed, p = .polling failed := by
      cases p with
      | writing s => exact absurd rfl (noWrite s)
      | readingBack failed => exact .inl ⟨failed, rfl⟩
      | polling failed => exact .inr ⟨failed, rfl⟩
      | _ => cases holds
    refine guarded_reading raised guarded.inside (guarded.held (by simp [busy])) active phase ?_ ?_
    · intro x member v known
      -- What is gathered was answered now, by the own unit, or before.
      rcases Option.or_eq_some_iff.mp known with new | ⟨-, old⟩
      · unfold Connector.answer at new
        split at new
        · rw [← Option.some.inj new, unit]
          rfl
        · cases new
      · exact heard x member v old
    · intro x member
      obtain ⟨tracked, current⟩ := guarded.followed x member
      refine ⟨tracked, current.imp_right ?_⟩
      intro pending
      have expected : Expected x (group :: rest) newRegs := by
        rcases phase with ⟨failed, rfl⟩ | ⟨failed, rfl⟩
        all_goals
          obtain ⟨groups, newRegs', same, expected⟩ := pending
          rw [busy] at same
          cases same
          exact expected
      -- The number was gathered before, comes with this group, or with a later one.
      rcases expected with gathered | ⟨group', inside, nonempty, first⟩
      · left
        simp [Registers.update, gathered]
      · rcases List.mem_cons.mp inside with rfl | later
        · -- The first word of the group is answered.
          left
          have answered : c.answer (group'.headD 0) (min count (groupLength group')) x.register =
              some (c.units c.serverId x.register).toNat := by
            have some_ : 0 < count := success
            have size : 0 < groupLength group' := Nat.succ_pos _
            apply if_pos
            omega
          rw [Registers.update, answered]
          simp
        · exact .inr ⟨group', later, nonempty, first⟩
  | .fetching s regs, .words (count + 1), rfl =>
    -- The bits of another setting are put into the word that was fetched.
    obtain ⟨rfl, some_, apart⟩ := guarded.fetching active s regs busy
    have shown {x : NumberRWSensor} (member : x ∈ table) := guarded.followed.shown (fun _ => id) member
    refine guarded_writing ?_ guarded.inside (guarded.held (by simp [busy])) active ?_ ?_
    · intro nothing
      rcases List.zip_eq_nil_iff.mp nothing with none_ | none_
      · exact absurd none_ some_
      · cases none_
    · left
      rintro ⟨a, v⟩ inside x member rfl
      exact apart x member (List.of_mem_zip inside).1
    · intro x member
      exact ⟨⟨_, shown member⟩, .inl (shown member)⟩
  | .writing s ((address, value) :: left), .returned applied, rfl =>
    obtain ⟨rfl, -⟩ := guarded.writing active s _ busy
    obtain rfl : applied = true := success
    rw [returned true rfl]
    exact guarded_stored mutual_ guarded active busy

/-- A register of something else changes by itself. -/
theorem Guarded.moved (mutual_ : Mutual table) (guarded : Guarded options float table i c p) {unit address value : Nat}
    (still : unit = options.modbusId i → ∀ x ∈ table, address ≠ x.register) :
    Guarded options float table i (c.setRegister unit address value) p := by
  have kept : ∀ x ∈ table, (c.setRegister unit address value).words (options.modbusId i) x.register =
      c.words (options.modbusId i) x.register := fun x member =>
    Connector.words_setRegister_of_ne fun own same => still own x member same.symm
  constructor
  · exact inBounds_congr mutual_ kept guarded.inside
  · exact guarded.held
  · exact guarded.turn
  · intro active groups newRegs job
    obtain ⟨noWrite, heard⟩ := guarded.reading active groups newRegs job
    refine ⟨noWrite, ?_⟩
    intro x member v known
    rw [kept x member]
    exact heard x member v known
  · exact guarded.fetching
  · intro active s left job
    obtain ⟨phase, proper⟩ := guarded.writing active s left job
    refine ⟨phase, proper.imp_right ?_⟩
    -- The bounds of the write in progress are those of registers that have not moved.
    rintro ⟨x, member, own, v, single, word, low, high⟩
    refine ⟨x, member, own, v, single, word, ?_, ?_⟩
    · rwa [(at_congr mutual_ kept member).1]
    · rwa [(at_congr mutual_ kept member).2]
  · intro x member
    rw [kept x member]
    exact guarded.followed x member

/-- The callback goes on between its operations. -/
theorem Guarded.between (guarded : Guarded options float table i c p) (free : p.holds = false)
    (quiet : ∀ x, ¬Pending float x c p) (free' : p'.holds = false) : Guarded options float table i c p' := by
  have idle : ¬(c.job ≠ none ∧ c.active = i) := by
    rw [← guarded.turn, free]
    simp
  apply guarded_unlocked guarded.inside guarded.held free' idle
  intro x member
  have shown := guarded.followed.shown quiet member
  exact ⟨⟨_, shown⟩, .inl shown⟩

end HHModbus
