import HHModbus.SunsynkConnector

/-!
# Settings that share registers

`write_sensor` reads a register before it writes a setting that has some of its bits only. Over
whole runs the writes come to what they are meant as: each sets the bits of its own setting.
-/
namespace HHModbus

open Transition

/-! ### `patch_bitmask` -/

theorem add_eq_or_of_disjoint {a b : Nat} (fits : a + b < 65536) (disjoint : a &&& b = 0) :
    a + b = a ||| b := by
  have smallA : a < 65536 := by omega
  have smallB : b < 65536 := by omega
  -- The lemma is one of bit vectors, and both numbers fit a word.
  have sum : BitVec.ofNat 16 a + BitVec.ofNat 16 b = BitVec.ofNat 16 a ||| BitVec.ofNat 16 b := by
    apply BitVec.add_eq_or_of_and_eq_zero
    apply BitVec.eq_of_toNat_eq
    simp [Nat.mod_eq_of_lt smallA, Nat.mod_eq_of_lt smallB, disjoint]
  have numbers := congrArg BitVec.toNat sum
  simpa [Nat.mod_eq_of_lt smallA, Nat.mod_eq_of_lt smallB, Nat.mod_eq_of_lt fits] using numbers

/-- The patch within the mask, the old value outside. -/
theorem testBit_patchBitmask {mask : Nat} (fits : mask < 65536) (value patch : Nat) {bit : Nat}
    (word : bit < 16) : (patchBitmask value patch mask).testBit bit =
      if mask.testBit bit then patch.testBit bit else value.testBit bit := by
  have outside (i : Nat) : (0xFFFF - mask).testBit i = (decide (i < 16) && !mask.testBit i) := by
    have complement := Nat.testBit_two_pow_sub_succ (n := 16) fits i
    rwa [show 2 ^ 16 - (mask + 1) = 0xFFFF - mask by omega] at complement
  -- No bit is within the mask and outside, so the sum has no carry.
  have disjoint : (patch &&& mask) &&& (value &&& (0xFFFF - mask)) = 0 := by
    apply Nat.eq_of_testBit_eq
    intro i
    simp only [Nat.testBit_and, outside, Nat.zero_testBit]
    cases mask.testBit i <;> simp
  have small : (patch &&& mask) + (value &&& (0xFFFF - mask)) < 65536 := by
    have left : patch &&& mask ≤ mask := Nat.and_le_right
    have right : value &&& (0xFFFF - mask) ≤ 0xFFFF - mask := Nat.and_le_right
    omega
  rw [patchBitmask, add_eq_or_of_disjoint small disjoint]
  simp only [Nat.testBit_or, Nat.testBit_and, outside, word]
  cases mask.testBit bit <;> simp

/-! ### What writes are meant as -/

/-- The bits of its registers that a setting has. -/
def Setting.owns (s : Setting) (bit : Nat) : Bool := s.bitmask == 0 || s.bitmask.testBit bit

theorem Setting.headD_reg (s : Setting) (regs : List Nat) {bit : Nat} (own : s.owns bit = true) :
    ((s.reg regs).headD 0).testBit bit = (regs.headD 0).testBit bit := by
  cases regs with
  | nil => rfl
  | cons r rest =>
    simp only [Setting.reg, regWithin]
    split
    case isTrue masked =>
      have within : s.bitmask.testBit bit = true := by simpa [Setting.owns, masked.1] using own
      simp [Nat.testBit_and, within]
    case isFalse => rfl

namespace Connector

/-- The registers of the units, bit by bit. -/
abbrev UnitBits := Nat → Nat → Nat → Bool

def bits (c : Connector) : UnitBits := fun u a bit => (c.units u a).getLsbD bit

/-- A write sets the bits of its setting, and nothing else. -/
def Exchange.apply (bits : UnitBits) : Exchange → UnitBits
  | .written unit s address value true => fun u a bit =>
    if u = unit ∧ a = address ∧ s.owns bit = true then value.testBit bit else bits u a bit
  | .moved unit address value => fun u a bit =>
    if u = unit ∧ a = address then value.testBit bit else bits u a bit
  | .written _ _ _ _ false | .answered _ _ _ | .begun _ _ _ => bits

/-- The operation that was begun last, with the state that its inverter had then. -/
def lastBegun (seen : List Exchange) : Option (Nat × Operation × InverterState) :=
  seen.foldl (fun old e =>
    match e with
    | .begun inverter op st => some (inverter, op, st)
    | .answered _ _ _ | .written _ _ _ _ _ | .moved _ _ _ => old) none

/-- The bits of the setting in the value are those that the command stands for which is being carried
out: that of the operation that was begun last, by an inverter with the unit. -/
def Commanded (options : ConnectorOptions) (seen : List Exchange) (unit : Nat) (s : Setting)
    (address value : Nat) : Prop :=
  ∃ inverter text st regs r, lastBegun seen = some (inverter, .writeSensor s text, st) ∧
    options.modbusId inverter = unit ∧ s.valueToReg text st = some regs ∧
    (address, r) ∈ s.address.zip regs ∧
    ∀ bit < 16, s.owns bit = true → value.testBit bit = r.testBit bit

variable {options : ConnectorOptions} {start : UnitBits} {seen : List Exchange} {c c' : Connector} {s : Setting}

theorem lastBegun_append_singleton (seen : List Exchange) (e : Exchange) :
    lastBegun (seen ++ [e]) =
      match e with
      | .begun inverter op st => some (inverter, op, st)
      | .answered _ _ _ | .written _ _ _ _ _ | .moved _ _ _ => lastBegun seen := by
  cases e <;> simp [lastBegun]

/-- What was begun last is one of the operations that were begun. -/
theorem mem_of_lastBegun {inverter : Nat} {op : Operation} {st : InverterState}
    (last : lastBegun seen = some (inverter, op, st)) : .begun inverter op st ∈ seen := by
  induction seen using List.reverseRecOn with
  | nil => cases last
  | append_singleton seen e ih =>
    rw [lastBegun_append_singleton] at last
    cases e with
    | begun j op' st' =>
      cases last
      simp
    | answered | written | moved => exact List.mem_append_left _ (ih last)

/-- What holds of the units, of what was written, and of the job between its requests. -/
structure Atomic (options : ConnectorOptions) (start : UnitBits) (seen : List Exchange) (c : Connector) :
    Prop where
  memory : ∀ u a bit, bit < 16 → c.bits u a bit = seen.foldl Exchange.apply start u a bit
  faithful : ∀ before unit s a v applied after, seen = before ++ .written unit s a v applied :: after →
    Commanded options before unit s a v
  fetching : ∀ s regs, c.job = some (.fetching s regs) → s.bitmask ≠ 0 ∧
    ∃ inverter text st regs', lastBegun seen = some (inverter, .writeSensor s text, st) ∧
      options.modbusId inverter = c.serverId ∧ s.valueToReg text st = some regs' ∧
      regs = s.reg regs'
  commanded : ∀ s left, c.job = some (.writing s left) →
    ∀ p ∈ left, Commanded options seen c.serverId s p.1 p.2
  /-- Outside its mask, what is about to be written is what the register holds. -/
  patched : ∀ s left, c.job = some (.writing s left) → s.bitmask ≠ 0 → left.length ≤ 1 ∧
    ∀ p ∈ left, ∀ bit < 16, s.owns bit = false → p.2.testBit bit = c.bits c.serverId p.1 bit

theorem Commanded.address_mem {unit a v : Nat} (commanded : Commanded options seen unit s a v) :
    a ∈ s.address := by
  obtain ⟨-, -, -, regs, r, -, -, -, pair, -⟩ := commanded
  exact (List.of_mem_zip pair).1

theorem Commanded.congr {more : List Exchange} {unit a v : Nat}
    (commanded : Commanded options seen unit s a v) (same : lastBegun more = lastBegun seen) :
    Commanded options more unit s a v := by
  unfold Commanded
  rwa [same]

/-- An exchange is one of those before, or the new one. -/
theorem faithful_concat {e : Exchange}
    (faithful : ∀ before unit s a v applied after, seen = before ++ .written unit s a v applied :: after →
      Commanded options before unit s a v)
    (last : ∀ unit s a v applied, e = .written unit s a v applied → Commanded options seen unit s a v)
    (before : List Exchange) (unit : Nat) (s : Setting) (a v : Nat) (applied : Bool) (after : List Exchange)
    (log : seen ++ [e] = before ++ .written unit s a v applied :: after) :
    Commanded options before unit s a v := by
  rcases List.eq_nil_or_concat after with rfl | ⟨rest, x, rfl⟩
  · obtain ⟨rfl, same⟩ := List.append_inj' log rfl
    exact last unit s a v applied (List.cons.inj same).1
  · rw [List.concat_eq_append, ← List.cons_append, ← List.append_assoc] at log
    obtain ⟨earlier, -⟩ := List.append_inj' log rfl
    exact faithful before unit s a v applied rest earlier

/-- Exchanges that are no writes. -/
theorem faithful_append {more : List Exchange}
    (faithful : ∀ before unit s a v applied after, seen = before ++ .written unit s a v applied :: after →
      Commanded options before unit s a v)
    (quiet : ∀ unit s a v applied, .written unit s a v applied ∉ more) :
    ∀ before unit s a v applied after, seen ++ more = before ++ .written unit s a v applied :: after →
      Commanded options before unit s a v := by
  induction more using List.reverseRecOn with
  | nil => simpa using faithful
  | append_singleton more e ih =>
    have earlier := ih fun unit s a v applied member =>
      quiet unit s a v applied (List.mem_append_left _ member)
    rw [← List.append_assoc]
    refine faithful_concat earlier fun unit s a v applied same => ?_
    exact absurd (by simp [same]) (quiet unit s a v applied)

theorem foldl_answered (start : UnitBits) (unit : Nat) (value : Nat → Nat) (addresses : List Nat) :
    (addresses.map fun a => Exchange.answered unit a (value a)).foldl Exchange.apply start = start := by
  induction addresses generalizing start with
  | nil => rfl
  | cons a rest ih => exact ih start

@[simp] theorem setState_bits (st : InverterState) : (c.setState st).bits = c.bits := rfl

theorem settle_units (job : Job) : (c.settle job).units = c.units := by
  match job with
  | .reading [] newRegs => rfl
  | .writing s [] => rfl
  | .reading (group :: rest) newRegs => rfl
  | .fetching s regs => rfl
  | .writing s (next :: left) => rfl

theorem settle_bits (job : Job) : (c.settle job).bits = c.bits := by
  funext u a bit
  simp only [bits, settle_units]

@[simp] theorem settle_serverId (job : Job) : (c.settle job).serverId = c.serverId := by
  match job with
  | .reading [] newRegs => rfl
  | .writing s [] => rfl
  | .reading (group :: rest) newRegs => rfl
  | .fetching s regs => rfl
  | .writing s (next :: left) => rfl

/-- What a settled job waits with is the job. -/
theorem job_settle {job job' : Job} (busy : (c.settle job).job = some job') : job' = job := by
  match job with
  | .reading [] newRegs => simp [settle] at busy
  | .writing s [] => simp [settle] at busy
  | .reading (group :: rest) newRegs => exact (Option.some.inj busy).symm
  | .fetching s regs => exact (Option.some.inj busy).symm
  | .writing s (next :: left) => exact (Option.some.inj busy).symm

theorem setRegister_bits {u unit a address bit : Nat} (value : Nat) (word : bit < 16) :
    (c.setRegister unit address value).bits u a bit =
      if u = unit ∧ a = address then value.testBit bit else c.bits u a bit := by
  have stored : (BitVec.ofNat 16 value).getLsbD bit = value.testBit bit := by
    rw [BitVec.getLsbD_ofNat]
    simp [word]
  by_cases same : u = unit
  · by_cases register : a = address
    · subst same register
      simpa only [bits, setRegister, Function.update_self, and_self, if_true] using stored
    · simp [bits, setRegister, same, register]
  · simp [bits, setRegister, same]

/-- A write of a setting's bits, beside what the register holds outside of them. -/
theorem storing_bits {address value : Nat}
    (outside : ∀ bit < 16, s.owns bit = false → value.testBit bit = c.bits c.serverId address bit)
    (applied : Bool) {u a bit : Nat} (word : bit < 16) :
    (c.storing address value applied).bits u a bit =
      Exchange.apply c.bits (.written c.serverId s address value applied) u a bit := by
  cases applied with
  | false => rfl
  | true =>
    simp only [storing, if_true, setRegister_bits value word, Exchange.apply]
    -- In the register that is written, the bits outside the mask are written as they were.
    by_cases here : u = c.serverId ∧ a = address
    · obtain ⟨rfl, rfl⟩ := here
      cases own : s.owns bit with
      | true => simp
      | false => simpa using outside bit word own
    · have elsewhere : ¬(u = c.serverId ∧ a = address ∧ s.owns bit = true) :=
        fun all => here ⟨all.1, all.2.1⟩
      rw [if_neg here, if_neg elsewhere]

/-- Memory and records do not depend on the job. -/
theorem Atomic.withJob (atomic : Atomic options start seen c) (same : c'.bits = c.bits)
    (idle : c'.job = none) : Atomic options start seen c' where
  memory u a bit word := by rw [same, atomic.memory u a bit word]
  faithful := atomic.faithful
  fetching := by simp [idle]
  commanded := by simp [idle]
  patched := by simp [idle]

theorem atomic_settle {job : Job}
    (memory : ∀ u a bit, bit < 16 → c.bits u a bit = seen.foldl Exchange.apply start u a bit)
    (faithful : ∀ before unit s a v applied after,
      seen = before ++ .written unit s a v applied :: after → Commanded options before unit s a v)
    (fetching : ∀ s regs, job = .fetching s regs → s.bitmask ≠ 0 ∧
      ∃ inverter text st regs', lastBegun seen = some (inverter, .writeSensor s text, st) ∧
        options.modbusId inverter = c.serverId ∧ s.valueToReg text st = some regs' ∧
        regs = s.reg regs')
    (commanded : ∀ s left, job = .writing s left →
      ∀ p ∈ left, Commanded options seen c.serverId s p.1 p.2)
    (patched : ∀ s left, job = .writing s left → s.bitmask ≠ 0 → left.length ≤ 1 ∧
      ∀ p ∈ left, ∀ bit < 16, s.owns bit = false → p.2.testBit bit = c.bits c.serverId p.1 bit) :
    Atomic options start seen (c.settle job) where
  memory u a bit word := by rw [settle_bits, memory u a bit word]
  faithful := faithful
  fetching s regs busy := by
    rw [settle_serverId]
    exact fetching s regs (job_settle busy).symm
  commanded s left busy := by
    rw [settle_serverId]
    exact commanded s left (job_settle busy).symm
  patched s left busy := by
    rw [settle_serverId, settle_bits]
    exact patched s left (job_settle busy).symm

/-- An unmasked setting has all bits. -/
theorem owns_of_unmasked (whole : s.bitmask = 0) (bit : Nat) : s.owns bit = true := by
  simp [Setting.owns, whole]

theorem atomic_lock {inverter : Nat} {op : Operation} (atomic : Atomic options start seen c)
    (idle : c.job = none) :
    Atomic options start (seen ++ [.begun inverter op (c.states inverter)])
      ((c.lockIo options inverter).start options op) := by
  have memory : ∀ u a bit, bit < 16 → (c.lockIo options inverter).bits u a bit =
      (seen ++ [Exchange.begun inverter op (c.states inverter)]).foldl Exchange.apply start u a bit := by
    intro u a bit word
    rw [List.foldl_append]
    exact atomic.memory u a bit word
  have faithful := faithful_concat (e := .begun inverter op (c.states inverter)) atomic.faithful (by simp)
  have last : lastBegun (seen ++ [.begun inverter op (c.states inverter)]) =
      some (inverter, op, c.states inverter) := lastBegun_append_singleton seen _
  cases op with
  | readSensors sensors => exact atomic_settle memory faithful (by simp) (by simp) (by simp)
  | writeSensor s text =>
    simp only [Connector.start]
    split
    case h_1 =>
      refine ⟨memory, faithful, ?_, ?_, ?_⟩ <;> simp [lockIo, idle]
    case h_2 regs translated =>
      have translated : s.valueToReg text (c.states inverter) = some regs := translated
      split
      -- A masked setting waits for the old value, any other one writes at once.
      case isTrue masked =>
        apply atomic_settle memory faithful _ (by simp) (by simp)
        intro s' regs' same
        cases same
        exact ⟨masked, inverter, text, _, regs, last, rfl, translated, rfl⟩
      case isFalse whole =>
        apply atomic_settle memory faithful (by simp)
        · intro s' left same p member
          cases same
          exact ⟨inverter, text, _, regs, p.2, last, rfl, translated, member, fun _ _ _ => rfl⟩
        · intro s' left same masked
          cases same
          exact absurd masked whole

/-- What is fetched is patched with the bits of the command. -/
theorem commanded_fetched {regs : List Nat} (value : Nat) (masked : s.bitmask ≠ 0)
    {inverter : Nat} {text : String} {st : InverterState} {regs' : List Nat}
    (last : lastBegun seen = some (inverter, .writeSensor s text, st))
    (own : options.modbusId inverter = c.serverId)
    (translated : s.valueToReg text st = some regs') (cut : regs = s.reg regs') {a : Nat}
    (single : s.address = [a]) :
    Commanded options seen c.serverId s a (patchBitmask value (regs.headD 0) s.bitmask) := by
  cases regs' with
  | nil => exact absurd rfl (s.nonempty _ _ _ translated)
  | cons r rest =>
    refine ⟨inverter, text, st, r :: rest, r, last, own, translated, by simp [single], ?_⟩
    intro bit word mine
    have within : s.bitmask.testBit bit = true := by simpa [Setting.owns, masked] using mine
    -- Within the mask the patch is the command, cut to the mask.
    rw [testBit_patchBitmask s.fits _ _ word, if_pos within, cut, s.headD_reg _ mine]
    rfl

/-- One write, carried out or not. -/
theorem atomic_storing {address value : Nat} {left : List (Nat × Nat)} (applied : Bool)
    (atomic : Atomic options start seen c)
    (busy : c.job = some (.writing s ((address, value) :: left))) :
    (∀ u a bit, bit < 16 → (c.storing address value applied).bits u a bit =
      (seen ++ [Exchange.written c.serverId s address value applied]).foldl Exchange.apply start u a bit) ∧
    ∀ before unit s' a v applied' after, seen ++ [.written c.serverId s address value applied] =
      before ++ .written unit s' a v applied' :: after → Commanded options before unit s' a v := by
  -- A setting without a mask has no bit outside, a masked one was patched.
  have outside : ∀ bit < 16, s.owns bit = false →
      value.testBit bit = c.bits c.serverId address bit := by
    intro bit word foreign
    by_cases whole : s.bitmask = 0
    · rw [owns_of_unmasked whole] at foreign
      cases foreign
    · exact (atomic.patched s _ busy whole).2 (address, value) List.mem_cons_self bit word foreign
  constructor
  · intro u a bit word
    rw [storing_bits outside applied word, List.foldl_append]
    have before := atomic.memory u a bit word
    cases applied with
    | false => exact before
    | true => simp only [List.foldl_cons, List.foldl_nil, Exchange.apply, before]
  · refine faithful_concat atomic.faithful fun unit s' a v applied' same => ?_
    cases same
    exact atomic.commanded s _ busy (address, value) List.mem_cons_self

theorem atomic_proceed {job : Job} {r : DriverReply} (atomic : Atomic options start seen c)
    (busy : c.job = some job) (answered : c.proceed job r = some c') :
    Atomic options start (seen ++ c.observe (.reply r)) c' := by
  cases progress_of_proceed answered with
  | read group rest newRegs count =>
    have seen' : (seen ++ c.observe (.reply (.words count))).foldl Exchange.apply start =
        seen.foldl Exchange.apply start := by
      simp [observe, busy, foldl_answered]
    apply atomic_settle _ _ (by simp) (by simp) (by simp)
    · rw [seen']
      exact atomic.memory
    · exact faithful_append atomic.faithful (by simp [observe, busy])
  | readFailed group rest newRegs =>
    have quiet : seen ++ c.observe (.reply .failed) = seen := by simp [observe, busy]
    rw [quiet]
    exact atomic_settle atomic.memory atomic.faithful (by simp) (by simp) (by simp)
  | fetched s regs count =>
    -- The value is patched with the bits of the command, between the answer and the write.
    obtain ⟨masked, inverter, text, st, regs', last, own, translated, cut⟩ := atomic.fetching s regs busy
    obtain ⟨a, single⟩ := s.single masked
    have quiet : seen ++ c.observe (.reply (.words (count + 1))) = seen := by simp [observe, busy]
    rw [quiet]
    apply atomic_settle atomic.memory atomic.faithful (by simp)
    · intro s' left same p member
      cases same
      simp only [single, List.headD_cons, List.zip_cons_cons, List.zip_nil_left, List.mem_singleton]
        at member
      subst member
      exact commanded_fetched _ masked last own translated cut single
    · intro s' left same _
      cases same
      simp only [single, List.headD_cons, List.zip_cons_cons, List.zip_nil_left]
      refine ⟨by simp, ?_⟩
      intro p member bit word foreign
      cases List.mem_singleton.mp member
      -- Outside the mask it is what the unit has just answered.
      have outside : s.bitmask.testBit bit = false := by
        simpa [Setting.owns, masked] using foreign
      rw [testBit_patchBitmask s.fits _ _ word, outside, BitVec.testBit_toNat]
      rfl
  | unfetched s regs r =>
    have quiet : seen ++ c.observe (.reply r) = seen := by simp [observe, busy]
    rw [quiet]
    exact atomic.withJob rfl rfl
  | stored s address value left applied =>
    obtain ⟨memory, faithful⟩ := atomic_storing applied atomic busy
    have sent : c.observe (.reply (.returned applied)) = [.written c.serverId s address value applied] := by
      simp [observe, busy]
    rw [sent]
    apply atomic_settle _ faithful (by simp)
    · intro s' left' same p member
      cases same
      have commanded := atomic.commanded s _ busy p (List.mem_cons_of_mem _ member)
      simpa [setState] using commanded.congr (lastBegun_append_singleton seen _)
    · intro s' left' same masked
      cases same
      -- A masked setting has one register, which is written now.
      have last := (atomic.patched s _ busy masked).1
      have none : left = [] := List.length_eq_zero_iff.mp (by simpa using last)
      simp [none]
    · exact memory
  | storeRaised s address value left applied =>
    obtain ⟨memory, faithful⟩ := atomic_storing applied atomic busy
    have sent : c.observe (.reply (.raised applied)) = [.written c.serverId s address value applied] := by
      simp [observe, busy]
    rw [sent]
    exact ⟨memory, faithful, by simp, by simp, by simp⟩

/-- While a setting that has some of the bits of its register is about to be written, the unit does not
move this register: it holds what has been read of it. -/
def Undisturbed (c : Connector) : ConnectorAction → Prop
  | .move unit address _ => ∀ s left, c.job = some (.writing s left) → s.bitmask ≠ 0 → unit = c.serverId →
      address ∉ left.map Prod.fst
  | .lock _ _ | .reply _ => True

/-- Nobody else moves a register in the middle of a write. -/
def Calm (options : ConnectorOptions) (c : Connector) (acts : List ConnectorAction) : Prop :=
  Along (step options) (fun c a _ => c.Undisturbed a) c acts

theorem atomic_move {unit address value : Nat} (calm : c.Undisturbed (.move unit address value))
    (atomic : Atomic options start seen c) :
    Atomic options start (seen ++ [.moved unit address value]) (c.setRegister unit address value) where
  memory u a bit word := by
    have before := atomic.memory u a bit word
    simp only [List.foldl_append, List.foldl_cons, List.foldl_nil, Exchange.apply, ← before,
      setRegister_bits value word]
  faithful := faithful_concat atomic.faithful (by simp)
  fetching s regs busy := by
    rw [lastBegun_append_singleton]
    exact atomic.fetching s regs busy
  commanded s left busy p member :=
    (atomic.commanded s left busy p member).congr (lastBegun_append_singleton seen _)
  patched s left busy masked := by
    obtain ⟨short, outside⟩ := atomic.patched s left busy masked
    refine ⟨short, ?_⟩
    intro p member bit word foreign
    rw [outside p member bit word foreign]
    -- The register that has moved is not the one that was fetched.
    have other : ¬(c.serverId = unit ∧ p.1 = address) := by
      rintro ⟨rfl, rfl⟩
      exact calm s left busy masked rfl (List.mem_map_of_mem member)
    rw [setRegister_bits value word]
    exact (if_neg other).symm

theorem atomic_step (seen : List Exchange) (c : Connector) (a : ConnectorAction) (c' : Connector)
    (calm : c.Undisturbed a) (atomic : Atomic options start seen c)
    (taken : step options c a = some c') : Atomic options start (seen ++ c.observe a) c' := by
  rcases step_cases taken with ⟨i, op, rfl, idle, rfl⟩ | ⟨r, job, rfl, busy, answered⟩ | ⟨u, ad, v, rfl, rfl⟩
  · exact atomic_lock atomic idle
  · exact atomic_proceed atomic busy answered
  · exact atomic_move calm atomic

theorem atomic_run {acts : List ConnectorAction} (idle : c.job = none) (calm : Calm options c acts)
    (run : exec (step options) c acts = some c') :
    Atomic options c.bits (exchanged options c acts) c' := by
  have initial : Atomic options c.bits [] c :=
    ⟨fun _ _ _ _ => rfl, by simp, by simp [idle], by simp [idle], by simp [idle]⟩
  exact invariant_observed_along atomic_step initial calm run

/-! ### Runs without a move in the middle of a write -/

/-- What is fetched or written was asked for, and is written to registers of the setting. -/
def Asked (acts : List ConnectorAction) : Job → Prop
  | .reading _ _ => True
  | .fetching s _ => ∃ inverter text, .lock inverter (.writeSensor s text) ∈ acts
  | .writing s left => (∃ inverter text, .lock inverter (.writeSensor s text) ∈ acts) ∧
    ∀ p ∈ left, p.1 ∈ s.address

theorem asked_settle {acts : List ConnectorAction} {job : Job} (asked : Asked acts job)
    (job' : Job) (busy : (c.settle job).job = some job') : Asked acts job' :=
  job_settle busy ▸ asked

theorem asked_step {acts : List ConnectorAction} {a : ConnectorAction} (member : a ∈ acts)
    (before : ∀ job, c.job = some job → Asked acts job) (taken : step options c a = some c') :
    ∀ job, c'.job = some job → Asked acts job := by
  have zipped (s : Setting) (regs : List Nat) : ∀ p ∈ s.address.zip regs, p.1 ∈ s.address :=
    fun p inside => (List.of_mem_zip inside).1
  rcases step_cases taken with ⟨i, op, rfl, idle, rfl⟩ | ⟨r, job, rfl, busy, answered⟩ | ⟨u, ad, v, rfl, rfl⟩
  · cases op with
    | readSensors sensors => exact asked_settle trivial
    | writeSensor s text =>
      simp only [Connector.start]
      split
      case h_1 => exact before
      case h_2 regs _ =>
        split
        case isTrue => exact asked_settle ⟨i, text, member⟩
        case isFalse => exact asked_settle ⟨⟨i, text, member⟩, zipped s regs⟩
  · have asked := before job busy
    cases progress_of_proceed answered with
    | read | readFailed => exact asked_settle trivial
    | fetched s regs count => exact asked_settle ⟨asked, zipped s _⟩
    | unfetched | storeRaised =>
      intro job' busy'
      cases busy'
    | stored s address value left applied =>
      exact asked_settle ⟨asked.1, fun p inside => asked.2 p (List.mem_cons_of_mem _ inside)⟩
  · exact before

/-- A run is calm if no register ever moves that a setting with a mask is in. -/
theorem calm_of_elsewhere {acts : List ConnectorAction} (idle : c.job = none)
    (elsewhere : ∀ unit address value, .move unit address value ∈ acts →
      ∀ inverter s text, .lock inverter (.writeSensor s text) ∈ acts → s.bitmask ≠ 0 → address ∉ s.address) :
    Calm options c acts := by
  refine along_of_invariant (I := fun c => ∀ job, c.job = some job → Asked acts job) ?_ (by simp [idle])
    (along_of_forall_mem (P := (· ∈ acts)) fun _ member => member)
  intro m a m' asked taken member
  refine ⟨asked_step member asked taken, ?_⟩
  cases a with
  | lock | reply => trivial
  | move unit address value =>
    intro s left busy masked _ inside
    obtain ⟨⟨inverter, text, issued⟩, own⟩ := asked _ busy
    obtain ⟨p, member', rfl⟩ := List.mem_map.mp inside
    exact elsewhere unit p.1 value member inverter s text issued masked (own p member')

/-- **Settings in one register do not disturb each other.** In every run over a connector, however
the operations of its inverters follow each other and whatever requests fail, the registers of the
units are what the writes that were carried out and the units themselves make of them, each write
setting the bits of its own setting only; and the bits that a write sets are those of the command that
is being carried out, by an inverter with that unit. -/
theorem writes_set_own_bits (options : ConnectorOptions) (c c' : Connector)
    (acts : List ConnectorAction) (idle : c.job = none) (calm : Calm options c acts)
    (run : exec (step options) c acts = some c') :
    (∀ unit address bit, bit < 16 → c'.bits unit address bit =
      (exchanged options c acts).foldl Exchange.apply c.bits unit address bit) ∧
    ∀ before unit s address value applied after,
      exchanged options c acts = before ++ .written unit s address value applied :: after →
        Commanded options before unit s address value := by
  have atomic := atomic_run idle calm run
  exact ⟨atomic.memory, atomic.faithful⟩

/-- The timer's register moves before the write has read it, and another one afterwards. -/
def timersMoved : List ConnectorAction := [
  .lock 1 (.writeSensor useTimer "ON"), .move 2 248 6, .reply (.words 1), .move 2 250 800,
  .reply (.returned true)]

theorem writes_set_own_bits_timers :
    ∃ c', exec (step twoInverters) idleConnector timersMoved = some c' ∧ c'.units 2 248 = 7 ∧
      c'.bits 2 248 0 = (exchanged twoInverters idleConnector timersMoved).foldl Exchange.apply
        idleConnector.bits 2 248 0 := by
  have calm : Calm twoInverters idleConnector timersMoved := by
    rintro _ ⟨⟩
    refine ⟨trivial, ?_⟩
    rintro _ ⟨⟩
    -- The first move comes before the register has been read, the second one is elsewhere.
    refine ⟨nofun, ?_⟩
    rintro _ ⟨⟩
    refine ⟨trivial, ?_⟩
    rintro _ ⟨⟩
    refine ⟨?_, ?_⟩
    · rintro s left busy masked own
      cases busy
      decide
    · rintro _ ⟨⟩
      exact ⟨trivial, trivial⟩
  refine ⟨_, rfl, by decide, ?_⟩
  exact (writes_set_own_bits twoInverters idleConnector _ timersMoved rfl calm rfl).1 2 248 0 (by decide)

end Connector

end HHModbus
