import HHModbus.Recovery

/-!
# Which sensors a recovery disables when the link fails

The bisection knows of each probe only whether it was answered in full. A probe that the
inverter rejects and one that gets lost look alike, and one of them, for a single register,
is what a sensor is disabled for.
-/
namespace HHModbus

/-- Some register of the sensor is one that the inverter rejects. -/
def BaseSensor.Touches (rejects : Nat → Bool) (s : BaseSensor) : Prop :=
  ∃ r ∈ s.registrars, rejects r = true

/-- Every reply that arrives is the inverter's: the registers of the block, or a recoverable
exception when it rejects one of them. -/
def ModbusLink.Answers (link : ModbusLink) (rejects : Nat → Bool) : Prop :=
  ∀ attempt start count isHolding,
    link.reply attempt start count isHolding = .unanswered ∨
    ((∀ r ∈ List.range' start count, rejects r = false) ∧
      ∃ registers, link.reply attempt start count isHolding = .values registers ∧
        registers.length = count) ∨
    ((∃ r ∈ List.range' start count, rejects r = true) ∧
      ∃ code, link.reply attempt start count isHolding = .exception code ∧ recoverable code = true)

namespace Probe

def Failed (q : Probe) : Prop := q.reply.covers q.count = false

/-- A probe of one register that gets no answer does no harm when the sensors it is made for
that use the register touch a rejected one anyway. -/
def Harmless (rejects : Nat → Bool) (q : Probe) : Prop :=
  q.count = 1 → q.reply = .unanswered →
    ∀ s ∈ q.group.sensors, q.start ∈ s.registrars → s.Touches rejects

end Probe

namespace Recovery

variable {link : ModbusLink} {isHolding : Bool}

/-- What a bisection has done: probes for its group, answered by the link, and of those for
one register only the last can have failed, which is then the result. -/
structure Bisected (link : ModbusLink) (isHolding : Bool) (g : SensorGroup) (start count : Nat)
    (s : Recovery) (result : Recovery × Option Nat) (made : List Probe) : Prop where
  probes : result.1.probes = s.probes ++ made
  frame : result.1.groups = s.groups ∧ result.1.enabled = s.enabled ∧
    result.1.nextGroup = s.nextGroup ∧ result.1.switchedOff = s.switchedOff
  answered : ∀ q ∈ made, q.group = g ∧ ∃ attempt, q.reply = link.reply attempt q.start q.count isHolding
  failed : ∀ q ∈ made, q.count = 1 → q.Failed → result.2 = some q.start
  found : ∀ bad, result.2 = some bad → (count = 1 ∧ bad = start) ∨
    ∃ q ∈ made, q.count = 1 ∧ q.Failed ∧ q.start = bad

theorem bisected_nil (g : SensorGroup) (start count : Nat) (s : Recovery) (result : Option Nat)
    (found : ∀ bad, result = some bad → count = 1 ∧ bad = start) :
    Bisected link isHolding g start count s (s, result) [] where
  probes := by simp
  frame := ⟨rfl, rfl, rfl, rfl⟩
  answered := by simp
  failed := by simp
  found bad h := .inl (found bad h)

/-- The state after a probe has been made. -/
def asked (s : Recovery) (q : Probe) : Recovery :=
  { s with attempts := s.attempts + 1, probes := s.probes ++ [q] }

/-- The probe as the link answers it. -/
def probe (link : ModbusLink) (isHolding : Bool) (s : Recovery) (g : SensorGroup) (start count : Nat) :
    Probe := ⟨g, start, count, link.reply s.attempts start count isHolding⟩

theorem probeRegisterBlockQuiet_eq (s : Recovery) (g : SensorGroup) (start count : Nat)
    (positive : count ≠ 0) :
    s.probeRegisterBlockQuiet link isHolding g start count =
      (s.asked (probe link isHolding s g start count),
        (probe link isHolding s g start count).reply.covers count) := by
  rw [probeRegisterBlockQuiet, if_neg positive]
  rfl

/-- A probe made before a bisection joins it, provided that its own failure and the blame of
the bisection are accounted for. -/
theorem Bisected.after_probe {g : SensorGroup} {start count at_ size first many : Nat}
    {s : Recovery} {result : Recovery × Option Nat} {made : List Probe}
    (inner : Bisected link isHolding g first many (s.asked (probe link isHolding s g at_ size))
      result made)
    (failed : size = 1 → (probe link isHolding s g at_ size).Failed → result.2 = some at_)
    (found : many = 1 → (count = 1 ∧ first = start) ∨
      size = 1 ∧ (probe link isHolding s g at_ size).Failed ∧ at_ = first) :
    Bisected link isHolding g start count s result (probe link isHolding s g at_ size :: made) where
  probes := by rw [inner.probes, asked, List.append_assoc, List.singleton_append]
  frame := inner.frame
  answered q member := by
    rcases List.mem_cons.mp member with rfl | member
    · exact ⟨rfl, s.attempts, rfl⟩
    · exact inner.answered q member
  failed q member one bad := by
    rcases List.mem_cons.mp member with rfl | member
    · exact failed one bad
    · exact inner.failed q member one bad
  found bad h := by
    rcases inner.found bad h with ⟨one, rfl⟩ | ⟨q, member, rest⟩
    · rcases found one with own | blamed
      · exact .inl own
      · exact .inr ⟨_, List.mem_cons_self, blamed⟩
    · exact .inr ⟨q, List.mem_cons_of_mem _ member, rest⟩

/-- A probe that was answered in full leads nowhere. -/
theorem Bisected.after_good {g : SensorGroup} {start count at_ size : Nat} {s : Recovery}
    {result : Recovery × Option Nat} {made : List Probe}
    (good : (probe link isHolding s g at_ size).reply.covers size = true)
    (inner : Bisected link isHolding g start count (s.asked (probe link isHolding s g at_ size))
      result made) :
    Bisected link isHolding g start count s result
      (probe link isHolding s g at_ size :: made) := by
  apply inner.after_probe
  · intro _ bad
    rw [Probe.Failed] at bad
    exact absurd (good.symm.trans bad) (by simp)
  · exact fun one => .inl ⟨one, rfl⟩

/-- A failed probe is followed by the bisection of its own block, which blames the register
at once when it is a single one. -/
theorem Bisected.after_failed {g : SensorGroup} {start count at_ size : Nat} {s : Recovery}
    {result : Recovery × Option Nat} {made : List Probe}
    (bad : (probe link isHolding s g at_ size).reply.covers size = false)
    (inner : Bisected link isHolding g at_ size (s.asked (probe link isHolding s g at_ size))
      result made)
    (single : size = 1 → result.2 = some at_) :
    Bisected link isHolding g start count s result
      (probe link isHolding s g at_ size :: made) := by
  apply inner.after_probe
  · exact fun one _ => single one
  · exact fun one => .inr ⟨one, bad, rfl⟩

theorem probeEach_bisected (link : ModbusLink) (isHolding : Bool) (g : SensorGroup)
    (start count : Nat) (rs : List Nat) (s : Recovery) :
    ∃ made, Bisected link isHolding g start count s (s.probeEach link isHolding g rs) made := by
  induction rs generalizing s with
  | nil => exact ⟨[], bisected_nil g start count s none (by simp)⟩
  | cons r rest ih =>
    rw [probeEach, probeRegisterBlockQuiet_eq _ _ _ _ (by simp)]
    cases covers : (probe link isHolding s g r 1).reply.covers 1 with
    | true =>
      obtain ⟨made, inner⟩ := ih (s.asked (probe link isHolding s g r 1))
      exact ⟨_, inner.after_good covers⟩
    | false =>
      -- The sweep ends at the first register that fails.
      have stop : Bisected link isHolding g r 1 (s.asked (probe link isHolding s g r 1))
          (s.asked (probe link isHolding s g r 1), some r) [] :=
        bisected_nil g r 1 _ (some r) fun bad h => ⟨rfl, (Option.some.inj h).symm⟩
      exact ⟨_, stop.after_failed covers fun _ => rfl⟩

/-- A single register needs no probe. -/
theorem isolateOneBadRegister_single (g : SensorGroup) (rounds start : Nat) (s : Recovery) :
    isolateOneBadRegister link isHolding g (rounds + 1) start 1 s = (s, some start) := by
  simp [isolateOneBadRegister]

/-- The whole bisection, given a round for every register. -/
theorem isolateOneBadRegister_bisected (link : ModbusLink) (isHolding : Bool) (g : SensorGroup)
    (rounds start count : Nat) (s : Recovery) (enough : count ≤ rounds) :
    ∃ made, Bisected link isHolding g start count s
      (isolateOneBadRegister link isHolding g rounds start count s) made := by
  induction rounds generalizing start count s with
  | zero => exact ⟨[], bisected_nil g start count s none (by simp)⟩
  | succ rounds ih =>
    -- A half that fails is bisected with one round less.
    have half (s : Recovery) (at_ size : Nat) (inside : size ≤ rounds) (positive : size ≠ 0)
        (covers : (probe link isHolding s g at_ size).reply.covers size = false) :
        ∃ made, Bisected link isHolding g start count s
          (isolateOneBadRegister link isHolding g rounds at_ size
            (s.asked (probe link isHolding s g at_ size))) made := by
      obtain ⟨made, inner⟩ := ih at_ size (s.asked (probe link isHolding s g at_ size)) inside
      refine ⟨_, inner.after_failed covers ?_⟩
      rintro rfl
      obtain ⟨more, rfl⟩ := Nat.exists_eq_add_of_le' inside
      rw [isolateOneBadRegister_single]
    rw [isolateOneBadRegister]
    by_cases none_ : count = 0
    · rw [if_pos none_]
      exact ⟨[], bisected_nil g start count s none (by simp)⟩
    by_cases single : count = 1
    · rw [if_neg none_, if_pos single]
      exact ⟨[], bisected_nil g start count s (some start) fun bad h =>
        ⟨single, (Option.some.inj h).symm⟩⟩
    rw [if_neg none_, if_neg single]
    have mid : (if count / 2 < 1 then 1 else count / 2) = count / 2 := if_neg (by omega)
    simp only [mid]
    rw [probeRegisterBlockQuiet_eq s g start (count / 2) (by omega)]
    -- The left half, then the right half, then each register: the first failure decides.
    cases left : (probe link isHolding s g start (count / 2)).reply.covers (count / 2) with
    | false => exact half s start (count / 2) (by omega) (by omega) left
    | true =>
      simp only
      rw [probeRegisterBlockQuiet_eq _ g (start + count / 2) (count - count / 2) (by omega)]
      cases right : (probe link isHolding (s.asked (probe link isHolding s g start (count / 2))) g
          (start + count / 2) (count - count / 2)).reply.covers (count - count / 2) with
      | false =>
        obtain ⟨made, inner⟩ := half (s.asked (probe link isHolding s g start (count / 2)))
          (start + count / 2) (count - count / 2) (by omega) (by omega) right
        exact ⟨_, inner.after_good left⟩
      | true =>
        obtain ⟨made, inner⟩ := probeEach_bisected link isHolding g start count
          (List.range' start count)
          ((s.asked (probe link isHolding s g start (count / 2))).asked
            (probe link isHolding (s.asked (probe link isHolding s g start (count / 2))) g
              (start + count / 2) (count - count / 2)))
        exact ⟨_, (inner.after_good right).after_good left⟩

/-! ### Blame -/

/-- From one state of a recovery to a later one, the sensors switched off all touch a
rejected register exactly when the probes made were all harmless. -/
def Blamed (rejects : Nat → Bool) (s t : Recovery) : Prop :=
  ∃ made off, t.probes = s.probes ++ made ∧ t.switchedOff = s.switchedOff ++ off ∧
    ((∀ x ∈ off, x.Touches rejects) ↔ ∀ q ∈ made, q.Harmless rejects)

theorem Blamed.of_same {rejects : Nat → Bool} {s t : Recovery} (probes : t.probes = s.probes)
    (switchedOff : t.switchedOff = s.switchedOff) : Blamed rejects s t :=
  ⟨[], [], by simpa using probes, by simpa using switchedOff, by simp⟩

theorem Blamed.trans {rejects : Nat → Bool} {s t u : Recovery} (first : Blamed rejects s t)
    (second : Blamed rejects t u) : Blamed rejects s u := by
  obtain ⟨made, off, probes, switched, same⟩ := first
  obtain ⟨made', off', probes', switched', same'⟩ := second
  refine ⟨made ++ made', off ++ off', ?_, ?_, ?_⟩
  · rw [probes', probes, List.append_assoc]
  · rw [switched', switched, List.append_assoc]
  · rw [List.forall_mem_append, List.forall_mem_append, same, same']

/-- A failed probe of one register is unanswered or of a rejected register. -/
theorem unanswered_or_rejected {rejects : Nat → Bool} {q : Probe} {attempt : Nat}
    (answers : link.Answers rejects) (reply : q.reply = link.reply attempt q.start q.count isHolding)
    (one : q.count = 1) (failed : q.Failed) : q.reply = .unanswered ∨ rejects q.start = true := by
  rcases answers attempt q.start q.count isHolding with lost | ⟨-, registers, full, size⟩ |
    ⟨⟨r, inside, rejected⟩, -⟩
  · exact .inl (reply.trans lost)
  · rw [Probe.Failed, reply, full, Reply.covers, size] at failed
    simp at failed
  · right
    rw [one, List.mem_range'_1] at inside
    have same : r = q.start := by omega
    rw [← same]
    exact rejected

/-- Disabling the sensors on the register that a bisection blames. -/
theorem blamed_disable {rejects : Nat → Bool} (answers : link.Answers rejects) {g : SensorGroup}
    {s isolated : Recovery} {bad : Nat} {made : List Probe}
    (bisected : Bisected link isHolding g g.startRegister g.registrarCount s (isolated, some bad) made)
    (rejected : ∃ r ∈ g.block, rejects r = true) :
    Blamed rejects s (isolated.disable (g.sensors.filter fun sensor => bad ∈ sensor.registrars)) := by
  refine ⟨made, _, bisected.probes, congrArg (· ++ _) bisected.frame.2.2.2, ?_⟩
  constructor
  · -- A single register that got no answer is the one blamed, so its sensors are disabled.
    intro touches q member one lost x inside uses
    have failed : q.Failed := by rw [Probe.Failed, lost]; rfl
    have blamed : bad = q.start := Option.some.inj (bisected.failed q member one failed)
    have own : q.group = g := (bisected.answered q member).1
    apply touches x
    rw [List.mem_filter, blamed]
    exact ⟨own ▸ inside, by simpa using uses⟩
  · intro harmless x disabled
    obtain ⟨inside, uses⟩ := List.mem_filter.mp disabled
    have uses : bad ∈ x.registrars := by simpa using uses
    rcases bisected.found bad rfl with ⟨single, same⟩ | ⟨q, member, one, failed, same⟩
    · -- A block of one register: it is the one that was rejected.
      obtain ⟨r, block, rejects_⟩ := rejected
      rw [SensorGroup.block, single, List.mem_range'_1] at block
      have only : r = bad := by omega
      exact ⟨bad, uses, only ▸ rejects_⟩
    · obtain ⟨own, attempt, reply⟩ := bisected.answered q member
      rcases unanswered_or_rejected answers reply one failed with lost | rejects_
      · apply harmless q member one lost x
        · rw [own]
          exact inside
        · rw [same]
          exact uses
      · exact ⟨bad, uses, same ▸ rejects_⟩

/-- The reads of the new groups switch nothing off themselves, and only a group that the
inverter has rejected is recovered. -/
theorem readNewGroups_blamed {rejects : Nat → Bool} (answers : link.Answers rejects)
    (nested : SensorGroup → Recovery → Recovery × List (SensorGroup × List Nat))
    (recovers : ∀ g s, (∃ r ∈ g.block, rejects r = true) → Blamed rejects s (nested g s).1)
    (groups : List SensorGroup) (s : Recovery) :
    Blamed rejects s (readNewGroups link isHolding nested groups s).1 := by
  induction groups generalizing s with
  | nil => exact Blamed.of_same rfl rfl
  | cons g rest ih =>
    refine Blamed.trans ?_ (ih _)
    have read : Blamed rejects s s.attempted := Blamed.of_same rfl rfl
    rcases readNewGroup_cases link isHolding nested s g with
      ⟨v, -, same⟩ | ⟨code, exception, -, same⟩ | same
    · rw [same]
      exact read
    · rw [same]
      rcases answers s.attempts g.startRegister g.registrarCount isHolding with lost |
        ⟨-, registers, full, -⟩ | ⟨rejected, -⟩
      · cases lost.symm.trans exception
      · cases full.symm.trans exception
      · exact read.trans (recovers g _ rejected)
    · rw [same]
      exact read

theorem recover_blamed {rejects : Nat → Bool} (answers : link.Answers rejects) (isHolding : Bool)
    (depthLeft : Nat) (g : SensorGroup) (s : Recovery) (rejected : ∃ r ∈ g.block, rejects r = true) :
    Blamed rejects s (recover link isHolding depthLeft g s).1 := by
  induction depthLeft generalizing g s with
  | zero => exact Blamed.of_same rfl rfl
  | succ depthLeft ih =>
    obtain ⟨made, bisected⟩ := isolateOneBadRegister_bisected link isHolding g g.registrarCount
      g.startRegister g.registrarCount s (Nat.le_refl _)
    rw [recover]
    generalize isolateOneBadRegister link isHolding g g.registrarCount g.startRegister
      g.registrarCount s = result at bisected
    obtain ⟨isolated, found⟩ := result
    cases found with
    | none =>
      -- Nothing is blamed, so no probe of a single register can have failed.
      refine ⟨made, [], bisected.probes, by simpa using bisected.frame.2.2.2, ?_⟩
      simp only [List.not_mem_nil, false_implies, implies_true, true_iff]
      intro q member one lost
      have failed : q.Failed := by rw [Probe.Failed, lost]; rfl
      cases bisected.failed q member one failed
    | some bad =>
      have disabled := blamed_disable answers bisected rejected
      refine disabled.trans (Blamed.trans (Blamed.of_same ?_ ?_)
        (readNewGroups_blamed answers (recover link isHolding depthLeft) ih _ _))
      · unfold replaceSensorGroup
        split <;> rfl
      · unfold replaceSensorGroup
        split <;> rfl

/-- **Which sensors a link failure costs**: all the sensors that the recovery of a rejected
group switches off touch a register the inverter rejects, exactly when no probe of a
single register went unanswered for a sensor without one. -/
theorem switchedOff_touch_iff (link : ModbusLink) (isHolding : Bool) (rejects : Nat → Bool)
    (answers : link.Answers rejects) (groups : List SensorGroup) (enabled : Nat → Bool)
    (nextGroup : Nat) (g : SensorGroup) (rejected : ∃ r ∈ g.block, rejects r = true) :
    (∀ x ∈ ((start groups enabled nextGroup).recoverSensorGroup link isHolding g).1.switchedOff,
      x.Touches rejects) ↔
    ∀ q ∈ ((start groups enabled nextGroup).recoverSensorGroup link isHolding g).1.probes,
      q.Harmless rejects := by
  obtain ⟨made, off, probes, switchedOff, same⟩ := recover_blamed answers isHolding
    (maxRegisterRecoveryDepth + 1) g (start groups enabled nextGroup) rejected
  simp only [start, List.nil_append] at probes switchedOff
  rw [recoverSensorGroup, start, probes, switchedOff]
  exact same

theorem up_answers (rejects : Nat → Bool) (value : Nat → Nat → Nat) :
    (ModbusLink.up rejects value).Answers rejects := by
  intro attempt start count isHolding
  right
  cases any : (List.range' start count).any rejects with
  | true =>
    right
    obtain ⟨r, inside, rejected⟩ := List.any_eq_true.mp any
    exact ⟨⟨r, inside, rejected⟩, 2, by simp only [ModbusLink.up, any, if_true], rfl⟩
  | false =>
    left
    refine ⟨fun r inside => Bool.eq_false_iff.mpr (List.any_eq_false.mp any r inside),
      (List.range' start count).map (value attempt), ?_, by simp⟩
    simp only [ModbusLink.up, any, Bool.false_eq_true, if_false]

/-- Four sensors of one register each, 100 to 103. -/
def fourSensors : SensorGroup where
  id := 0
  sensors := (List.range' 100 4).map .single
  pollSpeed := .fast
  registerType := .input

theorem switchedOff_touch_iff_fourSensors :
    (∀ x ∈ ((start [fourSensors] (fun _ => true) 1).recoverSensorGroup
      (.up (· == 103) fun _ _ => 0) false fourSensors).1.switchedOff, x.Touches (· == 103)) ↔
    ∀ q ∈ ((start [fourSensors] (fun _ => true) 1).recoverSensorGroup
      (.up (· == 103) fun _ _ => 0) false fourSensors).1.probes, q.Harmless (· == 103) :=
  switchedOff_touch_iff (.up (· == 103) fun _ _ => 0) false (· == 103) (up_answers _ _) [fourSensors]
    (fun _ => true) 1 fourSensors ⟨103, by decide, rfl⟩

/-- The inverter rejects 103 only. The link is lost right after it has rejected the block,
and the sensor on 100 is disabled. -/
theorem lostLink_disables_healthy :
    ∃ x ∈ ((start [fourSensors] (fun _ => true) 1).recoverSensorGroup .lost false
      fourSensors).1.switchedOff, ¬ x.Touches (· == 103) := by
  refine ⟨.single 100, by decide, ?_⟩
  rintro ⟨r, inside, rejected⟩
  rw [List.mem_singleton.mp inside] at rejected
  cases rejected

end Recovery

end HHModbus
