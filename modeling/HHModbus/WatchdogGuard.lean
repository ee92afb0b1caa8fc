import HHModbus.Watchdog

/-!
# Checks that end with an exception

The slave-ID check of a serial inverter reads `probe_register` of its configuration, which
only the configuration class of Solis has. The re-entrancy guard is released either way.
-/
namespace HHModbus

open Transition

/-- The check is asking unit 1. -/
def CheckPhase.asksUnit : CheckPhase → Bool
  | .unitConnect _ | .unitRead _ => true
  | .firstPoll | .connecting _ | .sleeping => false

namespace Retrieval

/-- `_check_serial_slave_id` asks unit 1. -/
def asksUnit (d : Retrieval) : Bool :=
  !d.slaveIdChecked && d.config.entryId.isSome && d.config.isSerial && d.config.deviceId != 1 &&
    !d.hasAnswered && !d.unitOneTaken && !d.slaveIdIssueRaised &&
    d.pollingSince.any fun since => decide (since + slaveProbeAfter ≤ d.monotonic)

theorem checkSerialSlaveId_asks (d : Retrieval) : d.checkSerialSlaveId.2 = d.asksUnit := by
  simp only [checkSerialSlaveId, asksUnit]
  cases d.slaveIdChecked <;> cases d.config.entryId <;> cases d.config.isSerial <;>
    cases d.hasAnswered <;> cases d.unitOneTaken <;> cases d.slaveIdIssueRaised <;>
    by_cases one : d.config.deviceId = 1 <;> simp [one]

theorem asksUnit_first (d : Retrieval) :
    asksUnit { d with pollingSince := some d.monotonic } = false := by
  have early (k : Nat) (positive : 0 < k) : decide (d.monotonic + k ≤ d.monotonic) = false :=
    decide_eq_false (by omega)
  have positive : 0 < slaveProbeAfter := Nat.mul_pos (by decide) (by decide)
  simp only [asksUnit]
  rw [Option.any_some, early slaveProbeAfter positive, Bool.and_false]

/-! ### What a check does after the slave-ID check -/

/-- Only the link and the issue of the unreachable datalogger have changed. -/
structure LinkOnly (d d' : Retrieval) : Prop where
  same : d' = { d with
    connected := d'.connected
    issueRaised := d'.issueRaised
    unreachableIssue := d'.unreachableIssue }

theorem LinkOnly.refl (d : Retrieval) : LinkOnly d d := ⟨rfl⟩

theorem LinkOnly.trans {d e f : Retrieval} (first : LinkOnly d e) (later : LinkOnly e f) :
    LinkOnly d f := by
  constructor
  rw [later.same, first.same]

theorem LinkOnly.config {d d' : Retrieval} (only : LinkOnly d d') : d'.config = d.config := by
  rw [only.same]

theorem LinkOnly.stopping {d d' : Retrieval} (only : LinkOnly d d') : d'.stopping = d.stopping := by
  rw [only.same]

theorem LinkOnly.slaveIdIssue {d d' : Retrieval} (only : LinkOnly d d') :
    d'.slaveIdIssue = d.slaveIdIssue := by
  rw [only.same]

theorem linkOnly_updateConnectionIssue (d : Retrieval) (unreachable : Bool) :
    LinkOnly d (d.updateConnectionIssue unreachable) := by
  simp only [updateConnectionIssue]
  split
  · exact .refl d
  · split
    · split
      · split
        · exact .refl d
        · exact ⟨rfl⟩
      · exact ⟨rfl⟩
    · exact ⟨rfl⟩

/-- The check has left the slave-ID check behind. -/
structure Past (d : Retrieval) (r : Retrieval × CheckNext) : Prop where
  linkOnly : LinkOnly d r.1
  next : r.2 = .ends .returned ∨ ∃ phase, r.2 = .waits phase ∧ phase.asksUnit = false

theorem linkOnly_reportFailures (d : Retrieval) : LinkOnly d d.reportFailures := by
  simp only [reportFailures]
  split
  · exact linkOnly_updateConnectionIssue d true
  · exact .refl d

theorem past_retry (d : Retrieval) : Past d d.retry := by
  have issue := linkOnly_reportFailures d
  simp only [retry]
  split
  · exact ⟨issue, .inl rfl⟩
  · exact ⟨issue, .inr ⟨_, rfl, rfl⟩⟩

theorem past_reconnected (d : Retrieval) (result : Bool) : Past d (d.reconnected result) := by
  cases result with
  | true => exact ⟨linkOnly_updateConnectionIssue d false, .inl rfl⟩
  | false => exact past_retry d

theorem past_reconnect (d : Retrieval) : Past d d.reconnect := by
  simp only [reconnect]
  split
  · exact ⟨.refl d, .inl rfl⟩
  · split
    next result _ => exact past_reconnected d result
    next => exact ⟨.refl d, .inr ⟨_, rfl, rfl⟩⟩

theorem past_testLink (d : Retrieval) : Past d d.testLink := by
  simp only [testLink]
  split
  · have closed : LinkOnly d { d.updateConnectionIssue true with connected := false } :=
      (linkOnly_updateConnectionIssue d true).trans ⟨rfl⟩
    have rest := past_reconnect { d.updateConnectionIssue true with connected := false }
    exact ⟨closed.trans rest.linkOnly, rest.next⟩
  · exact ⟨linkOnly_updateConnectionIssue d false, .inl rfl⟩

theorem past_afterSlaveId (d : Retrieval) : Past d d.afterSlaveId := by
  simp only [afterSlaveId]
  split
  · split
    · exact ⟨.refl d, .inr ⟨_, rfl, rfl⟩⟩
    · exact past_testLink d
  · exact past_reconnect d

theorem Past.not_raised {d : Retrieval} {r : Retrieval × CheckNext} (past : Past d r) :
    r.2 ≠ .ends .raised := by
  intro raised
  rcases past.next with returned | ⟨phase, waits, -⟩
  · rw [returned] at raised
    cases raised
  · rw [waits] at raised
    cases raised

/-! ### Where a check raises -/

theorem tryConnect_same (d : Retrieval) (outcome : DialOutcome) :
    (d.tryConnect outcome).1 = { d with
      connected := (d.tryConnect outcome).1.connected
      connectFailures := (d.tryConnect outcome).1.connectFailures } := by
  simp only [tryConnect]
  split
  · rfl
  · split
    · rfl
    · split <;> rfl

/-- What no check changes. -/
structure Kept (d d' : Retrieval) : Prop where
  config : d'.config = d.config
  stopping : d'.stopping = d.stopping

theorem kept_tryConnect (d : Retrieval) (outcome : DialOutcome) : Kept d (d.tryConnect outcome).1 := by
  rw [tryConnect_same]
  exact ⟨rfl, rfl⟩

theorem kept_checkSerialSlaveId (d : Retrieval) : Kept d d.checkSerialSlaveId.1 := by
  simp only [checkSerialSlaveId]
  repeat' split
  all_goals exact ⟨rfl, rfl⟩

theorem Kept.trans {d e f : Retrieval} (first : Kept d e) (later : Kept e f) : Kept d f :=
  ⟨later.config.trans first.config, later.stopping.trans first.stopping⟩

/-- The check raises exactly under this condition. -/
structure RaisesIff (d : Retrieval) (r : Retrieval × CheckNext) (condition : Prop) : Prop where
  kept : Kept d r.1
  raised : r.2 = .ends .raised ↔ condition

/-- A check that has the slave-ID check behind it does not raise. -/
theorem Past.raisesIff {d e : Retrieval} {r : Retrieval × CheckNext} (past : Past e r) (kept : Kept d e)
    {condition : Prop} (never : ¬ condition) : RaisesIff d r condition where
  kept := kept.trans ⟨past.linkOnly.config, past.linkOnly.stopping⟩
  raised := iff_of_false past.not_raised never

theorem raisesIff_unitConnected (d : Retrieval) (result : Bool) :
    RaisesIff d (d.unitConnected result) (result = true ∧ d.config.probeRegister = none) := by
  cases result with
  | false => exact (past_afterSlaveId d).raisesIff ⟨rfl, rfl⟩ fun h => Bool.false_ne_true h.1
  | true =>
    unfold unitConnected
    rw [if_pos rfl]
    split
    next register has => exact ⟨⟨rfl, rfl⟩, by simp [has]⟩
    next missing => exact ⟨⟨rfl, rfl⟩, by simp [missing]⟩

theorem raisesIff_startCheck (d : Retrieval) :
    RaisesIff d d.startCheck
      (d.asksUnit = true ∧ d.connectedNow = some true ∧ d.config.probeRegister = none) := by
  have asks := checkSerialSlaveId_asks d
  unfold startCheck
  by_cases unit : d.asksUnit = true
  · -- The check that asks unit 1 has changed nothing so far.
    have same : d.checkSerialSlaveId = (d, true) := by
      refine Prod.ext ?_ (asks.trans unit)
      rw [unit] at asks
      revert asks
      simp only [checkSerialSlaveId]
      repeat' split
      all_goals simp
    rw [same]
    dsimp only
    rw [if_pos rfl]
    cases now : d.connectedNow with
    | none => exact ⟨⟨rfl, rfl⟩, iff_of_false nofun (by simp)⟩
    | some result =>
      have raises := raisesIff_unitConnected d result
      simp only [unit, true_and, Option.some.injEq]
      exact raises
  · rw [Bool.not_eq_true] at unit
    dsimp only
    rw [asks, unit]
    exact (past_afterSlaveId _).raisesIff (kept_checkSerialSlaveId d) (by simp)

/-- The check gets a live link for the read of unit 1. -/
def ReachesUnit (d : Retrieval) : CheckPhase → CheckEvent → Prop
  | .unitConnect .waiting, .dialLock => d.connectedNow = some true
  | .unitConnect .opening, .dialDone outcome => (d.tryConnect outcome).2 = true
  | _, _ => False

theorem raisesIff_resume (d : Retrieval) (phase : CheckPhase) (event : CheckEvent)
    (r : Retrieval × CheckNext) (h : d.resume phase event = some r) :
    RaisesIff d r (d.ReachesUnit phase event ∧ d.config.probeRegister = none) := by
  simp only [resume] at h
  split at h
  · split at h
    next result now =>
      cases h
      have raises := raisesIff_unitConnected d result
      simp only [ReachesUnit, now, Option.some.injEq]
      exact raises
    next now =>
      cases h
      exact ⟨⟨rfl, rfl⟩, iff_of_false nofun (by simp [ReachesUnit, now])⟩
  next outcome =>
    cases h
    have kept := kept_tryConnect d outcome
    have raises := raisesIff_unitConnected (d.tryConnect outcome).1 (d.tryConnect outcome).2
    rw [kept.config] at raises
    exact ⟨kept.trans raises.kept, raises.raised⟩
  next reply =>
    cases h
    cases reply with
    | values registers =>
      have past := past_afterSlaveId { d with slaveIdIssueRaised := true, slaveIdIssue := true }
      exact past.raisesIff (d := d) ⟨rfl, rfl⟩ And.left
    | unanswered =>
      have past := past_afterSlaveId { d with connected := false }
      exact past.raisesIff (d := d) ⟨rfl, rfl⟩ And.left
    | exception code => exact (past_afterSlaveId d).raisesIff ⟨rfl, rfl⟩ fun h => h.1
  · cases h
    have past := past_testLink { d with firstPoll := false }
    exact past.raisesIff (d := d) ⟨rfl, rfl⟩ And.left
  · split at h
    next result now =>
      cases h
      exact (past_reconnected d result).raisesIff ⟨rfl, rfl⟩ fun h => h.1
    next now =>
      cases h
      exact ⟨⟨rfl, rfl⟩, iff_of_false nofun fun h => h.1⟩
  next outcome =>
    cases h
    exact (past_reconnected _ _).raisesIff (kept_tryConnect d outcome) fun h => h.1
  · cases h
    exact (past_reconnect d).raisesIff ⟨rfl, rfl⟩ fun h => h.1
  · cases h

end Retrieval

namespace Watchdog

/-! ### How checks end -/

theorem checked_same (s : Watchdog) (owner : CheckOwner) (how : CheckEnd) :
    (s.checked owner how).data = s.data ∧ (s.checked owner how).ends = s.ends ∧
      (s.checked owner how).connectionCheck = s.connectionCheck := by
  cases owner with
  | timer => exact ⟨rfl, rfl, rfl⟩
  | pollController => cases how <;> exact ⟨rfl, rfl, rfl⟩

/-- A check has raised in this step exactly under the condition, and one that has ended has
released the guard. -/
structure EndsIff (s t : Watchdog) (condition : Prop) : Prop where
  config : t.data.config = s.data.config
  raised : .raised ∉ s.ends → (.raised ∉ t.ends ↔ ¬ condition)
  released : t.ends ≠ s.ends → t.connectionCheck = false

/-- No check has ended. -/
theorem EndsIff.of_same {s t : Watchdog} {condition : Prop} (config : t.data.config = s.data.config)
    (ends : t.ends = s.ends) (never : ¬ condition) : EndsIff s t condition where
  config := config
  raised clean := by
    rw [ends]
    exact iff_of_true clean never
  released other := absurd ends other

theorem endsIff_settle {s u : Watchdog} (i : Nat) (owner : CheckOwner) {d : Retrieval}
    {r : Retrieval × CheckNext} {condition : Prop} (raises : Retrieval.RaisesIff d r condition)
    (config : d.config = s.data.config) (ends : u.ends = s.ends) :
    EndsIff s (u.settle i owner r) condition := by
  obtain ⟨d', next⟩ := r
  have kept : d'.config = s.data.config := raises.kept.config.trans config
  cases next with
  | waits phase => exact .of_same kept ends (mt raises.raised.mpr nofun)
  | ends how =>
    obtain ⟨data, record, guard⟩ := checked_same
      { u with
        data := d', checks := Function.update u.checks i none, connectionCheck := false
        ends := u.ends ++ [how] } owner how
    refine ⟨?_, fun clean => ?_, fun _ => guard⟩
    · exact (congrArg Retrieval.config data).trans kept
    · unfold settle
      dsimp only
      rw [record, ends, List.mem_append, not_or, List.mem_singleton, and_iff_right clean]
      refine not_congr ⟨?_, ?_⟩
      · rintro rfl
        exact raises.raised.mp rfl
      · intro met
        cases raises.raised.mpr met
        rfl

/-- The step brings a check to a live link for the read of unit 1. -/
def ReachesUnit (s : Watchdog) : WatchdogAction → Prop
  | .fire => s.connectionCheck = false ∧ s.data.asksUnit = true ∧ s.data.connectedNow = some true
  | .goOn i event => ∃ c, s.checks i = some c ∧ s.data.ReachesUnit c.phase event
  | .begin | .haStarted | .outside _ | .stop => False

theorem change_config (d : Retrieval) (event : Outside) : (d.change event).config = d.config := by
  cases event with
  | otherConnect outcome => exact (Retrieval.kept_tryConnect d outcome).config
  | _ => rfl

theorem endsIff_checkConnection (s : Watchdog) (owner : CheckOwner) :
    EndsIff s (s.checkConnection owner) ((s.connectionCheck = false ∧ s.data.asksUnit = true ∧
      s.data.connectedNow = some true) ∧ s.data.config.probeRegister = none) := by
  simp only [checkConnection]
  split
  next busy =>
    obtain ⟨data, ends, -⟩ := checked_same s owner .returned
    exact .of_same (congrArg Retrieval.config data) ends (by simp [busy])
  next idle =>
    have raises := Retrieval.raisesIff_startCheck s.data
    rw [Bool.not_eq_true] at idle
    simp only [idle, true_and, and_assoc]
    exact endsIff_settle s.nextCheck owner raises rfl rfl

theorem endsIff_step (s : Watchdog) (a : WatchdogAction) (t : Watchdog) (h : s.step a = some t) :
    EndsIff s t (s.ReachesUnit a ∧ s.data.config.probeRegister = none) := by
  -- Polling has just started, so the first check does not ask unit 1 yet.
  have first (asTask : Bool) : EndsIff s (s.pollController asTask) False := by
    have ends := endsIff_checkConnection
      { s with
        data := { s.data with pollingSince := some s.data.monotonic }
        pollRun := .checking asTask } .pollController
    refine ⟨ends.config, fun clean => (ends.raised clean).trans (not_congr ⟨?_, False.elim⟩),
      ends.released⟩
    rintro ⟨⟨-, asks, -⟩, -⟩
    cases asks.symm.trans (Retrieval.asksUnit_first s.data)
  cases stepped s a t h with
  | begin created =>
    have ends := first true
    simpa only [ReachesUnit, false_and] using ends
  | haStarted waiting =>
    have ends := first false
    simpa only [ReachesUnit, false_and] using ends
  | fire registered => exact endsIff_checkConnection s .timer
  | goOn i event c r present resumes =>
    have raises := Retrieval.raisesIff_resume s.data c.phase event r resumes
    have only : s.ReachesUnit (.goOn i event) ↔ s.data.ReachesUnit c.phase event := by
      constructor
      · rintro ⟨c', present', reaches⟩
        cases present.symm.trans present'
        exact reaches
      · intro reaches
        exact ⟨c, present, reaches⟩
    rw [only]
    exact endsIff_settle i c.owner raises rfl rfl
  | outside event => exact .of_same (change_config s.data event) rfl (fun h => h.1)
  | stop =>
    have config : s.stop.data.config = s.data.config := by
      have cleared :=
        (Retrieval.linkOnly_updateConnectionIssue { s.data with stopping := true } false).config
      simp only [stop]
      split
      · exact cleared
      · exact cleared
    refine ⟨config, fun clean => iff_of_true ?_ (fun h => h.1), fun _ => rfl⟩
    simp only [stop]
    split
    · simpa using clean
    · exact clean

/-- No check has raised so far. -/
def Unraised (_ : Watchdog) (_ : WatchdogAction) (t : Watchdog) : Prop := .raised ∉ t.ends

/-- A check that has passed the re-entrancy guard and has ended has released it. -/
def GuardReleased (s : Watchdog) (_ : WatchdogAction) (t : Watchdog) : Prop :=
  t.ends ≠ s.ends → t.connectionCheck = false

theorem probeRegister_none_iff (config : RetrievalConfig) :
    config.probeRegister = none ↔ config.brand ≠ .solis := by
  simp only [RetrievalConfig.probeRegister]
  cases config.brand <;> simp

/-- **When no check raises**: the brand is Solis, or no check gets a live link for the read of
unit 1. The re-entrancy guard is released in any case. -/
theorem checks_unraised_iff (init : RetrievalStart) (acts : List WatchdogAction) :
    (Along step Unraised (start init) acts ↔
      init.config.brand = .solis ∨ Along step (fun s a _ => ¬ s.ReachesUnit a) (start init) acts) ∧
    Along step GuardReleased (start init) acts := by
  have released : ∀ s a t, True → step s a = some t → True ∧ GuardReleased s a t :=
    fun s a t _ h => ⟨trivial, (endsIff_step s a t h).released⟩
  refine ⟨?_, along_always released acts trivial⟩
  let I (s : Watchdog) : Prop := s.data.config = init.config ∧ .raised ∉ s.ends
  have initial : I (start init) := ⟨rfl, List.not_mem_nil⟩
  by_cases solis : init.config.brand = .solis
  · refine iff_of_true (along_always (I := I) (fun s a t inv h => ?_) acts initial) (.inl solis)
    obtain ⟨kept, raised, -⟩ := endsIff_step s a t h
    have clean : .raised ∉ t.ends := by
      refine (raised inv.2).mpr fun reaches => ?_
      rw [inv.1] at reaches
      exact (probeRegister_none_iff init.config).mp reaches.2 solis
    exact ⟨⟨kept.trans inv.1, clean⟩, clean⟩
  · rw [or_iff_right solis]
    refine along_iff (I := I) (fun s a t inv h => ?_) (fun s a t inv h clean => ?_) acts initial
    · obtain ⟨-, raised, -⟩ := endsIff_step s a t h
      rw [inv.1, and_iff_left ((probeRegister_none_iff init.config).mpr solis)] at raised
      exact raised inv.2
    · exact ⟨(endsIff_step s a t h).config.trans inv.1, clean⟩

/-- A Sun-Synk inverter on a serial port at slave ID 2. -/
def sunsynkSerial : RetrievalConfig where
  brand := .sunsynk
  inverterType := .hybrid
  connection := .serial "/dev/ttyUSB0"
  deviceId := 2
  entryId := some "entry1"
  suppressNightIssue := false
  fastPoll := 5
  normalPoll := 15
  slowPoll := 30
  sunIsUp _ := true

/-- While it has not answered, its first check after two minutes raises. -/
theorem sunsynkSerial_check_raises :
    ∃ t, exec step (start { config := sunsynkSerial, connected := true, isRunning := true })
        [.begin, .goOn 0 .polled, .outside (.tick (120 * second) 0), .fire] = some t ∧
      t.ends = [.returned, .raised] :=
  ⟨_, rfl, rfl⟩

end Watchdog

end HHModbus
