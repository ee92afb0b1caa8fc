import HHModbus.WatchdogGuard

/-!
# What a stop leaves behind

`async_stop` removes the listeners and the write task and deletes the repair issues, but it
cancels neither a `poll_controller` that runs as the listener for the start of Home Assistant
nor a check that a timer has fired.
-/
namespace HHModbus

open Transition Cooperative Tables

namespace Retrieval

/-- A repair issue of the entry is present. -/
def hasIssue (d : Retrieval) : Bool :=
  d.config.entryId.isSome && (d.unreachableIssue || d.slaveIdIssue)

/-- A datalogger found unreachable now is reported. -/
def warns (d : Retrieval) : Bool := d.config.entryId.isSome && !d.expectedOfflineAtNight

/-- A check that comes to the link now finds it half-open and reports that. -/
def findsStale (d : Retrieval) : Bool :=
  d.connected && !d.firstPoll && d.linkIsStale && d.warns

/-- A `connect` that fails now is reported. -/
def reportsFailure (d : Retrieval) : Bool :=
  decide (issueAfterFailures ≤ d.connectFailures) && d.warns

/-- A check that a stop has not cancelled raises a repair issue when it goes on. -/
def alarms (d : Retrieval) : CheckPhase → CheckEvent → Bool
  | .unitConnect .waiting, .dialLock => d.closed && d.findsStale
  | .unitConnect .opening, .dialDone outcome =>
    !(d.tryConnect outcome).2 && (d.tryConnect outcome).1.findsStale
  | .unitRead _, .unitReply (.values _) => d.config.entryId.isSome
  | .unitRead _, .unitReply (.exception _) => d.findsStale
  | .firstPoll, .polled => d.linkIsStale && d.warns
  | .connecting .waiting, .dialLock => d.closed && d.reportsFailure
  | .connecting .opening, .dialDone outcome =>
    !(d.tryConnect outcome).2 && (d.tryConnect outcome).1.reportsFailure
  | _, _ => false

/-! ### Checks of a stopped retrieval -/

/-- The retrieval is stopped and its datalogger is not reported. -/
structure Silent (d : Retrieval) : Prop where
  stopping : d.stopping = true
  clear : d.config.entryId.isSome = true → d.unreachableIssue = false

/-- The check reports the datalogger exactly if `alarm` says so, and then it ends. -/
structure Reports (d : Retrieval) (r : Retrieval × CheckNext) (alarm : Bool) : Prop where
  linkOnly : LinkOnly d r.1
  unreachable : d.config.entryId.isSome = true → r.1.unreachableIssue = alarm
  last : alarm = true → ∃ how, r.2 = .ends how

theorem reports_nothing {d : Retrieval} (silent : Silent d) (next : CheckNext) :
    Reports d (d, next) false where
  linkOnly := .refl d
  unreachable := silent.clear
  last := nofun

theorem Reports.of_ends {d d' : Retrieval} {how : CheckEnd} {alarm : Bool} (linkOnly : LinkOnly d d')
    (unreachable : d.config.entryId.isSome = true → d'.unreachableIssue = alarm) :
    Reports d (d', .ends how) alarm where
  linkOnly := linkOnly
  unreachable := unreachable
  last _ := ⟨how, rfl⟩

theorem updateConnectionIssue_true {d : Retrieval} (entry : d.config.entryId.isSome = true)
    (clear : d.unreachableIssue = false) :
    (d.updateConnectionIssue true).unreachableIssue = d.warns := by
  have some_ : d.config.entryId ≠ none := Option.isSome_iff_ne_none.mp entry
  unfold updateConnectionIssue warns
  rw [if_neg some_, if_pos rfl, entry, Bool.true_and]
  cases d.expectedOfflineAtNight with
  | false => simp
  | true =>
    by_cases known : d.issueRaised = some false
    · simpa [known] using clear
    · simp [known]

theorem updateConnectionIssue_false {d : Retrieval} (entry : d.config.entryId.isSome = true) :
    (d.updateConnectionIssue false).unreachableIssue = false := by
  have some_ : d.config.entryId ≠ none := Option.isSome_iff_ne_none.mp entry
  simp only [updateConnectionIssue]
  rw [if_neg some_]
  rfl

theorem reports_retry {d : Retrieval} (silent : Silent d) : Reports d d.retry d.reportsFailure := by
  have only := linkOnly_reportFailures d
  have stops : d.reportFailures.stopping = true := only.stopping.trans silent.stopping
  simp only [retry]
  rw [if_pos stops]
  refine .of_ends only fun entry => ?_
  simp only [reportFailures, reportsFailure]
  split
  next persistent =>
    rw [updateConnectionIssue_true entry (silent.clear entry), decide_eq_true persistent,
      Bool.true_and]
  next blip => rw [silent.clear entry, decide_eq_false blip, Bool.false_and]

theorem reports_reconnected {d : Retrieval} (silent : Silent d) (result : Bool) :
    Reports d (d.reconnected result) (!result && d.reportsFailure) := by
  cases result with
  | true => exact .of_ends (linkOnly_updateConnectionIssue d false) updateConnectionIssue_false
  | false => exact reports_retry silent

/-- The reconnect loop is not entered. -/
theorem reconnect_stopping {d : Retrieval} (stopping : d.stopping = true) :
    d.reconnect = (d, .ends .returned) := by
  simp only [reconnect]
  rw [stopping, Bool.or_true, if_pos rfl]

theorem reports_testLink {d : Retrieval} (silent : Silent d) :
    Reports d d.testLink (d.linkIsStale && d.warns) := by
  simp only [testLink]
  split
  next stale =>
    have only := linkOnly_updateConnectionIssue d true
    have stops : (d.updateConnectionIssue true).stopping = true :=
      only.stopping.trans silent.stopping
    rw [reconnect_stopping (d := { d.updateConnectionIssue true with connected := false }) stops,
      stale, Bool.true_and]
    exact .of_ends (only.trans ⟨rfl⟩) fun entry =>
      updateConnectionIssue_true entry (silent.clear entry)
  next fresh =>
    rw [Bool.not_eq_true] at fresh
    rw [fresh, Bool.false_and]
    exact .of_ends (linkOnly_updateConnectionIssue d false) updateConnectionIssue_false

theorem reports_afterSlaveId {d : Retrieval} (silent : Silent d) :
    Reports d d.afterSlaveId d.findsStale := by
  simp only [afterSlaveId, findsStale]
  cases d.connected with
  | false =>
    rw [reconnect_stopping silent.stopping]
    exact reports_nothing silent _
  | true =>
    cases d.firstPoll with
    | true => exact reports_nothing silent _
    | false => exact reports_testLink silent

theorem reports_unitConnected {d : Retrieval} (silent : Silent d) (result : Bool) :
    Reports d (d.unitConnected result) (!result && d.findsStale) := by
  simp only [unitConnected]
  cases result with
  | false => exact reports_afterSlaveId silent
  | true =>
    rw [if_pos rfl]
    split
    · exact reports_nothing silent _
    · exact reports_nothing silent _

/-- What going on does to a stopped retrieval. -/
structure Alarmed (d : Retrieval) (r : Retrieval × CheckNext) (alarm : Bool) : Prop where
  config : r.1.config = d.config
  stopping : r.1.stopping = true
  issue : r.1.hasIssue = (d.hasIssue || alarm)
  /-- The datalogger is only reported by a check that ends. -/
  last : d.config.entryId.isSome = true → r.1.unreachableIssue = true → ∃ how, r.2 = .ends how

/-- The check has only dealt with the link from `e` on, where the slave ID may just have been
reported. -/
theorem Reports.alarmed {d e : Retrieval} {r : Retrieval × CheckNext} {alarm : Bool}
    (reports : Reports e r alarm) (told : Bool) (silent : Silent d) (config : e.config = d.config)
    (stopping : e.stopping = true) (warned : alarm = true → d.config.entryId.isSome = true)
    (slaveId : d.config.entryId.isSome = true → e.slaveIdIssue = (d.slaveIdIssue || told))
    (entered : told = true → d.config.entryId.isSome = true) {either : Bool}
    (total : (told || alarm) = either) : Alarmed d r either where
  config := reports.linkOnly.config.trans config
  stopping := reports.linkOnly.stopping.trans stopping
  issue := by
    simp only [hasIssue]
    rw [reports.linkOnly.config, config, ← total]
    cases entry : d.config.entryId.isSome with
    | false =>
      rw [entry] at warned entered
      cases alarm with
      | true => cases warned rfl
      | false =>
        cases told with
        | true => cases entered rfl
        | false => rfl
    | true =>
      rw [reports.linkOnly.slaveIdIssue, slaveId entry,
        reports.unreachable (by rw [config, entry]), silent.clear entry]
      cases alarm <;> cases d.slaveIdIssue <;> cases told <;> rfl
  last entry raised := by
    rw [reports.unreachable (by rw [config, entry])] at raised
    exact reports.last raised

theorem warns_entry {d : Retrieval} (warns : d.warns = true) : d.config.entryId.isSome = true := by
  simp only [Retrieval.warns] at warns
  exact (Bool.and_eq_true_iff.mp warns).1

theorem findsStale_entry {d : Retrieval} (stale : d.findsStale = true) :
    d.config.entryId.isSome = true :=
  warns_entry (Bool.and_eq_true_iff.mp stale).2

theorem reportsFailure_entry {d : Retrieval} (failure : d.reportsFailure = true) :
    d.config.entryId.isSome = true :=
  warns_entry (Bool.and_eq_true_iff.mp failure).2

/-- A `connect` that does not wait fails only if the controller is closed. -/
theorem connectedNow_some {d : Retrieval} {result : Bool} (now : d.connectedNow = some result) :
    (!result) = d.closed := by
  simp only [connectedNow] at now
  split at now
  next closed =>
    cases now
    exact closed.symm
  next open_ =>
    obtain ⟨-, same⟩ := Option.ite_none_right_eq_some.mp now
    cases same
    exact (Bool.not_eq_true _ |>.mp open_).symm

theorem connectedNow_none {d : Retrieval} (now : d.connectedNow = none) : d.closed = false := by
  simp only [connectedNow] at now
  split at now
  · cases now
  next open_ => exact Bool.not_eq_true _ |>.mp open_

theorem Silent.of_same {d e : Retrieval} (silent : Silent d) (config : e.config = d.config)
    (stopping : e.stopping = d.stopping) (unreachable : e.unreachableIssue = d.unreachableIssue) :
    Silent e where
  stopping := by rw [stopping, silent.stopping]
  clear := by rw [config, unreachable]; exact silent.clear

/-- **What a stopped check reports when it goes on.** -/
theorem alarmed_resume {d : Retrieval} (silent : Silent d) {phase : CheckPhase} {event : CheckEvent}
    {r : Retrieval × CheckNext} (h : d.resume phase event = some r) :
    Alarmed d r (d.alarms phase event) := by
  -- The slave ID is not reported.
  have link {e : Retrieval} {r : Retrieval × CheckNext} {alarm : Bool} (reports : Reports e r alarm)
      (config : e.config = d.config) (stopping : e.stopping = d.stopping)
      (slaveId : e.slaveIdIssue = d.slaveIdIssue)
      (warned : alarm = true → e.config.entryId.isSome = true) : Alarmed d r alarm := by
    rw [config] at warned
    exact reports.alarmed false silent config (stopping.trans silent.stopping) warned
      (fun _ => by rw [slaveId, Bool.or_false]) (absurd · Bool.false_ne_true) (Bool.false_or _)
  have nothing (next : CheckNext) : Alarmed d (d, next) false :=
    link (reports_nothing silent next) rfl rfl rfl (absurd · Bool.false_ne_true)
  have dialled (outcome : DialOutcome) : Silent (d.tryConnect outcome).1 :=
    silent.of_same (by rw [tryConnect_same]) (by rw [tryConnect_same]) (by rw [tryConnect_same])
  simp only [resume] at h
  split at h
  · split at h
    next result now =>
      cases h
      rw [alarms, ← connectedNow_some now]
      exact link (reports_unitConnected silent result) rfl rfl rfl
        fun alarm => findsStale_entry (Bool.and_eq_true_iff.mp alarm).2
    next now =>
      cases h
      rw [alarms, connectedNow_none now, Bool.false_and]
      exact nothing _
  next outcome =>
    cases h
    exact link (reports_unitConnected (dialled outcome) (d.tryConnect outcome).2)
      (by rw [tryConnect_same]) (by rw [tryConnect_same]) (by rw [tryConnect_same])
      fun alarm => findsStale_entry (Bool.and_eq_true_iff.mp alarm).2
  next register reply =>
    cases h
    cases reply with
    | values registers =>
      have told := silent.of_same
        (e := { d with slaveIdIssueRaised := true, slaveIdIssue := true }) rfl rfl rfl
      -- Nothing is found stale without an entry to report it for.
      exact (reports_afterSlaveId told).alarmed d.config.entryId.isSome silent rfl
        silent.stopping findsStale_entry (fun entry => by rw [entry, Bool.or_true]) id
        (Bool.or_eq_left_iff_imp.mpr findsStale_entry)
    | exception code => exact link (reports_afterSlaveId silent) rfl rfl rfl findsStale_entry
    | unanswered =>
      have closed := silent.of_same (e := { d with connected := false }) rfl rfl rfl
      exact link (reports_afterSlaveId closed) rfl rfl rfl (absurd · Bool.false_ne_true)
  · cases h
    have polled := silent.of_same (e := { d with firstPoll := false }) rfl rfl rfl
    exact link (reports_testLink polled) rfl rfl rfl
      fun alarm => warns_entry (Bool.and_eq_true_iff.mp alarm).2
  · split at h
    next result now =>
      cases h
      rw [alarms, ← connectedNow_some now]
      exact link (reports_reconnected silent result) rfl rfl rfl
        fun alarm => reportsFailure_entry (Bool.and_eq_true_iff.mp alarm).2
    next now =>
      cases h
      rw [alarms, connectedNow_none now, Bool.false_and]
      exact nothing _
  next outcome =>
    cases h
    exact link (reports_reconnected (dialled outcome) (d.tryConnect outcome).2)
      (by rw [tryConnect_same]) (by rw [tryConnect_same]) (by rw [tryConnect_same])
      fun alarm => reportsFailure_entry (Bool.and_eq_true_iff.mp alarm).2
  · cases h
    rw [reconnect_stopping silent.stopping]
    exact nothing _
  · cases h

/-! ### Checks that do not ask unit 1 -/

/-- The check goes on beyond the slave-ID check, or has returned. -/
def Beyond (next : CheckNext) : Prop :=
  next = .ends .returned ∨ ∃ phase, next = .waits phase ∧ phase.asksUnit = false

theorem beyond_startCheck (d : Retrieval) (asks : d.asksUnit = false) : Beyond d.startCheck.2 := by
  simp only [startCheck]
  rw [checkSerialSlaveId_asks, asks]
  exact (past_afterSlaveId _).next

theorem beyond_resume (d : Retrieval) {phase : CheckPhase} (past : phase.asksUnit = false)
    {event : CheckEvent} {r : Retrieval × CheckNext} (h : d.resume phase event = some r) :
    Beyond r.2 := by
  simp only [resume] at h
  split at h
  · cases past
  · cases past
  · cases past
  · cases h
    exact (past_testLink _).next
  · split at h
    next result _ =>
      cases h
      exact (past_reconnected d result).next
    next =>
      cases h
      exact .inr ⟨_, rfl, rfl⟩
  · cases h
    exact (past_reconnected _ _).next
  · cases h
    exact (past_reconnect d).next
  · cases h

end Retrieval

namespace Watchdog

/-! ### One check at a time -/

/-- What holds of every state of a `DataRetrieval`. -/
structure Reached (s : Watchdog) : Prop where
  /-- Only a running `poll_controller` has a check, and that check does not ask unit 1. -/
  owners : ∀ i c, s.checks i = some c → c.owner = .pollController →
    (∃ asTask, s.pollRun = .checking asTask) ∧ c.phase.asksUnit = false
  single : ∀ i j c c', s.checks i = some c → s.checks j = some c' → i = j
  /-- While another check can start, the guard keeps it from running beside this one. -/
  guarded : s.listeners ≠ [] ∨ s.pollRun = .waitingForStarted ∨ s.pollRun = .created →
    ∀ i c, s.checks i = some c → s.connectionCheck = true
  unregistered : s.pollRun ≠ .over → s.listeners = []

theorem Reached.of_none {s : Watchdog} (none : ∀ i, s.checks i = none)
    (unregistered : s.pollRun ≠ .over → s.listeners = []) : Reached s where
  owners i c present := by
    rw [none i] at present
    cases present
  single i j c c' present := by
    rw [none i] at present
    cases present
  guarded _ i c present := by
    rw [none i] at present
    cases present
  unregistered := unregistered

theorem checked_checks (s : Watchdog) (owner : CheckOwner) (how : CheckEnd) :
    (s.checked owner how).checks = s.checks := by
  cases owner with
  | timer => rfl
  | pollController => cases how <;> rfl

/-- The only check runs as far as it can. -/
theorem reached_settle {u : Watchdog} {i : Nat} {owner : CheckOwner} {r : Retrieval × CheckNext}
    (only : ∀ j c, u.checks j = some c → j = i)
    (guarded : u.listeners ≠ [] ∨ u.pollRun = .waitingForStarted ∨ u.pollRun = .created →
      u.connectionCheck = true)
    (unregistered : u.pollRun ≠ .over → u.listeners = [])
    (poll : owner = .pollController →
      (∃ asTask, u.pollRun = .checking asTask) ∧ Retrieval.Beyond r.2) :
    Reached (u.settle i owner r) := by
  obtain ⟨d, next⟩ := r
  cases next with
  | waits phase =>
    have here {j : Nat} {c : Check}
        (present : Function.update u.checks i (some ⟨owner, phase⟩) j = some c) :
        j = i ∧ c = ⟨owner, phase⟩ := by
      rcases present_update present with ⟨same, own⟩ | ⟨other, old⟩
      · cases own
        exact ⟨same, rfl⟩
      · exact absurd (only j c old) other
    refine ⟨fun j c present polls => ?_, fun j l c c' present present' => ?_,
      fun waits j c _ => guarded waits, unregistered⟩
    · obtain ⟨-, rfl⟩ := here present
      obtain ⟨running, beyond⟩ := poll polls
      refine ⟨running, ?_⟩
      rcases beyond with returned | ⟨p, waits, past⟩
      · cases returned
      · cases waits
        exact past
    · rw [(here present).1, (here present').1]
  | ends how =>
    refine Reached.of_none (fun j => ?_) ?_
    · unfold settle
      dsimp only
      rw [checked_checks]
      dsimp only
      exact absent_update only j
    · cases owner with
      | timer => exact unregistered
      | pollController => cases how <;> exact fun open_ => absurd rfl open_

/-- No check starts beside another one. -/
theorem reached_checkConnection {u : Watchdog} {owner : CheckOwner}
    (idle : u.connectionCheck = false → ∀ i, u.checks i = none)
    (unregistered : u.pollRun ≠ .over → u.listeners = [])
    (poll : owner = .pollController →
      (∃ asTask, u.pollRun = .checking asTask) ∧ u.data.asksUnit = false)
    (busy : u.connectionCheck = true → Reached (u.checked owner .returned)) :
    Reached (u.checkConnection owner) := by
  simp only [checkConnection]
  split
  next taken => exact busy taken
  next free =>
    rw [Bool.not_eq_true] at free
    refine reached_settle (fun j c present => ?_) (fun _ => rfl) unregistered fun polls => ?_
    · have none := idle free j
      rw [none] at present
      cases present
    · exact ⟨(poll polls).1, Retrieval.beyond_startCheck u.data (poll polls).2⟩

theorem reached_pollController {s : Watchdog} (reached : Reached s) (asTask : Bool)
    (waits : s.pollRun = .waitingForStarted ∨ s.pollRun = .created) :
    Reached (s.pollController asTask) := by
  have open_ : s.pollRun ≠ .over := by
    rcases waits with waiting | created
    · simp [waiting]
    · simp [created]
  have guarded := reached.guarded (.inr waits)
  simp only [pollController]
  refine reached_checkConnection (fun free i => ?_) (fun _ => reached.unregistered open_)
    (fun _ => ⟨⟨asTask, rfl⟩, Retrieval.asksUnit_first s.data⟩) fun taken => ?_
  · refine Option.eq_none_iff_forall_ne_some.mpr fun c present => ?_
    cases free.symm.trans (guarded i c present)
  · refine ⟨fun i c present polls => ?_, reached.single, fun _ _ _ _ => taken,
      fun open_ => absurd rfl open_⟩
    obtain ⟨⟨_, running⟩, -⟩ := reached.owners i c present polls
    rcases waits with waiting | created
    · cases waiting.symm.trans running
    · cases created.symm.trans running

theorem stop_checks {s : Watchdog} {i : Nat} {c : Check} (present : s.stop.checks i = some c) :
    s.checks i = some c ∧ (s.pollRun = .checking true → c.owner = .timer) := by
  simp only [stop] at present
  split at present
  · obtain ⟨kept, timer⟩ := Option.filter_eq_some_iff.mp present
    exact ⟨kept, fun _ => of_decide_eq_true timer⟩
  next other => exact ⟨present, fun running => absurd running other⟩

theorem reached_step (s : Watchdog) (a : WatchdogAction) (t : Watchdog) (reached : Reached s)
    (h : s.step a = some t) : Reached t := by
  cases stepped s a t h with
  | begin created => exact reached_pollController reached true (.inr created)
  | haStarted waiting => exact reached_pollController reached false (.inl waiting)
  | fire registered =>
    have guarded := reached.guarded (.inl (List.ne_nil_of_mem registered))
    refine reached_checkConnection (fun free i => ?_) reached.unregistered nofun fun _ => reached
    refine Option.eq_none_iff_forall_ne_some.mpr fun c present => ?_
    cases free.symm.trans (guarded i c present)
  | goOn i event c r present resumes =>
    refine reached_settle (fun j c' present' => reached.single j i c' c present' present)
      (fun starts => reached.guarded starts i c present) reached.unregistered fun polls => ?_
    obtain ⟨running, past⟩ := reached.owners i c present polls
    exact ⟨running, Retrieval.beyond_resume s.data past resumes⟩
  | outside event => exact ⟨reached.owners, reached.single, reached.guarded, reached.unregistered⟩
  | stop =>
    refine ⟨fun i c present polls => ?_, fun i j c c' present present' => ?_, fun starts => ?_,
      fun _ => rfl⟩
    · obtain ⟨kept, timer⟩ := stop_checks present
      obtain ⟨⟨asTask, running⟩, past⟩ := reached.owners i c kept polls
      cases asTask with
      | true => cases (timer running).symm.trans polls
      | false => exact ⟨⟨false, if_pos running⟩, past⟩
    · exact reached.single i j c c' (stop_checks present).1 (stop_checks present').1
    · -- Nothing can start a check any more.
      exfalso
      rcases starts with registered | waits
      · exact registered rfl
      · simp only [stop] at waits
        split at waits
        · rcases waits with waiting | created
          · cases waiting
          · cases created
        · rcases waits with waiting | created
          · cases waiting
          · cases created

theorem reached_start (init : RetrievalStart) : Reached (start init) :=
  .of_none (fun _ => rfl) fun _ => rfl

/-! ### A `poll_controller` that a stop does not cancel -/

/-- It is in its first check, or has registered the listeners. -/
def Registers (s : Watchdog) : Prop :=
  s.pollRun = .checking false ∨ (s.pollRun = .over ∧ s.listeners ≠ [])

theorem Registers.of_same {s t : Watchdog} (registers : Registers s) (pollRun : t.pollRun = s.pollRun)
    (listeners : t.listeners = s.listeners) : Registers t := by
  simp only [Registers]
  rw [pollRun, listeners]
  exact registers

theorem registers_settle {u : Watchdog} (registers : Registers u) (i : Nat) (owner : CheckOwner)
    (r : Retrieval × CheckNext) (poll : owner = .pollController → Retrieval.Beyond r.2) :
    Registers (u.settle i owner r) := by
  obtain ⟨d, next⟩ := r
  cases next with
  | waits phase => exact registers.of_same rfl rfl
  | ends how =>
    cases owner with
    | timer => exact registers.of_same rfl rfl
    | pollController =>
      rcases poll rfl with returned | ⟨phase, waits, -⟩
      · cases returned
        exact .inr ⟨rfl, List.append_ne_nil_of_right_ne_nil _ nofun⟩
      · cases waits

theorem registers_step (s : Watchdog) (a : WatchdogAction) (t : Watchdog) (reached : Reached s)
    (registers : Registers s) (other : a ≠ .stop) (h : s.step a = some t) : Registers t := by
  have started (pollRun : PollRun) (is : s.pollRun = pollRun) (idle : pollRun ≠ .over)
      (waits : pollRun ≠ .checking false) : False := by
    rcases registers with running | ⟨finished, -⟩
    · exact waits (is.symm.trans running)
    · exact idle (is.symm.trans finished)
  cases stepped s a t h with
  | begin created => exact (started _ created (by simp) (by simp)).elim
  | haStarted waiting => exact (started _ waiting (by simp) (by simp)).elim
  | fire registered =>
    simp only [checkConnection]
    split
    · exact registers
    · exact registers_settle (u := { s with connectionCheck := true, nextCheck := s.nextCheck + 1 })
        (registers.of_same rfl rfl) _ .timer _ (by simp)
  | goOn i event c r present resumes =>
    refine registers_settle registers i c.owner r fun polls => ?_
    exact Retrieval.beyond_resume s.data (reached.owners i c present polls).2 resumes
  | outside event => exact registers.of_same rfl rfl
  | stop => exact absurd rfl other

/-! ### A stopped retrieval that starts no check -/

/-- The check raises a repair issue when it goes on. -/
def alarms (s : Watchdog) : WatchdogAction → Bool
  | .goOn i event => (s.checks i).any fun c => s.data.alarms c.phase event
  | _ => false

/-- Nothing is left but checks that a timer has fired. -/
structure Stopped (s : Watchdog) : Prop where
  stopping : s.data.stopping = true
  finished : s.pollRun = .over
  listeners : s.listeners = []
  writeTask : s.writeTask = false
  timer : ∀ i c, s.checks i = some c → c.owner = .timer
  /-- Once the datalogger is reported no check goes on. -/
  last : s.data.config.entryId.isSome = true → s.data.unreachableIssue = true →
    ∀ i, s.checks i = none

theorem change_same (d : Retrieval) (event : Outside) :
    (d.change event).stopping = d.stopping ∧
      (d.change event).unreachableIssue = d.unreachableIssue ∧
      (d.change event).hasIssue = d.hasIssue := by
  cases event with
  | otherConnect outcome =>
    have same : d.change (.otherConnect outcome) = _ := Retrieval.tryConnect_same d outcome
    rw [same]
    exact ⟨rfl, rfl, rfl⟩
  | _ => exact ⟨rfl, rfl, rfl⟩

/-- The issues present after a step are those from before and what the step has reported. -/
theorem stopped_step (s : Watchdog) (a : WatchdogAction) (t : Watchdog) (reached : Reached s)
    (stopped : Stopped s) (other : a ≠ .stop) (h : s.step a = some t) :
    Stopped t ∧ t.data.hasIssue = (s.data.hasIssue || s.alarms a) := by
  cases stepped s a t h with
  | begin created => cases stopped.finished.symm.trans created
  | haStarted waiting => cases stopped.finished.symm.trans waiting
  | fire registered =>
    rw [stopped.listeners] at registered
    cases registered
  | goOn i event c r present resumes =>
    have timer := stopped.timer i c present
    have silent : s.data.Silent := by
      refine ⟨stopped.stopping, fun entry => ?_⟩
      rw [← Bool.not_eq_true]
      intro reported
      cases (stopped.last entry reported i).symm.trans present
    obtain ⟨config, stopping, issue, last⟩ := Retrieval.alarmed_resume silent resumes
    have alarms : s.alarms (.goOn i event) = s.data.alarms c.phase event := by
      rw [Watchdog.alarms, present, Option.any_some]
    rw [alarms, timer]
    obtain ⟨d, next⟩ := r
    cases next with
    | waits phase =>
      refine ⟨⟨stopping, stopped.finished, stopped.listeners, stopped.writeTask, fun j c' own => ?_,
        fun entry reported => ?_⟩, issue⟩
      · change Function.update s.checks i (some ⟨.timer, phase⟩) j = some c' at own
        rcases present_update own with ⟨-, here⟩ | ⟨-, old⟩
        · cases here
          rfl
        · exact stopped.timer j c' old
      · change d.config.entryId.isSome = true at entry
        rw [config] at entry
        obtain ⟨how, ends⟩ := last entry reported
        cases ends
    | ends how =>
      -- The check was the only one.
      have none := absent_update fun j c' own => reached.single j i c' c own present
      refine ⟨⟨stopping, stopped.finished, stopped.listeners, stopped.writeTask, fun j c' own => ?_,
        fun _ _ => none⟩, issue⟩
      cases (none j).symm.trans own
  | outside event =>
    obtain ⟨stopping, unreachable, issue⟩ := change_same s.data event
    refine ⟨⟨stopping.trans stopped.stopping, stopped.finished, stopped.listeners, stopped.writeTask,
      stopped.timer, fun entry reported => ?_⟩, issue.trans (Bool.or_false _).symm⟩
    change (s.data.change event).config.entryId.isSome = true at entry
    rw [change_config] at entry
    exact stopped.last entry (unreachable.symm.trans reported)
  | stop => exact absurd rfl other

/-- Nothing is left of the retrieval: no listener, no write task, no repair issue. -/
structure Clean (s : Watchdog) : Prop where
  listeners : s.listeners = []
  writeTask : s.writeTask = false
  issues : s.data.hasIssue = false

theorem Stopped.clean_iff {s : Watchdog} (stopped : Stopped s) : Clean s ↔ s.data.hasIssue = false :=
  ⟨Clean.issues, fun issues => ⟨stopped.listeners, stopped.writeTask, issues⟩⟩

theorem stopped_run {s t : Watchdog} {acts : List WatchdogAction} (reached : Reached s)
    (stopped : Stopped s) (once : .stop ∉ acts) (run : exec step s acts = some t) :
    Clean t ↔ s.data.hasIssue = false ∧ Along step (fun s a _ => s.alarms a = false) s acts := by
  induction acts generalizing s with
  | nil =>
    cases run
    rw [stopped.clean_iff]
    exact (and_iff_left trivial).symm
  | cons a rest ih =>
    obtain ⟨m, ha, hr⟩ := exec_cons_iff.mp run
    have other : a ≠ .stop := by
      rintro rfl
      exact once List.mem_cons_self
    obtain ⟨later, issue⟩ := stopped_step s a m reached stopped other ha
    rw [ih (reached_step s a m reached ha) later (fun stop => once (List.mem_cons_of_mem a stop)) hr,
      along_cons ha, issue, Bool.or_eq_false_iff, and_assoc]

/-- What a stop leaves if it finds no `poll_controller` running as a listener. -/
theorem stopped_stop {s : Watchdog} (reached : Reached s) (cancels : s.pollRun ≠ .checking false) :
    Stopped s.stop ∧ s.stop.data.hasIssue = false := by
  let d : Retrieval := ({ s.data with stopping := true } : Retrieval).updateConnectionIssue false
  have only := Retrieval.linkOnly_updateConnectionIssue { s.data with stopping := true } false
  have config : d.config = s.data.config := only.config
  have stopping : d.stopping = true := only.stopping
  have cleared (entry : s.data.config.entryId.isSome = true) : s.stop.data =
      { d with slaveIdIssue := false } := if_pos entry
  have left (entry : ¬ s.data.config.entryId.isSome = true) : s.stop.data = d := if_neg entry
  have silent (entry : s.data.config.entryId.isSome = true) : d.unreachableIssue = false :=
    Retrieval.updateConnectionIssue_false (d := { s.data with stopping := true }) entry
  refine ⟨⟨?_, if_neg cancels, rfl, rfl, fun i c present => ?_, fun entry reported => ?_⟩, ?_⟩
  · by_cases entry : s.data.config.entryId.isSome = true
    · rw [cleared entry]
      exact stopping
    · rw [left entry]
      exact stopping
  · obtain ⟨kept, timer⟩ := stop_checks present
    cases owner : c.owner with
    | timer => rfl
    | pollController =>
      obtain ⟨⟨asTask, running⟩, -⟩ := reached.owners i c kept owner
      cases asTask with
      | true => exact owner.symm.trans (timer running)
      | false => exact absurd running cancels
  · by_cases own : s.data.config.entryId.isSome = true
    · rw [cleared own] at reported
      cases (silent own).symm.trans reported
    · rw [left own, config] at entry
      exact absurd entry own
  · unfold Retrieval.hasIssue
    by_cases entry : s.data.config.entryId.isSome = true
    · rw [cleared entry]
      simp [silent entry]
    · rw [left entry, config, Bool.not_eq_true _ |>.mp entry, Bool.false_and]

/-- Every check has ended, and so has `poll_controller`. -/
structure Ended (s : Watchdog) : Prop where
  checks : ∀ i, s.checks i = none
  pollRun : s.pollRun = .over

/-- **When a stop leaves nothing behind**, once everything that was running has ended: it has
not found `poll_controller` in its first check as the listener for the start of Home Assistant,
and no check that goes on after it raises a repair issue. -/
theorem stop_clean_iff (init : RetrievalStart) (before after : List WatchdogAction) (s t : Watchdog)
    (reaches : exec step (start init) before = some s) (run : exec step s.stop after = some t)
    (once : .stop ∉ after) (ended : Ended t) :
    Clean t ↔ s.pollRun ≠ .checking false ∧
      Along step (fun s a _ => s.alarms a = false) s.stop after := by
  have reached := invariant reached_step (reached_start init) reaches
  have stop : Reached s.stop := reached_step s .stop s.stop reached rfl
  by_cases listener : s.pollRun = .checking false
  · -- The listeners are registered after all.
    have registers : Registers t := by
      have along : Along step (fun _ a _ => a ≠ .stop) s.stop after :=
        along_of_forall_mem fun a member same => once (same ▸ member)
      exact (invariant_along (I := fun u => Reached u ∧ Registers u)
        (fun u a v both h other => ⟨reached_step u a v both.1 h,
          registers_step u a v both.1 both.2 other h⟩)
        ⟨stop, .inl (if_pos listener)⟩ along run).2
    refine iff_of_false (fun clean => ?_) fun both => both.1 listener
    rcases registers with running | ⟨-, registered⟩
    · cases ended.pollRun.symm.trans running
    · exact registered clean.listeners
  · obtain ⟨stopped, none⟩ := stopped_stop reached listener
    rw [stopped_run stop stopped once run, and_iff_right none, and_iff_right listener]

/-- A Solis inverter behind a datalogger. -/
def solisTcp : RetrievalConfig where
  brand := .solis
  inverterType := .hybrid
  connection := .tcp "10.0.0.5" 502
  deviceId := 1
  entryId := some "entry1"
  suppressNightIssue := false
  fastPoll := 5
  normalPoll := 15
  slowPoll := 30
  sunIsUp _ := true

/-- A stop that finds the listener for the start of Home Assistant in its first `connect` does
not keep it from registering the timers and starting the write task. -/
theorem stopped_listener_registers :
    ∃ s t, exec step (start { config := solisTcp, connected := false, isRunning := false })
        [.haStarted, .goOn 0 .dialLock] = some s ∧
      exec step s.stop [.goOn 0 (.dialDone (.returned false))] = some t ∧ Ended t ∧
      t.listeners = [.checkConnection, .updateFast, .updateNormal, .updateSlow] ∧
      t.writeTask = true := by
  refine ⟨_, _, rfl, rfl, ⟨fun i => ?_, rfl⟩, rfl, rfl⟩
  cases i with
  | zero => rfl
  | succ i => rfl

/-- A check that a timer has fired finds the link again after the stop. -/
theorem stop_clean_iff_reconnected :
    ∃ s t, exec step (start { config := solisTcp, connected := true, isRunning := true })
        [.begin, .goOn 0 .polled, .outside (.link false), .fire, .goOn 1 .dialLock] = some s ∧
      exec step s.stop [.goOn 1 (.dialDone (.returned true))] = some t ∧ Clean t := by
  refine ⟨_, _, rfl, rfl, (stop_clean_iff { config := solisTcp, connected := true, isRunning := true }
    [.begin, .goOn 0 .polled, .outside (.link false), .fire, .goOn 1 .dialLock]
    [.goOn 1 (.dialDone (.returned true))] _ _ rfl rfl (by simp) ⟨fun i => ?_, rfl⟩).mpr
      ⟨nofun, ?_⟩⟩
  · cases i with
    | zero => rfl
    | succ i => cases i <;> rfl
  · exact (along_cons rfl).mpr ⟨rfl, trivial⟩

end Watchdog

end HHModbus
