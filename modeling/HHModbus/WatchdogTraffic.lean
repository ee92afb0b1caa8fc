import HHModbus.WatchdogStop

/-!
# The watchdog beside the traffic

The traffic of a controller knows of `poll_controller` only that it starts the write task when
its first check has ended. The watchdog, which runs that check, bears this out.
-/
namespace HHModbus

open Transition

/-- What the traffic knows of `poll_controller`. -/
def PollRun.startup : PollRun → Startup
  | .waitingForStarted => .waitingForStarted
  | .created => .running true
  | .checking asTask => .running asTask
  | .over => .over

namespace Watchdog

/-- Both are at the same point of the life of the retrieval. -/
structure Beside (s : Watchdog) (p : PollTraffic) : Prop where
  startup : p.startup = s.pollRun.startup
  stopping : p.stopping = s.data.stopping
  writer : p.writer.isSome = s.writeTask

/-- Some steps of the traffic lead beside the watchdog. -/
def Followed (p : PollTraffic) (t : Watchdog) : Prop :=
  ∃ acts q, exec PollTraffic.step p acts = some q ∧ Beside t q

theorem Beside.followed {s t : Watchdog} {p : PollTraffic} (beside : Beside s p)
    (pollRun : t.pollRun.startup = s.pollRun.startup) (stopping : t.data.stopping = s.data.stopping)
    (writeTask : t.writeTask = s.writeTask) : Followed p t := by
  refine ⟨[], p, rfl, ?_, ?_, ?_⟩
  · rw [pollRun, beside.startup]
  · rw [stopping, beside.stopping]
  · rw [writeTask, beside.writer]

/-- `poll_controller` has returned and started the write task. -/
theorem Beside.ready {s t : Watchdog} {p : PollTraffic} (beside : Beside s p) {asTask : Bool}
    (running : s.pollRun.startup = .running asTask) (over_ : t.pollRun = .over)
    (stopping : t.data.stopping = s.data.stopping) (writeTask : t.writeTask = true) :
    Followed p t := by
  have goes : p.step .ready = some { p with startup := .over, writer := some .idle } := by
    simp only [PollTraffic.step, beside.startup, running]
  refine ⟨[.ready], _, exec_cons_iff.mpr ⟨_, goes, rfl⟩, ?_, ?_, ?_⟩
  · rw [over_]
    rfl
  · rw [stopping, ← beside.stopping]
  · rw [writeTask]
    rfl

theorem followed_settle {u : Watchdog} {p : PollTraffic} (beside : Beside u p) (i : Nat)
    (owner : CheckOwner) (r : Retrieval × CheckNext) (stopping : r.1.stopping = u.data.stopping)
    (poll : owner = .pollController →
      (∃ asTask, u.pollRun = .checking asTask) ∧ Retrieval.Beyond r.2) :
    Followed p (u.settle i owner r) := by
  obtain ⟨d, next⟩ := r
  cases next with
  | waits phase => exact beside.followed rfl stopping rfl
  | ends how =>
    cases owner with
    | timer => exact beside.followed rfl stopping rfl
    | pollController =>
      obtain ⟨⟨asTask, running⟩, returned | ⟨phase, waits, -⟩⟩ := poll rfl
      · cases returned
        exact beside.ready (congrArg PollRun.startup running) rfl stopping rfl
      · cases waits

theorem followed_checkConnection {u : Watchdog} {p : PollTraffic} (beside : Beside u p)
    (owner : CheckOwner) (poll : owner = .pollController →
      (∃ asTask, u.pollRun = .checking asTask) ∧ u.data.asksUnit = false) :
    Followed p (u.checkConnection owner) := by
  simp only [checkConnection]
  split
  · cases owner with
    | timer => exact beside.followed rfl rfl rfl
    | pollController =>
      obtain ⟨⟨asTask, running⟩, -⟩ := poll rfl
      exact beside.ready (congrArg PollRun.startup running) rfl rfl rfl
  · have besideStarted : Beside { u with connectionCheck := true, nextCheck := u.nextCheck + 1 } p :=
      ⟨beside.startup, beside.stopping, beside.writer⟩
    refine followed_settle besideStarted _ owner _ ?_ fun polls => ?_
    · exact (Retrieval.raisesIff_startCheck u.data).kept.stopping
    · exact ⟨(poll polls).1, Retrieval.beyond_startCheck u.data (poll polls).2⟩

theorem followed_pollController (s : Watchdog) {p : PollTraffic} {asTask : Bool}
    (startup : p.startup = .running asTask) (stopping : p.stopping = s.data.stopping)
    (writer : p.writer.isSome = s.writeTask) : Followed p (s.pollController asTask) :=
  followed_checkConnection
    (u := { s with
      data := { s.data with pollingSince := some s.data.monotonic }
      pollRun := .checking asTask }) ⟨startup, stopping, writer⟩ .pollController
    fun _ => ⟨⟨asTask, rfl⟩, Retrieval.asksUnit_first s.data⟩

theorem stop_stopping (s : Watchdog) : s.stop.data.stopping = true := by
  have only :=
    (Retrieval.linkOnly_updateConnectionIssue { s.data with stopping := true } false).stopping
  simp only [stop]
  split
  · exact only
  · exact only

theorem beside_stop {s : Watchdog} {p : PollTraffic} (beside : Beside s p) : Beside s.stop p.stop where
  startup := by
    have startup := beside.startup
    simp only [PollTraffic.stop, stop, startup]
    cases s.pollRun with
    | checking asTask => cases asTask <;> rfl
    | _ => rfl
  stopping := (stop_stopping s).symm
  writer := rfl

/-- Each step of the watchdog is followed by steps of the traffic. -/
theorem followed_step (s : Watchdog) (a : WatchdogAction) (t : Watchdog) (p : PollTraffic)
    (reached : Reached s) (beside : Beside s p) (h : s.step a = some t) : Followed p t := by
  cases stepped s a t h with
  | begin created =>
    have startup := beside.startup
    rw [created] at startup
    exact followed_pollController s startup beside.stopping beside.writer
  | haStarted waiting =>
    have startup := beside.startup
    rw [waiting] at startup
    have goes : p.step .haStarted = some { p with startup := .running false } := if_pos startup
    obtain ⟨acts, q, run, after⟩ := followed_pollController s
      (p := { p with startup := .running false }) rfl beside.stopping beside.writer
    exact ⟨.haStarted :: acts, q, exec_cons_iff.mpr ⟨_, goes, run⟩, after⟩
  | fire registered => exact followed_checkConnection beside .timer nofun
  | goOn i event c r present resumes =>
    have kept := (Retrieval.raisesIff_resume s.data c.phase event r resumes).kept
    refine followed_settle beside i c.owner r kept.stopping fun polls => ?_
    obtain ⟨running, past⟩ := reached.owners i c present polls
    exact ⟨running, Retrieval.beyond_resume s.data past resumes⟩
  | outside event => exact beside.followed rfl (change_same s.data event).1 rfl
  | stop => exact ⟨[.stop], p.stop, rfl, beside_stop beside⟩

/-- **The watchdog refines what the traffic knows of it**: beside each of its runs there is one
of the traffic that starts and stops the write task at the same points. -/
theorem followed_run (init : RetrievalStart) (groups : List SensorGroup)
    (enabledSensors : Nat → Bool) (nextGroup : Nat) (acts : List WatchdogAction) (t : Watchdog)
    (run : exec step (start init) acts = some t) :
    Followed (PollTraffic.start init.config.connection.connectionId groups enabledSensors nextGroup
      init.connected init.isRunning) t := by
  refine exec_simulated reached_step (fun s a t p reached beside h => ?_) (reached_start init) ?_ run
  · exact followed_step s a t p reached beside h
  · refine ⟨?_, rfl, rfl⟩
    simp only [PollTraffic.start, start]
    cases init.isRunning <;> rfl

end Watchdog

end HHModbus
