import HHModbus.Lib.Debounce
import HHModbus.Watchdog

/-!
# Counting failed connection attempts

Successive calls of `connect`, while the link drops or another controller opens it in between,
and the test of `connect_failures` with which the reconnect loop raises its repair issue.
-/
namespace HHModbus

open Debounce

/-- `connect`, for a client that ends the attempt in this way if one is made. -/
def Retrieval.connect (d : Retrieval) (outcome : DialOutcome) : Retrieval × Bool :=
  match d.connectedNow with
  | some result => (d, result)
  | none => d.tryConnect outcome

/-- A controller, with the attempts it has made so far. -/
structure ConnectHistory where
  link : Retrieval
  attempts : List DialOutcome

inductive ConnectAction where
  | connect (outcome : DialOutcome)
  | link (connected : Bool)
  deriving DecidableEq, Repr

/-- The attempt has not led to a connection. -/
def DialOutcome.failed (outcome : DialOutcome) : Bool := outcome != .returned true

namespace ConnectHistory

/-- A controller that has just been created. -/
def start (d : Retrieval) : ConnectHistory := ⟨{ d with connectFailures := 0 }, []⟩

def step (s : ConnectHistory) : ConnectAction → ConnectHistory
  | .connect outcome =>
    { link := (s.link.connect outcome).1
      attempts := if s.link.connectedNow.isNone then s.attempts ++ [outcome] else s.attempts }
  | .link connected => { s with link := { s.link with connected } }

/-- The state after these calls and changes of the link. -/
def run (d : Retrieval) (actions : List ConnectAction) : ConnectHistory :=
  actions.foldl step (start d)

/-- The attempts since the last one that has connected. -/
def failedAttempts (s : ConnectHistory) : List DialOutcome :=
  s.attempts.rtakeWhile DialOutcome.failed

/-- Each failed attempt has been counted once, and the repair issue is raised from the fifth on. -/
structure FailuresCounted (s : ConnectHistory) : Prop where
  counted : s.link.connectFailures = s.failedAttempts.length
  reported : s.link.reportFailures =
    if 5 ≤ s.failedAttempts.length then s.link.updateConnectionIssue true else s.link

/-- What a failed attempt adds to `connect_failures`. -/
def weight (serial : Bool) (outcome : DialOutcome) : Nat :=
  if serial && outcome == .returned false then 2 else 1

/-- An attempt of a controller that is open counts by its weight, or starts the count anew. -/
theorem connectFailures_tryConnect (d : Retrieval) (outcome : DialOutcome) (open_ : d.closed = false) :
    (d.tryConnect outcome).1.connectFailures =
      if outcome.failed then d.connectFailures + weight d.config.isSerial outcome else 0 := by
  cases outcome with
  | raised =>
    have once : weight d.config.isSerial .raised = 1 := by simp [weight]
    rw [once]
    rfl
  | returned up =>
    simp only [Retrieval.tryConnect, open_, Bool.false_eq_true, if_false]
    cases up with
    | true => rfl
    | false => simp [weight, DialOutcome.failed]

theorem config_tryConnect (d : Retrieval) (outcome : DialOutcome) :
    (d.tryConnect outcome).1.config = d.config := by
  cases outcome with
  | raised => rfl
  | returned up =>
    unfold Retrieval.tryConnect
    dsimp only
    split
    · rfl
    · split <;> rfl

/-- `connect_failures` weighs the attempts since the last success. -/
structure Weighed (serial : Bool) (s : ConnectHistory) : Prop where
  transport : s.link.config.isSerial = serial
  failures : s.link.connectFailures = (s.failedAttempts.map (weight serial)).sum

theorem weighed_step {serial : Bool} {s : ConnectHistory} (weighed : Weighed serial s)
    (a : ConnectAction) : Weighed serial (s.step a) := by
  cases a with
  | link connected => exact ⟨weighed.transport, weighed.failures⟩
  | connect outcome =>
    simp only [step, Retrieval.connect]
    cases now : s.link.connectedNow with
    -- The link is up, or the controller is closed: no attempt.
    | some result => exact ⟨weighed.transport, weighed.failures⟩
    | none =>
      have open_ : s.link.closed = false := by
        cases closed : s.link.closed with
        | false => rfl
        | true => simp [Retrieval.connectedNow, closed] at now
      refine ⟨(congrArg RetrievalConfig.isSerial (config_tryConnect _ _)).trans weighed.transport, ?_⟩
      simp only [Option.isNone_none, if_true, failedAttempts, List.rtakeWhile_concat]
      rw [connectFailures_tryConnect _ _ open_, weighed.transport, weighed.failures]
      split
      next => simp [failedAttempts]
      next => rfl

theorem weighed_run (d : Retrieval) (actions : List ConnectAction) :
    Weighed d.config.isSerial (run d actions) := by
  induction actions using List.reverseRecOn with
  | nil => exact ⟨rfl, rfl⟩
  | append_singleton actions a ih =>
    rw [run, List.foldl_append]
    exact weighed_step ih a

/-- The weights add up to the number of attempts exactly when none of them counts twice. -/
theorem sum_weight_eq_length_iff (serial : Bool) (attempts : List DialOutcome) :
    (attempts.map (weight serial)).sum = attempts.length ↔
      serial = false ∨ .returned false ∉ attempts := by
  -- What one attempt weighs too much the others cannot make up for.
  have atLeast (l : List DialOutcome) : l.length ≤ (l.map (weight serial)).sum := by
    induction l with
    | nil => exact Nat.le_refl 0
    | cons o l ih =>
      have one : 1 ≤ weight serial o := by
        unfold weight
        split <;> decide
      simp only [List.map_cons, List.sum_cons, List.length_cons]
      omega
  induction attempts with
  | nil => simp
  | cons o attempts ih =>
    have rest := atLeast attempts
    simp only [List.map_cons, List.sum_cons, List.length_cons, List.mem_cons, not_or]
    cases serial with
    | false =>
      simp only [true_or, iff_true] at ih ⊢
      simp [weight, ih, Nat.add_comm]
    | true =>
      simp only [Bool.true_eq_false, false_or] at ih ⊢
      by_cases twice : o = .returned false
      · -- More than the number of attempts from here on, whatever the others weigh.
        have two : weight true o = 2 := by
          rw [twice]
          rfl
        rw [two]
        constructor
        · intro sum
          omega
        · intro none_
          exact absurd twice.symm none_.1
      · have one : weight true o = 1 := by simp [weight, twice]
        have less : 1 + (attempts.map (weight true)).sum = attempts.length + 1 ↔
            (attempts.map (weight true)).sum = attempts.length := by omega
        rw [one]
        exact less.trans (ih.trans (and_iff_right (Ne.symm twice)).symm)

/-- **When failed attempts are counted once each**: over TCP, and on a serial port as long as no
attempt since the last success has returned without a connection. -/
theorem failuresCounted_iff (d : Retrieval) (actions : List ConnectAction) :
    FailuresCounted (run d actions) ↔
      d.config.isSerial = false ∨ .returned false ∉ (run d actions).failedAttempts := by
  have weighed := weighed_run d actions
  rw [← sum_weight_eq_length_iff, ← weighed.failures]
  constructor
  · exact FailuresCounted.counted
  · intro counted
    -- The issue depends on the number only.
    refine ⟨counted, ?_⟩
    rw [Retrieval.reportFailures, counted]
    rfl

end ConnectHistory

/-- A Solis inverter on a serial port that has not answered yet. -/
def solisSerial : Retrieval where
  config :=
    { brand := .solis, inverterType := .hybrid, connection := .serial "/dev/ttyUSB0", deviceId := 1
      entryId := some "entry1", suppressNightIssue := false, fastPoll := 5, normalPoll := 15
      slowPoll := 30, sunIsUp := fun _ => true }
  closed := false
  connected := false
  clientShared := false
  hasAnswered := false
  connectFailures := 0
  lastModbusSuccess := 0
  issueRaised := none
  slaveIdChecked := false
  slaveIdIssueRaised := false
  pollingSince := some 0
  firstPoll := true
  stopping := false
  unreachableIssue := false
  slaveIdIssue := false
  monotonic := 0
  wall := 0
  others := []

/-- Its third failed attempt raises the issue already. -/
theorem solisSerial_counted_twice :
    let s := ConnectHistory.run solisSerial (List.replicate 3 (.connect (.returned false)))
    ¬ s.FailuresCounted ∧ s.failedAttempts.length = 3 ∧ s.link.connectFailures = 6 ∧
      s.link.reportFailures.unreachableIssue = true := by
  refine ⟨fun counted => ?_, rfl, rfl, rfl⟩
  exact absurd counted.counted (by decide)

end HHModbus
