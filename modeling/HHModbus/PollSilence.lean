import HHModbus.PollConnections

/-!
# Requests after a stop, and of a disabled connection

Once `async_stop` has run, or while the connection is disabled, `_can_poll` holds a batch back
at its next test. What has passed the test before, the probes of a bisection, which make no
test, and the write task, which only looks at the link, are not held back.
-/
namespace HHModbus

open Transition Cooperative RefCount Tables

/-- The batch is past its test and its request is not with the client yet. -/
def BatchPhase.unsent : BatchPhase → Bool
  | .dialing _ _ | .asking _ _ | .holding _ _ => true
  | _ => false

/-- What is left of the program of a suspended batch has a place wherever it asks. -/
def BatchPhase.Stands : BatchPhase → Prop
  | .queued _ => True
  | .dialing _ k => ∀ result, (k result).Throughout Poll.Stands
  | .asking q k | .holding q k | .sent q k =>
    Poll.Stands q k ∧ ∀ reply, (k reply).Throughout Poll.Stands

namespace PollTraffic

/-- The requests that have reached the device. -/
def requests (s : PollTraffic) : List DeviceRequest := (s.handed.filter Prod.snd).map Prod.fst

/-- No request of a batch or of the write task is on its way to the client. -/
structure Idle (s : PollTraffic) : Prop where
  batches : ∀ i b, s.batches i = some b → b.phase.unsent = false
  writer : ∀ p, s.writer = some p → p.inWindow = false

/-- The client has been asked and has not answered yet. -/
def InFlight (s : PollTraffic) : LinkHolder → Prop
  | .batch i => ∃ b q k, s.batches i = some b ∧ b.phase = .sent q k
  | .writer => ∃ w, s.writer = some (.sent w)
  | _ => False

/-- The batch waits for the answer to the request at this place. -/
def WaitsAt (s : PollTraffic) (i : Nat) (place : Poll.Place) : Prop :=
  ∃ b q k, s.batches i = some b ∧ b.phase = .sent q k ∧ Poll.StandsAt place q k

/-- No answer sends a bisection on from the place where the batch waits for it, and the write task finds
the link down whenever it looks. -/
def Harmless (s : PollTraffic) (a : TrafficAction) (_ : PollTraffic) : Prop :=
  match a with
  | .answer i reply => ∀ place, s.WaitsAt i place → place.leadsOn reply = false
  | .checkLink => s.connected = false
  | _ => True

/-- `_can_poll` says no, and nothing in the list reopens it. -/
def ShutDuring (s : PollTraffic) (acts : List TrafficAction) : Prop :=
  s.stopping = true ∨ (s.enabled = false ∧ .enable ∉ acts)

theorem ShutDuring.canPoll {s : PollTraffic} {acts : List TrafficAction} (shut : ShutDuring s acts) :
    s.canPoll = false := by
  unfold PollTraffic.canPoll
  rcases shut with stopping | ⟨disabled, -⟩
  · simp [stopping]
  · simp [disabled]

/-! ### Where a batch waits -/

/-- Every suspended batch has a place wherever it asks on. -/
def Placed (s : PollTraffic) : Prop := ∀ i b, s.batches i = some b → b.phase.Stands

theorem placed_advance (i : Nat) (b : Batch) (p : Poll Unit) (s : PollTraffic)
    (stands : p.Throughout Poll.Stands) (others : ∀ j c, j ≠ i → s.batches j = some c → c.phase.Stands) :
    Placed (advance i b p s) := by
  induction p generalizing s with
  | done u => exact every_update others nofun
  | atomic f k ih => exact ih _ _ (stands _) others
  | test k ih =>
    cases gate : s.canPoll with
    | true =>
      rw [advance, gate]
      exact ih true s stands.1 others
    | false =>
      rw [advance, gate]
      exact ih false s stands.2 others
  | dial k ih =>
    rw [advance]
    split
    · exact ih false _ stands.2 others
    · split
      · exact ih true _ stands.1 others
      · refine every_update others fun c own => ?_
        cases own
        intro result
        cases result with
        | true => exact stands.1
        | false => exact stands.2
  | request q k ih =>
    refine every_update others fun c own => ?_
    cases own
    exact stands

theorem placed_step (s : PollTraffic) (a : TrafficAction) (t : PollTraffic) (reached : Reached s)
    (places : Placed s) (h : s.step a = some t) : Placed t := by
  have others (i j : Nat) (c : Batch) (_ : j ≠ i) (present : s.batches j = some c) : c.phase.Stands :=
    places j c present
  have update {i : Nat} {b : Batch} (own : b.phase.Stands) (j : Nat) (c : Batch)
      (present : Function.update s.batches i (some b) j = some c) : c.phase.Stands := by
    refine every_update (P := fun c => c.phase.Stands) (others i) (fun c same => ?_) j c present
    cases same
    exact own
  cases stepped s a t h with
  | fired speed inPollTask b groups phase open_ =>
    refine update (b := b) ?_
    rw [phase]
    trivial
  | begin i b groups present phase =>
    exact placed_advance i b _ _ (Poll.stands_updateGroups groups []) (others i)
  | takeLink i b q k present phase | sendRead i b q k present phase =>
    have here := places i b present
    rw [phase] at here
    exact update (b := { b with phase := _ }) here
  | answer i b q k reply present phase =>
    have here := places i b present
    rw [phase] at here
    exact placed_advance i b _ _ (here.2 reply) (others i)
  | dialReturns d phase | dialOpens d phase | dialDone d outcome phase =>
    obtain ⟨j, c, rfl, -⟩ := reached.careful.dialer phase
    exact places
  | stop => exact fun i b present => places i b (Option.filter_eq_some_iff.mp present).1
  | _ => exact places

/-! ### What one step does -/

/-- The gate is opened by `enable_connection` only, and never after a stop. -/
theorem gate_step (s : PollTraffic) (a : TrafficAction) (t : PollTraffic) (reached : Reached s)
    (h : s.step a = some t) : (s.stopping = true → t.stopping = true) ∧
      (a ≠ .enable → s.enabled = false → t.enabled = false) := by
  cases stepped s a t h with
  | begin i b groups present phase =>
    obtain ⟨x, ⟨same, -, -⟩, -⟩ := begin_advanced s i b groups
    rw [same]
    exact ⟨id, fun _ => id⟩
  | answer i b q k reply present phase =>
    obtain ⟨x, ⟨same, -, -⟩, -⟩ := reached.careful.answered present phase reply
    rw [same]
    exact ⟨id, fun _ => id⟩
  | dialReturns d phase | dialOpens d phase | dialDone d outcome phase =>
    obtain ⟨j, c, rfl, -⟩ := reached.careful.dialer phase
    exact ⟨id, fun _ => id⟩
  | enable => exact ⟨id, fun other => absurd rfl other⟩
  | stop => exact ⟨fun _ => rfl, fun _ => id⟩
  | disable => exact ⟨id, fun _ _ => rfl⟩
  | _ => exact ⟨id, fun _ => id⟩

theorem ShutDuring.step {s t : PollTraffic} {a : TrafficAction} {rest : List TrafficAction}
    (shut : ShutDuring s (a :: rest)) (reached : Reached s) (h : s.step a = some t) :
    ShutDuring t rest := by
  obtain ⟨stops, disables⟩ := gate_step s a t reached h
  rcases shut with stopping | ⟨disabled, never⟩
  · exact .inl (stops stopping)
  · refine .inr ⟨disables ?_ disabled, fun later => never (List.mem_cons_of_mem a later)⟩
    rintro rfl
    exact never List.mem_cons_self

theorem Idle.update {s t : PollTraffic} (idle : Idle s) {i : Nat} {x : Option Batch}
    (same : t.batches = Function.update s.batches i x) (writer : t.writer = s.writer) :
    Idle t ↔ ∀ b, x = some b → b.phase.unsent = false := by
  constructor
  · rintro later b rfl
    exact later.batches i b (by rw [same, Function.update_self])
  · intro own
    refine ⟨fun j b present => ?_, fun p writes => idle.writer p (writer ▸ writes)⟩
    rw [same] at present
    exact every_update (P := fun b => b.phase.unsent = false) (fun l c _ => idle.batches l c) own
      j b present

/-- A batch that runs on behind the closed gate is still idle if it has ended. -/
theorem Idle.advanced {s t : PollTraffic} (idle : Idle s) {i : Nat} {b : Batch} {x : Option Batch}
    (batches : t.batches = Function.update s.batches i x) (writer : t.writer = s.writer)
    (waits : x = none ∨ ∃ q k, x = some { b with phase := .asking q k } ∧
      ∀ r, (k r).Careful false) : Idle t ↔ x = none := by
  rw [idle.update batches writer]
  constructor
  · intro own
    rcases waits with ended | ⟨q, k, rfl, -⟩
    · exact ended
    · cases own _ rfl
  · rintro rfl b own
    cases own

/-- Behind the closed gate, with nothing on its way, nothing is handed to the client, and
nothing is on its way afterwards exactly if the step is harmless. -/
theorem idle_step (s : PollTraffic) (a : TrafficAction) (t : PollTraffic) (reached : Reached s)
    (places : Placed s) (shut : s.canPoll = false) (idle : Idle s) (h : s.step a = some t) :
    t.handed = s.handed ∧ (Idle t ↔ Harmless s a t) := by
  cases stepped s a t h with
  | fired speed inPollTask b groups phase open_ =>
    rw [shut] at open_
    cases open_
  | begin i b groups present phase =>
    obtain ⟨x, ⟨same, -, waits⟩, ends⟩ := begin_advanced s i b groups
    have after := idle.advanced (t := advance i b _ _) (by rw [same]) (by rw [same]) waits
    refine ⟨by rw [same], ?_⟩
    rw [after]
    exact iff_of_true (ends shut) trivial
  | takeLink i b q k present phase | sendRead i b q k present phase =>
    have off := idle.batches i b present
    rw [phase] at off
    cases off
  | answer i b q k reply present phase =>
    obtain ⟨x, ⟨same, -, waits⟩, asks⟩ := reached.careful.answered present phase reply
    have after := idle.advanced (t := advance i b _ _) (by rw [same]) (by rw [same]) waits
    refine ⟨by rw [same], ?_⟩
    have here := places i b present
    rw [phase] at here
    obtain ⟨⟨place, stands⟩, -⟩ := here
    rw [after, asks shut]
    constructor
    · -- Whatever place fits the request, it says what the batch does.
      rintro ends other ⟨c, q', k', present', phase', stands'⟩
      cases present.symm.trans present'
      cases phase.symm.trans phase'
      rw [← stands'.2 reply s.data, ends]
    · intro harmless
      rw [stands.2]
      exact harmless place ⟨b, q, k, present, phase, stands⟩
  | dialReturns d phase | dialOpens d phase | dialDone d outcome phase =>
    obtain ⟨j, c, rfl, -⟩ := reached.careful.dialer phase
    exact ⟨rfl, iff_of_true ⟨idle.batches, idle.writer⟩ trivial⟩
  | get w rest writes =>
    refine ⟨rfl, iff_of_true ⟨idle.batches, fun p own => ?_⟩ trivial⟩
    cases own
    rfl
  | checkUp w waiting up =>
    refine ⟨rfl, iff_of_false (fun later => ?_) fun down => ?_⟩
    · cases later.writer _ rfl
    · rw [Harmless, up] at down
      cases down
  | checkDown w waiting down => exact ⟨rfl, iff_of_true idle down⟩
  | writerTakes w armed free =>
    have off := idle.writer _ armed
    cases off
  | writerSends w holding =>
    have off := idle.writer _ holding
    cases off
  | writerDone w raised sent =>
    refine ⟨rfl, iff_of_true ⟨idle.batches, fun p own => ?_⟩ trivial⟩
    cases own
    rfl
  | ready asTask running =>
    refine ⟨rfl, iff_of_true ⟨idle.batches, fun p own => ?_⟩ trivial⟩
    cases own
    rfl
  | stop =>
    refine ⟨rfl, iff_of_true ⟨fun i b present => ?_, nofun⟩ trivial⟩
    exact idle.batches i b (Option.filter_eq_some_iff.mp present).1
  | _ => exact ⟨rfl, iff_of_true ⟨idle.batches, idle.writer⟩ trivial⟩

/-- What is on its way to the client stays on its way until it gets there. -/
theorem pending_step (s : PollTraffic) (a : TrafficAction) (t : PollTraffic) (reached : Reached s)
    (shut : s.canPoll = false) (pending : ¬ Idle s) (stays : a ≠ .stop) (h : s.step a = some t) :
    ¬ Idle t ∨ ∃ r, t.handed = s.handed ++ [(r, s.connected)] := by
  have who : (∃ i b, s.batches i = some b ∧ b.phase.unsent = true) ∨
      ∃ p, s.writer = some p ∧ p.inWindow = true := by
    by_contra none
    rw [not_or] at none
    refine pending ⟨fun i b present => ?_, fun p writes => ?_⟩
    · exact Bool.not_eq_true _ |>.mp fun on => none.1 ⟨i, b, present, on⟩
    · exact Bool.not_eq_true _ |>.mp fun on => none.2 ⟨p, writes, on⟩
  have sameBatches (same : t.batches = s.batches) (writer : t.writer = s.writer) : ¬ Idle t := by
    intro idle
    exact pending ⟨fun i b present => idle.batches i b (same ▸ present),
      fun p writes => idle.writer p (writer ▸ writes)⟩
  -- Another batch runs on.
  have apart {i : Nat} {x : Option Batch} (update : t.batches = Function.update s.batches i x)
      (writer : t.writer = s.writer)
      (off : ∀ b, s.batches i = some b → b.phase.unsent = false) : ¬ Idle t := by
    intro idle
    rcases who with ⟨j, c, present, on⟩ | ⟨p, writes, on⟩
    · have other : j ≠ i := by
        rintro rfl
        rw [off c present] at on
        cases on
      have still := idle.batches j c (by rw [update, Function.update_of_ne other, present])
      rw [on] at still
      cases still
    · have still := idle.writer p (by rw [writer, writes])
      rw [on] at still
      cases still
  -- The writer moves on from a phase in which it has nothing to send.
  have writes {p : WriterPhase} (old : s.writer = some p) (off : p.inWindow = false)
      (same : t.batches = s.batches) : ¬ Idle t := by
    intro idle
    rcases who with ⟨j, c, present, on⟩ | ⟨p', writes, on⟩
    · have still := idle.batches j c (by rw [same, present])
      rw [on] at still
      cases still
    · cases writes.symm.trans old
      rw [off] at on
      cases on
  cases stepped s a t h with
  | fired speed inPollTask b groups phase open_ =>
    rw [shut] at open_
    cases open_
  | begin i b groups present phase =>
    obtain ⟨x, ⟨same, -, -⟩, -⟩ := begin_advanced s i b groups
    refine .inl (apart (i := i) (x := x) (by rw [same]) (by rw [same]) fun c own => ?_)
    cases present.symm.trans own
    rw [phase]
    rfl
  | takeLink i b q k present phase free =>
    refine .inl fun idle => ?_
    cases idle.batches i { b with phase := .holding q k } (Function.update_self _ _ _)
  | sendRead i b q k present phase => exact .inr ⟨_, rfl⟩
  | answer i b q k reply present phase =>
    obtain ⟨x, ⟨same, -, -⟩, -⟩ := reached.careful.answered present phase reply
    refine .inl (apart (i := i) (x := x) (by rw [same]) (by rw [same]) fun c own => ?_)
    cases present.symm.trans own
    rw [phase]
    rfl
  | dialReturns d phase | dialOpens d phase | dialDone d outcome phase =>
    obtain ⟨j, c, rfl, -⟩ := reached.careful.dialer phase
    exact .inl (sameBatches rfl rfl)
  | get w rest old => exact .inl (writes old rfl rfl)
  | checkUp w old up => exact .inl (writes old rfl rfl)
  | writerTakes w old free =>
    refine .inl fun idle => ?_
    cases idle.writer _ rfl
  | writerSends w holding => exact .inr ⟨_, rfl⟩
  | writerDone w raised old => exact .inl (writes old rfl rfl)
  | ready asTask running =>
    have none := reached.unstarted (by rw [running]; exact nofun)
    refine .inl fun idle => ?_
    rcases who with ⟨j, c, present, on⟩ | ⟨p, writes, -⟩
    · have still := idle.batches j c present
      rw [on] at still
      cases still
    · rw [none] at writes
      cases writes
  | stop => exact absurd rfl stays
  | _ => exact .inl (sameBatches rfl rfl)

/-- What has been handed to the client stays in the record. -/
theorem requests_step (s : PollTraffic) (a : TrafficAction) (t : PollTraffic) (reached : Reached s)
    (h : s.step a = some t) : s.requests.length ≤ t.requests.length := by
  have grows (r : DeviceRequest × Bool) : ((s.handed.filter Prod.snd).map Prod.fst).length ≤
      (((s.handed ++ [r]).filter Prod.snd).map Prod.fst).length := by
    rw [List.filter_append, List.map_append, List.length_append]
    exact Nat.le_add_right _ _
  cases stepped s a t h with
  | begin i b groups present phase =>
    obtain ⟨x, ⟨same, -, -⟩, -⟩ := begin_advanced s i b groups
    rw [same]
    exact Nat.le_refl _
  | answer i b q k reply present phase =>
    obtain ⟨x, ⟨same, -, -⟩, -⟩ := reached.careful.answered present phase reply
    rw [same]
    exact Nat.le_refl _
  | dialReturns d phase | dialOpens d phase | dialDone d outcome phase =>
    obtain ⟨j, c, rfl, -⟩ := reached.careful.dialer phase
    exact Nat.le_refl _
  | sendRead | writerSends => exact grows _
  | _ => exact Nat.le_refl _

/-! ### Runs behind the closed gate -/

/-- Nothing is on its way at the beginning, and every step is harmless. -/
def Undisturbed (s : PollTraffic) (acts : List TrafficAction) : Prop :=
  Idle s ∧ Along step Harmless s acts

/-- The link stays up, nothing is stopped on the way, and the run goes on until nothing is on
its way to the client. -/
structure RunsOut (s : PollTraffic) (acts : List TrafficAction) (t : PollTraffic) : Prop where
  up : s.connected = true
  staysUp : Along step (fun _ _ u => u.connected = true) s acts
  unstopped : .stop ∉ acts
  rest : Idle t

theorem handed_of_undisturbed {s t : PollTraffic} {acts : List TrafficAction} (reached : Reached s)
    (places : Placed s) (shut : ShutDuring s acts) (undisturbed : Undisturbed s acts)
    (run : exec step s acts = some t) : t.handed = s.handed := by
  induction acts generalizing s with
  | nil =>
    cases run
    rfl
  | cons a rest ih =>
    obtain ⟨m, ha, hr⟩ := exec_cons_iff.mp run
    obtain ⟨harmless, later⟩ := (along_cons ha).mp undisturbed.2
    obtain ⟨handed, idle⟩ := idle_step s a m reached places shut.canPoll undisturbed.1 ha
    rw [← handed]
    exact ih (reached_step s a m reached ha) (placed_step s a m reached places ha) (shut.step reached ha)
      ⟨idle.mpr harmless, later⟩ hr

theorem undisturbed_of_requests {s t : PollTraffic} {acts : List TrafficAction}
    (reached : Reached s) (places : Placed s) (shut : ShutDuring s acts) (run : exec step s acts = some t)
    (out : RunsOut s acts t) (quiet : t.requests.length ≤ s.requests.length) :
    Undisturbed s acts := by
  induction acts generalizing s with
  | nil =>
    cases run
    exact ⟨out.rest, trivial⟩
  | cons a rest ih =>
    obtain ⟨m, ha, hr⟩ := exec_cons_iff.mp run
    obtain ⟨up, staysUp⟩ := (along_cons ha).mp out.staysUp
    have grows := requests_step s a m reached ha
    have later (bound : t.requests.length ≤ m.requests.length) : Undisturbed m rest :=
      ih (reached_step s a m reached ha) (placed_step s a m reached places ha) (shut.step reached ha) hr
        ⟨up, staysUp, fun stop => out.unstopped (List.mem_cons_of_mem a stop), out.rest⟩ bound
    have next := later (by omega)
    by_cases idle : Idle s
    · have harmless := (idle_step s a m reached places shut.canPoll idle ha).2.mp next.1
      exact ⟨idle, (along_cons ha).mpr ⟨harmless, next.2⟩⟩
    · -- What is on its way either still is, or has been handed over on the live link.
      have stays : a ≠ .stop := by
        rintro rfl
        exact out.unstopped List.mem_cons_self
      rcases pending_step s a m reached shut.canPoll idle stays ha with still | ⟨r, handed⟩
      · exact absurd next.1 still
      · have more : m.requests.length = s.requests.length + 1 := by
          simp [requests, handed, out.up]
        have before := handed_of_undisturbed (reached_step s a m reached ha)
          (placed_step s a m reached places ha) (shut.step reached ha) next hr
        have same : t.requests = m.requests := by rw [requests, requests, before]
        rw [same] at quiet
        omega

theorem undisturbed_iff {s t : PollTraffic} {acts : List TrafficAction} (reached : Reached s)
    (places : Placed s) (shut : ShutDuring s acts) (run : exec step s acts = some t) :
    (Undisturbed s acts → t.requests = s.requests) ∧
    (RunsOut s acts t → (t.requests = s.requests ↔ Undisturbed s acts)) := by
  have enough (undisturbed : Undisturbed s acts) : t.requests = s.requests := by
    rw [requests, requests, handed_of_undisturbed reached places shut undisturbed run]
  refine ⟨enough, fun out => ⟨fun quiet => ?_, enough⟩⟩
  exact undisturbed_of_requests reached places shut run out (by rw [quiet])

/-- The link's lock is held during a client call, so there is one at a time. -/
theorem Reached.oneInFlight {s : PollTraffic} (reached : Reached s) (h h' : LinkHolder)
    (first : s.InFlight h) (second : s.InFlight h') : h = h' := by
  have on (x : LinkHolder) (flies : s.InFlight x) : s.linkLock = x := by
    match x, flies with
    | .batch i, ⟨b, q, k, present, phase⟩ =>
      exact reached.locked _ ⟨b, present, by rw [phase]; rfl⟩
    | .writer, ⟨w, sent⟩ => exact reached.locked _ ⟨_, sent, rfl⟩
  exact (on h first).symm.trans (on h' second)

variable (connectionId : String) (groups : List SensorGroup) (enabledSensors : Nat → Bool)
  (nextGroup : Nat) (connected isRunning : Bool)

variable {connectionId groups enabledSensors nextGroup connected isRunning} in
theorem placed_of_reaches {acts : List TrafficAction} {s : PollTraffic}
    (reaches : exec step (start connectionId groups enabledSensors nextGroup connected isRunning)
      acts = some s) : Reached s ∧ Placed s :=
  invariant (I := fun s => Reached s ∧ Placed s)
    (fun s a t both h => ⟨reached_step s a t both.1 h, placed_step s a t both.1 both.2 h⟩)
    ⟨reached_start .., fun i b present => by cases present⟩ reaches

/-- **When a stop silences the polls and the write task**: at most one request is in flight at
the stop, and none is made after it if no surviving batch has one on its way, no answer sends
a bisection on, and a write task that is started later finds the link down; on a link that
stays up only then. -/
theorem stop_silent_iff (before after : List TrafficAction) (s t : PollTraffic)
    (reaches : exec step (start connectionId groups enabledSensors nextGroup connected isRunning)
      before = some s) (run : exec step s.stop after = some t) :
    (∀ h h', s.stop.InFlight h → s.stop.InFlight h' → h = h') ∧
    (Undisturbed s.stop after → t.requests = s.stop.requests) ∧
    (RunsOut s.stop after t → (t.requests = s.stop.requests ↔ Undisturbed s.stop after)) := by
  obtain ⟨reached, places⟩ := placed_of_reaches reaches
  have stopped : Reached s.stop := reached_step s .stop s.stop reached rfl
  have still : Placed s.stop := placed_step s .stop s.stop reached places rfl
  exact ⟨stopped.oneInFlight, undisturbed_iff stopped still (.inl rfl) run⟩

/-- A fast group of the registers 100 and 101. -/
def fastPair : SensorGroup := .fromSensors 0 ([100, 101].map .single) .fast none (some .input)

/-- The read of the group has failed with exception 2 and the probe of register 100 is out; the
link is shared. -/
def probing : List TrafficAction :=
  [.otherOpens, .fire .fast false, .begin 0, .takeLink 0, .sendRead 0, .answer 0 (.exception 2),
    .takeLink 0, .sendRead 0]

/-- A bisection that the stop finds at its probe of register 100 goes on to register 101. -/
theorem stopped_bisection_probes_on :
    ∃ s t, exec step (start "10.0.0.5:502" [fastPair] (fun _ => true) 1 true true) probing = some s ∧
      exec step s.stop [.answer 0 (.values [5]), .takeLink 0, .sendRead 0] = some t ∧
      t.connected = true ∧ 0 < t.others ∧
      t.requests = s.stop.requests ++ [.read ⟨101, 1, false⟩] :=
  ⟨_, _, rfl, rfl, rfl, Nat.one_pos, rfl⟩

/-- If the probe fails, the bisection is at its end. -/
theorem stop_silent_iff_probeFails :
    ∃ s t, exec step (start "10.0.0.5:502" [fastPair] (fun _ => true) 1 true true) probing = some s ∧
      exec step s.stop [.answer 0 (.exception 2)] = some t ∧ t.requests = s.stop.requests := by
  refine ⟨_, _, rfl, rfl, (stop_silent_iff "10.0.0.5:502" [fastPair] (fun _ => true) 1 true true
    probing [.answer 0 (.exception 2)] _ _ rfl rfl).2.1
      ⟨⟨fun i b present => ?_, nofun⟩, (along_cons rfl).mpr ⟨?_, trivial⟩⟩⟩
  · cases i with
    | zero =>
      cases present
      rfl
    | succ i => cases present
  · -- The probe of one of two registers: there is nothing left to halve.
    rintro place ⟨b, q, k, present, phase, stands⟩
    cases present
    cases phase
    exact (stands.2 (.exception 2) (start "10.0.0.5:502" [fastPair] (fun _ => true) 1 true true).data).symm

/-- **When a disabled connection is quiet**, between `disable_connection` and the next
`enable_connection`: at most one request is in flight when it is disabled, and none follows if
none is on its way, no answer sends a bisection on, and the write task finds the link down
whenever it looks; on a link that stays up only then. -/
theorem disabled_quiet_iff (before after : List TrafficAction) (s t : PollTraffic)
    (reaches : exec step (start connectionId groups enabledSensors nextGroup connected isRunning)
      before = some s) (run : exec step { s with enabled := false } after = some t)
    (disabled : .enable ∉ after) :
    (∀ h h', s.InFlight h → s.InFlight h' → h = h') ∧
    (Undisturbed { s with enabled := false } after → t.requests = s.requests) ∧
    (RunsOut { s with enabled := false } after t →
      (t.requests = s.requests ↔ Undisturbed { s with enabled := false } after)) := by
  obtain ⟨reached, places⟩ := placed_of_reaches reaches
  have shut : Reached { s with enabled := false } := reached_step s .disable _ reached rfl
  have still : Placed { s with enabled := false } := placed_step s .disable _ reached places rfl
  exact ⟨reached.oneInFlight, undisturbed_iff shut still (.inr ⟨rfl, disabled⟩) run⟩

/-- A write that is queued when the connection is disabled is still sent. -/
theorem disabled_queue_written :
    ∃ s t, exec step (start "10.0.0.5:502" [fastPair] (fun _ => true) 1 true true)
        [.ready, .put (.single 43110 33)] = some s ∧
      exec step { s with enabled := false } [.get, .checkLink, .writerTakes, .writerSends] = some t ∧
      t.enabled = false ∧ s.requests = [] ∧ t.requests = [.write (.single 43110 33)] :=
  ⟨_, _, rfl, rfl, rfl, rfl, rfl⟩

/-- While the link is down the write stays with the write task. -/
theorem disabled_quiet_iff_linkDown :
    ∃ s t, exec step (start "10.0.0.5:502" [fastPair] (fun _ => true) 1 true true)
        [.ready, .put (.single 43110 33), .link false] = some s ∧
      exec step { s with enabled := false } [.get, .checkLink] = some t ∧ t.requests = s.requests := by
  refine ⟨_, _, rfl, rfl, (disabled_quiet_iff "10.0.0.5:502" [fastPair] (fun _ => true) 1 true true
    [.ready, .put (.single 43110 33), .link false] [.get, .checkLink] _ _ rfl rfl (by simp)).2.1
    ⟨⟨fun i b present => ?_, fun p writes => ?_⟩, ?_⟩⟩
  · cases present
  · cases writes
    rfl
  · refine (along_cons rfl).mpr ⟨trivial, ?_⟩
    exact (along_cons rfl).mpr ⟨rfl, trivial⟩

end PollTraffic

end HHModbus
