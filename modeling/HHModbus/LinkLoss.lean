import HHModbus.Lib.Transition
import HHModbus.Controller

/-!
# The write-queue task on a link that comes and goes

`process_write_queue` checks the link, gets `poll_lock`, waits out the inter-frame gap and
only then makes the client call. Reads of other tasks hold the same lock and close the
shared client when they time out, `connect()` reopens it under the lock, and the transport
goes down and (through pymodbus's own reconnect) up by itself.
-/
namespace HHModbus

open Transition

/-- Where the write-queue task stands with the request it has taken off the queue. -/
inductive WriterPhase where
  | idle
  /-- In `while not self.connected(): await asyncio.sleep(5)`. -/
  | waiting (w : WriteRequest)
  /-- The check has passed and `connect()` returned; the task waits for `poll_lock`. -/
  | armed (w : WriteRequest)
  /-- It holds `poll_lock` and sleeps in `inter_frame_wait`. -/
  | holding (w : WriteRequest)
  /-- The client call has been made. -/
  | sent (w : WriteRequest)
  deriving DecidableEq, Repr

inductive PollLock where
  | free
  | writer
  | reader
  | connector
  deriving DecidableEq, Repr

structure LinkTraffic where
  queue : List WriteRequest
  writer : WriterPhase
  lock : PollLock
  connected : Bool
  /-- Everything ever put on `write_queue`. -/
  requested : List WriteRequest
  /-- Everything handed to the client, with the state of the client at that moment. -/
  handed : List (WriteRequest × Bool)
  /-- Everything `task_done()` was called for. -/
  done : List WriteRequest

inductive LinkAction where
  | put (w : WriteRequest)
  | get
  | checkConnected
  | acquire
  | send
  | finish (raised : Bool)
  | readStart
  | readDone
  | readFailed
  | connectStart
  | connectDone (opened : Bool)
  | linkUp
  | linkDown
  deriving DecidableEq, Repr

namespace WriterPhase

/-- The request taken off the queue and not yet handed to the client. -/
def inHand : WriterPhase → List WriteRequest
  | waiting w | armed w | holding w => [w]
  | _ => []

/-- The request handed to the client and not yet acknowledged. -/
def onWire : WriterPhase → List WriteRequest
  | sent w => [w]
  | _ => []

/-- Between the check of the link and the client call. -/
def inWindow : WriterPhase → Bool
  | armed _ | holding _ => true
  | _ => false

end WriterPhase

namespace LinkTraffic

def start (connected : Bool) : LinkTraffic := ⟨[], .idle, .free, connected, [], [], []⟩

def step (s : LinkTraffic) : LinkAction → Option LinkTraffic
  | .put w => some { s with queue := s.queue ++ [w], requested := s.requested ++ [w] }
  | .get =>
    match s.writer, s.queue with
    | .idle, w :: rest => some { s with queue := rest, writer := .waiting w }
    | _, _ => none
  | .checkConnected =>
    match s.writer, s.connected with
    -- Nothing runs between this check and the one in `connect()`, which returns at once.
    | .waiting w, true => some { s with writer := .armed w }
    | _, _ => none
  | .acquire =>
    match s.writer, s.lock with
    | .armed w, .free => some { s with writer := .holding w, lock := .writer }
    | _, _ => none
  | .send =>
    match s.writer with
    -- On a closed client the call raises at once; the executor logs that and carries on.
    | .holding w => some { s with writer := .sent w, handed := s.handed ++ [(w, s.connected)] }
    | _ => none
  | .finish raised =>
    match s.writer with
    | .sent w =>
      some { s with
        writer := .idle
        lock := .free
        done := s.done ++ [w]
        -- Only the block writer calls `_safe_close` when its call raises.
        connected := s.connected && !(raised && w matches .multiple _ _) }
    | _ => none
  | .readStart => if s.lock = .free then some { s with lock := .reader } else none
  | .readDone => if s.lock = .reader then some { s with lock := .free } else none
  | .readFailed =>
    if s.lock = .reader then some { s with lock := .free, connected := false } else none
  | .connectStart =>
    if s.lock = .free ∧ s.connected = false then some { s with lock := .connector } else none
  | .connectDone opened =>
    if s.lock = .connector then some { s with lock := .free, connected := opened } else none
  | .linkUp => some { s with connected := true }
  | .linkDown => some { s with connected := false }

/-- What each action needs and does, as a relation. -/
inductive Stepped (s : LinkTraffic) : LinkAction → LinkTraffic → Prop where
  | put (w : WriteRequest) :
    Stepped s (.put w) { s with queue := s.queue ++ [w], requested := s.requested ++ [w] }
  | get (w : WriteRequest) (rest : List WriteRequest) (idle : s.writer = .idle)
      (queued : s.queue = w :: rest) : Stepped s .get { s with queue := rest, writer := .waiting w }
  | checkConnected (w : WriteRequest) (waiting : s.writer = .waiting w) (up : s.connected = true) :
    Stepped s .checkConnected { s with writer := .armed w }
  | acquire (w : WriteRequest) (armed : s.writer = .armed w) (free : s.lock = .free) :
    Stepped s .acquire { s with writer := .holding w, lock := .writer }
  | send (w : WriteRequest) (holding : s.writer = .holding w) :
    Stepped s .send { s with writer := .sent w, handed := s.handed ++ [(w, s.connected)] }
  | finish (w : WriteRequest) (raised connected : Bool)
      (closes : connected = (s.connected && !(raised && w matches .multiple _ _)))
      (sent : s.writer = .sent w) :
    Stepped s (.finish raised)
      { s with writer := .idle, lock := .free, done := s.done ++ [w], connected }
  | readStart (free : s.lock = .free) : Stepped s .readStart { s with lock := .reader }
  | readDone (held : s.lock = .reader) : Stepped s .readDone { s with lock := .free }
  | readFailed (held : s.lock = .reader) :
    Stepped s .readFailed { s with lock := .free, connected := false }
  | connectStart (down : s.lock = .free ∧ s.connected = false) :
    Stepped s .connectStart { s with lock := .connector }
  | connectDone (opened : Bool) (held : s.lock = .connector) :
    Stepped s (.connectDone opened) { s with lock := .free, connected := opened }
  | linkUp : Stepped s .linkUp { s with connected := true }
  | linkDown : Stepped s .linkDown { s with connected := false }

theorem stepped (s : LinkTraffic) (a : LinkAction) (t : LinkTraffic) (h : s.step a = some t) :
    Stepped s a t := by
  cases a with
  | put w =>
    cases h
    exact .put w
  | linkUp =>
    cases h
    exact .linkUp
  | linkDown =>
    cases h
    exact .linkDown
  | get =>
    simp only [step] at h
    split at h
    next w rest idle queued =>
      cases h
      exact .get w rest idle queued
    next => cases h
  | checkConnected =>
    simp only [step] at h
    split at h
    next w waiting up =>
      cases h
      exact .checkConnected w waiting up
    next => cases h
  | acquire =>
    simp only [step] at h
    split at h
    next w armed free =>
      cases h
      exact .acquire w armed free
    next => cases h
  | send =>
    simp only [step] at h
    split at h
    next w holding =>
      cases h
      exact .send w holding
    next => cases h
  | finish raised =>
    simp only [step] at h
    split at h
    next w sent =>
      cases h
      exact .finish w raised _ rfl sent
    next => cases h
  | readStart | readDone | readFailed | connectStart | connectDone =>
    simp only [step] at h
    split at h
    next ready =>
      cases h
      constructor
      exact ready
    next => cases h

/-- Requests are handed over once each, in the order of the queue, and acknowledged after. -/
structure Ordered (s : LinkTraffic) : Prop where
  fifo : s.requested = s.handed.map Prod.fst ++ s.writer.inHand ++ s.queue
  acknowledged : s.handed.map Prod.fst = s.done ++ s.writer.onWire

/-- Every request taken off the queue reaches a connected client, exactly once, in order
and before it is acknowledged. -/
structure NothingDropped (s : LinkTraffic) : Prop extends Ordered s where
  connected : ∀ h ∈ s.handed, h.2 = true

theorem ordered_step (s : LinkTraffic) (a : LinkAction) (t : LinkTraffic) (ordered : Ordered s)
    (h : s.step a = some t) : Ordered t := by
  obtain ⟨fifo, acknowledged⟩ := ordered
  cases stepped s a t h with
  | put w => exact ⟨by simp [fifo], acknowledged⟩
  | get w rest idle queued =>
    rw [idle] at fifo acknowledged
    exact ⟨by simpa [WriterPhase.inHand, queued] using fifo, acknowledged⟩
  | checkConnected w waiting up =>
    rw [waiting] at fifo acknowledged
    exact ⟨fifo, acknowledged⟩
  | acquire w armed free =>
    rw [armed] at fifo acknowledged
    exact ⟨fifo, acknowledged⟩
  | send w holding =>
    -- The request moves from the writer's hand to the end of what was handed over.
    rw [holding] at fifo acknowledged
    constructor
    · simpa [WriterPhase.inHand] using fifo
    · simp only [WriterPhase.onWire, List.append_nil] at acknowledged
      simp [WriterPhase.onWire, acknowledged]
  | finish w raised connected closes sent =>
    rw [sent] at fifo acknowledged
    exact ⟨fifo, by simpa [WriterPhase.onWire] using acknowledged⟩
  | readStart | readDone | readFailed | connectStart | connectDone | linkUp | linkDown =>
    exact ⟨fifo, acknowledged⟩

/-! ### Losses inside the window -/

/-- What an observer of the events knows: `none` outside the window between the check and
the client call, otherwise whether the last event on the link was a loss. -/
def watch (lost : Option Bool) : LinkAction → Option Bool
  | .checkConnected => some false
  | .send => none
  | .linkDown | .readFailed | .connectDone false => lost.map fun _ => true
  | .linkUp | .connectDone true => lost.map fun _ => false
  | _ => lost

/-- Each loss of the link inside a window is followed by a reconnect in the same window. -/
def LossesRepaired : Option Bool → List LinkAction → Prop
  | _, [] => True
  | lost, a :: rest => (a = .send → lost = some false) ∧ LossesRepaired (watch lost a) rest

instance decidableLossesRepaired : ∀ lost acts, Decidable (LossesRepaired lost acts)
  | _, [] => isTrue trivial
  | lost, a :: rest =>
    have := decidableLossesRepaired (watch lost a) rest
    inferInstanceAs (Decidable ((a = .send → lost = some false) ∧ _))

/-- The observer is right about the writer and the link. -/
def Watched (s : LinkTraffic) (lost : Option Bool) : Prop :=
  lost = if s.writer.inWindow then some (!s.connected) else none

/-- One step keeps the observer right, and hands a request to a closed client exactly when
the observer has seen a loss. -/
theorem watched_step (s : LinkTraffic) (a : LinkAction) (t : LinkTraffic) (lost : Option Bool)
    (watched : Watched s lost) (h : s.step a = some t) :
    Watched t (watch lost a) ∧
    ((∀ x ∈ t.handed, x.2 = true) ↔
      (∀ x ∈ s.handed, x.2 = true) ∧ (a = .send → lost = some false)) := by
  unfold Watched at watched
  subst watched
  cases stepped s a t h with
  | put w => exact ⟨rfl, by simp⟩
  | get w rest idle queued =>
    exact ⟨by simp [Watched, watch, idle, WriterPhase.inWindow], by simp⟩
  | checkConnected w waiting up =>
    -- The window opens on a link that is up.
    exact ⟨by simp [Watched, watch, up, WriterPhase.inWindow], by simp⟩
  | acquire w armed free =>
    exact ⟨by simp [Watched, watch, armed, WriterPhase.inWindow], by simp⟩
  | send w holding =>
    refine ⟨by simp [Watched, watch, WriterPhase.inWindow], ?_⟩
    simp only [holding, WriterPhase.inWindow, if_true, Option.some.injEq,
      Bool.not_eq_eq_eq_not, Bool.not_false, forall_const]
    constructor
    · intro all
      exact ⟨fun x member => all x (by simp [member]), all (w, s.connected) (by simp)⟩
    · rintro ⟨old, up⟩ x member
      rcases List.mem_append.mp member with member | member
      · exact old x member
      · rw [List.mem_singleton.mp member]
        exact up
  | finish w raised connected closes sent =>
    exact ⟨by simp [Watched, watch, sent, WriterPhase.inWindow], by simp⟩
  | connectDone opened held =>
    refine ⟨?_, by simp⟩
    cases opened <;> cases inside : s.writer.inWindow <;> simp [Watched, watch, inside]
  | readFailed | linkUp | linkDown =>
    refine ⟨?_, by simp⟩
    cases inside : s.writer.inWindow <;> simp [Watched, watch, inside]
  | readStart | readDone | connectStart => exact ⟨rfl, by simp⟩

theorem handed_connected_iff (s t : LinkTraffic) (lost : Option Bool) (acts : List LinkAction)
    (watched : Watched s lost) (run : exec step s acts = some t) :
    (∀ x ∈ t.handed, x.2 = true) ↔ (∀ x ∈ s.handed, x.2 = true) ∧ LossesRepaired lost acts := by
  induction acts generalizing s lost with
  | nil =>
    cases run
    simp [LossesRepaired]
  | cons a rest ih =>
    obtain ⟨m, ha, hr⟩ := exec_cons_iff.mp run
    obtain ⟨next, handed⟩ := watched_step s a m lost watched ha
    rw [ih m _ next hr, handed, LossesRepaired, and_assoc]

/-- **No write is dropped by a link loss** exactly when every loss that falls between the
writer's check of the link and its client call is repaired before that call. -/
theorem nothingDropped_iff (connected : Bool) (acts : List LinkAction) (t : LinkTraffic)
    (run : exec step (start connected) acts = some t) :
    NothingDropped t ↔ LossesRepaired none acts := by
  have ordered : Ordered t := invariant ordered_step ⟨rfl, rfl⟩ run
  have handed := handed_connected_iff (start connected) t none acts rfl run
  constructor
  · intro dropped
    exact (handed.mp dropped.connected).2
  · intro repaired
    exact ⟨ordered, handed.mpr ⟨by simp [start], repaired⟩⟩

/-- A poll read of another task holds `poll_lock` while a single write passes its check. -/
def writeBehindRead (outcome : LinkAction) : List LinkAction :=
  [.readStart, .put (.single 43110 33), .get, .checkConnected, outcome, .acquire, .send,
   .finish true]

theorem nothingDropped_writeBehindRead :
    NothingDropped ((exec step (start true) (writeBehindRead .readDone)).getD (start true)) ↔
      LossesRepaired none (writeBehindRead .readDone) :=
  nothingDropped_iff true (writeBehindRead .readDone) _ rfl

/-- When that read times out and closes the client, the write goes to a closed client and
is acknowledged all the same. -/
theorem readTimeout_drops_write :
    ∃ t, exec step (start true) (writeBehindRead .readFailed) = some t ∧
      t.done = [.single 43110 33] ∧ ¬ NothingDropped t := by
  refine ⟨_, rfl, rfl, fun kept => ?_⟩
  have handed := kept.connected (.single 43110 33, false) (by decide)
  cases handed

end LinkTraffic

end HHModbus
