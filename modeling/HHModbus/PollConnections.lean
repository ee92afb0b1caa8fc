import HHModbus.PollTraffic

/-!
# Who opens connections

No poll batch ever waits in `connect`, and a closed controller opens no connection: what is
pending returns `False`, and a client that it still opens is closed again unless the manager
holds it for another controller.
-/
namespace HHModbus

open Transition Cooperative RefCount Tables

/-- What is left of the program of a suspended batch dials only behind a test, and the batch
does not wait in `connect`. -/
def BatchPhase.Careful : BatchPhase → Prop
  | .queued _ => True
  | .dialing _ _ => False
  | .asking _ k | .holding _ k | .sent _ k => ∀ r, (k r).Careful false

/-- The batch holds the link's lock for a read. -/
def BatchPhase.onLink : BatchPhase → Bool
  | .holding _ _ | .sent _ _ => true
  | _ => false

def WriterPhase.onLink : WriterPhase → Bool
  | .holding _ | .sent _ => true
  | _ => false

namespace PollTraffic

/-- What running a batch up to `x`, where it waits next if it does, changes. -/
structure Advanced (s : PollTraffic) (i : Nat) (b : Batch) (x : Option Batch) (t : PollTraffic) :
    Prop where
  same : t = { s with
    data := t.data, batches := Function.update s.batches i x
    pollLock := t.pollLock, returned := t.returned }
  returned : ∀ r ∈ t.returned, r ∈ s.returned ∨ r = !s.closed
  waits : x = none ∨ ∃ q k, x = some { b with phase := .asking q k } ∧ ∀ r, (k r).Careful false

/-- A careful program runs on until it asks the client or ends: its `connect` stands behind a
test that has just found the link up. Behind a closed gate it ends unless it `asks`. -/
theorem advance_careful (i : Nat) (b : Batch) (p : Poll Unit) (s : PollTraffic) (passed : Bool)
    (careful : p.Careful passed) (open_ : passed = true → s.canPoll = true) :
    ∃ x, Advanced s i b x (advance i b p s) ∧
      (s.canPoll = false → (x = none ↔ Program.asks s.data p = false)) := by
  induction p generalizing s passed with
  | done u =>
    refine ⟨none, ⟨rfl, fun r member => .inl member, .inl rfl⟩, fun _ => ?_⟩
    exact iff_of_true rfl rfl
  | atomic f k ih =>
    obtain ⟨x, ⟨same, returned, waits⟩, asks⟩ :=
      ih (f s.data) { s with data := f s.data } passed (careful _) open_
    exact ⟨x, ⟨same, returned, waits⟩, asks⟩
  | test k ih =>
    rw [advance]
    cases gate : s.canPoll with
    | true =>
      obtain ⟨x, advanced, -⟩ := ih true s true careful.1 fun _ => gate
      exact ⟨x, advanced, fun closed => by cases closed⟩
    | false =>
      obtain ⟨x, advanced, asks⟩ := ih false s false careful.2 fun passed => by cases passed
      exact ⟨x, advanced, fun _ => asks gate⟩
  | dial k ih =>
    have gate := open_ careful.1
    have up : s.connected = true := by
      simp only [canPoll, Bool.and_eq_true] at gate
      exact gate.2
    have record (result : Bool) (correct : result = !s.closed) {x : Option Batch} {t : PollTraffic}
        (advanced : Advanced (s.returns result) i b x t) : Advanced s i b x t := by
      refine ⟨advanced.same, fun r member => ?_, advanced.waits⟩
      rcases advanced.returned r member with earlier | now
      · rcases List.mem_append.mp earlier with earlier | last
        · exact .inl earlier
        · exact .inr (by rw [List.mem_singleton.mp last, correct])
      · exact .inr now
    rw [advance]
    cases closed : s.closed with
    | true =>
      obtain ⟨x, advanced, -⟩ := ih false (s.returns false) false careful.2.2 fun passed => by
        cases passed
      exact ⟨x, record false (by rw [closed]; rfl) advanced, fun shut => by rw [gate] at shut; cases shut⟩
    | false =>
      rw [if_neg Bool.false_ne_true, if_pos up]
      obtain ⟨x, advanced, -⟩ := ih true (s.returns true) true careful.2.1 fun _ => gate
      exact ⟨x, record true (by rw [closed]; rfl) advanced, fun shut => by rw [gate] at shut; cases shut⟩
  | request q k ih =>
    refine ⟨some { b with phase := .asking q k }, ⟨rfl, fun r member => .inl member, ?_⟩, fun _ => ?_⟩
    · exact .inr ⟨q, k, rfl, careful⟩
    · exact iff_of_false nofun nofun

/-! ### The programs of suspended batches -/

/-- No batch waits in `connect`, and what is left of its program is careful. -/
def CarefulBatches (s : PollTraffic) : Prop := ∀ i b, s.batches i = some b → b.phase.Careful

/-- Only calls of the watchdog and of services wait in `connect`. -/
theorem CarefulBatches.dialer {s : PollTraffic} (careful : CarefulBatches s) {d : Dialer}
    {phase : DialPhase} (dials : s.dialPhase d = some phase) :
    ∃ j c, d = .call j ∧ s.calls j = some c ∧ c.phase = phase := by
  cases d with
  | call j =>
    obtain ⟨c, present, rfl⟩ := Option.map_eq_some_iff.mp dials
    exact ⟨j, c, rfl, present, rfl⟩
  | batch i =>
    simp only [dialPhase] at dials
    split at dials
    next present => exact absurd (careful i _ present) id
    next => cases dials

/-- A batch that begins runs on until it asks the client or ends; behind a closed gate it ends. -/
theorem begin_advanced (s : PollTraffic) (i : Nat) (b : Batch) (groups : List SensorGroup) :
    ∃ x, Advanced { s with pollLock := some i } i b x
        (advance i b (Poll.updateGroups groups []) { s with pollLock := some i }) ∧
      (s.canPoll = false → x = none) := by
  obtain ⟨x, advanced, asks⟩ := advance_careful i b (Poll.updateGroups groups [])
    { s with pollLock := some i } false (Poll.careful_updateGroups groups []) nofun
  exact ⟨x, advanced, fun shut => (asks shut).mpr (Poll.heeds_updateGroups groups [] _)⟩

/-- So does a batch that gets an answer; behind a closed gate it ends unless it asks on. -/
theorem CarefulBatches.answered {s : PollTraffic} (careful : CarefulBatches s) {i : Nat} {b : Batch}
    {q : ReadRequest} {k : Reply → Poll Unit} (present : s.batches i = some b)
    (phase : b.phase = .sent q k) (reply : Reply) :
    ∃ x, Advanced { s with linkLock := .free, connected := s.connected && reply != .unanswered } i b x
        (advance i b (k reply)
          { s with linkLock := .free, connected := s.connected && reply != .unanswered }) ∧
      (s.canPoll = false → (x = none ↔ Program.asks s.data (k reply) = false)) := by
  have left := careful i b present
  rw [phase] at left
  obtain ⟨x, advanced, asks⟩ := advance_careful i b (k reply)
    { s with linkLock := .free, connected := s.connected && reply != .unanswered } false
    (left reply) nofun
  refine ⟨x, advanced, fun shut => asks ?_⟩
  -- An answer closes the link or leaves it as it is.
  simp only [canPoll] at shut ⊢
  revert shut
  cases s.stopping <;> cases s.enabled <;> cases s.connected <;> simp

theorem CarefulBatches.update {s t : PollTraffic} (careful : CarefulBatches s) {i : Nat}
    {x : Option Batch} (same : t.batches = Function.update s.batches i x)
    (own : ∀ b, x = some b → b.phase.Careful) : CarefulBatches t := by
  intro j c present
  rw [same] at present
  exact every_update (fun l d _ => careful l d) own j c present

theorem Advanced.batches {s t : PollTraffic} {i : Nat} {b : Batch} {x : Option Batch}
    (advanced : Advanced s i b x t) : t.batches = Function.update s.batches i x := by
  rw [advanced.same]

theorem Advanced.careful {s t : PollTraffic} {i : Nat} {b : Batch} {x : Option Batch}
    (advanced : Advanced s i b x t) (c : Batch) (h : x = some c) :
    c.phase.Careful ∧ c.phase.onLink = false := by
  rcases advanced.waits with rfl | ⟨q, k, rfl, careful⟩
  · cases h
  · cases h
    exact ⟨careful, rfl⟩

theorem carefulBatches_step (s : PollTraffic) (a : TrafficAction) (t : PollTraffic)
    (careful : CarefulBatches s) (h : s.step a = some t) : CarefulBatches t := by
  cases stepped s a t h with
  | fired speed inPollTask b groups phase open_ =>
    refine careful.update rfl fun c own => ?_
    cases own
    rw [phase]
    trivial
  | begin i b groups present phase =>
    obtain ⟨x, advanced, -⟩ := begin_advanced s i b groups
    exact careful.update advanced.batches fun c own => (advanced.careful c own).1
  | takeLink i b q k present phase | sendRead i b q k present phase =>
    have left := careful i b present
    rw [phase] at left
    refine careful.update rfl fun c own => ?_
    cases own
    exact left
  | answer i b q k reply present phase =>
    obtain ⟨x, advanced, -⟩ := careful.answered present phase reply
    exact careful.update advanced.batches fun c own => (advanced.careful c own).1
  | dialReturns d phase | dialOpens d phase | dialDone d outcome phase =>
    obtain ⟨j, c, rfl, -⟩ := careful.dialer phase
    exact careful
  | stop => exact fun i b present => careful i b (Option.filter_eq_some_iff.mp present).1
  | _ => exact careful

/-! ### Who holds the lock of the link -/

/-- The one that is on the link: in `client.connect()`, before or in a client call. -/
def onLink (s : PollTraffic) : LinkHolder → Prop
  | .batch i => ∃ b, s.batches i = some b ∧ b.phase.onLink = true
  | .dialer (.call j) => ∃ c, s.calls j = some c ∧ c.phase = .opening
  | .writer => ∃ p, s.writer = some p ∧ p.onLink = true
  | _ => False

def Locked (s : PollTraffic) : Prop := ∀ h, s.onLink h → s.linkLock = h

/-- Only batch `i` has changed. -/
theorem onLink_batch (s : PollTraffic) {t : PollTraffic} {h : LinkHolder} (on : t.onLink h) {i : Nat}
    {x : Option Batch} (batches : t.batches = Function.update s.batches i x)
    (calls : t.calls = s.calls) (writer : t.writer = s.writer) :
    (s.onLink h ∧ h ≠ .batch i) ∨ (h = .batch i ∧ ∃ b, x = some b ∧ b.phase.onLink = true) := by
  unfold onLink at on ⊢
  rw [batches, calls, writer] at on
  cases h with
  | batch j =>
    obtain ⟨b, present, link⟩ := on
    rcases present_update present with ⟨rfl, own⟩ | ⟨other, old⟩
    · exact .inr ⟨rfl, b, own, link⟩
    · exact .inl ⟨⟨b, old, link⟩, fun same => other (LinkHolder.batch.inj same)⟩
  | dialer d => cases d <;> exact .inl ⟨on, nofun⟩
  | free | writer | other => exact .inl ⟨on, nofun⟩

/-- Only the writer has changed. -/
theorem onLink_writer (s : PollTraffic) {t : PollTraffic} {h : LinkHolder} (on : t.onLink h)
    (batches : t.batches = s.batches) (calls : t.calls = s.calls) :
    (s.onLink h ∧ h ≠ .writer) ∨ (h = .writer ∧ ∃ p, t.writer = some p ∧ p.onLink = true) := by
  unfold onLink at on ⊢
  rw [batches, calls] at on
  cases h with
  | writer => exact .inr ⟨rfl, on⟩
  | dialer d => cases d <;> exact .inl ⟨on, nofun⟩
  | batch i | free | other => exact .inl ⟨on, nofun⟩

/-- Only call `j` has changed. -/
theorem onLink_call (s : PollTraffic) {t : PollTraffic} {h : LinkHolder} (on : t.onLink h) {j : Nat}
    {x : Option ConnectCall} (calls : t.calls = Function.update s.calls j x)
    (batches : t.batches = s.batches) (writer : t.writer = s.writer) :
    (s.onLink h ∧ h ≠ .dialer (.call j)) ∨
      (h = .dialer (.call j) ∧ ∃ c, x = some c ∧ c.phase = .opening) := by
  unfold onLink at on ⊢
  rw [batches, calls, writer] at on
  cases h with
  | dialer d =>
    cases d with
    | batch i => exact absurd on id
    | call l =>
      obtain ⟨c, present, opening⟩ := on
      rcases present_update present with ⟨rfl, own⟩ | ⟨other, old⟩
      · exact .inr ⟨rfl, c, own, opening⟩
      · refine .inl ⟨⟨c, old, opening⟩, fun same => other ?_⟩
        cases same
        rfl
  | batch i | writer | free | other => exact .inl ⟨on, nofun⟩

theorem locked_step (s : PollTraffic) (a : TrafficAction) (t : PollTraffic)
    (careful : CarefulBatches s) (locked : Locked s) (h : s.step a = some t) : Locked t := by
  -- Whoever takes the free lock is the only one on the link.
  have takes (free : s.linkLock = .free) (x : LinkHolder) (on : s.onLink x) : False := by
    have held := locked x on
    rw [free] at held
    subst held
    exact on
  -- Whoever gives the lock back was the only one.
  have gives (own x : LinkHolder) (held : s.linkLock = own) (on : s.onLink x) : x = own :=
    (locked x on).symm.trans held
  cases stepped s a t h with
  | fired speed inPollTask b groups phase open_ =>
    intro x on
    rcases onLink_batch s on rfl rfl rfl with ⟨old, -⟩ | ⟨-, c, own, link⟩
    · exact locked x old
    · cases own
      rw [phase] at link
      cases link
  | begin i b groups present phase =>
    obtain ⟨y, advanced, -⟩ := begin_advanced s i b groups
    intro x on
    rcases onLink_batch s on advanced.batches (by rw [advanced.same]) (by rw [advanced.same]) with
      ⟨old, -⟩ | ⟨-, c, own, link⟩
    · rw [advanced.same]
      exact locked x old
    · rw [(advanced.careful c own).2] at link
      cases link
  | takeLink i b q k present phase free =>
    intro x on
    rcases onLink_batch s on rfl rfl rfl with ⟨old, -⟩ | ⟨rfl, -⟩
    · exact absurd old (takes free x)
    · rfl
  | sendRead i b q k present phase =>
    intro x on
    rcases onLink_batch s on rfl rfl rfl with ⟨old, -⟩ | ⟨rfl, -⟩
    · exact locked x old
    · exact locked _ ⟨b, present, by rw [phase]; rfl⟩
  | answer i b q k reply present phase =>
    have held := locked (.batch i) ⟨b, present, by rw [phase]; rfl⟩
    obtain ⟨y, advanced, -⟩ := careful.answered present phase reply
    intro x on
    rcases onLink_batch s on advanced.batches (by rw [advanced.same]) (by rw [advanced.same]) with
      ⟨old, apart⟩ | ⟨-, c, own, link⟩
    · exact absurd (gives _ x held old) apart
    · rw [(advanced.careful c own).2] at link
      cases link
  | dials inPollTask =>
    intro x on
    rcases onLink_call s on rfl rfl rfl with ⟨old, -⟩ | ⟨-, c, own, opening⟩
    · exact locked x old
    · cases own
      cases opening
  | dialReturns d phase free =>
    obtain ⟨j, c, rfl, -⟩ := careful.dialer phase
    intro x on
    rcases onLink_call s on rfl rfl rfl with ⟨old, -⟩ | ⟨-, c, own, -⟩
    · exact locked x old
    · cases own
  | dialOpens d phase free open_ =>
    obtain ⟨j, c, rfl, -⟩ := careful.dialer phase
    intro x on
    rcases onLink_call s on rfl rfl rfl with ⟨old, -⟩ | ⟨rfl, -⟩
    · exact absurd old (takes free x)
    · rfl
  | dialDone d outcome phase =>
    obtain ⟨j, c, rfl, present, opening⟩ := careful.dialer phase
    have held := locked (.dialer (.call j)) ⟨c, present, opening⟩
    intro x on
    rcases onLink_call s on rfl rfl rfl with ⟨old, apart⟩ | ⟨-, c, own, -⟩
    · exact absurd (gives _ x held old) apart
    · cases own
  | otherTakes free => exact fun x on => absurd on (takes free x)
  | otherDone connected held =>
    intro x on
    rw [gives _ x held on] at on
    exact absurd on id
  | get w rest idle | checkUp w waiting up | ready asTask running =>
    intro x on
    rcases onLink_writer s on rfl rfl with ⟨old, -⟩ | ⟨-, p, own, link⟩
    · exact locked x old
    · cases own
      cases link
  | writerTakes w armed free =>
    intro x on
    rcases onLink_writer s on rfl rfl with ⟨old, -⟩ | ⟨rfl, -⟩
    · exact absurd old (takes free x)
    · rfl
  | writerSends w holding =>
    intro x on
    rcases onLink_writer s on rfl rfl with ⟨old, -⟩ | ⟨rfl, -⟩
    · exact locked x old
    · exact locked .writer ⟨_, holding, rfl⟩
  | writerDone w raised sent =>
    have held := locked .writer ⟨_, sent, rfl⟩
    intro x on
    rcases onLink_writer s on rfl rfl with ⟨old, apart⟩ | ⟨-, p, own, link⟩
    · exact absurd (gives _ x held old) apart
    · cases own
      cases link
  | stop =>
    intro x on
    cases x with
    | batch i =>
      obtain ⟨b, present, link⟩ := on
      have held := locked (.batch i) ⟨b, (Option.filter_eq_some_iff.mp present).1, link⟩
      simp only [stop] at present ⊢
      simp [held, present]
    | dialer d =>
      cases d with
      | batch i => exact absurd on id
      | call j =>
        obtain ⟨c, present, opening⟩ := on
        have held := locked (.dialer (.call j))
          ⟨c, (Option.filter_eq_some_iff.mp present).1, opening⟩
        simp only [stop] at present ⊢
        simp [held, present]
    | writer =>
      obtain ⟨p, own, -⟩ := on
      cases own
    | free | other => exact absurd on id
  | _ => exact locked

/-! ### References to the client -/

/-- The manager counts the other controllers on the link, and this one until it is closed. -/
def Referenced (s : PollTraffic) : Prop :=
  ∃ held, Counted s.manager held ∧ held s.connectionId = s.others + if s.closed then 0 else 1

theorem Referenced.of_same {s t : PollTraffic} (referenced : Referenced s)
    (manager : t.manager = s.manager) (link : t.connectionId = s.connectionId)
    (others : t.others = s.others) (closed : t.closed = s.closed) : Referenced t := by
  unfold Referenced
  rw [manager, link, others, closed]
  exact referenced

theorem Referenced.release {s t : PollTraffic} (referenced : Referenced s) {n : Nat}
    (manager : t.manager = s.manager.releaseClient s.connectionId)
    (link : t.connectionId = s.connectionId)
    (before : (s.others + if s.closed then 0 else 1) = n + 1)
    (after : (t.others + if t.closed then 0 else 1) = n) : Referenced t := by
  obtain ⟨held, counted, count⟩ := referenced
  have positive : 0 < held s.connectionId := by omega
  refine ⟨Function.update held s.connectionId (held s.connectionId - 1), ?_, ?_⟩
  · rw [manager]
    exact counted_release counted s.connectionId positive
  · rw [link, Function.update_self, after]
    omega

theorem referenced_step (s : PollTraffic) (a : TrafficAction) (t : PollTraffic)
    (careful : CarefulBatches s) (referenced : Referenced s) (h : s.step a = some t) :
    Referenced t := by
  cases stepped s a t h with
  | begin i b groups present phase =>
    obtain ⟨x, ⟨same, -, -⟩, -⟩ := begin_advanced s i b groups
    rw [same]
    exact referenced
  | answer i b q k reply present phase =>
    obtain ⟨x, ⟨same, -, -⟩, -⟩ := careful.answered present phase reply
    rw [same]
    exact referenced
  | dialReturns d phase | dialOpens d phase | dialDone d outcome phase =>
    obtain ⟨j, c, rfl, -⟩ := careful.dialer phase
    exact referenced
  | close open_ => exact referenced.release (n := s.others) rfl rfl (by simp [open_]) rfl
  | otherOpens =>
    obtain ⟨held, counted, count⟩ := referenced
    refine ⟨_, counted_acquire counted s.connectionId, ?_⟩
    simp only [Function.update_self, count]
    omega
  | otherCloses some_ =>
    refine referenced.release (n := s.others - 1 + if s.closed then 0 else 1) rfl rfl ?_ rfl
    omega
  | _ => exact referenced

/-- A client that the manager still holds once this controller is closed is held for others. -/
theorem Referenced.shared {s : PollTraffic} (referenced : Referenced s) (closed : s.closed = true)
    (holds : s.managerHolds = true) : 0 < s.others := by
  obtain ⟨held, counted, count⟩ := referenced
  obtain ⟨e, present, -⟩ := Option.any_eq_true .. |>.mp holds
  have some_ : held s.connectionId ≠ 0 := by
    intro none
    rw [(counted.absent_iff s.connectionId).mpr none] at present
    cases present
  rw [count, closed] at some_
  exact Nat.pos_of_ne_zero some_

/-- The write task is the last thing that `poll_controller` starts. -/
def Unstarted (s : PollTraffic) : Prop := s.startup ≠ .over → s.writer = none

theorem unstarted_step (s : PollTraffic) (a : TrafficAction) (t : PollTraffic)
    (careful : CarefulBatches s) (unstarted : Unstarted s) (h : s.step a = some t) : Unstarted t := by
  have writes {p : WriterPhase} (writer : s.writer = some p) (startup : s.startup ≠ .over) : False := by
    rw [unstarted startup] at writer
    cases writer
  cases stepped s a t h with
  | begin i b groups present phase =>
    obtain ⟨x, ⟨same, -, -⟩, -⟩ := begin_advanced s i b groups
    rw [same]
    exact unstarted
  | answer i b q k reply present phase =>
    obtain ⟨x, ⟨same, -, -⟩, -⟩ := careful.answered present phase reply
    rw [same]
    exact unstarted
  | dialReturns d phase | dialOpens d phase | dialDone d outcome phase =>
    obtain ⟨j, c, rfl, -⟩ := careful.dialer phase
    exact unstarted
  | get w rest writer => exact fun startup => (writes writer startup).elim
  | checkUp w writer up => exact fun startup => (writes writer startup).elim
  | writerTakes w writer free => exact fun startup => (writes writer startup).elim
  | writerSends w writer => exact fun startup => (writes writer startup).elim
  | writerDone w raised writer => exact fun startup => (writes writer startup).elim
  | haStarted waiting => exact fun _ => unstarted (by rw [waiting]; exact nofun)
  | ready asTask running => exact fun startup => absurd rfl startup
  | stop => exact fun _ => rfl
  | _ => exact unstarted

/-! ### Opening connections -/

/-- What a step may have to do with opening connections. -/
structure OnlyOthersDial (s : PollTraffic) (a : TrafficAction) (t : PollTraffic) : Prop where
  /-- No poll batch has called `client.connect()`. -/
  polls : ∀ i, Dialer.batch i ∉ t.dialed
  /-- Once closed, the controller calls it no more. -/
  quiet : s.closed = true → t.dialed = s.dialed
  /-- A `connect` that ends then returns `False`. -/
  fails : s.closed = true → ∀ r ∈ t.returned, r ∈ s.returned ∨ r = false
  /-- A `client.connect()` that completes then leaves the client closed, or shared. -/
  closes : s.closed = true → ∀ d outcome, a = .dialDone d outcome →
    t.connected = false ∨ (t.managerHolds = true ∧ 0 < t.others)

/-- What holds of every state a controller reaches. -/
structure Reached (s : PollTraffic) : Prop where
  careful : CarefulBatches s
  locked : Locked s
  referenced : Referenced s
  dialed : ∀ i, Dialer.batch i ∉ s.dialed
  unstarted : Unstarted s

theorem OnlyOthersDial.of_same {s t : PollTraffic} (a : TrafficAction)
    (polls : ∀ i, Dialer.batch i ∉ s.dialed) (dialed : t.dialed = s.dialed)
    (returned : ∀ r ∈ t.returned, r ∈ s.returned ∨ r = !s.closed)
    (other : ∀ d outcome, a ≠ .dialDone d outcome) : OnlyOthersDial s a t where
  polls := by rwa [dialed]
  quiet _ := dialed
  fails closed r member := by simpa [closed] using returned r member
  closes _ d outcome same := absurd same (other d outcome)

theorem onlyOthersDial_step (s : PollTraffic) (a : TrafficAction) (t : PollTraffic)
    (reached : Reached s) (h : s.step a = some t) : OnlyOthersDial s a t := by
  obtain ⟨careful, -, referenced, dialed, -⟩ := reached
  have old (r : Bool) (member : r ∈ s.returned) : r ∈ s.returned ∨ r = !s.closed := .inl member
  have now (result : Bool) (correct : result = !s.closed) (r : Bool)
      (member : r ∈ s.returned ++ [result]) : r ∈ s.returned ∨ r = !s.closed := by
    rcases List.mem_append.mp member with earlier | last
    · exact .inl earlier
    · exact .inr ((List.mem_singleton.mp last).trans correct)
  cases stepped s a t h with
  | begin i b groups present phase =>
    obtain ⟨x, ⟨same, returned, -⟩, -⟩ := begin_advanced s i b groups
    exact .of_same _ dialed (by rw [same]) returned nofun
  | answer i b q k reply present phase =>
    obtain ⟨x, ⟨same, returned, -⟩, -⟩ := careful.answered present phase reply
    exact .of_same _ dialed (by rw [same]) returned nofun
  | called inPollTask => exact .of_same _ dialed rfl (now _ rfl) nofun
  | dialReturns d phase free =>
    obtain ⟨j, c, rfl, -⟩ := careful.dialer phase
    exact .of_same _ dialed rfl (now _ rfl) nofun
  | dialOpens d phase free open_ =>
    obtain ⟨j, c, rfl, -⟩ := careful.dialer phase
    have shut (closed : s.closed = true) : False := by
      rw [open_] at closed
      cases closed
    refine ⟨fun i member => ?_, fun closed => (shut closed).elim, fun closed => (shut closed).elim,
      fun closed => (shut closed).elim⟩
    rcases List.mem_append.mp member with earlier | last
    · exact dialed i earlier
    · cases List.mem_singleton.mp last
  | dialDone d outcome phase =>
    obtain ⟨j, c, rfl, -⟩ := careful.dialer phase
    -- A closed controller makes nothing of the connection.
    have failed (closed : s.closed = true) : (s.tryConnect outcome).2 = false ∧
        ((s.tryConnect outcome).1 = true → s.managerHolds = true) := by
      unfold tryConnect
      cases outcome with
      | raised => exact ⟨rfl, nofun⟩
      | returned up =>
        simp only [closed, if_true, true_and, Bool.and_eq_true]
        exact And.right
    refine ⟨dialed, fun _ => rfl, fun closed r member => ?_, fun closed d outcome' _ => ?_⟩
    · rcases List.mem_append.mp member with earlier | last
      · exact .inl earlier
      · exact .inr ((List.mem_singleton.mp last).trans (failed closed).1)
    · change (s.tryConnect outcome).1 = false ∨ (s.managerHolds = true ∧ 0 < s.others)
      cases up : (s.tryConnect outcome).1 with
      | false => exact .inl rfl
      | true =>
        have holds := (failed closed).2 up
        exact .inr ⟨holds, referenced.shared closed holds⟩
  | checkUp w waiting up => exact .of_same _ dialed rfl (now _ rfl) nofun
  | _ => exact .of_same _ dialed rfl old nofun

theorem reached_start (connectionId : String) (groups : List SensorGroup)
    (enabledSensors : Nat → Bool) (nextGroup : Nat) (connected isRunning : Bool) :
    Reached (start connectionId groups enabledSensors nextGroup connected isRunning) where
  careful i b present := by cases present
  locked h on := by
    match h, on with
    | .batch i, ⟨b, present, _⟩ => cases present
    | .dialer (.call j), ⟨c, present, _⟩ => cases present
    | .writer, ⟨p, writes, _⟩ => cases writes
  referenced := ⟨_, counted_acquire counted_empty connectionId, Function.update_self _ _ _⟩
  dialed i := List.not_mem_nil
  unstarted _ := rfl

theorem reached_step (s : PollTraffic) (a : TrafficAction) (t : PollTraffic) (reached : Reached s)
    (h : s.step a = some t) : Reached t where
  careful := carefulBatches_step s a t reached.careful h
  locked := locked_step s a t reached.careful reached.locked h
  referenced := referenced_step s a t reached.careful reached.referenced h
  dialed := (onlyOthersDial_step s a t reached h).polls
  unstarted := unstarted_step s a t reached.careful reached.unstarted h

/-- **Only the watchdog and services open connections**, in every run of a controller; once it
is closed it opens none, its pending connects return `False`, and a client that still gets
connected is closed again unless the manager holds it for another controller. -/
theorem onlyOthersDial_along (connectionId : String) (groups : List SensorGroup)
    (enabledSensors : Nat → Bool) (nextGroup : Nat) (connected isRunning : Bool)
    (acts : List TrafficAction) :
    Along step OnlyOthersDial
      (start connectionId groups enabledSensors nextGroup connected isRunning) acts :=
  along_always (fun s a t reached h => ⟨reached_step s a t reached h,
    onlyOthersDial_step s a t reached h⟩) acts (reached_start ..)

end PollTraffic

end HHModbus
