import HHModbus.Dispatch

/-!
# The read-back of omitted dispatch settings

Reads bypass the queue, so what a call reads back is right only if nothing that is still
queued will change it. The lock, the flush and the order of the queue together see to
that: `Sound` says what holds of every call and of every queued block in between.
-/
namespace HHModbus

open Transition WriteBehind

namespace DispatchCall

/-- The reserve registers that the caller left to the read-back. -/
def omitted (c : DispatchCall) : List Nat :=
  (if c.supplied.1.isNone then [c.reserveRegister] else []) ++
    if c.supplied.2.isNone then [c.reserveRegister + 1] else []

theorem isReserveWord_reserveRegister (c : DispatchCall) :
    isReserveWord c.reserveRegister = true ∧ isReserveWord (c.reserveRegister + 1) = true := by
  cases c with
  | dispatch call => exact ⟨rfl, rfl⟩
  | schedule call =>
    have periods : ∀ p : Fin 6, isReserveWord (44116 + p.val * 14 + 9) = true ∧
        isReserveWord (44116 + p.val * 14 + 9 + 1) = true := by decide
    exact periods call.period

theorem isReserveWord_of_omitted {c : DispatchCall} {r : Nat} (h : r ∈ c.omitted) :
    isReserveWord r = true := by
  obtain ⟨first, second⟩ := c.isReserveWord_reserveRegister
  rcases List.mem_append.mp h with h | h
  · split at h
    · rw [List.mem_singleton.mp h]
      exact first
    · cases h
  · split at h
    · rw [List.mem_singleton.mp h]
      exact second
    · cases h

/-- Only the omitted registers matter to the reserve words. -/
theorem reserveWords_congr {c : DispatchCall} {d e : Nat → Nat}
    (agree : ∀ r ∈ c.omitted, d r = e r) : c.reserveWords d = c.reserveWords e := by
  have first : c.supplied.1.getD (d c.reserveRegister) = c.supplied.1.getD (e c.reserveRegister) := by
    cases given : c.supplied.1 with
    | some _ => rfl
    | none => exact agree _ (by simp [omitted, given])
  have second : c.supplied.2.getD (d (c.reserveRegister + 1)) =
      c.supplied.2.getD (e (c.reserveRegister + 1)) := by
    cases given : c.supplied.2 with
    | some _ => rfl
    | none => exact agree _ (by simp [omitted, given])
  rw [reserveWords, reserveWords, first, second]

theorem omitted_of_supplied {c : DispatchCall}
    (h : c.supplied.1.isSome = true ∧ c.supplied.2.isSome = true) : c.omitted = [] := by
  simp [omitted, Option.isNone_iff_eq_none, Option.isSome_iff_ne_none.mp h.1,
    Option.isSome_iff_ne_none.mp h.2]

/-- The reserve words come right behind the head of the block. -/
theorem blockRegister_add_length {c : DispatchCall} {head : List Nat} (h : c.blockHead = some head) :
    c.blockRegister + head.length = c.reserveRegister := by
  cases c with
  | dispatch call =>
    cases h
    rfl
  | schedule call =>
    simp only [blockHead, Option.bind_eq_bind, Option.bind_eq_some_iff, Option.pure_def,
      Option.some.injEq] at h
    obtain ⟨start, -, end_, -, rfl⟩ := h
    rfl

end DispatchCall

/-- The write leaves these registers alone. -/
def DispatchWrite.Spares (w : DispatchWrite) (registers : List Nat) : Prop :=
  ∀ r ∈ registers, r ∉ w.writes.map Prod.fst

namespace Dispatch

/-- Nothing that is queued will change a reserve word. -/
def Quiet (s : Dispatch) : Prop :=
  ∀ w ∈ s.queue.waiting, ∀ r, isReserveWord r = true → r ∉ w.writes.map Prod.fst

/-- What a suspended call may rely on. -/
def PhaseSound (s : Dispatch) (task : DispatchTask) : Prop :=
  match task.phase with
  | .lockWait head | .flushing head => task.call.blockHead = some head
  | .flushed head => task.call.blockHead = some head ∧ s.Quiet
  | .ready head words =>
    task.call.blockHead = some head ∧ words = task.call.reserveWords s.device ∧
      ∀ w ∈ s.queue.waiting, w.Spares task.call.omitted
  | _ => True

/-- A queued block carries the words the inverter holds, and will still hold when the
writes before it have been executed. -/
def Carried (s : Dispatch) (call : DispatchCall) (before : List DispatchWrite)
    (w : DispatchWrite) : Prop :=
  ∀ values, w.write = .multiple call.blockRegister values →
    ∃ head, call.blockHead = some head ∧ values = head ++ call.reserveWords s.device ∧
      ∀ b ∈ before, b.Spares call.omitted

structure Sound (s : Dispatch) : Prop where
  lock : ∀ (i : Nat) (task : DispatchTask), s.calls[i]? = some task →
    task.phase.holdsLock = true → s.lock = some i
  phase : ∀ (i : Nat) (task : DispatchTask), s.calls[i]? = some task → s.PhaseSound task
  blocks : ∀ before w after (i : Nat), s.queue.waiting = before ++ w :: after → w.caller = some i →
    ∃ task, s.calls[i]? = some task ∧ s.Carried task.call before w
  callers : ∀ w ∈ s.requested, ∀ i : Nat, w.caller = some i →
    ∃ task, s.calls[i]? = some task ∧ task.phase = .done

theorem sound_start (device : Nat → Nat) (cache : Nat → Option Nat) : (start device cache).Sound where
  lock i task h := by simp [start] at h
  phase i task h := by simp [start] at h
  blocks before w after i h := by simp [start, Queue.start, Queue.waiting] at h
  callers w h := by simp [start] at h

/-! ### Phases -/

/-- A phase before the lock, with the head of the block once it has been computed. -/
structure BeforeLock (call : DispatchCall) (phase : CallPhase) : Prop where
  unlocked : phase.holdsLock = false
  head : ∀ head, phase = .lockWait head → call.blockHead = some head

private theorem beforeLock_raised (call : DispatchCall) : BeforeLock call .raised :=
  ⟨rfl, by rintro _ ⟨⟩⟩

theorem beforeLock_afterVersion (call : DispatchCall) : BeforeLock call (afterVersion call) := by
  unfold afterVersion
  split
  next head computed =>
    refine ⟨rfl, ?_⟩
    rintro _ ⟨⟩
    exact computed
  next => exact beforeLock_raised call

theorem beforeLock_afterCapability (s : Dispatch) (call : DispatchCall) :
    BeforeLock call (s.afterCapability call) := by
  unfold afterCapability
  split
  · exact beforeLock_afterVersion call
  · split
    · split
      · exact beforeLock_afterVersion call
      · exact beforeLock_raised call
    · exact ⟨rfl, by rintro _ ⟨⟩⟩

theorem beforeLock_issued (s : Dispatch) (call : DispatchCall) : BeforeLock call (s.issued call) := by
  unfold issued
  split
  · split
    · exact s.beforeLock_afterCapability call
    · exact beforeLock_raised call
  · exact ⟨rfl, by rintro _ ⟨⟩⟩

theorem phaseSound_of_beforeLock (s : Dispatch) {call : DispatchCall} {phase : CallPhase}
    (before : BeforeLock call phase) : s.PhaseSound ⟨call, phase⟩ := by
  cases phase with
  | lockWait head => exact before.head head rfl
  | flushing | flushed | ready => cases before.unlocked
  | capabilityRead | versionRead | done | raised => trivial

/-- What a call relies on is a matter of the waiting requests and the inverter. -/
theorem PhaseSound.mono {s t : Dispatch} {task : DispatchTask} (sound : s.PhaseSound task)
    (fewer : ∀ w ∈ t.queue.waiting, w ∈ s.queue.waiting)
    (device : ∀ r ∈ task.call.omitted, (∀ w ∈ s.queue.waiting, r ∉ w.writes.map Prod.fst) →
      t.device r = s.device r) : t.PhaseSound task := by
  unfold PhaseSound at sound ⊢
  split at sound
  next => exact sound
  next => exact sound
  next => exact ⟨sound.1, fun w member => sound.2 w (fewer w member)⟩
  next head words _ =>
    obtain ⟨computed, kept, spared⟩ := sound
    refine ⟨computed, ?_, fun w member => spared w (fewer w member)⟩
    rw [kept]
    apply DispatchCall.reserveWords_congr
    intro r omitted
    exact (device r omitted fun w member => spared w member r omitted).symm
  next => trivial

/-- What an event can do to a suspended call, short of letting it queue its blocks. -/
theorem nextPhase_sound {s : Dispatch} {task : DispatchTask} {e : CallEvent} {phase : CallPhase}
    (sound : s.PhaseSound task) (h : s.nextPhase task.call e task.phase = some phase)
    (waits : e ≠ .enqueue) :
    s.PhaseSound ⟨task.call, phase⟩ ∧ task.phase ≠ .done ∧
      (phase.holdsLock = true → task.phase.holdsLock = true ∨ s.lock = none) := by
  obtain ⟨call, before⟩ := task
  cases e <;> cases before <;>
    simp only [nextPhase, reduceCtorEq, Option.some.injEq, ne_eq, not_true_eq_false] at h waits
  case capability.capabilityRead value =>
    have next : BeforeLock call phase := by
      rw [← h]
      split
      · exact s.beforeLock_afterCapability call
      · exact beforeLock_raised call
    exact ⟨s.phaseSound_of_beforeLock next, by simp, fun holds => by simp [next.unlocked] at holds⟩
  case version.versionRead value =>
    have next : BeforeLock call phase := by
      rw [← h]
      split
      · exact beforeLock_afterVersion call
      · exact beforeLock_raised call
    exact ⟨s.phaseSound_of_beforeLock next, by simp, fun holds => by simp [next.unlocked] at holds⟩
  case acquire.lockWait head =>
    have computed : call.blockHead = some head := sound
    split at h
    next free =>
      simp only [Option.some.injEq] at h
      refine ⟨?_, by simp, fun _ => .inr free⟩
      split at h
      next both =>
        rw [← h]
        refine ⟨computed, rfl, fun w _ => ?_⟩
        simp [DispatchWrite.Spares, DispatchCall.omitted_of_supplied both]
      next =>
        rw [← h]
        exact computed
    next => cases h
  case flush.flushing head =>
    split at h
    next drained =>
      cases h
      refine ⟨⟨sound, fun w member => ?_⟩, by simp, fun _ => .inl rfl⟩
      -- An empty queue has nothing that could change a reserve word.
      simp [Queue.waiting, drained.1, drained.2] at member
    next => cases h
  case flushTimeout.flushing head =>
    rw [← h]
    exact ⟨trivial, by simp, by rintro ⟨⟩⟩
  case readBack.flushed head =>
    rw [← h]
    refine ⟨⟨sound.1, rfl, fun w member r omitted => ?_⟩, by simp, fun _ => .inl rfl⟩
    exact sound.2 w member r (DispatchCall.isReserveWord_of_omitted omitted)
  case readBackFailed.flushed head =>
    rw [← h]
    exact ⟨trivial, by simp, by rintro ⟨⟩⟩

/-! ### Steps -/

theorem Carried.mono {s t : Dispatch} {call : DispatchCall} {earlier before : List DispatchWrite}
    {w : DispatchWrite} (carried : s.Carried call earlier w) (fewer : ∀ b ∈ before, b ∈ earlier)
    (device : ∀ r ∈ call.omitted, (∀ b ∈ earlier, r ∉ b.writes.map Prod.fst) →
      t.device r = s.device r) : t.Carried call before w := by
  intro values block
  obtain ⟨head, computed, kept, spared⟩ := carried values block
  refine ⟨head, computed, ?_, fun b member => spared b (fewer b member)⟩
  rw [kept, DispatchCall.reserveWords_congr]
  intro r omitted
  exact (device r omitted fun b member => spared b member r omitted).symm

theorem sound_issue {s : Dispatch} (sound : s.Sound) (call : DispatchCall) :
    ({ s with calls := s.calls ++ [⟨call, s.issued call⟩] } : Dispatch).Sound := by
  have fresh := s.beforeLock_issued call
  have looked (i : Nat) (task : DispatchTask)
      (h : (s.calls ++ [⟨call, s.issued call⟩])[i]? = some task) :
      s.calls[i]? = some task ∨ task = ⟨call, s.issued call⟩ := by
    rcases Nat.lt_or_ge i s.calls.length with old | new
    · exact .inl (by rwa [List.getElem?_append_left old] at h)
    · rw [List.getElem?_append_right new] at h
      exact .inr (List.mem_singleton.mp (List.mem_of_getElem? h))
  have kept (i : Nat) (task : DispatchTask) (h : s.calls[i]? = some task) :
      (s.calls ++ [⟨call, s.issued call⟩])[i]? = some task := by
    rw [List.getElem?_append_left (List.getElem?_eq_some_iff.mp h).1, h]
  refine ⟨fun i task h holds => ?_, fun i task h => ?_, fun before w after i h caller => ?_,
    fun w member i caller => ?_⟩
  · rcases looked i task h with old | rfl
    · exact sound.lock i task old holds
    · rw [fresh.unlocked] at holds
      cases holds
  · rcases looked i task h with old | rfl
    · exact sound.phase i task old
    · exact s.phaseSound_of_beforeLock fresh
  · obtain ⟨task, found, carried⟩ := sound.blocks before w after i h caller
    exact ⟨task, kept i task found, carried⟩
  · obtain ⟨task, found, finished⟩ := sound.callers w member i caller
    exact ⟨task, kept i task found, finished⟩

/-- A call moves on to a phase that is sound for it. -/
theorem sound_move {s : Dispatch} (sound : s.Sound) {i : Nat} {task : DispatchTask}
    (found : s.calls[i]? = some task) {phase : CallPhase} (next : s.PhaseSound ⟨task.call, phase⟩)
    (running : task.phase ≠ .done)
    (locks : phase.holdsLock = true → task.phase.holdsLock = true ∨ s.lock = none) :
    (s.move i task phase).Sound := by
  have bound : i < s.calls.length := (List.getElem?_eq_some_iff.mp found).1
  have own : (s.calls.set i { task with phase })[i]? = some { task with phase } :=
    List.getElem?_set_self bound
  have others (j : Nat) (different : i ≠ j) : (s.calls.set i { task with phase })[j]? = s.calls[j]? :=
    List.getElem?_set_ne different
  refine ⟨fun j other h holds => ?_, fun j other h => ?_, fun before w after j h caller => ?_,
    fun w member j caller => ?_⟩
  · simp only [move] at h ⊢
    by_cases same : i = j
    · subst same
      cases own.symm.trans h
      rw [if_pos holds]
    · rw [others j same] at h
      have held := sound.lock j other h holds
      -- Another call holds the lock, so this one neither takes it nor gives it back.
      have free : task.phase.holdsLock = false := by
        apply Bool.eq_false_iff.mpr
        intro mine
        have mine := sound.lock i task found mine
        rw [held] at mine
        exact same (Option.some.inj mine).symm
      have waits : phase.holdsLock = false := by
        apply Bool.eq_false_iff.mpr
        intro takes
        rcases locks takes with mine | none_
        · rw [free] at mine
          cases mine
        · rw [held] at none_
          cases none_
      simp only [free, waits, Bool.false_eq_true, if_false, held]
  · simp only [move] at h
    by_cases same : i = j
    · subst same
      cases own.symm.trans h
      exact next
    · rw [others j same] at h
      exact sound.phase j other h
  · obtain ⟨other, there, carried⟩ := sound.blocks before w after j h caller
    by_cases same : i = j
    · subst same
      cases found.symm.trans there
      exact ⟨{ task with phase }, own, carried⟩
    · exact ⟨other, (others j same).trans there, carried⟩
  · obtain ⟨other, there, finished⟩ := sound.callers w member j caller
    have same : i ≠ j := by
      rintro rfl
      cases found.symm.trans there
      exact running finished
    exact ⟨other, (others j same).trans there, finished⟩

/-- Writes may be put on the queue that touch no reserve word a call relies on, and blocks
that carry what the inverter will hold. -/
theorem sound_put {s : Dispatch} (sound : s.Sound) (caller : Option Nat) (ws : List WriteRequest)
    (spares : (∀ w ∈ ws, ∀ r, isReserveWord r = true → r ∉ w.writes.map Prod.fst) ∨
      ∀ (i : Nat) (task : DispatchTask), s.calls[i]? = some task → task.phase.holdsLock = false)
    (carry : ∀ before w after, ws.map (fun w => (⟨w, caller⟩ : DispatchWrite)) = before ++ w :: after →
      ∀ i : Nat, caller = some i → ∃ task, s.calls[i]? = some task ∧ task.phase = .done ∧
        s.Carried task.call (s.queue.waiting ++ before) w) :
    (s.put caller ws).Sound := by
  have tagged (w : DispatchWrite) (member : w ∈ ws.map fun w => (⟨w, caller⟩ : DispatchWrite)) :
      w.caller = caller ∧ w.write ∈ ws := by
    obtain ⟨write, inside, rfl⟩ := List.mem_map.mp member
    exact ⟨rfl, inside⟩
  refine ⟨sound.lock, fun i task h => ?_, fun before w after i h owner => ?_,
    fun w member i owner => ?_⟩
  · -- A call under the lock relies on the queue, so what comes behind must be harmless to it.
    have old := sound.phase i task h
    unfold PhaseSound at old ⊢
    split at old
    next => exact old
    next => exact old
    next head flushed =>
      refine ⟨old.1, fun w member r reserve => ?_⟩
      rw [waiting_put] at member
      rcases List.mem_append.mp member with earlier | new
      · exact old.2 w earlier r reserve
      · rcases spares with quiet | unlocked
        · exact quiet w.write (tagged w new).2 r reserve
        · have free := unlocked i task h
          rw [flushed] at free
          cases free
    next head words ready =>
      obtain ⟨computed, kept, spared⟩ := old
      refine ⟨computed, ?_, fun w member r omitted => ?_⟩
      · rw [kept]
        exact DispatchCall.reserveWords_congr fun r _ => (s.put_device caller ws r).symm
      · rw [waiting_put] at member
        rcases List.mem_append.mp member with earlier | new
        · exact spared w earlier r omitted
        · rcases spares with quiet | unlocked
          · exact quiet w.write (tagged w new).2 r (DispatchCall.isReserveWord_of_omitted omitted)
          · have free := unlocked i task h
            rw [ready] at free
            cases free
    next => trivial
  · rw [waiting_put] at h
    have same (call : DispatchCall) (r : Nat) (_ : r ∈ call.omitted) :
        (s.put caller ws).device r = s.device r := s.put_device caller ws r
    rcases List.append_eq_append_iff.mp h with ⟨rest, rfl, new⟩ | ⟨rest, old, new⟩
    · -- The write is one of the new ones, behind all that were waiting.
      have tags := tagged w (by rw [new]; simp)
      obtain ⟨task, found, -, carried⟩ := carry rest w after new i (tags.1.symm.trans owner)
      exact ⟨task, found, carried.mono (fun b member => member) fun r omitted _ => same _ r omitted⟩
    · cases rest with
      | nil =>
        simp only [List.nil_append] at new
        have tags := tagged w (by rw [← new]; simp)
        obtain ⟨task, found, -, carried⟩ := carry [] w after new.symm i (tags.1.symm.trans owner)
        simp only [List.append_nil] at old carried
        rw [old] at carried
        exact ⟨task, found, carried.mono (fun b member => member) fun r omitted _ => same _ r omitted⟩
      | cons first rest =>
        obtain ⟨rfl, -⟩ := List.cons.inj new
        obtain ⟨task, found, carried⟩ := sound.blocks before w rest i old owner
        exact ⟨task, found, carried.mono (fun b member => member) fun r omitted _ => same _ r omitted⟩
  · rcases List.mem_append.mp member with earlier | new
    · exact sound.callers w earlier i owner
    · obtain ⟨before, after, split⟩ := List.append_of_mem new
      obtain ⟨task, found, finished, -⟩ :=
        carry before w after split i ((tagged w new).1.symm.trans owner)
      exact ⟨task, found, finished⟩

/-- The executor takes the first request to the inverter, and nobody relies on what that
changes. -/
theorem sound_executor {s t : Dispatch} {a : WriteBehind.Action DispatchWrite} (sound : s.Sound)
    (h : s.executor a = some t) (noPut : ∀ w, a ≠ .put w) : t.Sound := by
  simp only [executor, Option.map_eq_some_iff] at h
  obtain ⟨queue, hq, rfl⟩ := h
  have fewer : ∀ w ∈ queue.waiting, w ∈ s.queue.waiting := by
    intro w member
    rcases Queue.waiting_step hq noPut with ⟨same, -⟩ | ⟨first, -, -, -, waits, -⟩
    · exact same ▸ member
    · rw [waits]
      exact List.mem_cons_of_mem _ member
  have device (r : Nat) (untouched : ∀ w ∈ s.queue.waiting, r ∉ w.writes.map Prod.fst) :
      queue.store r = s.queue.store r := Queue.store_step_of_notMem hq r untouched
  refine ⟨sound.lock, fun i task found => ?_, fun before w after i waits owner => ?_,
    sound.callers⟩
  · exact (sound.phase i task found).mono fewer fun r _ untouched => device r untouched
  · rcases Queue.waiting_step hq noPut with ⟨same, store⟩ | ⟨first, accepted, -, -, all, store⟩
    · -- Nothing has reached the inverter.
      obtain ⟨task, found, carried⟩ := sound.blocks before w after i (same ▸ waits) owner
      refine ⟨task, found, carried.mono (fun b member => member) fun r _ _ => ?_⟩
      exact congrFun store r
    · -- The first request has, and it spares the words of the blocks behind it.
      rw [waits] at all
      obtain ⟨task, found, carried⟩ := sound.blocks (first :: before) w after i all owner
      refine ⟨task, found, carried.mono (fun b member => List.mem_cons_of_mem _ member) ?_⟩
      intro r _ untouched
      change queue.store r = s.queue.store r
      rw [store]
      split
      · exact assign_of_notMem _ _ _ (untouched first List.mem_cons_self)
      · rfl

/-- Among the writes of a call, the block that ends in the reserve words is as computed, and
no reserve word is written before it. -/
theorem block_of_enqueued {call : DispatchCall} {head words : List Nat}
    {before after : List WriteRequest} {values : List Nat}
    (h : call.lockedWrites head words ++ call.unlockedWrites =
      before ++ .multiple call.blockRegister values :: after) :
    values = head ++ words ∧
      ∀ b ∈ before, ∀ r, isReserveWord r = true → r ∉ b.writes.map Prod.fst := by
  cases call with
  | dispatch call =>
    simp only [DispatchCall.lockedWrites, DispatchCall.unlockedWrites, List.append_nil,
      DispatchCall.blockRegister] at h
    rcases before with _ | ⟨first, _ | ⟨second, rest⟩⟩
    · simp [dispatchMasterReg] at h
    · simp only [List.cons_append, List.nil_append, List.cons.injEq, WriteRequest.multiple.injEq,
        true_and] at h
      obtain ⟨rfl, block, -⟩ := h
      refine ⟨block.symm, fun b member r reserve inside => ?_⟩
      rw [List.mem_singleton.mp member, WriteRequest.registers_multiple] at inside
      -- The global block is 44100 to 44104.
      have none_ : ∀ g ∈ List.range' 44100 5, isReserveWord g = false := by decide
      rw [none_ r inside] at reserve
      cases reserve
    · simp at h
  | schedule call =>
    simp only [DispatchCall.lockedWrites, List.singleton_append] at h
    rcases before with _ | ⟨first, rest⟩
    · simp only [List.nil_append, List.cons.injEq, WriteRequest.multiple.injEq, true_and] at h
      exact ⟨h.1.symm, by simp⟩
    · have inside : WriteRequest.multiple (DispatchCall.schedule call).blockRegister values ∈
          (DispatchCall.schedule call).unlockedWrites := by
        rw [(List.cons.inj h).2]
        simp
      simp only [DispatchCall.unlockedWrites] at inside
      split at inside
      · simp at inside
      · simp at inside

theorem sound_enqueue {s : Dispatch} (sound : s.Sound) {i : Nat} {task : DispatchTask}
    (found : s.calls[i]? = some task) {head words : List Nat} (ready : task.phase = .ready head words) :
    ((s.move i task .done).put (some i) (enqueued task.call task.phase)).Sound := by
  have holds : task.phase.holdsLock = true := by rw [ready]; rfl
  have kept : task.call.blockHead = some head ∧ words = task.call.reserveWords s.device ∧
      ∀ w ∈ s.queue.waiting, w.Spares task.call.omitted := by
    have own := sound.phase i task found
    unfold PhaseSound at own
    rw [ready] at own
    exact own
  have moved : (s.move i task .done).Sound :=
    sound_move sound found (by trivial) (by rw [ready]; simp) (by rintro ⟨⟩)
  have free : (s.move i task .done).lock = none := by
    simp only [move]
    rw [if_neg (by rintro ⟨⟩), if_pos holds]
  have own : (s.move i task .done).calls[i]? = some { task with phase := .done } :=
    List.getElem?_set_self (List.getElem?_eq_some_iff.mp found).1
  apply sound_put moved
  · -- The call has given the lock back, so no other call relies on the queue now.
    right
    intro j other there
    apply Bool.eq_false_iff.mpr
    intro held
    have held := moved.lock j other there held
    rw [free] at held
    cases held
  · intro before w after split j same
    cases same
    refine ⟨_, own, rfl, fun values block => ⟨head, kept.1, ?_⟩⟩
    obtain ⟨before', rest, writes, rfl, tail⟩ := List.map_eq_append_iff.mp split
    obtain ⟨write, after', rfl, rfl, rfl⟩ := List.map_eq_cons_iff.mp tail
    subst block
    rw [ready] at writes
    obtain ⟨computed, clear⟩ := block_of_enqueued writes
    refine ⟨by rw [computed, kept.2.1]; rfl, fun b member => ?_⟩
    rcases List.mem_append.mp member with waiting | new
    · exact kept.2.2 b waiting
    · obtain ⟨b', inside, rfl⟩ := List.mem_map.mp new
      exact fun r omitted => clear b' inside r (DispatchCall.isReserveWord_of_omitted omitted)

theorem sound_step (s : Dispatch) (a : DispatchAction) (t : Dispatch) (sound : s.Sound)
    (h : s.step a = some t) : t.Sound := by
  cases a with
  | issue call =>
    cases h
    exact sound_issue sound call
  | resume i e =>
    obtain ⟨task, found, enqueues | waits⟩ := resume_cases h
    · obtain ⟨head, words, -, ready, rfl⟩ := enqueues
      exact sound_enqueue sound found ready
    · obtain ⟨phase, other, moves, rfl⟩ := waits
      obtain ⟨next, running, locks⟩ := nextPhase_sound (sound.phase i task found) moves other
      exact sound_move sound found next running locks
  | stop =>
    cases h
    apply sound_put sound none _ (.inl _) (fun _ _ _ _ _ same => by cases same)
    intro w member r reserve inside
    -- None of the three registers of the stop sequence is a reserve word.
    have none_ : ∀ v ∈ [44105, 44108, dispatchMasterReg], isReserveWord v = false := by decide
    have stopped : r ∈ [44105, 44108, dispatchMasterReg] := by
      simp only [List.mem_cons, List.not_mem_nil, or_false] at member
      rcases member with rfl | rfl | rfl <;> simp_all
    rw [none_ r stopped] at reserve
    cases reserve
  | otherWrite w =>
    simp only [step] at h
    split at h
    next => cases h
    next clear =>
      cases h
      apply sound_put sound none _ (.inl _) (fun _ _ _ _ _ same => by cases same)
      intro v member r reserve inside
      rw [List.mem_singleton.mp member] at inside
      obtain ⟨kv, written, rfl⟩ := List.mem_map.mp inside
      exact clear (List.any_eq_true.mpr ⟨kv, written, reserve⟩)
  | cacheSave register value =>
    cases h
    exact ⟨sound.lock, sound.phase, sound.blocks, sound.callers⟩
  | take | frame | finish => exact sound_executor sound h (by simp)

/-! ### What the services promise -/

/-- The two reserve words of a block: what the caller supplied, encoded, and what the inverter holds
where the caller supplied nothing. -/
structure ReserveFaithful (call : DispatchCall) (device : Nat → Nat) (soc limit : Nat) : Prop where
  suppliedSoc : ∀ percent, call.fields.batteryReserveSoc = some percent → soc = percent
  omittedSoc : call.fields.batteryReserveSoc = none → soc = device call.reserveRegister
  suppliedLimit : ∀ percentTimes100, call.fields.pvLimitTimes100 = some percentTimes100 →
    limit = pvLimitRaw percentTimes100
  omittedLimit : call.fields.pvLimitTimes100 = none → limit = device (call.reserveRegister + 1)

theorem exists_reserveFaithful (call : DispatchCall) (device : Nat → Nat) :
    ∃ soc limit, call.reserveWords device = [soc, limit] ∧ ReserveFaithful call device soc limit := by
  refine ⟨_, _, rfl, ?_, ?_, ?_, ?_⟩
  · intro percent given
    simp [DispatchCall.supplied, given]
  · intro omitted
    simp [DispatchCall.supplied, omitted]
  · intro percentTimes100 given
    simp [DispatchCall.supplied, given]
  · intro omitted
    simp [DispatchCall.supplied, omitted]

/-- The block about to be executed ends in the two reserve words: the supplied ones as encoded, the
omitted ones as the inverter holds them at that moment. -/
def BlockFaithful (s : Dispatch) : DispatchAction → Prop
  | .frame _ =>
    ∀ (i : Nat) (task : DispatchTask) (values : List Nat), s.calls[i]? = some task →
      s.queue.executing = .taken ⟨.multiple task.call.blockRegister values, some i⟩ →
      ∃ head soc limit, task.call.blockHead = some head ∧
        task.call.blockRegister + head.length = task.call.reserveRegister ∧
        values = head ++ [soc, limit] ∧ ReserveFaithful task.call s.device soc limit
  | _ => True

/-- A call that has raised has put nothing on the queue. -/
def RaisedClean (s : Dispatch) : Prop :=
  ∀ (i : Nat) (task : DispatchTask), s.calls[i]? = some task → task.phase = .raised →
    ∀ w ∈ s.requested, w.caller ≠ some i

theorem Sound.blockFaithful {s : Dispatch} (sound : s.Sound) (a : DispatchAction) :
    s.BlockFaithful a := by
  cases a with
  | frame accepted =>
    intro i task values found taken
    have waits : s.queue.waiting =
        [] ++ ⟨.multiple task.call.blockRegister values, some i⟩ :: s.queue.pending := by
      simp only [Queue.waiting, taken, List.nil_append]
    obtain ⟨same, there, carried⟩ := sound.blocks [] _ _ i waits rfl
    cases found.symm.trans there
    obtain ⟨head, computed, block, -⟩ := carried values rfl
    obtain ⟨soc, limit, words, faithful⟩ := exists_reserveFaithful task.call s.device
    rw [words] at block
    exact ⟨head, soc, limit, computed, DispatchCall.blockRegister_add_length computed, block, faithful⟩
  | _ => trivial

theorem Sound.raisedClean {s : Dispatch} (sound : s.Sound) : s.RaisedClean := by
  intro i task found raised w member owner
  obtain ⟨same, there, finished⟩ := sound.callers w member i owner
  cases found.symm.trans there
  rw [raised] at finished
  cases finished

/-- **Dispatch calls preserve what they were not told to change, and fail clean**: at every
step of every run a block that is executed carries the inverter's own reserve words where
the caller omitted them, and a call that has raised has queued nothing. -/
theorem dispatch_preserves_omitted (device : Nat → Nat) (cache : Nat → Option Nat)
    (acts : List DispatchAction) :
    Along step (fun s a t => s.BlockFaithful a ∧ t.RaisedClean) (start device cache) acts := by
  apply along_always (I := Sound) _ acts (sound_start device cache)
  intro s a t sound h
  have next := sound_step s a t sound h
  exact ⟨next, sound.blockFaithful a, next.raisedClean⟩

/-- 40 % are reserved, and the limit is off. -/
def reserveDefaults (register : Nat) : Nat :=
  if register = 44111 then 40 else if register = 44112 then 10000 else 0

/-- A cache that knows an inverter capable of the third version. -/
def capableCache (register : Nat) : Option Nat :=
  if register = 34502 then some 0xAA55 else if register = 34503 then some 3 else none

/-- A call that limits the power to 50 %, and one that supplies neither word and overlaps it. -/
def overlapping : List DispatchAction := [
  .issue (.dispatch { mode := .batteryHold, pvLimitTimes100 := some 5000 }),
  .issue (.dispatch { mode := .batteryCharge, powerWatts := 1000 }),
  .resume 0 .acquire, .resume 0 .flush, .resume 0 .readBack, .resume 0 .enqueue, .resume 1 .acquire,
  .take, .frame true, .finish, .take, .frame true, .finish,
  .resume 1 .flush, .resume 1 .readBack, .resume 1 .enqueue, .take, .frame true, .finish, .take]

theorem overlapping_runs : (exec step (start reserveDefaults capableCache) overlapping).isSome = true := by
  decide +kernel

/-- The second call's block is about to be executed. -/
def afterOverlap : Dispatch := (exec step (start reserveDefaults capableCache) overlapping).get overlapping_runs

theorem overlapping_run : exec step (start reserveDefaults capableCache) overlapping = some afterOverlap :=
  (Option.some_get overlapping_runs).symm

/-- It carries the limit that the first call has set in the meantime. -/
theorem dispatch_preserves_omitted_overlapping :
    afterOverlap.queue.executing = .taken ⟨.multiple 44105 [2, 0, 100, 0, 0, 100, 40, 5000], some 1⟩ ∧
      afterOverlap.device 44111 = 40 ∧ afterOverlap.device 44112 = 5000 := by
  have all := dispatch_preserves_omitted reserveDefaults capableCache (overlapping ++ [.frame true])
  have framed : (afterOverlap.step (.frame true)).isSome = true := by decide +kernel
  obtain ⟨t, frame⟩ := Option.isSome_iff_exists.mp framed
  obtain ⟨faithful, -⟩ := all.last overlapping_run frame
  have second : afterOverlap.calls[1]? =
      some ⟨.dispatch { mode := .batteryCharge, powerWatts := 1000 }, .done⟩ := by decide +kernel
  have executing : afterOverlap.queue.executing =
      .taken ⟨.multiple 44105 [2, 0, 100, 0, 0, 100, 40, 5000], some 1⟩ := by decide +kernel
  obtain ⟨head, soc, limit, -, length, block, words⟩ := faithful 1 _ _ second executing
  -- The head has six words, so the last two are the ones read back.
  have six : head.length = 6 := by
    change 44105 + head.length = 44111 at length
    omega
  have parts : [2, 0, 100, 0, 0, 100] ++ [40, 5000] = head ++ [soc, limit] := block
  obtain ⟨-, ends⟩ := List.append_inj parts six.symm
  obtain ⟨rfl, rest⟩ := List.cons.inj ends
  obtain ⟨rfl, -⟩ := List.cons.inj rest
  exact ⟨executing, (words.omittedSoc rfl).symm, (words.omittedLimit rfl).symm⟩

end Dispatch

end HHModbus
