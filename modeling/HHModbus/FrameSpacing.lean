import HHModbus.Lib.Transition
import Mathlib.Algebra.Order.Field.Rat
import Mathlib.Logic.Function.Basic
import Mathlib.Tactic.Linarith

/-!
# The spacing of the frames on a link

`ModbusClientManager.inter_frame_wait` and the methods of the controllers that use the client of a
link: each holds the link's lock while it waits, takes the timestamp all of them share, and makes
its call. The model is the life of one entry of the manager, from its creation until it is removed,
with any number of tasks of any number of controllers. Clock readings are exact, in seconds.
-/
namespace HHModbus

open Transition

/-- `MIN_INTER_FRAME_MS`, in milliseconds. -/
def minInterFrameMs : ℚ := 310

/-- How long `inter_frame_wait` sleeps, in seconds; `none` if it does not. -/
def interFrameDelay (last currentTime : ℚ) : Option ℚ :=
  let elapsed := (currentTime - last) * 1000
  if elapsed < minInterFrameMs then some ((minInterFrameMs - elapsed) / 1000) else none

/-- What the client is asked. -/
inductive ClientCall where
  | readInputRegisters (address count deviceId : Nat)
  | readHoldingRegisters (address count deviceId : Nat)
  | writeRegister (address value deviceId : Nat)
  | writeRegisters (address : Nat) (values : List Nat) (deviceId : Nat)
  deriving DecidableEq, Repr

/-- The methods of a controller that use the client. The polls and the probes of a bisection go
through the first two of them. -/
inductive LinkMethod where
  | asyncReadInputRegisterRawDetailed (register count : Nat)
  | asyncReadHoldingRegisterRawDetailed (register count : Nat)
  | asyncUnitAnswers (deviceId : Nat)
  | executeWriteHoldingRegister (register value : Nat)
  | executeWriteHoldingRegisters (startRegister : Nat) (values : List Nat)
  /-- `connect()`, which sends no frame. -/
  | connect
  deriving DecidableEq, Repr

/-- A method called on the controller of a slave. -/
structure LinkTask where
  deviceId : Nat
  probeRegister : Nat
  method : LinkMethod
  deriving DecidableEq, Repr

def LinkTask.call (t : LinkTask) : Option ClientCall :=
  match t.method with
  | .asyncReadInputRegisterRawDetailed register count =>
    some (.readInputRegisters register count t.deviceId)
  | .asyncReadHoldingRegisterRawDetailed register count =>
    some (.readHoldingRegisters register count t.deviceId)
  | .asyncUnitAnswers deviceId => some (.readInputRegisters t.probeRegister 1 deviceId)
  | .executeWriteHoldingRegister register value => some (.writeRegister register value t.deviceId)
  | .executeWriteHoldingRegisters startRegister values =>
    some (.writeRegisters startRegister values t.deviceId)
  | .connect => none

/-- Where a task stands. -/
inductive FramePhase where
  | idle
  /-- At `async with self.poll_lock`. -/
  | waiting (t : LinkTask)
  | entered (t : LinkTask)
  /-- In the sleep of `inter_frame_wait`, which is over at this time at the earliest. -/
  | sleeping (t : LinkTask) (deadline : ℚ)
  | rested (t : LinkTask)
  /-- `inter_frame_wait` has returned, with this as the last timestamp. -/
  | stamped (t : LinkTask) (time : ℚ)
  | requesting (t : LinkTask)
  deriving DecidableEq

def FramePhase.holdsLock : FramePhase → Bool
  | idle | waiting _ => false
  | _ => true

/-- A call of the client: when the timestamp was taken for it, and when it started. -/
structure FrameRequest where
  call : ClientCall
  stamped : ℚ
  started : ℚ
  deriving DecidableEq

/-- An entry of the manager with the tasks that use it. -/
structure FrameLink (ι : Type*) where
  /-- `time.perf_counter()`. -/
  now : ℚ
  /-- Once this is 0 the entry is removed. -/
  refCount : Nat
  lastModbusRequest : ℚ
  /-- Who holds the entry's lock. -/
  holder : Option ι
  phase : ι → FramePhase
  /-- All calls made so far, the newest last. -/
  requests : List FrameRequest

inductive FrameAction (ι : Type*) where
  /-- Another controller for this link, and one that closes its connection. -/
  | getClient
  | releaseClient
  | pass (d : ℚ)
  | begin_ (i : ι) (t : LinkTask)
  | acquire (i : ι)
  | look (i : ι)
  | wake (i : ι)
  | stamp (i : ι)
  | request (i : ι)
  /-- The task leaves `async with`: it is done, or an exception or a cancellation ends it. -/
  | leave (i : ι)
  | cancel (i : ι)

namespace FrameLink

variable {ι : Type*} [DecidableEq ι]

/-- The entry as it is created for the first controller. -/
def start (now : ℚ) : FrameLink ι where
  now
  refCount := 1
  lastModbusRequest := 0
  holder := none
  phase := fun _ => .idle
  requests := []

def setPhase (s : FrameLink ι) (i : ι) (phase : FramePhase) : FrameLink ι :=
  { s with phase := Function.update s.phase i phase }

/-- A call of the client starts. -/
def send (s : FrameLink ι) (call : ClientCall) (stamped : ℚ) : FrameLink ι :=
  { s with requests := s.requests ++ [⟨call, stamped, s.now⟩] }

def act (s : FrameLink ι) (a : FrameAction ι) : Option (FrameLink ι) :=
  match a with
  | .getClient => some { s with refCount := s.refCount + 1 }
  | .releaseClient => some { s with refCount := s.refCount - 1 }
  | .pass d => if 0 ≤ d then some { s with now := s.now + d } else none
  | .begin_ i t =>
    match s.phase i with
    | .idle => some (s.setPhase i (.waiting t))
    | _ => none
  | .acquire i =>
    match s.phase i, s.holder with
    | .waiting t, none => some ({ s with holder := some i }.setPhase i (.entered t))
    | _, _ => none
  | .look i =>
    match s.phase i with
    | .entered t =>
      -- `connect()` takes the lock without waiting for the frame interval.
      if t.call = none then none
      else
        match interFrameDelay s.lastModbusRequest s.now with
        | some delay => some (s.setPhase i (.sleeping t (s.now + delay)))
        | none => some (s.setPhase i (.rested t))
    | _ => none
  | .wake i =>
    match s.phase i with
    | .sleeping t deadline =>
      if deadline ≤ s.now then some (s.setPhase i (.rested t)) else none
    | _ => none
  | .stamp i =>
    match s.phase i with
    | .rested t => some ({ s with lastModbusRequest := s.now }.setPhase i (.stamped t s.now))
    | _ => none
  | .request i =>
    match s.phase i with
    | .stamped t time =>
      t.call.map fun call => (s.send call time).setPhase i (.requesting t)
    | _ => none
  | .leave i =>
    if (s.phase i).holdsLock then some ({ s with holder := none }.setPhase i .idle) else none
  | .cancel i =>
    match s.phase i with
    | .waiting _ => some (s.setPhase i .idle)
    | _ => none

/-- What tasks do once the entry is removed is not part of its life. -/
def step (s : FrameLink ι) (a : FrameAction ι) : Option (FrameLink ι) :=
  if s.refCount = 0 then none else s.act a

/-- What each action needs and does, as a relation. -/
inductive Stepped (s : FrameLink ι) : FrameAction ι → FrameLink ι → Prop where
  | getClient : Stepped s .getClient { s with refCount := s.refCount + 1 }
  | releaseClient : Stepped s .releaseClient { s with refCount := s.refCount - 1 }
  | pass (d : ℚ) (forward : 0 ≤ d) : Stepped s (.pass d) { s with now := s.now + d }
  | begin_ (i : ι) (t : LinkTask) (idle : s.phase i = .idle) :
    Stepped s (.begin_ i t) (s.setPhase i (.waiting t))
  | acquire (i : ι) (t : LinkTask) (waiting : s.phase i = .waiting t) (free : s.holder = none) :
    Stepped s (.acquire i) ({ s with holder := some i }.setPhase i (.entered t))
  | sleep (i : ι) (t : LinkTask) (delay : ℚ) (entered : s.phase i = .entered t)
      (short : interFrameDelay s.lastModbusRequest s.now = some delay) :
    Stepped s (.look i) (s.setPhase i (.sleeping t (s.now + delay)))
  | goOn (i : ι) (t : LinkTask) (entered : s.phase i = .entered t)
      (long : interFrameDelay s.lastModbusRequest s.now = none) :
    Stepped s (.look i) (s.setPhase i (.rested t))
  | wake (i : ι) (t : LinkTask) (deadline : ℚ) (sleeping : s.phase i = .sleeping t deadline)
      (over_ : deadline ≤ s.now) : Stepped s (.wake i) (s.setPhase i (.rested t))
  | stamp (i : ι) (t : LinkTask) (rested : s.phase i = .rested t) :
    Stepped s (.stamp i) ({ s with lastModbusRequest := s.now }.setPhase i (.stamped t s.now))
  | request (i : ι) (t : LinkTask) (time : ℚ) (call : ClientCall)
      (stamped : s.phase i = .stamped t time) (asks : t.call = some call) :
    Stepped s (.request i) ((s.send call time).setPhase i (.requesting t))
  | leave (i : ι) (holds : (s.phase i).holdsLock = true) :
    Stepped s (.leave i) ({ s with holder := none }.setPhase i .idle)
  | cancel (i : ι) (t : LinkTask) (waiting : s.phase i = .waiting t) :
    Stepped s (.cancel i) (s.setPhase i .idle)

theorem stepped (s : FrameLink ι) (a : FrameAction ι) (t : FrameLink ι) (h : s.step a = some t) :
    Stepped s a t := by
  rw [step] at h
  split at h
  next => cases h
  next =>
    cases a with
    | getClient =>
      cases h
      exact .getClient
    | releaseClient =>
      cases h
      exact .releaseClient
    | pass d =>
      simp only [act] at h
      split at h
      next forward =>
        cases h
        exact .pass d forward
      next => cases h
    | begin_ i task =>
      simp only [act] at h
      split at h
      next idle =>
        cases h
        exact .begin_ i task idle
      next => cases h
    | acquire i =>
      simp only [act] at h
      split at h
      next task waiting free =>
        cases h
        exact .acquire i task waiting free
      next => cases h
    | look i =>
      simp only [act] at h
      split at h
      next task entered =>
        split at h
        next => cases h
        next =>
          split at h
          next delay short =>
            cases h
            exact .sleep i task delay entered short
          next long =>
            cases h
            exact .goOn i task entered long
      next => cases h
    | wake i =>
      simp only [act] at h
      split at h
      next task deadline sleeping =>
        split at h
        next late =>
          cases h
          exact .wake i task deadline sleeping late
        next => cases h
      next => cases h
    | stamp i =>
      simp only [act] at h
      split at h
      next task rested =>
        cases h
        exact .stamp i task rested
      next => cases h
    | request i =>
      simp only [act] at h
      split at h
      next task time stamped =>
        obtain ⟨call, asks, rfl⟩ := Option.map_eq_some_iff.mp h
        exact .request i task time call stamped asks
      next => cases h
    | leave i =>
      simp only [act] at h
      split at h
      next holds =>
        cases h
        exact .leave i holds
      next => cases h
    | cancel i =>
      simp only [act] at h
      split at h
      next task waiting =>
        cases h
        exact .cancel i task waiting
      next => cases h

@[simp] theorem setPhase_now (s : FrameLink ι) (i : ι) (p : FramePhase) :
    (s.setPhase i p).now = s.now := rfl

@[simp] theorem setPhase_last (s : FrameLink ι) (i : ι) (p : FramePhase) :
    (s.setPhase i p).lastModbusRequest = s.lastModbusRequest := rfl

@[simp] theorem setPhase_holder (s : FrameLink ι) (i : ι) (p : FramePhase) :
    (s.setPhase i p).holder = s.holder := rfl

@[simp] theorem setPhase_requests (s : FrameLink ι) (i : ι) (p : FramePhase) :
    (s.setPhase i p).requests = s.requests := rfl

theorem setPhase_phase (s : FrameLink ι) (i j : ι) (p : FramePhase) :
    (s.setPhase i p).phase j = if j = i then p else s.phase j :=
  Function.update_apply ..

/-- `MIN_INTER_FRAME_MS` in seconds. -/
def interFrame : ℚ := minInterFrameMs / 1000

/-- What a phase says about the time passed since the last timestamp. -/
def PhaseOk (s : FrameLink ι) : FramePhase → Prop
  | .sleeping _ deadline => s.lastModbusRequest + interFrame ≤ deadline
  | .rested _ => s.lastModbusRequest + interFrame ≤ s.now
  | .stamped _ time => time = s.lastModbusRequest ∧ time ≤ s.now ∧
      ∀ r ∈ s.requests, r.stamped + interFrame ≤ time
  | _ => True

/-- One task at a time is past the lock, and the timestamps are as far apart as they should be. -/
structure Spaced (s : FrameLink ι) : Prop where
  lock : ∀ i, (s.phase i).holdsLock = true ↔ s.holder = some i
  phases : ∀ i, s.PhaseOk (s.phase i)
  logged : ∀ r ∈ s.requests, r.stamped ≤ s.lastModbusRequest
  stamps : ∀ r ∈ s.requests, r.stamped ≤ r.started
  apart : s.requests.Pairwise fun r r' => r.stamped + interFrame ≤ r'.stamped

omit [DecidableEq ι] in
theorem phaseOk_of_free (s : FrameLink ι) {p : FramePhase} (free : p.holdsLock = false) :
    s.PhaseOk p := by
  cases p with
  | idle => trivial
  | waiting => trivial
  | entered => cases free
  | sleeping => cases free
  | rested => cases free
  | stamped => cases free
  | requesting => cases free

omit [DecidableEq ι] in
/-- The timestamp stays, and what is compared with the present is only truer later. -/
theorem phaseOk_pass {s : FrameLink ι} {p : FramePhase} (ok : s.PhaseOk p) {d : ℚ} (forward : 0 ≤ d) :
    { s with now := s.now + d }.PhaseOk p := by
  cases p with
  | idle => trivial
  | waiting => trivial
  | entered => trivial
  | requesting => trivial
  | sleeping task deadline => exact ok
  | rested task => exact le_trans ok (le_add_of_nonneg_right forward)
  | stamped task time => exact ⟨ok.1, le_trans ok.2.1 (le_add_of_nonneg_right forward), ok.2.2⟩

theorem interFrameDelay_some {last now delay : ℚ} (short : interFrameDelay last now = some delay) :
    last + interFrame = now + delay := by
  simp only [interFrameDelay] at short
  split at short
  · cases short
    unfold interFrame
    linarith
  · cases short

theorem interFrameDelay_none {last now : ℚ} (long : interFrameDelay last now = none) :
    last + interFrame ≤ now := by
  simp only [interFrameDelay] at long
  split at long
  · cases long
  next enough =>
    unfold interFrame
    linarith

namespace Spaced

variable {s : FrameLink ι}

omit [DecidableEq ι] in
theorem start (now : ℚ) : (FrameLink.start now : FrameLink ι).Spaced where
  lock _ := by simp [FrameLink.start, FramePhase.holdsLock]
  phases _ := trivial
  logged := by simp [FrameLink.start]
  stamps := by simp [FrameLink.start]
  apart := List.Pairwise.nil

omit [DecidableEq ι] in
/-- The others are not past the lock. -/
theorem others_free (inv : s.Spaced) {i j : ι} (holds : (s.phase i).holdsLock = true)
    (other : j ≠ i) : (s.phase j).holdsLock = false := by
  rw [Bool.eq_false_iff]
  intro both
  have same := ((inv.lock i).mp holds).symm.trans ((inv.lock j).mp both)
  exact other (Option.some.inj same).symm

/-- A task moves on without taking or leaving the lock. -/
theorem setPhase (inv : s.Spaced) (i : ι) {p : FramePhase}
    (same : p.holdsLock = (s.phase i).holdsLock) (ok : s.PhaseOk p) : (s.setPhase i p).Spaced where
  lock j := by
    rw [setPhase_phase]
    split
    next own =>
      rw [same, own]
      exact inv.lock i
    next => exact inv.lock j
  phases j := by
    rw [setPhase_phase]
    split
    next => exact ok
    next => exact inv.phases j
  logged := inv.logged
  stamps := inv.stamps
  apart := inv.apart

/-- What the task that is past the lock does to the timestamp and the record. -/
theorem update (inv : s.Spaced) {i : ι} (holds : (s.phase i).holdsLock = true) {t : FrameLink ι}
    (holder : t.holder = s.holder) (phase : t.phase = s.phase) {p : FramePhase}
    (still : p.holdsLock = true) (ok : t.PhaseOk p)
    (logged : ∀ r ∈ t.requests, r.stamped ≤ t.lastModbusRequest)
    (stamps : ∀ r ∈ t.requests, r.stamped ≤ r.started)
    (apart : t.requests.Pairwise fun r r' => r.stamped + interFrame ≤ r'.stamped) :
    (t.setPhase i p).Spaced where
  lock j := by
    rw [setPhase_phase, setPhase_holder, holder]
    split
    next own =>
      rw [own]
      exact iff_of_true still ((inv.lock i).mp holds)
    next =>
      rw [phase]
      exact inv.lock j
  phases j := by
    rw [setPhase_phase]
    split
    next => exact ok
    next other =>
      rw [phase]
      exact phaseOk_of_free _ (inv.others_free holds other)
  logged := logged
  stamps := stamps
  apart := apart

theorem step {a : FrameAction ι} {t : FrameLink ι} (inv : s.Spaced) (h : s.step a = some t) :
    t.Spaced := by
  cases stepped s a t h with
  | getClient => exact ⟨inv.lock, inv.phases, inv.logged, inv.stamps, inv.apart⟩
  | releaseClient => exact ⟨inv.lock, inv.phases, inv.logged, inv.stamps, inv.apart⟩
  | pass d forward =>
    exact ⟨inv.lock, fun i => phaseOk_pass (inv.phases i) forward, inv.logged, inv.stamps, inv.apart⟩
  | begin_ i task idle =>
    exact inv.setPhase i (by rw [idle]; rfl) trivial
  | acquire i task waiting free =>
    -- As long as the lock is free nobody is past it.
    have unlocked (j : ι) : (s.phase j).holdsLock = false := by
      rw [Bool.eq_false_iff, Ne, inv.lock j, free]
      simp
    refine ⟨fun j => ?_, fun j => ?_, inv.logged, inv.stamps, inv.apart⟩
    · rw [setPhase_phase, setPhase_holder]
      split
      next own => simp [own, FramePhase.holdsLock]
      next other =>
        change (s.phase j).holdsLock = true ↔ _
        simp [unlocked j, Ne.symm other]
    · rw [setPhase_phase]
      split
      next => trivial
      next => exact phaseOk_of_free _ (unlocked j)
  | sleep i task delay entered short =>
    exact inv.setPhase i (by rw [entered]; rfl) (interFrameDelay_some short).le
  | goOn i task entered long =>
    exact inv.setPhase i (by rw [entered]; rfl) (interFrameDelay_none long)
  | wake i task deadline sleeping late =>
    have slept := inv.phases i
    rw [sleeping] at slept
    exact inv.setPhase i (by rw [sleeping]; rfl) (le_trans slept late)
  | stamp i task rested =>
    -- The interval is over since the last timestamp, and no recorded one is newer.
    have waited := inv.phases i
    rw [rested] at waited
    have forward : s.lastModbusRequest ≤ s.now := by
      have positive : 0 ≤ interFrame := by norm_num [interFrame, minInterFrameMs]
      exact le_trans (le_add_of_nonneg_right positive) waited
    refine inv.update (t := { s with lastModbusRequest := s.now }) (p := .stamped task s.now)
      (by rw [rested]; rfl) rfl rfl rfl ⟨rfl, le_rfl, fun r member => ?_⟩
      (fun r member => le_trans (inv.logged r member) forward) inv.stamps inv.apart
    exact le_trans (add_le_add_left (inv.logged r member) interFrame) waited
  | request i task time call stamped asks =>
    -- The timestamp of the call was taken by this task, the interval after all those before.
    have ok := inv.phases i
    rw [stamped] at ok
    obtain ⟨newest, past, later⟩ := ok
    refine inv.update (t := s.send call time) (by rw [stamped]; rfl) rfl rfl rfl trivial
      (fun r member => ?_) (fun r member => ?_) ?_
    · rcases List.mem_append.mp member with earlier | new
      · exact inv.logged r earlier
      · rw [List.mem_singleton.mp new]
        exact newest.le
    · rcases List.mem_append.mp member with earlier | new
      · exact inv.stamps r earlier
      · rw [List.mem_singleton.mp new]
        exact past
    · refine List.pairwise_append.mpr ⟨inv.apart, List.pairwise_singleton .., ?_⟩
      intro r member r' new
      rw [List.mem_singleton.mp new]
      exact later r member
  | leave i holds =>
    -- The others were not past the lock either.
    have free (j : ι) : (if j = i then FramePhase.idle else s.phase j).holdsLock = false := by
      split
      next => rfl
      next other => exact inv.others_free holds other
    refine ⟨fun j => ?_, fun j => ?_, inv.logged, inv.stamps, inv.apart⟩
    · rw [setPhase_phase]
      exact iff_of_false (Bool.eq_false_iff.mp (free j)) nofun
    · rw [setPhase_phase]
      exact phaseOk_of_free _ (free j)
  | cancel i task waiting =>
    exact inv.setPhase i (by rw [waiting]; rfl) trivial

theorem run {now : ℚ} {acts : List (FrameAction ι)} {t : FrameLink ι}
    (run : exec FrameLink.step (FrameLink.start now) acts = some t) : t.Spaced :=
  invariant (fun _ _ _ inv h => inv.step h) (.start now) run

end Spaced

/-- **The spacing of the frames**: between the starts of two calls there is the whole interval, less
what passed between the timestamp taken for the first one and its start. -/
theorem requests_spaced {now : ℚ} {acts : List (FrameAction ι)} {s : FrameLink ι}
    (run : exec step (start now) acts = some s) :
    s.requests.Pairwise (fun r r' =>
        interFrame - (r.started - r.stamped) ≤ r'.started - r.started) ∧
      (∀ r ∈ s.requests, r.stamped ≤ r.started) ∧
      ((∀ r ∈ s.requests, r.started = r.stamped) →
        s.requests.Pairwise fun r r' => interFrame ≤ r'.started - r.started) := by
  have inv := Spaced.run run
  -- A call starts no earlier than its timestamp, and those are the interval apart.
  have later : s.requests.Pairwise fun r r' => r.stamped + interFrame ≤ r'.started :=
    inv.apart.imp_of_mem fun _ member spaced => le_trans spaced (inv.stamps _ member)
  refine ⟨later.imp fun apart => by linarith, inv.stamps, fun prompt => ?_⟩
  refine later.imp_of_mem fun first _ apart => ?_
  have immediate := prompt _ first
  linarith

end FrameLink

/-- A poll and a unit check on a link that has been idle for a second. Some time passes between the
timestamp of the first and its start. -/
def pollAndCheck (passes : ℚ) : List (FrameAction Bool) := [
  .begin_ true ⟨1, 33000, .asyncReadInputRegisterRawDetailed 33000 40⟩,
  .begin_ false ⟨2, 33000, .asyncUnitAnswers 1⟩,
  .acquire true, .look true, .stamp true, .pass passes, .request true, .leave true,
  .acquire false, .look false, .pass (31 / 100 - passes), .wake false, .stamp false, .request false]

namespace FrameLink

theorem requests_spaced_pollAndCheck :
    ∃ s, exec step (start 1) (pollAndCheck 0) = some s ∧
      s.requests.Pairwise (fun r r' =>
        interFrame - (r.started - r.stamped) ≤ r'.started - r.started) ∧
      (∀ r ∈ s.requests, r.stamped ≤ r.started) ∧
      ((∀ r ∈ s.requests, r.started = r.stamped) →
        s.requests.Pairwise fun r r' => interFrame ≤ r'.started - r.started) := by
  obtain ⟨s, run⟩ := Option.isSome_iff_exists.mp
    (show (exec step (start 1) (pollAndCheck 0)).isSome by decide +kernel)
  exact ⟨s, run, requests_spaced run⟩

/-- With 10 ms between timestamp and start, the next call starts 300 ms after this one. -/
theorem pollAndCheck_close :
    interFrame ≤ 1 ∧ ∃ s r r', exec step (start 1) (pollAndCheck (1 / 100)) = some s ∧
      s.requests = [r, r'] ∧ r'.started - r.started = 3 / 10 ∧
      ¬ interFrame ≤ r'.started - r.started := by
  refine ⟨by norm_num [interFrame, minInterFrameMs], ?_⟩
  have requests : (exec step (start 1) (pollAndCheck (1 / 100))).map FrameLink.requests = some [
      ⟨.readInputRegisters 33000 40 1, 1, 101 / 100⟩,
      ⟨.readInputRegisters 33000 1 1, 131 / 100, 131 / 100⟩] := by decide +kernel
  obtain ⟨s, run, made⟩ := Option.map_eq_some_iff.mp requests
  exact ⟨s, _, _, run, made, by norm_num, by norm_num [interFrame, minInterFrameMs]⟩

end FrameLink

end HHModbus
