import HHModbus.Lib.Cooperative
import HHModbus.Recovery

/-!
# A poll batch as a program

`get_modbus_updates` with the reads, the bisection and the recovery it calls, step by step as
the event loop sees it: where it tests `_can_poll`, calls `connect`, or waits for an answer.
-/
namespace HHModbus

open Cooperative

/-- A read of holding or input registers. -/
structure ReadRequest where
  start : Nat
  count : Nat
  isHolding : Bool
  deriving DecidableEq, Repr

/-- Poll programs work on the controller's groups and the sensors' `enabled` flags. -/
abbrev Poll := Program Recovery ReadRequest Reply

namespace Poll

/-- `_can_poll`. -/
def canPoll : Poll Bool := .test .done

/-- `controller.connect`. -/
def connect : Poll Bool := .dial .done

def ask (start count : Nat) (isHolding : Bool) : Poll Reply := .request ⟨start, count, isHolding⟩ .done

/-- A read that is given up before the client is asked. -/
def skipped : Poll ReadResult := do
  Program.modify Recovery.attempted
  return (none, none)

/-- `_read_register_block_with_exception`. -/
def readRegisterBlockWithException (isHolding : Bool) (g : SensorGroup) : Poll ReadResult := do
  if ← canPoll then
    -- The controller's read wrappers connect before they read.
    if ← connect then
      return (← ask g.startRegister g.registrarCount isHolding).result
    else skipped
  else skipped

/-- `_probe_register_block_quiet`, which neither tests the link nor connects. -/
def probeRegisterBlockQuiet (isHolding : Bool) (g : SensorGroup) (start count : Nat) : Poll Bool := do
  if count = 0 then return true
  else
    let reply ← ask start count isHolding
    Program.modify fun s => { s with probes := s.probes ++ [⟨g, start, count, reply⟩] }
    return reply.covers count

/-- The last loop of `_async_isolate_one_bad_register`. -/
def probeEach (isHolding : Bool) (g : SensorGroup) : List Nat → Poll (Option Nat)
  | [] => return none
  | r :: rest => do
    if ← probeRegisterBlockQuiet isHolding g r 1 then probeEach isHolding g rest
    else return some r

/-- `_async_isolate_one_bad_register`, in at most `rounds` rounds. -/
def isolateOneBadRegister (isHolding : Bool) (g : SensorGroup) :
    (rounds start count : Nat) → Poll (Option Nat)
  | 0, _, _ => return none
  | rounds + 1, start, count => do
    if count = 0 then return none
    else if count = 1 then return some start
    else
      let mid := if count / 2 < 1 then 1 else count / 2
      if ← probeRegisterBlockQuiet isHolding g start mid then
        if ← probeRegisterBlockQuiet isHolding g (start + mid) (count - mid) then
          probeEach isHolding g (List.range' start count)
        else isolateOneBadRegister isHolding g rounds (start + mid) (count - mid)
      else isolateOneBadRegister isHolding g rounds start mid

def readNewGroup (isHolding : Bool)
    (nested : SensorGroup → Poll (List (SensorGroup × List Nat))) (g : SensorGroup) :
    Poll (List (SensorGroup × List Nat)) := do
  let (vals, exc) ← readRegisterBlockWithException isHolding g
  match vals.filter fun v => v.length == g.registrarCount with
  | some v => return [(g, v)]
  | none => if exc.any recoverable then nested g else return []

def readNewGroups (isHolding : Bool)
    (nested : SensorGroup → Poll (List (SensorGroup × List Nat))) :
    List SensorGroup → Poll (List (SensorGroup × List Nat))
  | [] => return []
  | g :: rest => do
    let first ← readNewGroup isHolding nested g
    let others ← readNewGroups isHolding nested rest
    return first ++ others

/-- The state once the sensors on `bad` are off and the group is split. -/
def splitAt (g : SensorGroup) (bad : Nat) (s : Recovery) : Recovery :=
  let disabled := s.disable (g.sensors.filter fun sensor => bad ∈ sensor.registrars)
  let remaining := g.sensors.filter fun sensor => bad ∉ sensor.registrars
  let groups := disabled.newGroups g (clusterSensors disabled.enabled remaining)
  { disabled with nextGroup := disabled.nextGroup + groups.length }.replaceSensorGroup g groups

/-- The groups that `splitAt` puts in place of the old one. -/
def newGroupsAt (g : SensorGroup) (bad : Nat) (s : Recovery) : List SensorGroup :=
  let disabled := s.disable (g.sensors.filter fun sensor => bad ∈ sensor.registrars)
  disabled.newGroups g
    (clusterSensors disabled.enabled (g.sensors.filter fun sensor => bad ∉ sensor.registrars))

/-- `_recover_sensor_group_after_modbus_failure`, `depthLeft` calls before the depth limit. -/
def recover (isHolding : Bool) : (depthLeft : Nat) → SensorGroup → Poll (List (SensorGroup × List Nat))
  | 0, _ => return []
  | depthLeft + 1, g => do
    match ← isolateOneBadRegister isHolding g g.registrarCount g.startRegister g.registrarCount with
    | none => return []
    | some bad =>
      let groups := newGroupsAt g bad (← Program.get)
      Program.modify (splitAt g bad)
      readNewGroups isHolding (recover isHolding depthLeft) groups

/-- The groups that are removed after they have been read. -/
def once (groups : List SensorGroup) : List SensorGroup := groups.filter fun g => g.pollSpeed = .once

def removeMarked (marked : List SensorGroup) : Poll Unit :=
  Program.modify fun s =>
    { s with groups := s.groups.filter fun g => !(marked.any fun m => m.id == g.id) }

/-- The body of the loop of `get_modbus_updates` once the block of `g` is read or not; `next`
goes on with the other groups. -/
def afterRead (next : (marked : List SensorGroup) → Poll Unit) (g : SensorGroup)
    (marked : List SensorGroup) (result : ReadResult) : Poll Unit := do
  match result.1 with
  | some values =>
    if values.length ≠ g.registrarCount then next marked else next (marked ++ once [g])
  | none =>
    let recovered ←
      if result.2.any recoverable then
        recover (decide (g.registerType = .holding)) (maxRegisterRecoveryDepth + 1) g
      else pure []
    let marked := marked ++ once (recovered.map Prod.fst)
    -- A failed read closes the link; the rest is left to the watchdog.
    if ← canPoll then next marked else removeMarked marked

/-- The loop, with the groups marked for removal so far. -/
def updateGroups : List SensorGroup → (marked : List SensorGroup) → Poll Unit
  | [], marked => removeMarked marked
  | g :: rest, marked => do
    let result ← readRegisterBlockWithException (decide (g.registerType = .holding)) g
    afterRead (updateGroups rest) g marked result

/-! ### A recovery that runs alone -/

/-- The link as the environment of a program; an answered request is one attempt. -/
def onLink (link : ModbusLink) : Environment Recovery ReadRequest Reply where
  test s := link.canPoll s.attempts
  dial s := link.connects s.attempts
  reply s q := link.reply s.attempts q.start q.count q.isHolding
  replied := Recovery.attempted

variable (link : ModbusLink) (isHolding : Bool)

theorem eval_readRegisterBlockWithException (g : SensorGroup) (s : Recovery) :
    (readRegisterBlockWithException isHolding g).eval (onLink link) s =
      s.readRegisterBlockWithException link isHolding g := by
  simp only [readRegisterBlockWithException, canPoll, connect, ask, Program.bind_eq, Program.bind,
    Program.eval, onLink, Recovery.readRegisterBlockWithException]
  by_cases poll : link.canPoll s.attempts = true
  · by_cases up : link.connects s.attempts = true
    · simp [poll, up, Program.eval]
    · simp [poll, up, Program.eval, skipped, Program.modify, Program.bind]
  · simp [poll, Program.eval, skipped, Program.modify, Program.bind]

theorem eval_probeRegisterBlockQuiet (g : SensorGroup) (start count : Nat) (s : Recovery) :
    (probeRegisterBlockQuiet isHolding g start count).eval (onLink link) s =
      s.probeRegisterBlockQuiet link isHolding g start count := by
  unfold probeRegisterBlockQuiet Recovery.probeRegisterBlockQuiet
  split
  · rfl
  · rfl

theorem eval_probeEach (g : SensorGroup) (registers : List Nat) (s : Recovery) :
    (probeEach isHolding g registers).eval (onLink link) s =
      s.probeEach link isHolding g registers := by
  induction registers generalizing s with
  | nil => rfl
  | cons r rest ih =>
    rw [probeEach, Recovery.probeEach, Program.bind_eq, Program.eval_bind,
      eval_probeRegisterBlockQuiet]
    rcases s.probeRegisterBlockQuiet link isHolding g r 1 with ⟨next, - | -⟩
    · rfl
    · exact ih next

theorem eval_isolateOneBadRegister (g : SensorGroup) (rounds start count : Nat) (s : Recovery) :
    (isolateOneBadRegister isHolding g rounds start count).eval (onLink link) s =
      Recovery.isolateOneBadRegister link isHolding g rounds start count s := by
  induction rounds generalizing start count s with
  | zero => rfl
  | succ rounds ih =>
    rw [isolateOneBadRegister, Recovery.isolateOneBadRegister]
    split
    · rfl
    · split
      · rfl
      · dsimp only
        rw [Program.bind_eq, Program.eval_bind, eval_probeRegisterBlockQuiet]
        rcases s.probeRegisterBlockQuiet link isHolding g start _ with ⟨left, - | -⟩
        · exact ih _ _ left
        · simp only [if_true]
          rw [Program.bind_eq, Program.eval_bind, eval_probeRegisterBlockQuiet]
          rcases left.probeRegisterBlockQuiet link isHolding g _ _ with ⟨right, - | -⟩
          · exact ih _ _ right
          · exact eval_probeEach link isHolding g _ right

variable {link isHolding}

theorem eval_readNewGroups {nested : SensorGroup → Poll (List (SensorGroup × List Nat))}
    {nested' : SensorGroup → Recovery → Recovery × List (SensorGroup × List Nat)}
    (same : ∀ g s, (nested g).eval (onLink link) s = nested' g s) (groups : List SensorGroup)
    (s : Recovery) : (readNewGroups isHolding nested groups).eval (onLink link) s =
      Recovery.readNewGroups link isHolding nested' groups s := by
  induction groups generalizing s with
  | nil => rfl
  | cons g rest ih =>
    have first : (readNewGroup isHolding nested g).eval (onLink link) s =
        s.readNewGroup link isHolding nested' g := by
      rw [readNewGroup, Recovery.readNewGroup, Program.bind_eq, Program.eval_bind,
        eval_readRegisterBlockWithException]
      rcases s.readRegisterBlockWithException link isHolding g with ⟨read, vals, exc⟩
      dsimp only
      cases vals.filter fun v => v.length == g.registrarCount with
      | some v => rfl
      | none =>
        dsimp only
        split
        · exact same g read
        · rfl
    rw [readNewGroups, Recovery.readNewGroups, Program.bind_eq, Program.eval_bind, first,
      Program.bind_eq, Program.eval_bind, ih]
    rfl

/-- Run alone, the program is the recovery of its group. -/
theorem eval_recover (depthLeft : Nat) (g : SensorGroup) (s : Recovery) :
    (recover isHolding depthLeft g).eval (onLink link) s =
      Recovery.recover link isHolding depthLeft g s := by
  induction depthLeft generalizing g s with
  | zero => rfl
  | succ depthLeft ih =>
    rw [recover, Recovery.recover, Program.bind_eq, Program.eval_bind, eval_isolateOneBadRegister]
    rcases Recovery.isolateOneBadRegister link isHolding g g.registrarCount g.startRegister
      g.registrarCount s with ⟨isolated, - | bad⟩
    · rfl
    · exact eval_readNewGroups ih _ _

/-! ### Where a batch connects -/

theorem careful_readRegisterBlockWithException (isHolding : Bool) (g : SensorGroup) :
    (readRegisterBlockWithException isHolding g).Careful false :=
  -- The test stands directly before the call of `connect`.
  ⟨⟨rfl, fun _ => trivial, fun _ => trivial⟩, fun _ => trivial⟩

theorem careful_probeRegisterBlockQuiet (isHolding : Bool) (g : SensorGroup) (start count : Nat) :
    (probeRegisterBlockQuiet isHolding g start count).Careful false := by
  unfold probeRegisterBlockQuiet
  split
  · trivial
  · exact fun _ _ => trivial

theorem careful_probeEach (isHolding : Bool) (g : SensorGroup) (registers : List Nat) :
    (probeEach isHolding g registers).Careful false := by
  induction registers with
  | nil => trivial
  | cons r rest ih =>
    refine (careful_probeRegisterBlockQuiet isHolding g r 1).bind fun ok => ?_
    cases ok with
    | false => trivial
    | true => exact ih

theorem careful_isolateOneBadRegister (isHolding : Bool) (g : SensorGroup)
    (rounds start count : Nat) :
    (isolateOneBadRegister isHolding g rounds start count).Careful false := by
  induction rounds generalizing start count with
  | zero => trivial
  | succ rounds ih =>
    rw [isolateOneBadRegister]
    split
    · trivial
    · split
      · trivial
      · refine (careful_probeRegisterBlockQuiet isHolding g _ _).bind fun left => ?_
        cases left with
        | false => exact ih _ _
        | true =>
          refine (careful_probeRegisterBlockQuiet isHolding g _ _).bind fun right => ?_
          cases right with
          | false => exact ih _ _
          | true => exact careful_probeEach isHolding g _

theorem careful_readNewGroups (isHolding : Bool)
    (nested : SensorGroup → Poll (List (SensorGroup × List Nat)))
    (careful : ∀ g, (nested g).Careful false) (groups : List SensorGroup) :
    (readNewGroups isHolding nested groups).Careful false := by
  induction groups with
  | nil => trivial
  | cons g rest ih =>
    have first : (readNewGroup isHolding nested g).Careful false := by
      refine (careful_readRegisterBlockWithException isHolding g).bind fun result => ?_
      dsimp only
      split
      · trivial
      · split
        · exact careful g
        · trivial
    exact first.bind fun _ => ih.bind fun _ => trivial

theorem careful_recover (isHolding : Bool) (depthLeft : Nat) (g : SensorGroup) :
    (recover isHolding depthLeft g).Careful false := by
  induction depthLeft generalizing g with
  | zero => trivial
  | succ depthLeft ih =>
    refine (careful_isolateOneBadRegister isHolding g _ _ _).bind fun bad => ?_
    cases bad with
    | none => trivial
    | some bad => exact fun _ _ => careful_readNewGroups isHolding _ ih _

/-- **A batch connects only behind `_can_poll`**, with nothing in between that could let
another task run. -/
theorem careful_updateGroups (groups marked : List SensorGroup) :
    (updateGroups groups marked).Careful false := by
  have remove (marked : List SensorGroup) : (removeMarked marked).Careful false := fun _ => trivial
  induction groups generalizing marked with
  | nil => exact remove marked
  | cons g rest ih =>
    refine (careful_readRegisterBlockWithException _ g).bind fun result => ?_
    unfold afterRead
    split
    · split
      · exact ih _
      · exact ih _
    · split
      · exact (careful_recover _ _ g).bind fun recovered => ⟨(ih _).mono true, remove _⟩
      · exact ⟨(ih _).mono true, remove _⟩

/-! ### What a batch still asks when it may not poll -/

theorem heeds_readNewGroups (isHolding : Bool)
    (nested : SensorGroup → Poll (List (SensorGroup × List Nat))) (groups : List SensorGroup) :
    (readNewGroups isHolding nested groups).Heeds := by
  induction groups with
  | nil => exact fun _ => rfl
  | cons g rest ih =>
    have first : (readNewGroup isHolding nested g).Heeds := fun _ => rfl
    exact first.bind fun _ => ih.bind fun _ _ => rfl

theorem heeds_updateGroups (groups marked : List SensorGroup) :
    (updateGroups groups marked).Heeds := by
  cases groups with
  | nil => exact fun _ => rfl
  | cons g rest => exact fun _ => rfl

/-- The bisection of two or more registers goes on probing. -/
theorem asks_isolateOneBadRegister (isHolding : Bool) (g : SensorGroup) (rounds start count : Nat)
    (s : Recovery) :
    Program.asks s (isolateOneBadRegister isHolding g (rounds + 1) start count) =
      decide (2 ≤ count) := by
  rw [isolateOneBadRegister]
  split
  next none =>
    rw [none]
    rfl
  next some_ =>
    split
    next one =>
      rw [one]
      rfl
    next more =>
      have half : (if count / 2 < 1 then 1 else count / 2) ≠ 0 := by
        split <;> omega
      rw [decide_eq_true (show 2 ≤ count by omega)]
      refine Program.asks_bind _ ?_
      unfold probeRegisterBlockQuiet
      rw [if_neg half]
      rfl

theorem asks_recover (isHolding : Bool) (depthLeft : Nat) (g : SensorGroup) (s : Recovery) :
    Program.asks s (recover isHolding (depthLeft + 1) g) = decide (2 ≤ g.registrarCount) := by
  rw [recover, Program.bind_eq, Program.asks_bind_of_heeds]
  · cases count : g.registrarCount with
    | zero => rfl
    | succ n => exact asks_isolateOneBadRegister isHolding g n g.startRegister (n + 1) s
  · intro bad
    cases bad with
    | none => exact fun _ => rfl
    | some bad => exact fun s => heeds_readNewGroups _ _ _ _

/-- The answer to the read of a block of so many registers starts a bisection. -/
def startsBisection (count : Nat) : Reply → Bool
  | .exception code => recoverable code && decide (2 ≤ count)
  | _ => false

/-- Which answer to the read of a block makes a batch ask on although it may not poll. -/
theorem asks_afterRead (next : List SensorGroup → Poll Unit) (heeds : ∀ marked, (next marked).Heeds)
    (g : SensorGroup) (marked : List SensorGroup) (reply : Reply) (s : Recovery) :
    Program.asks s (afterRead next g marked reply.result) =
      startsBisection g.registrarCount reply := by
  cases reply with
  | values v =>
    simp only [afterRead, Reply.result]
    split
    · exact heeds _ s
    · exact heeds _ s
  | unanswered => rfl
  | exception code =>
    -- What follows a recovery asks nothing behind a closed gate.
    let finish (recovered : List (SensorGroup × List Nat)) : Poll Unit := do
      if ← canPoll then next (marked ++ once (recovered.map Prod.fst))
      else removeMarked (marked ++ once (recovered.map Prod.fst))
    have finishes (recovered) : (finish recovered).Heeds := fun _ => rfl
    by_cases recovers : recoverable code = true
    · have goesOn : afterRead next g marked (Reply.exception code).result =
          (recover (decide (g.registerType = .holding)) (maxRegisterRecoveryDepth + 1) g).bind
            finish := if_pos recovers
      rw [goesOn, startsBisection, recovers, Bool.true_and, Program.asks_bind_of_heeds _ finishes,
        asks_recover]
    · have ends : afterRead next g marked (Reply.exception code).result = finish [] :=
        if_neg recovers
      rw [ends, startsBisection, Bool.not_eq_true _ |>.mp recovers]
      rfl

/-- Which request a batch has out. -/
inductive Place where
  /-- The read of a block, which a recovery follows unless it would be too deep. -/
  | block (count : Nat) (recovers : Bool)
  /-- The probe of the left half of a bad block of two or more registers. -/
  | left (count : Nat)
  | right (count : Nat)
  /-- The probe of one register, with so many to come after it. -/
  | single (later : Nat)

/-- The answer makes the batch ask on although it may not poll. -/
def Place.leadsOn : Place → Reply → Bool
  | .block count recovers, reply => recovers && startsBisection count reply
  | .left count, reply => reply.covers (count / 2) || decide (2 ≤ count / 2)
  | .right count, reply => reply.covers (count - count / 2) || decide (2 ≤ count - count / 2)
  | .single later, reply => reply.covers 1 && decide (0 < later)

/-- The registers of the request. -/
def Place.size : Place → Nat
  | .block count _ => count
  | .left count => count / 2
  | .right count => count - count / 2
  | .single _ => 1

/-- The request, with what follows its answer, is the one at this place. -/
def StandsAt {α : Type} (place : Place) (q : ReadRequest) (k : Reply → Poll α) : Prop :=
  place.size = q.count ∧ ∀ reply s, Program.asks s (k reply) = place.leadsOn reply

def Stands {α : Type} (q : ReadRequest) (k : Reply → Poll α) : Prop := ∃ place, StandsAt place q k

theorem Stands.bind {α β : Type} {q : ReadRequest} {k : Reply → Poll α} {f : α → Poll β}
    (stands : Stands q k) (heeds : ∀ a, (f a).Heeds) : Stands q fun reply => (k reply).bind f := by
  obtain ⟨place, size, leads⟩ := stands
  refine ⟨place, size, fun reply s => ?_⟩
  rw [Program.asks_bind_of_heeds _ heeds, leads]

/-- A program followed by one that heeds the gate stands where it stood. -/
theorem stands_bind {α β : Type} {p : Poll α} {f : α → Poll β} (first : p.Throughout Stands)
    (heeds : ∀ a, (f a).Heeds) (later : ∀ a, (f a).Throughout Stands) :
    (p.bind f).Throughout Stands :=
  first.bind (fun _ _ stands => stands.bind heeds) later

variable {isHolding : Bool}

/-- The probes of a bisection stand where `f` says what follows them. -/
theorem stands_probe {α : Type} {f : Bool → Poll α} (g : SensorGroup) (start : Nat) (place : Place)
    (some_ : place.size ≠ 0)
    (leads : ∀ reply ok, reply.covers place.size = ok →
      ∀ s, Program.asks s (f ok) = place.leadsOn reply)
    (later : ∀ ok, (f ok).Throughout Stands) :
    ((probeRegisterBlockQuiet isHolding g start place.size).bind f).Throughout Stands := by
  unfold probeRegisterBlockQuiet
  rw [if_neg some_]
  exact ⟨⟨place, rfl, fun reply s => leads reply _ rfl _⟩, fun reply _ => later _⟩

theorem stands_probeEach (g : SensorGroup) (registers : List Nat) :
    (probeEach isHolding g registers).Throughout Stands := by
  induction registers with
  | nil => trivial
  | cons r rest ih =>
    refine stands_probe g r (.single rest.length) Nat.one_ne_zero (fun reply ok covers s => ?_)
      fun ok => ?_
    · simp only [Place.size, Place.leadsOn] at covers ⊢
      rw [covers]
      cases ok with
      | false => rfl
      | true => cases rest <;> simp [probeEach, probeRegisterBlockQuiet, ask, Program.asks, Program.bind]
    · cases ok with
      | false => trivial
      | true => exact ih

theorem stands_isolateOneBadRegister (g : SensorGroup) (rounds start count : Nat)
    (enough : count ≤ rounds) :
    (isolateOneBadRegister isHolding g rounds start count).Throughout Stands := by
  induction rounds generalizing start count with
  | zero => trivial
  | succ rounds ih =>
    rw [isolateOneBadRegister]
    split
    · trivial
    · split
      · trivial
      next none one =>
        have half : (if count / 2 < 1 then 1 else count / 2) = count / 2 := if_neg (by omega)
        -- What follows a probe that has failed.
        have narrows (start n : Nat) (fits : n ≤ rounds) (some_ : 0 < n) (s : Recovery) :
            Program.asks s (isolateOneBadRegister isHolding g rounds start n) = decide (2 ≤ n) := by
          obtain ⟨r, rfl⟩ : ∃ r, rounds = r + 1 := ⟨rounds - 1, by omega⟩
          exact asks_isolateOneBadRegister isHolding g r start n s
        rw [half]
        refine stands_probe g start (.left count) (by simp only [Place.size]; omega)
          (fun reply ok covers s => ?_) fun ok => ?_
        · simp only [Place.size, Place.leadsOn] at covers ⊢
          rw [covers]
          cases ok with
          | false => exact narrows start _ (by omega) (by omega) s
          | true =>
            refine Program.asks_bind _ ?_
            unfold probeRegisterBlockQuiet
            rw [if_neg (by omega)]
            rfl
        · cases ok with
          | false => exact ih start _ (by omega)
          | true =>
            refine stands_probe g _ (.right count) (by simp only [Place.size]; omega)
              (fun reply ok covers s => ?_) fun ok => ?_
            · simp only [Place.size, Place.leadsOn] at covers ⊢
              rw [covers]
              cases ok with
              | false => exact narrows _ _ (by omega) (by omega) s
              | true =>
                obtain ⟨n, rfl⟩ : ∃ n, count = n + 1 := ⟨count - 1, by omega⟩
                rfl
            · cases ok with
              | false => exact ih _ _ (by omega)
              | true => exact stands_probeEach g _

/-- The read of a block stands where `f` says what follows it. -/
theorem stands_read {α : Type} {f : ReadResult → Poll α} (g : SensorGroup) (recovers : Bool)
    (leads : ∀ reply s, Program.asks s (f reply.result) =
      (recovers && startsBisection g.registrarCount reply))
    (later : ∀ result, (f result).Throughout Stands) :
    ((readRegisterBlockWithException isHolding g).bind f).Throughout Stands :=
  ⟨⟨⟨⟨.block g.registrarCount recovers, rfl, leads⟩, fun reply => later reply.result⟩,
    fun _ => later _⟩, fun _ => later _⟩

theorem stands_readNewGroups (nested : SensorGroup → Poll (List (SensorGroup × List Nat)))
    (recovers : Bool)
    (leads : ∀ g s, Program.asks s (nested g) = (recovers && decide (2 ≤ g.registrarCount)))
    (stands : ∀ g, (nested g).Throughout Stands) (groups : List SensorGroup) :
    (readNewGroups isHolding nested groups).Throughout Stands := by
  induction groups with
  | nil => trivial
  | cons g rest ih =>
    have first : (readNewGroup isHolding nested g).Throughout Stands := by
      refine stands_read g recovers (fun reply s => ?_) fun result => ?_
      · cases reply with
        | values v =>
          dsimp only [Reply.result]
          simp only [startsBisection, Bool.and_false]
          split
          · rfl
          · rfl
        | unanswered => cases recovers <;> rfl
        | exception code =>
          rw [startsBisection, ← Bool.and_assoc, Bool.and_comm recovers, Bool.and_assoc, ← leads g s]
          cases recovered : recoverable code with
          | true => exact congrArg (Program.asks s) (if_pos recovered)
          | false =>
            refine (congrArg (Program.asks s) (if_neg ?_)).trans rfl
            simpa using recovered
      · dsimp only
        split
        · trivial
        · split
          · exact stands g
          · trivial
    have tail : ∀ first, ((readNewGroups isHolding nested rest).bind fun others =>
        (Program.done (first ++ others) : Poll _)).Throughout Stands := fun first =>
      stands_bind ih (fun _ _ => rfl) fun _ => trivial
    exact stands_bind first
      (fun first => (heeds_readNewGroups isHolding nested rest).bind fun _ _ => rfl) tail

theorem stands_recover (depthLeft : Nat) (g : SensorGroup) :
    (recover isHolding depthLeft g).Throughout Stands := by
  induction depthLeft generalizing g with
  | zero => trivial
  | succ depthLeft ih =>
    refine stands_bind (stands_isolateOneBadRegister g _ _ _ (Nat.le_refl _)) ?_ ?_
    · intro bad
      cases bad with
      | none => exact fun _ => rfl
      | some bad => exact fun s => heeds_readNewGroups _ _ _ _
    · intro bad
      cases bad with
      | none => trivial
      | some bad =>
        refine fun _ _ => stands_readNewGroups _ (decide (depthLeft ≠ 0)) (fun g s => ?_) ih _
        cases depthLeft with
        | zero => rfl
        | succ depthLeft => exact (asks_recover isHolding depthLeft g s).trans (by simp)

/-- **Where a batch asks on without a test**: the read of a block of two or more registers that
fails with a recoverable code, and the probes of a bisection that is not at its end. -/
theorem stands_updateGroups (groups marked : List SensorGroup) :
    (updateGroups groups marked).Throughout Stands := by
  have remove (marked : List SensorGroup) : (removeMarked marked).Throughout Stands := fun _ => trivial
  induction groups generalizing marked with
  | nil => exact remove marked
  | cons g rest ih =>
    refine stands_read g true (fun reply s => ?_) fun result => ?_
    · exact asks_afterRead _ (heeds_updateGroups rest) g marked reply s
    · unfold afterRead
      split
      · split
        · exact ih _
        · exact ih _
      · split
        · exact stands_bind (stands_recover _ g) (fun _ _ => rfl) fun _ => ⟨ih _, remove _⟩
        · exact ⟨ih _, remove _⟩

end Poll

end HHModbus
