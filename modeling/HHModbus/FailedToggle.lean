import HHModbus.Lib.Transition
import HHModbus.Lib.Windows
import HHModbus.SwitchSensors

/-!
# A toggle whose write fails

`SolisBinaryEntity.set_register_bit` updates the cache and `is_on` as soon as it has queued
its write, and `is_on` even when the link is down and nothing is queued. The executor drops
a write that the inverter rejects, or that raises, without telling anyone. Only an accepted write
of the register, queued before the toggle or behind it, brings the cache back to the inverter.
-/
namespace HHModbus

open Transition Windows WriteBehind

/-- A switch entity with the controller it writes through. -/
structure SwitchEntity where
  controller : Controller
  isOn : Bool

namespace SwitchDefinition

/-- What `is_on` is for a register that holds a value: an on value decides before a bit. -/
def decode (d : SwitchDefinition) (value : Nat) : Bool :=
  match d.onValue, d.bitPosition with
  | some on, _ => value == on
  | none, some bit => value.testBit bit != d.inverted
  | none, none => false

/-- A register that already has what the toggle asks for: every bit of a bit field, or the
value the toggle stands for. -/
def AsAsked (d : SwitchDefinition) (current : Nat) (value : Bool) (held : Nat) : Prop :=
  match d.bitPosition with
  | some bit => ∀ i, held.testBit i = (d.asks bit current value i).getD (current.testBit i)
  | none => held = if value then d.onValue.getD 1 else d.offValue.getD 0

theorem asAsked_iff (d : SwitchDefinition) (current : Option Nat) (value : Bool) (held : Nat) :
    d.AsAsked (current.getD 0) value held ↔ held = d.newRegisterValue current value := by
  unfold AsAsked newRegisterValue
  cases position : d.bitPosition with
  | some bit =>
    simp only [← d.testBit_bitValue_eq]
    constructor
    · exact Nat.eq_of_testBit_eq
    · rintro rfl i
      rfl
  | none =>
    cases value <;> cases d.onValue <;> cases d.offValue <;> simp

end SwitchDefinition

namespace SwitchEntity

variable (d : SwitchDefinition)

/-- `set_register_bit`, with `live` saying whether the live read of a cold cache succeeds. -/
def setRegisterBit (s : SwitchEntity) (connected live value force : Bool) : SwitchEntity :=
  match s.controller.cacheGet d.register, d.bitPosition with
  | none, some _ =>
    if live then
      let current := s.controller.device d.register
      let saved := s.controller.cacheSave d.register current
      ⟨d.setRegisterBit saved connected (some current) value force, value⟩
    else s
  -- `_attr_is_on = value` stands behind the `if` that queues the write.
  | current, _ => ⟨d.setRegisterBit s.controller connected current value force, value⟩

/-- The write queue, on which any task may put writes, and the switch hearing what the executor
announces about its register. -/
def step (s : SwitchEntity) (a : Action WriteRequest) : Option SwitchEntity :=
  (s.controller.step a).map fun next =>
    let heard := ((s.controller.announced a).filter fun kv => kv.1 == d.register).map Prod.snd
    ⟨next, heard.foldl d.handleModbusUpdate s.isOn⟩

/-- The requests that tasks put on the queue in a run. -/
def puts (acts : List (Action WriteRequest)) : List WriteRequest :=
  acts.filterMap fun
    | .put w => some w
    | _ => none

/-- The inverter's answers in a run: whether it accepts each request. -/
def answers (acts : List (Action WriteRequest)) : List Bool :=
  acts.filterMap fun
    | .frame accepted => some accepted
    | _ => none

/-- The words of a request that has been accepted and not been reported yet. -/
def unreported (c : Controller) : List (Nat × Nat) :=
  match c.queue.executing with
  | .answered w true => w.writes
  | _ => []

def acceptedWords (requests : List WriteRequest) (answers : List Bool) : List (Nat × Nat) :=
  ((requests.zip answers).filter Prod.snd).flatMap fun entry => entry.1.writes

/-- The words that the executor reports from a state on, in their order: those of the requests that it
has queued or gets, as far as the inverter accepts them. -/
def reported (s : SwitchEntity) (acts : List (Action WriteRequest)) : List (Nat × Nat) :=
  unreported s.controller ++ acceptedWords (s.controller.queue.waiting ++ puts acts) (answers acts)

/-- The toggle's own write does not take effect: on a link that is down it is not queued, and one that
is queued is answered behind the requests that wait already, and not accepted. -/
def Fails (s : SwitchEntity) (connected value force : Bool) (acts : List (Action WriteRequest)) : Prop :=
  connected = false ∨
  (force || s.controller.cacheGet d.register !=
      some (d.newRegisterValue (s.controller.cacheGet d.register) value)) = true ∧
    (answers acts)[s.controller.queue.waiting.length]? = some false

/-- The cache says what the inverter holds, and the switch shows it. -/
def NoTrace (s : SwitchEntity) : Prop :=
  s.controller.cacheGet d.targetRegister = some (s.controller.device d.targetRegister) ∧
  s.isOn = d.decode (s.controller.device d.targetRegister)

/-- What the written register comes to hold once these words have been accepted. -/
def held (s : SwitchEntity) (words : List (Nat × Nat)) : Nat :=
  (latest some words d.targetRegister).getD (s.controller.device d.targetRegister)

/-- The register shows what the switch shows, which is what the toggle wants unless the switch hears
otherwise; and the cache is right about it: some write of the register is reported, or the cache is
right as the toggle leaves it. On a link that is up it then says what the toggle asks for. -/
def Harmless (s : SwitchEntity) (connected value : Bool) (words : List (Nat × Nat)) : Prop :=
  d.decode (held d s words) =
    (latest some words d.register).elim value (d.handleModbusUpdate value) ∧
  ((latest some words d.targetRegister).isSome ∨
    if connected then
      d.AsAsked ((s.controller.cacheGet d.register).getD 0) value (held d s words)
    else s.controller.cacheGet d.targetRegister = some (held d s words))

/-- Where the switch reads the register it writes, a report of it is enough. -/
theorem harmless_of_reported (same : d.targetRegister = d.register)
    (shows : d.onValue.isSome ∨ d.bitPosition.isSome) (s : SwitchEntity) (connected value : Bool)
    (words : List (Nat × Nat)) (known : (latest some words d.register).isSome) :
    Harmless d s connected value words := by
  obtain ⟨word, last⟩ := Option.isSome_iff_exists.mp known
  refine ⟨?_, .inl (same ▸ known)⟩
  rw [held, same, last, Option.getD_some, Option.elim_some]
  unfold SwitchDefinition.decode SwitchDefinition.handleModbusUpdate
  cases onValue : d.onValue with
  | some on => rfl
  | none =>
    cases position : d.bitPosition with
    | none => simp [onValue, position] at shows
    | some bit =>
      simp only [getBitBool_eq_testBit]
      cases d.inverted <;> simp

/-! ### What reports do -/

/-- What an accepted request makes of a register is what the request names last. -/
theorem assign_eq_latest (store : Nat → Nat) (words : List (Nat × Nat)) (r : Nat) :
    assign store words r = (latest some words r).getD (store r) := by
  induction words using List.reverseRecOn with
  | nil => rfl
  | append_singleton words kv ih =>
    rw [assign, List.foldl_append, List.foldl_cons, List.foldl_nil, latest_append_singleton]
    by_cases here : kv.1 = r
    · subst here
      simp
    · simp only [if_neg here, Function.update_of_ne (Ne.symm here)]
      exact ih

theorem cached_eq_latest (cache : Nat → Option Nat) (words : List (Nat × Nat)) (r : Nat) :
    (words.foldl (fun cache kv => Function.update cache kv.1 (some kv.2)) cache : Nat → Option Nat) r =
      (latest some words r).or (cache r) := by
  induction words using List.reverseRecOn with
  | nil => rfl
  | append_singleton words kv ih =>
    rw [List.foldl_append, List.foldl_cons, List.foldl_nil, latest_append_singleton]
    by_cases here : kv.1 = r
    · subst here
      simp
    · simp only [if_neg here, Function.update_of_ne (Ne.symm here)]
      exact ih

/-- Of the updates that a switch hears, the last one decides. -/
theorem shown_eq_latest (isOn : Bool) (words : List (Nat × Nat)) :
    ((words.filter fun kv => kv.1 == d.register).map Prod.snd).foldl d.handleModbusUpdate isOn =
      (latest some words d.register).elim isOn (d.handleModbusUpdate isOn) := by
  have again (b : Bool) (x y : Nat) :
      d.handleModbusUpdate (d.handleModbusUpdate b x) y = d.handleModbusUpdate b y := by
    unfold SwitchDefinition.handleModbusUpdate
    cases d.onValue <;> cases d.bitPosition <;> rfl
  induction words using List.reverseRecOn with
  | nil => rfl
  | append_singleton words kv ih =>
    rw [List.filter_append, List.map_append, List.foldl_append, ih, latest_append_singleton]
    by_cases here : kv.1 = d.register
    · simp only [here, beq_self_eq_true, List.filter_cons_of_pos, List.filter_nil, List.map_cons,
        List.map_nil, List.foldl_cons, List.foldl_nil, if_true, Option.elim_some]
      cases latest some words d.register with
      | none => rfl
      | some x => exact again isOn x kv.2
    · simp [here]

theorem mem_of_latest {words : List (Nat × Nat)} {r word : Nat} (last : latest some words r = some word) :
    (r, word) ∈ words := by
  induction words using List.reverseRecOn with
  | nil => cases last
  | append_singleton words kv ih =>
    rw [latest_append_singleton] at last
    dsimp only at last
    split at last
    next here =>
      cases last
      subst here
      simp
    next => exact List.mem_append_left _ (ih last)

/-- After some reports the cache and the switch are what the reports make of them, and the inverter is
ahead by what has not been reported yet. -/
structure Follows (s : SwitchEntity) (words : List (Nat × Nat)) (u : SwitchEntity) : Prop where
  cache : ∀ r, u.controller.cacheGet r = (latest some words r).or (s.controller.cacheGet r)
  device : ∀ r, u.controller.device r =
    (latest some (words ++ unreported u.controller) r).getD (s.controller.device r)
  isOn : u.isOn = (latest some words d.register).elim s.isOn (d.handleModbusUpdate s.isOn)

variable {d}

/-- What is reported in a run is what the queue and the answers come to, apart from what is reported
after it. -/
theorem observed_append_unreported {s t : SwitchEntity} {acts : List (Action WriteRequest)}
    (run : exec (step d) s acts = some t) :
    observed (step d) (fun u a => u.controller.announced a) s acts ++ unreported t.controller =
      reported s acts := by
  induction acts generalizing s with
  | nil =>
    cases run
    simp [observed, reported, puts, answers, acceptedWords]
  | cons a rest ih =>
    obtain ⟨m, hm, hr⟩ := exec_cons_iff.mp run
    rw [observed, hm]
    dsimp only
    rw [List.append_assoc, ih hr]
    obtain ⟨next, hn, rfl⟩ := Option.map_eq_some_iff.mp hm
    obtain ⟨q, hq, rfl⟩ := Option.map_eq_some_iff.mp hn
    obtain ⟨w, rfl, rfl⟩ | ⟨w, later, rfl, idle, queued, rfl⟩ | ⟨w, accepted, rfl, taken, rfl⟩ |
      ⟨w, accepted, rfl, answered, rfl⟩ := Queue.step_cases hq
    · simp [reported, unreported, Controller.announced, puts, answers]
    · simp [reported, unreported, Controller.announced, puts, answers, Queue.waiting, idle, queued]
    · -- The first of the waiting requests gets its answer.
      cases accepted <;>
        simp [reported, unreported, Controller.announced, puts, answers, Queue.waiting, taken, acceptedWords]
    · cases accepted <;>
        simp [reported, unreported, Controller.announced, puts, answers, Queue.waiting, answered]

theorem follows_step {s u v : SwitchEntity} {a : Action WriteRequest} {words : List (Nat × Nat)}
    (follows : Follows d s words u) (h : u.step d a = some v) :
    Follows d s (words ++ u.controller.announced a) v := by
  obtain ⟨next, hn, rfl⟩ := Option.map_eq_some_iff.mp h
  obtain ⟨q, hq, rfl⟩ := Option.map_eq_some_iff.mp hn
  refine ⟨fun r => ?_, fun r => ?_, ?_⟩
  · change ((u.controller.announced a).foldl _ u.controller.cache) r = _
    rw [cached_eq_latest, latest_append, Option.or_assoc, ← follows.cache r]
    rfl
  · have before := follows.device r
    change q.store r = _
    change u.controller.queue.store r = _ at before
    obtain ⟨w, rfl, rfl⟩ | ⟨w, rest, rfl, idle, queued, rfl⟩ | ⟨w, accepted, rfl, taken, rfl⟩ |
      ⟨w, accepted, rfl, answered, rfl⟩ := Queue.step_cases hq
    · simpa [Controller.announced, unreported] using before
    · simpa [Controller.announced, unreported, idle] using before
    · simp only [unreported, taken, List.append_nil] at before
      cases accepted with
      | false => simpa [Controller.announced, unreported] using before
      | true =>
        -- The accepted words reach the inverter now, and are reported later.
        simp only [Controller.announced, unreported, if_true, List.append_nil, assign_eq_latest, before,
          latest_append]
        cases latest some w.writes r <;> rfl
    · cases accepted <;> simpa [Controller.announced, unreported, answered] using before
  · change ((((u.controller.announced a).filter fun kv => kv.1 == d.register).map Prod.snd).foldl
      d.handleModbusUpdate u.isOn) = _
    rw [shown_eq_latest, follows.isOn, latest_append]
    cases latest some (u.controller.announced a) d.register with
    | none => rfl
    | some x =>
      cases latest some words d.register with
      | none => rfl
      | some y =>
        -- What the switch showed before does not matter to an update.
        simp only [Option.elim_some, Option.some_or]
        unfold SwitchDefinition.handleModbusUpdate
        cases d.onValue <;> cases d.bitPosition <;> rfl

/-- An accepted request that has not been reported is what the inverter holds. -/
theorem accepted_held {holds : Nat → Nat} {earlier : List (Action WriteRequest)}
    {q : Queue Nat Nat WriteRequest}
    (reached : exec (Queue.step WriteRequest.writes) (Queue.start holds) earlier = some q)
    (w : WriteRequest) (answered : q.executing = .answered w true) (kv : Nat × Nat)
    (member : kv ∈ w.writes) : q.store kv.1 = kv.2 := by
  refine invariant (I := fun q : Queue Nat Nat WriteRequest =>
    ∀ w, q.executing = .answered w true → ∀ kv ∈ w.writes, q.store kv.1 = kv.2) ?_ ?_ reached w
    answered kv member
  · intro p a q before h w answered kv member
    obtain ⟨v, rfl, rfl⟩ | ⟨v, rest, rfl, idle, queued, rfl⟩ | ⟨v, accepted, rfl, taken, rfl⟩ |
      ⟨v, accepted, rfl, done, rfl⟩ := Queue.step_cases h
    · exact before w answered kv member
    · cases answered
    · cases answered
      exact assign_of_mem _ _ w.nodup_registers _ _ member
    · cases answered
  · intro w answered
    cases answered

/-- A toggle with a warm cache is the rest of `set_register_bit`. -/
theorem setRegisterBit_of_warm (s : SwitchEntity) (connected live value force : Bool)
    (warm : d.bitPosition = none ∨ (s.controller.cacheGet d.register).isSome) :
    s.setRegisterBit d connected live value force =
      ⟨d.setRegisterBit s.controller connected (s.controller.cacheGet d.register) value force,
        value⟩ := by
  unfold setRegisterBit
  split
  next bit cold position =>
    rw [position, cold] at warm
    simp at warm
  next => rfl

/-- **A failed toggle leaves no trace** exactly when an accepted write of the register is reported
after it, or the register already was as the toggle asks, or, on a link that is down, as the switch
shows it after the toggle. -/
theorem noTrace_iff (d : SwitchDefinition) (s : SwitchEntity)
    (warm : d.bitPosition = none ∨ (s.controller.cacheGet d.register).isSome)
    (holds : Nat → Nat) (earlier : List (Action WriteRequest))
    (reached : exec (Queue.step WriteRequest.writes) (.start holds) earlier = some s.controller.queue)
    (connected live value force : Bool) (acts : List (Action WriteRequest)) (t : SwitchEntity)
    (failed : Fails d s connected value force acts)
    (run : exec (step d) (s.setRegisterBit d connected live value force) acts = some t)
    (drained : t.controller.queue.Drained) :
    NoTrace d t ↔
      Harmless d s connected value (reported (s.setRegisterBit d connected live value force) acts) := by
  rw [setRegisterBit_of_warm s connected live value force warm] at run ⊢
  obtain ⟨device, executing, cache⟩ := d.setRegisterBit_frame s.controller connected
    (s.controller.cacheGet d.register) value force
  generalize toggled : d.setRegisterBit s.controller connected (s.controller.cacheGet d.register) value
    force = c at device executing cache run ⊢
  have follows : Follows d ⟨c, value⟩ (reported ⟨c, value⟩ acts) t := by
    have initial : Follows d ⟨c, value⟩ [] ⟨c, value⟩ := by
      refine ⟨fun r => rfl, fun r => ?_, rfl⟩
      -- The request that is being executed at the toggle may have been accepted already.
      cases last : latest some ([] ++ unreported c) r with
      | none => rfl
      | some word =>
        have member := mem_of_latest last
        rw [List.nil_append, unreported, executing] at member
        split at member
        next w answered =>
          rw [Option.getD_some, device]
          exact accepted_held reached w answered (r, word) member
        next => cases member
    have all := invariant_observed (fun seen u a v => follows_step) initial run
    -- At the end of the run everything has been reported.
    rwa [← observed_append_unreported run, unreported, drained.2, List.append_nil]
  generalize reported ⟨c, value⟩ acts = words at follows ⊢
  have ends : t.controller.device d.targetRegister = held d s words := by
    rw [follows.device, unreported, drained.2, List.append_nil, device]
    rfl
  unfold NoTrace Harmless
  rw [ends, follows.isOn, follows.cache, cache, and_comm, eq_comm (a := d.decode _)]
  refine and_congr_right fun _ => ?_
  cases last : latest some words d.targetRegister with
  | some word =>
    -- A reported write leaves cache and inverter with the same word.
    simp [held, last]
  | none =>
    rw [Option.none_or, Option.isSome_none, Bool.false_eq_true, false_or]
    cases connected with
    | false => simp
    | true =>
      rcases failed with down | ⟨queued, -⟩
      · cases down
      · simp only [queued, Bool.and_true, if_true, Option.some.injEq, d.asAsked_iff]
        exact eq_comm

/-- After a toggle that left no trace, a toggle of another bit sends what the inverter holds
in every bit it does not ask for. -/
theorem later_toggle_faithful {t : SwitchEntity} (noTrace : NoTrace d t)
    (same : d.targetRegister = d.register) (other : SwitchDefinition) {bit : Nat}
    (position : other.bitPosition = some bit) (value : Bool) (i : Nat)
    (untouched : i ∉ other.touchedBits) :
    (other.newRegisterValue (t.controller.cacheGet d.register) value).testBit i =
      (t.controller.device d.register).testBit i := by
  have cached := noTrace.1
  rw [same] at cached
  simp only [cached, SwitchDefinition.newRegisterValue, position, Option.getD_some]
  exact other.testBit_bitValue_of_notMem position _ value i untouched

/-- The link is up and the inverter rejects the one write that is queued. -/
def rejected : List (Action WriteRequest) := [.take, .frame false, .finish]

/-- Register 43110 holds 1 and is cached; bit 3 is to be set. -/
def wakeupOff : SwitchEntity :=
  ⟨.start (fun _ => 1) (fun _ => some 1), false⟩

/-- The same while the write of bit 5 is being executed. -/
def wakeupBehind : SwitchEntity :=
  ⟨⟨⟨fun _ => 1, [], .taken (.single 43110 33)⟩, fun _ => some 33⟩, false⟩

/-- The inverter accepts bit 5 and rejects bit 3. -/
def rejectedBehind : List (Action WriteRequest) := [.frame true, .finish, .take, .frame false, .finish]

/-- The report of bit 5 takes the rejected bit back. -/
theorem noTrace_wakeup :
    NoTrace storageModeSwitches[3] ((exec (step storageModeSwitches[3])
      (wakeupBehind.setRegisterBit storageModeSwitches[3] true false true false) rejectedBehind).getD
        wakeupBehind) := by
  refine (noTrace_iff storageModeSwitches[3] wakeupBehind (by decide) (fun _ => 1)
    [.put (.single 43110 33), .take] rfl true false true false rejectedBehind _ (.inr (by decide)) rfl
    ⟨rfl, rfl⟩).mpr ?_
  exact harmless_of_reported _ rfl (by decide) _ _ _ _ (by decide)

/-- The cache keeps the rejected bit and the switch shows on; turning on bit 5 then sends
bit 3 as well. -/
theorem rejected_toggle_leaves_trace :
    ∃ t, exec (step storageModeSwitches[3])
        (wakeupOff.setRegisterBit storageModeSwitches[3] true false true false) rejected = some t ∧
      t.controller.queue.Drained ∧ t.controller.device 43110 = 1 ∧
      t.controller.cacheGet 43110 = some 9 ∧ t.isOn = true ∧
      ¬ NoTrace storageModeSwitches[3] t ∧
      storageModeSwitches[5].newRegisterValue (t.controller.cacheGet 43110) true = 41 := by
  refine ⟨_, rfl, ⟨rfl, rfl⟩, by decide, by decide, rfl, fun noTrace => ?_, by decide⟩
  have cached := noTrace.1
  revert cached
  decide

end SwitchEntity

end HHModbus
