import HHModbus.SunsynkCommands

/-!
# The newest command is stored

What a command comes to, from the queue of its inverter over the shared connector to the registers of
the unit: the last of the commands for a setting is the one that the registers show.
-/
namespace HHModbus

open Transition

/-- The request has been answered, and carried out. -/
def DriverReply.Succeeds : DriverReply → Prop
  | .words count => 0 < count
  | .returned applied => applied = true
  | .failed | .raised _ => False

namespace Addon

variable {options : ConnectorOptions} {a a' : Addon} {key : SensorKey} {i j : Nat}

/-! ### What reaches the connector -/

/-- The connector takes the steps that it is asked for. -/
theorem followed {acts : List AddonAction} (run : exec (step options) a acts = some a') :
    exec (Connector.step options) a.connector (connectorActs (happened options a acts)) =
      some a'.connector := by
  -- Each step of the addon is at most one step of the connector, the one that is observed.
  have keeps (events : List AddonEvent) (b : Addon) (act : AddonAction) (b' : Addon)
      (before : exec (Connector.step options) a.connector (connectorActs events) = some b.connector)
      (taken : step options b act = some b') :
      exec (Connector.step options) a.connector (connectorActs (events ++ b.observe act)) =
        some b'.connector := by
    rw [connectorActs_append, exec_append_iff]
    refine ⟨b.connector, before, ?_⟩
    cases moves_of_step taken with
    | command | called | ignored | connected | popped | drained | moved => rfl
    | locked i op c wanted stepped =>
      have asked : connectorActs (b.observe (.lock i)) = [.lock i op] := by
        simp [connectorActs, observe, wanted]
      rw [asked]
      exact exec_cons_iff.mpr ⟨c, stepped, rfl⟩
    | replied r c raised stepped => exact exec_cons_iff.mpr ⟨c, stepped, rfl⟩
  have start : exec (Connector.step options) a.connector (connectorActs []) = some a.connector := rfl
  simpa [happened] using invariant_observed keeps start run

/-! ### Only sensors that were commanded are written -/

/-- The settings that are queued, in hand or have been written are some of those that `P` allows. -/
structure Drawn (P : Setting → Prop) (events : List AddonEvent) (a : Addon) : Prop where
  queue : ∀ i, ∀ entry ∈ a.queue i, P entry.1
  hand : ∀ i s value, a.phase i = .toWrite s value → P s
  issued : ∀ i s value, .lock i (.writeSensor s value) ∈ connectorActs events → P s

theorem mem_enqueue {queue : List (Setting × String)} {s : Setting} {value : String}
    {entry : Setting × String} (member : entry ∈ enqueue queue s value) :
    entry.1 = s ∨ ∃ old ∈ queue, entry.1 = old.1 := by
  unfold enqueue at member
  split at member
  case isTrue =>
    obtain ⟨old, inside, rfl⟩ := List.mem_map.mp member
    refine .inr ⟨old, inside, ?_⟩
    split <;> rfl
  case isFalse =>
    rcases List.mem_append.mp member with old | new
    · exact .inr ⟨entry, old, rfl⟩
    · cases List.mem_singleton.mp new
      exact .inl rfl

theorem toWrite_of_unlocked {raised : Bool} {p : CallbackPhase} {s : Setting} {value : String}
    (hand : p.unlocked raised = .toWrite s value) : p = .toWrite s value := by
  cases p with
  | writing s => cases raised <;> cases hand
  | readingBack failed => cases failed <;> cases hand
  | polling failed => cases hand
  | _ => exact hand

theorem toWrite_of_noting {r : DriverReply} {p : CallbackPhase} {s : Setting} {value : String}
    (hand : p.noting r = .toWrite s value) : p = .toWrite s value := by
  cases r <;> cases p <;> first | exact hand | cases hand

/-- Nobody who has the lock has something in hand. -/
theorem locked_ne_toWrite {p : CallbackPhase} {op : Operation} (wanted : p.operation = some op)
    {s : Setting} {value : String} : p.locked ≠ .toWrite s value := by
  cases p <;> simp [CallbackPhase.operation, CallbackPhase.locked] at *

theorem toWrite_of_released {holder : Nat} {p : CallbackPhase} {raised : Bool} {s : Setting}
    {value : String} (hand : (a.released holder p raised).phase j = .toWrite s value) :
    (j = holder ∧ p = .toWrite s value) ∨ (j ≠ holder ∧ a.phase j = .toWrite s value) := by
  -- Only the callback that has the lock changes its phase.
  by_cases here : j = holder
  · subst here
    simp only [released, setPhase, Function.update_self] at hand
    split at hand
    · exact .inl ⟨rfl, toWrite_of_unlocked hand⟩
    · exact .inl ⟨rfl, hand⟩
  · simp only [released, setPhase, Function.update_of_ne here] at hand
    exact .inr ⟨here, hand⟩

variable {P : Setting → Prop}

theorem Drawn.setPhase {events : List AddonEvent} (drawn : Drawn P events a) {p : CallbackPhase}
    (other : ∀ s value, p ≠ .toWrite s value) : Drawn P events (a.setPhase i p) where
  queue := drawn.queue
  hand j s value hand := by
    by_cases here : j = i
    · subst here
      exact absurd (by simpa [Addon.setPhase] using hand) (other s value)
    · exact drawn.hand j s value (by simpa [Addon.setPhase, here] using hand)
  issued := drawn.issued

theorem drawn_step (events : List AddonEvent) (a : Addon) (act : AddonAction) (a' : Addon)
    (allowed : ∀ i s value, act = .command i s value → P s) (drawn : Drawn P events a)
    (taken : step options a act = some a') : Drawn P (events ++ a.observe act) a' := by
  cases moves_of_step taken with
  | command i s value =>
    constructor
    case queue =>
      intro j entry member
      by_cases here : j = i
      · subst here
        simp only [Function.update_self] at member
        -- What is queued was queued before, or is the setting of the command.
        rcases mem_enqueue member with new | ⟨old, inside, same⟩
        · exact new ▸ allowed j s value rfl
        · exact same ▸ drawn.queue j old inside
      · exact drawn.queue j entry (by simpa [here] using member)
    case hand => exact drawn.hand
    case issued =>
      intro j t w member
      exact drawn.issued j t w (by simpa [connectorActs, observe] using member)
  | called i =>
    simp only [observe, List.append_nil]
    exact drawn.setPhase (by simp)
  | ignored i => simpa only [observe, List.append_nil] using drawn
  | connected i success =>
    simp only [observe, List.append_nil]
    apply drawn.setPhase
    cases success <;> simp
  | popped i due s value flushing last =>
    -- What is taken in hand comes from the queue.
    have known : P s := drawn.queue i (s, value) (List.mem_of_getLast? last)
    constructor
    case queue =>
      intro j entry member
      by_cases here : j = i
      · subst here
        exact drawn.queue j entry (List.dropLast_subset _ (by simpa [Addon.setPhase] using member))
      · exact drawn.queue j entry (by simpa [Addon.setPhase, here] using member)
    case hand =>
      intro j t w hand
      by_cases here : j = i
      · subst here
        simp only [Addon.setPhase, Function.update_self, CallbackPhase.toWrite.injEq] at hand
        exact hand.1 ▸ known
      · exact drawn.hand j t w (by simpa [Addon.setPhase, here] using hand)
    case issued => simpa [observe] using drawn.issued
  | drained i due =>
    simp only [observe, List.append_nil]
    apply drawn.setPhase
    split <;> simp
  | locked i op c wanted =>
    constructor
    case queue => exact drawn.queue
    case hand =>
      intro j s value hand
      rcases toWrite_of_released hand with ⟨-, entered⟩ | ⟨-, before⟩
      · exact absurd entered (locked_ne_toWrite wanted)
      · exact drawn.hand j s value before
    case issued =>
      intro j s value member
      rw [connectorActs_append, List.mem_append] at member
      rcases member with before | now
      · exact drawn.issued j s value before
      · simp only [connectorActs, observe, wanted, Option.map_some, Option.toList_some,
          List.filterMap_cons, List.filterMap_nil, List.mem_singleton, ConnectorAction.lock.injEq] at now
        -- A write is begun by the callback that has it in hand.
        obtain ⟨rfl, rfl⟩ := now
        cases phase : a.phase j <;> rw [phase] at wanted <;> cases wanted
        exact drawn.hand j _ _ phase
  | replied r c raised =>
    constructor
    case queue => exact drawn.queue
    case hand =>
      intro j s value hand
      rcases toWrite_of_released hand with ⟨rfl, noted⟩ | ⟨-, before⟩
      · exact drawn.hand _ s value (toWrite_of_noting noted)
      · exact drawn.hand j s value before
    case issued =>
      intro j s value member
      exact drawn.issued j s value (by simpa [connectorActs, observe] using member)
  | moved unit address value =>
    constructor
    case queue => exact drawn.queue
    case hand => exact drawn.hand
    case issued =>
      intro j s value' member
      exact drawn.issued j s value' (by simpa [connectorActs, observe] using member)

theorem issued_allowed {acts : List AddonAction} (idle : a.Idle)
    (run : exec (step options) a acts = some a') (allowed : ∀ i s value, .command i s value ∈ acts → P s)
    {s : Setting} {value : String}
    (issued : .lock i (.writeSensor s value) ∈ connectorActs (happened options a acts)) : P s := by
  have start : Drawn P [] a := by
    constructor
    · simp [idle.queue]
    · simp [idle.phase]
    · simp [connectorActs]
  have drawn := invariant_observed_of_forall
    (P := fun act => ∀ i s value, act = AddonAction.command i s value → P s)
    (fun events a act a' ok before taken => drawn_step events a act a' ok before taken) start
    (fun act member i s value same => allowed i s value (same ▸ member)) run
  exact drawn.issued i s value issued

/-! ### The write of the last command is carried out -/

/-- The last element that a function has a value for. -/
theorem filterMap_getLast {α β : Type*} {f : α → Option β} {l : List α} {y : β}
    (last : (l.filterMap f).getLast? = some y) :
    ∃ before x after, l = before ++ x :: after ∧ f x = some y ∧ after.filterMap f = [] := by
  induction l using List.reverseRecOn with
  | nil => simp at last
  | append_singleton l x ih =>
    rw [List.filterMap_append] at last
    -- The last element has a value, or it is behind the one that is looked for.
    cases value : f x with
    | some z =>
      have same : z = y := by simpa [value] using last
      exact ⟨l, x, [], rfl, same ▸ value, rfl⟩
    | none =>
      obtain ⟨before, x', after, rfl, found, rest⟩ := ih (by simpa [value] using last)
      exact ⟨before, x', after ++ [x], by simp, found, by simp [rest, value]⟩

/-- The write of a setting is under way, or has been carried out. -/
def Underway (unit : Nat) (s : Setting) (address : Nat) (seen : List Connector.Exchange)
    (c : Connector) : Prop :=
  (c.serverId = unit ∧ ((∃ regs, c.job = some (.fetching s regs)) ∨
    ∃ w, c.job = some (.writing s [(address, w)]))) ∨
  ∃ w, .written unit s address w true ∈ seen

theorem underway_step {unit address : Nat} {s : Setting} (single : s.address = [address])
    (seen : List Connector.Exchange) (c : Connector) (act : ConnectorAction) (c' : Connector)
    (success : ∀ r, act = .reply r → r.Succeeds) (underway : Underway unit s address seen c)
    (taken : Connector.step options c act = some c') :
    Underway unit s address (seen ++ c.observe act) c' := by
  rcases underway with ⟨own, busy⟩ | ⟨w, written⟩
  · rcases Connector.step_cases taken with ⟨j, op, rfl, free, -⟩ | ⟨r, job, rfl, waits, answered⟩ |
      ⟨u, b, v, rfl, rfl⟩
    · -- The lock is not free while the write is under way.
      rcases busy with ⟨regs, job⟩ | ⟨w, job⟩ <;> simp [free] at job
    · have ok := success r rfl
      rcases busy with ⟨regs, job'⟩ | ⟨w, job'⟩
      · -- The register has been read, and is written next.
        obtain rfl : job = .fetching s regs := Option.some.inj (waits.symm.trans job')
        match r, ok, answered with
        | .words (count + 1), _, fetched =>
          cases fetched
          have next (value : Nat) : s.address.zip (value :: regs.tail) = [(address, value)] := by
            simp [single]
          simp only [next]
          exact .inl ⟨own, .inr ⟨_, rfl⟩⟩
        | .words 0, none_, _ => exact absurd none_ (lt_irrefl 0)
        | .returned applied, _, refused => cases refused
      · obtain rfl : job = .writing s [(address, w)] := Option.some.inj (waits.symm.trans job')
        cases Connector.progress_of_proceed answered with
        | stored s a v left applied =>
          -- A success is a write that the unit has stored.
          have done : applied = true := ok
          refine .inr ⟨w, ?_⟩
          simp [Connector.observe, waits, own, done]
        | storeRaised => exact ok.elim
    · exact .inl ⟨own, busy⟩
  · exact .inr ⟨w, List.mem_append_left _ written⟩

theorem written_of_success {m c' : Connector} {s : Setting} {text : String} {address : Nat}
    {after : List ConnectorAction} {regs : List Nat} (single : s.address = [address])
    (translated : s.valueToReg text (m.states i) = some regs)
    (run : exec (Connector.step options) m (.lock i (.writeSensor s text) :: after) = some c')
    (finished : c'.job = none) (success : ∀ r, .reply r ∈ after → r.Succeeds) :
    ∃ w, .written (options.modbusId i) s address w true ∈
      Connector.exchanged options m (.lock i (.writeSensor s text) :: after) := by
  obtain ⟨c, locked, later⟩ := exec_cons_iff.mp run
  have begun : Underway (options.modbusId i) s address [] c := by
    rcases Connector.step_cases locked with ⟨j, op, same, -, rfl⟩ | ⟨r, job, same, -⟩ | ⟨u, b, v, same, -⟩
    · cases same
      have now : s.valueToReg text (m.lockIo options i).state = some regs := translated
      simp only [Connector.start, now]
      split
      case isTrue masked => exact .inl ⟨rfl, .inl ⟨_, rfl⟩⟩
      case isFalse whole =>
        cases regs with
        | nil => exact absurd rfl (s.nonempty _ _ _ translated)
        | cons r rest =>
          -- A setting without a mask has one register here, written with the first word.
          have first : s.address.zip (r :: rest) = [(address, r)] := by simp [single]
          rw [first]
          exact .inl ⟨rfl, .inr ⟨r, rfl⟩⟩
    · cases same
    · cases same
  have final := invariant_observed_of_forall
    (P := fun act => ∀ r, act = ConnectorAction.reply r → r.Succeeds)
    (fun seen c act c' ok before taken => underway_step single seen c act c' ok before taken) begun
    (fun act member r same => success r (same ▸ member)) later
  have log : Connector.exchanged options m (.lock i (.writeSensor s text) :: after) =
      .begun i (.writeSensor s text) (m.states i) ::
        observed (Connector.step options) Connector.observe c after := by
    simp [Connector.exchanged, observed, locked, Connector.observe]
  rw [log]
  -- Nothing is under way at the end, so the write was carried out.
  rcases final with ⟨-, ⟨_, busy⟩ | ⟨_, busy⟩⟩ | written
  · simp [finished] at busy
  · simp [finished] at busy
  · simpa using written

theorem singlePhasePlaces_names : (singlePhasePlaces.map Prod.fst).Nodup := by decide +kernel

/-- Two settings of the map with one name have one place. -/
theorem key_of_name {s t : Setting} (inS : s.place ∈ singlePhasePlaces)
    (inT : t.place ∈ singlePhasePlaces) (same : t.name = s.name) : t.key = s.key := by
  -- No two places of the map have one name.
  have place : t.place = s.place := List.inj_on_of_nodup_map singlePhasePlaces_names inT inS same
  simp only [Setting.place, Prod.mk.injEq] at place
  simp [StateSensor.key, place]

theorem mem_happened_of_passed {acts : List AddonAction} {act : ConnectorAction}
    (passed : act ∈ connectorActs (happened options a acts)) :
    (∃ i op, act = .lock i op) ∨ (∃ r, act = .reply r ∧ .reply r ∈ acts) ∨
      ∃ unit address value, act = .move unit address value ∧ .move unit address value ∈ acts := by
  obtain ⟨event, member, value⟩ := List.mem_filterMap.mp passed
  obtain ⟨cause, inside, b, seen⟩ := exists_of_mem_observed member
  cases cause with
  | command i s value =>
    cases List.mem_singleton.mp seen
    cases value
  | call | connected | next => cases seen
  | lock i =>
    simp only [observe, Option.mem_toList, Option.map_eq_some_iff] at seen
    obtain ⟨op, -, rfl⟩ := seen
    exact .inl ⟨i, op, (Option.some.inj value).symm⟩
  | reply r =>
    cases List.mem_singleton.mp seen
    exact .inr (.inl ⟨r, (Option.some.inj value).symm, inside⟩)
  | move unit address v =>
    cases List.mem_singleton.mp seen
    exact .inr (.inr ⟨unit, address, v, (Option.some.inj value).symm, inside⟩)

theorem move_of_moved {c : Connector} {act : ConnectorAction} {unit address value : Nat}
    (seen : .moved unit address value ∈ c.observe act) : act = .move unit address value := by
  cases act with
  | lock j op => cases List.mem_singleton.mp seen
  | move u b v =>
    cases List.mem_singleton.mp seen
    rfl
  | reply r =>
    simp only [Connector.observe] at seen
    split at seen <;> simp at seen

/-- A write of a setting with the name that was carried out in the unit. -/
def writtenAs (unit : Nat) (name : String) : Connector.Exchange → Option (Setting × Nat × Nat)
  | .written u t address value true => if u = unit ∧ t.name = name then some (t, address, value) else none
  | .written _ _ _ _ false | .answered _ _ _ | .moved _ _ _ | .begun _ _ _ => none

theorem writtenAs_eq_some_iff {unit : Nat} {name : String} {e : Connector.Exchange}
    {y : Setting × Nat × Nat} : writtenAs unit name e = some y ↔
      e = .written unit y.1 y.2.1 y.2.2 true ∧ y.1.name = name := by
  match e with
  | .written u t address value true =>
    simp only [writtenAs, Option.ite_none_right_eq_some, Option.some.injEq,
      Connector.Exchange.written.injEq, and_true]
    constructor
    · rintro ⟨⟨rfl, same⟩, rfl⟩
      exact ⟨⟨rfl, rfl, rfl, rfl⟩, same⟩
    · rintro ⟨⟨rfl, rfl, rfl, rfl⟩, same⟩
      exact ⟨⟨rfl, same⟩, rfl⟩
  | .written _ _ _ _ false | .answered _ _ _ | .moved _ _ _ | .begun _ _ _ => simp [writtenAs]

/-- The registers of the unit are as the newest command for the setting has set them. -/
theorem holds_newest (own : Function.Injective options.modbusId) {acts : List AddonAction}
    (idle : a.Idle) (run : exec (step options) a acts = some a')
    (map : ∀ j t w, .command j t w ∈ acts → t.place ∈ singlePhasePlaces)
    (one : ∀ j k t u v w, .command j t v ∈ acts → .command k u w ∈ acts → t.key = u.key → t = u)
    (calm : ∀ unit address value, .move unit address value ∈ acts →
      ∀ place ∈ singlePhasePlaces, place.2.2 ≠ 0 → address ∉ place.2.1)
    (success : ∀ r, .reply r ∈ acts → r.Succeeds) {s : Setting} {text : String} {address : Nat}
    (given : .command i s text ∈ acts) (single : s.address = [address])
    (still : ∀ value, .move (options.modbusId i) address value ∉ acts)
    (translates : ∀ st, s.valueToReg text st ≠ none)
    (newest : (commandsOf i s.key (happened options a acts)).getLast? = some text)
    (begun : a'.waiting i s.key = []) (finished : a'.connector.job = none) :
    ∃ st, a'.connector.Holds (options.modbusId i) s address text st := by
  have inMap {j : Nat} {t : Setting} {w : String}
      (issued : .lock j (.writeSensor t w) ∈ connectorActs (happened options a acts)) :
      t.place ∈ singlePhasePlaces := issued_allowed idle run map issued
  have sameSetting {j : Nat} {t : Setting} {w : String}
      (issued : .lock j (.writeSensor t w) ∈ connectorActs (happened options a acts)) :
      t.key = s.key → t = s :=
    issued_allowed (P := fun t => t.key = s.key → t = s) idle run
      (fun j t w command same => one j i t s w text command given same) issued
  -- The write of the newest command is the last that has begun.
  have order := (orderly_run idle run).newest i s.key
  rw [begun, List.append_nil] at order
  obtain ⟨before, act, after, split, found, rest⟩ := filterMap_getLast (order.newest.trans newest)
  obtain ⟨s', rfl, same⟩ : ∃ s', act = .lock i (.writeSensor s' text) ∧ s'.key = s.key := by
    match act, found with
    | .lock j (.writeSensor t w), found =>
      simp only [Option.ite_none_right_eq_some, Option.some.injEq] at found
      obtain ⟨⟨rfl, same⟩, rfl⟩ := found
      exact ⟨t, rfl, same⟩
  obtain rfl : s' = s := sameSetting (j := i) (w := text) (by simp [split]) same
  have later {t : Setting} {w : String} (issued : .lock i (.writeSensor t w) ∈ after) :
      t.key ≠ s'.key := by
    intro sameKey
    have none_ := List.filterMap_eq_nil_iff.mp rest _ issued
    simp [sameKey] at none_
  -- From there on the connector makes a run of its own.
  have whole := followed run
  rw [split, exec_append_iff] at whole
  obtain ⟨m, -, suffix⟩ := whole
  obtain ⟨_, locked, -⟩ := exec_cons_iff.mp suffix
  have free : m.job = none := by
    rcases Connector.step_cases locked with ⟨j, op, -, free, -⟩ | ⟨r, job, same, -⟩ | ⟨u, b, v, same, -⟩
    · exact free
    · cases same
    · cases same
  have part : ∀ act ∈ .lock i (.writeSensor s' text) :: after,
      act ∈ connectorActs (happened options a acts) := by
    intro act member
    rw [split]
    exact List.mem_append_right _ member
  have calm' : Connector.Calm options m (.lock i (.writeSensor s' text) :: after) := by
    apply Connector.calm_of_elsewhere free
    intro unit address value moved j t w issued masked member
    rcases mem_happened_of_passed (part _ moved) with ⟨j, op, same⟩ | ⟨r, same, -⟩ | ⟨u, b, v, same, taken⟩
    · cases same
    · cases same
    · cases same
      exact calm unit address value taken t.place (inMap (part _ issued)) masked member
  have place : s'.place ∈ singlePhasePlaces := map i s' text given
  -- Only this command is for the setting, so what is written last of it is the command's.
  have only {j : Nat} {t : Setting} {w : String}
      (issued : .lock j (.writeSensor t w) ∈ .lock i (.writeSensor s' text) :: after)
      (unit : options.modbusId j = options.modbusId i) (name : t.name = s'.name) : t = s' ∧ w = text := by
    obtain rfl := own unit
    rcases List.mem_cons.mp issued with first | further
    · cases first
      exact ⟨rfl, rfl⟩
    · exact absurd (key_of_name place (inMap (part _ issued)) name) (later further)
  obtain ⟨regs, translated⟩ := Option.ne_none_iff_exists'.mp (translates (m.states i))
  obtain ⟨w, written⟩ := written_of_success single translated suffix finished fun r member => by
    rcases mem_happened_of_passed (part _ (List.mem_cons_of_mem _ member)) with
      ⟨j, op, same⟩ | ⟨r', same, taken⟩ | ⟨u, b, v, same, -⟩
    · cases same
    · cases same
      exact success r taken
    · cases same
  -- The last write of the setting that was carried out.
  have some_ : ((Connector.exchanged options m (.lock i (.writeSensor s' text) :: after)).filterMap
      (writtenAs (options.modbusId i) s'.name)) ≠ [] := by
    intro none_
    have noWrite := List.filterMap_eq_nil_iff.mp none_ _ written
    simp [writtenAs] at noWrite
  obtain ⟨⟨t, b, v⟩, ending⟩ := Option.isSome_iff_exists.mp (List.getLast?_isSome.mpr some_)
  obtain ⟨earlier, e, rest', log, isWrite, quiet⟩ := filterMap_getLast ending
  obtain ⟨rfl, name⟩ := writtenAs_eq_some_iff.mp isWrite
  have begunLast {j : Nat} {t' : Setting} {w : String} {st : InverterState}
      (begun : Connector.lastBegun earlier = some (j, .writeSensor t' w, st)) :
      .lock j (.writeSensor t' w) ∈ .lock i (.writeSensor s' text) :: after := by
    have inLog : .begun j (.writeSensor t' w) st ∈ Connector.exchanged options m
        (.lock i (.writeSensor s' text) :: after) := by
      rw [log]
      exact List.mem_append_left _ (Connector.mem_of_lastBegun begun)
    exact lock_of_begun inLog
  have commanded := (Connector.atomic_run free calm' suffix).faithful earlier (options.modbusId i) t b v true
    rest' log
  have inT := commanded.address_mem
  obtain ⟨j, text', _, _, _, begun', unit, -, -, -⟩ := commanded
  obtain ⟨rfl, rfl⟩ := only (begunLast begun') unit name
  obtain rfl : b = address := by simpa [single] using inT
  have last : ∀ u b' v', .written (options.modbusId i) u b' v' true ∈ rest' → u.name ≠ t.name := by
    intro u b' v' member sameName
    have noWrite := List.filterMap_eq_nil_iff.mp quiet _ member
    have isWrite : writtenAs (options.modbusId i) t.name (.written (options.modbusId i) u b' v' true) =
      some (u, b', v') := writtenAs_eq_some_iff.mpr ⟨rfl, sameName⟩
    simp [noWrite] at isWrite
  have unmoved : ∀ v', .moved (options.modbusId i) b v' ∉ rest' := by
    intro v' member
    have inLog : .moved (options.modbusId i) b v' ∈ Connector.exchanged options m
        (.lock i (.writeSensor t text') :: after) := by simp [log, member]
    obtain ⟨act, inside, c, seen⟩ := exists_of_mem_observed inLog
    obtain rfl := move_of_moved seen
    rcases mem_happened_of_passed (part _ inside) with ⟨_, _, same⟩ | ⟨_, same, -⟩ | ⟨u, b', v, same, taken⟩
    · cases same
    · cases same
    · cases same
      exact still v' taken
  obtain ⟨k, text'', st, begun'', unit', holds⟩ := holds_since free calm' suffix
    (fun j t w issued => inMap (part _ issued)) log last unmoved
  obtain ⟨-, rfl⟩ := only (begunLast begun'') unit' rfl
  exact ⟨st, holds⟩

/-- **The newest command is what the registers show.** In every run over a connector whose requests
succeed, for commands to the settings of the single-phase map that are given and written in any
order: when no command for a setting waits and nothing is under way, the unit of the inverter shows
the newest command for it. -/
theorem newest_command_shown (options : ConnectorOptions) (own : Function.Injective options.modbusId)
    (boolOn : String) (a a' : Addon) (acts : List AddonAction) (idle : a.Idle)
    (run : exec (step options) a acts = some a')
    (map : ∀ j t w, .command j t w ∈ acts → t.place ∈ singlePhasePlaces)
    (one : ∀ j k t u v w, .command j t v ∈ acts → .command k u w ∈ acts → t.key = u.key → t = u)
    (calm : ∀ unit address value, .move unit address value ∈ acts →
      ∀ place ∈ singlePhasePlaces, place.2.2 ≠ 0 → address ∉ place.2.1)
    (success : ∀ r, .reply r ∈ acts → r.Succeeds) (i : Nat) (s : Setting) (text : String)
    (given : .command i s text ∈ acts)
    (still : ∀ address ∈ s.address, ∀ value, .move (options.modbusId i) address value ∉ acts)
    (newest : (commandsOf i s.key (happened options a acts)).getLast? = some text)
    (begun : a'.waiting i s.key = []) (finished : a'.connector.job = none) :
    (∀ switch ∈ singlePhaseSwitches, s = switch.setting boolOn →
      s.decode (a'.connector.unitRegisters (options.modbusId i)) = .bool (text = boolOn)) ∧
    ∀ select ∈ singlePhaseSelects, s = select.setting → (select.registerOf text).isSome →
      s.decode (a'.connector.unitRegisters (options.modbusId i)) = .str text := by
  constructor
  · rintro switch known rfl
    have translates (st : InverterState) : (switch.setting boolOn).valueToReg text st ≠ none := nofun
    obtain ⟨st, holds⟩ :=
      holds_newest own idle run map one calm success given rfl
        (still _ (List.mem_singleton.mpr rfl)) translates newest begun finished
    exact SwitchRWSensor.shown_of_holds known holds
  · rintro select known rfl option
    have chosen (st : InverterState) : select.chosen text st = text := if_pos option
    have translates (st : InverterState) : select.setting.valueToReg text st ≠ none := by
      intro none_
      have raises : (select.registerOf (select.chosen text st)).map (fun r => regWithin select.bitmask [r]) =
        none := none_
      rw [chosen, Option.map_eq_none_iff] at raises
      simp [raises] at option
    obtain ⟨st, holds⟩ :=
      holds_newest own idle run map one calm success given rfl
        (still _ (List.mem_singleton.mpr rfl)) translates newest begun finished
    rw [SelectRWSensor.shown_of_holds known holds, chosen]

theorem newest_command_shown_off :
    (timerSwitch.setting "ON").decode (afterOff.connector.unitRegisters 1) = .bool false := by
  have only {j : Nat} {t : Setting} {w : String} (member : .command j t w ∈ onThenOff) :
      t = timerSwitch.setting "ON" := by
    simp only [onThenOff, List.mem_cons, AddonAction.command.injEq, reduceCtorEq, List.not_mem_nil,
      or_false, false_or] at member
    rcases member with ⟨-, rfl, -⟩ | ⟨-, rfl, -⟩ <;> rfl
  have success (r : DriverReply) (member : .reply r ∈ onThenOff) : r.Succeeds := by
    simp only [onThenOff, List.mem_cons, AddonAction.reply.injEq, reduceCtorEq, List.not_mem_nil,
      or_false, false_or] at member
    rcases member with rfl | rfl | rfl | rfl | rfl <;> simp [DriverReply.Succeeds]
  have newest : (commandsOf 0 ([248], "Use Timer")
      (happened Connector.twoInverters idleAddon onThenOff)).getLast? = some "OFF" := by decide +kernel
  have inMap : (timerSwitch.setting "ON").place ∈ singlePhasePlaces := by decide +kernel
  have begun : afterOff.waiting 0 ([248], "Use Timer") = [] := by decide +kernel
  have finished : afterOff.connector.job.isNone = true := by decide +kernel
  have shown : (timerSwitch.setting "ON").decode (afterOff.connector.unitRegisters 1) =
    .bool ("OFF" = "ON") := (newest_command_shown Connector.twoInverters (add_left_injective 1) "ON" idleAddon
    afterOff onThenOff idle_idleAddon onThenOff_run
    (fun j t w member => only member ▸ inMap)
    (fun j k t u v w first second _ => (only first).trans (only second).symm)
    (fun unit address value member => by simp [onThenOff] at member) success 0
    (timerSwitch.setting "ON") "OFF" (by simp [onThenOff])
    (fun address _ value member => by simp [onThenOff] at member) newest begun
    (Option.isNone_iff_eq_none.mp finished)).1 timerSwitch (List.get_mem _ _) rfl
  simpa using shown

end Addon

end HHModbus
