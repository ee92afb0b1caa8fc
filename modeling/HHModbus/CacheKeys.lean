import HHModbus.Lib.Keys
import HHModbus.Lib.Transition
import HHModbus.SolisEntities
import HHModbus.SolisSensor

/-!
# The texts of cache keys and signals

`register_cache_key` and `register_update_signal` join a connection id and two integers to a string
without escaping anything. What several inverters make of one cache and one dispatcher with these
strings is compared with what each would make of its own.
-/
namespace HHModbus

/-- What the keys and the signals are made of. -/
structure ControllerAttributes where
  connectionId : Option String
  host : String
  connectionType : Option String
  port : Int
  deviceId : Int
  deriving DecidableEq

namespace ControllerAttributes

/-- `register_cache_key`. -/
def registerCacheKey (c : ControllerAttributes) (register : Int) : String :=
  let conn := c.connectionId.getD c.host
  conn ++ "|" ++ toString c.deviceId ++ "|" ++ toString register

/-- `register_update_signal`. -/
def registerUpdateSignal (c : ControllerAttributes) (register : Int) : String :=
  let scope :=
    match c.connectionId with
    | some cid => cid ++ "_" ++ toString c.deviceId
    | none =>
      if c.connectionType = some connTypeTcp then
        c.host ++ "_" ++ toString c.port ++ "_" ++ toString c.deviceId
      else c.host ++ "_" ++ toString c.deviceId
  domain ++ "_" ++ scope ++ "_" ++ toString register

end ControllerAttributes

/-- A controller as `ModbusController.__init__` leaves it. -/
structure Inverter extends ControllerAttributes where
  identified : connectionId.isSome = true

namespace Inverter

/-- What tells inverters apart. -/
def identity (c : Inverter) : Option String × Int := (c.connectionId, c.deviceId)

theorem connection (c : Inverter) : ∃ cid, c.connectionId = some cid :=
  Option.isSome_iff_exists.mp c.identified

/-- A connection id and two integers can be read from their text, whatever the id contains. -/
private theorem joined_inj (sep : Char) (other : sep.isDigit = false) (unsigned : sep ≠ '-')
    (before : List Char) (cid cid' : String) (i i' j j' : Int) :
    before ++ cid.toList ++ sep :: (toString i).toList ++ sep :: (toString j).toList =
        before ++ cid'.toList ++ sep :: (toString i').toList ++ sep :: (toString j').toList ↔
      (cid = cid' ∧ i = i') ∧ j = j' := by
  constructor
  · intro same
    obtain ⟨connections, devices, registers⟩ := Keys.two_integers_inj sep other unsigned same
    exact ⟨⟨String.ext (List.append_cancel_left connections), devices⟩, registers⟩
  · rintro ⟨⟨rfl, rfl⟩, rfl⟩
    rfl

/-- The parts of a cache key can be read from it. -/
theorem registerCacheKey_inj {c d : Inverter} {r r' : Int} :
    c.registerCacheKey r = d.registerCacheKey r' ↔ c.identity = d.identity ∧ r = r' := by
  obtain ⟨cid, connected⟩ := c.connection
  obtain ⟨cid', connected'⟩ := d.connection
  have parts := joined_inj '|' (by decide) (by decide) [] cid cid' c.deviceId d.deviceId r r'
  rw [← String.toList_inj]
  simpa [identity, connected, connected', ControllerAttributes.registerCacheKey] using parts

/-- So can the parts of a signal. -/
theorem registerUpdateSignal_inj {c d : Inverter} {r r' : Int} :
    c.registerUpdateSignal r = d.registerUpdateSignal r' ↔ c.identity = d.identity ∧ r = r' := by
  obtain ⟨cid, connected⟩ := c.connection
  obtain ⟨cid', connected'⟩ := d.connection
  have parts := joined_inj '_' (by decide) (by decide) (domain ++ "_").toList cid cid'
    c.deviceId d.deviceId r r'
  rw [← String.toList_inj]
  simpa [identity, connected, connected', ControllerAttributes.registerUpdateSignal] using parts

end Inverter

/-! ### One cache and one dispatcher for all -/

/-- What a listener is sent. -/
structure RegisterUpdate (V : Type*) where
  register : Int
  value : V
  controller : String
  slave : Int

/-- The part of `hass` that all controllers share. -/
structure Hass (V L : Type*) where
  /-- `hass.data[DOMAIN][VALUES]`. -/
  values : String → Option V
  /-- Whether a listener is connected to a signal. -/
  connected : L → String → Bool
  /-- What a listener has been called with. -/
  received : L → List (RegisterUpdate V)

namespace Hass

variable {V L : Type*}

def cacheSave (h : Hass V L) (c : Inverter) (register : Int) (value : V) : Hass V L :=
  { h with values := Function.update h.values (c.registerCacheKey register) (some value) }

def cacheGet (h : Hass V L) (c : Inverter) (register : Int) : Option V :=
  h.values (c.registerCacheKey register)

/-- `notify_register_update`: each listener that is connected to the signal is called. -/
def notifyRegisterUpdate (h : Hass V L) (c : Inverter) (register : Int) (value : V) : Hass V L :=
  let signal := c.registerUpdateSignal register
  let update : RegisterUpdate V := ⟨register, value, c.host, c.deviceId⟩
  { h with received := fun l =>
      if h.connected l signal then h.received l ++ [update] else h.received l }

variable {c : Inverter} {h h' : Hass V L}

theorem cacheGet_cacheSave (d : Inverter) (register r : Int) (value : V) :
    (h.cacheSave d register value).cacheGet c r =
      if c.identity = d.identity ∧ r = register then some value else h.cacheGet c r := by
  simp only [cacheGet, cacheSave, Function.update_apply, Inverter.registerCacheKey_inj]

/-- A listener of another inverter is not called. -/
theorem received_notify_of_ne {d : Inverter} (register : Int) (value : V) {l : L}
    (foreign : c.identity ≠ d.identity)
    (own : ∀ signal, h.connected l signal = true → ∃ r, signal = c.registerUpdateSignal r) :
    (h.notifyRegisterUpdate d register value).received l = h.received l := by
  refine if_neg fun heard => ?_
  obtain ⟨r, signal⟩ := own _ heard
  exact foreign (Inverter.registerUpdateSignal_inj.mp signal.symm).1

variable [DecidableEq L]

/-- `async_dispatcher_connect`. -/
def connect (h : Hass V L) (l : L) (signal : String) : Hass V L :=
  { h with connected :=
      Function.update h.connected l fun other => other == signal || h.connected l other }

/-- What is done with the cache and the dispatcher. -/
inductive Action (V L : Type*) where
  | save (c : Inverter) (register : Int) (value : V)
  | notify (c : Inverter) (register : Int) (value : V)
  /-- A sensor connects to the signal of one of its registers. -/
  | listen (sensor : L) (register : Int)

section Runs

-- `base_sensor.controller`.
variable (controller : L → Inverter)

def step (h : Hass V L) : Action V L → Hass V L
  | .save c register value => h.cacheSave c register value
  | .notify c register value => h.notifyRegisterUpdate c register value
  | .listen sensor register =>
    h.connect sensor ((controller sensor).registerUpdateSignal register)

def run (acts : List (Action V L)) (h : Hass V L) : Hass V L := acts.foldl (step controller) h

/-- The controller that an action is for. -/
def Action.inverter : Action V L → Inverter
  | .save c _ _ => c
  | .notify c _ _ => c
  | .listen sensor _ => controller sensor

def Action.isOf (c : Inverter) (a : Action V L) : Bool :=
  (a.inverter controller).identity = c.identity

/-- The states look alike to an inverter and its sensors. -/
structure Alike (c : Inverter) (h h' : Hass V L) : Prop where
  values : ∀ r, h.cacheGet c r = h'.cacheGet c r
  received : ∀ l, (controller l).identity = c.identity → h.received l = h'.received l
  connected : ∀ l, (controller l).identity = c.identity → h.connected l = h'.connected l
  /-- Its sensors are connected to no signals but its own. -/
  own : ∀ l signal, (controller l).identity = c.identity → h.connected l signal = true →
    ∃ r, signal = c.registerUpdateSignal r

variable {controller}

theorem connected_connect (l sensor : L) (signal other : String) :
    (h.connect sensor signal).connected l other =
      (l == sensor && other == signal || h.connected l other) := by
  by_cases same : l = sensor
  · subst same
    simp [connect]
  · simp [connect, same]

/-- An action of either inverter keeps the states alike. -/
theorem Alike.step_both (alike : Alike controller c h h') (a : Action V L) :
    Alike controller c (h.step controller a) (h'.step controller a) := by
  cases a with
  | save d register value =>
    refine { alike with values := fun r => ?_ }
    simp only [step, cacheGet_cacheSave, alike.values]
  | notify d register value =>
    refine { alike with received := fun l sensor => ?_ }
    simp only [step, notifyRegisterUpdate, alike.connected l sensor, alike.received l sensor]
  | listen sensor register =>
    refine { alike with connected := fun l mine => ?_, own := fun l signal mine heard => ?_ }
    · funext signal
      simp only [step, connected_connect, alike.connected l mine]
    · simp only [step, connected_connect, Bool.or_eq_true, Bool.and_eq_true, beq_iff_eq] at heard
      rcases heard with ⟨rfl, rfl⟩ | before
      · exact ⟨register, Inverter.registerUpdateSignal_inj.mpr ⟨mine, rfl⟩⟩
      · exact alike.own l signal mine before

/-- An action of another inverter is not noticed. -/
theorem Alike.step_foreign (alike : Alike controller c h h') {a : Action V L}
    (foreign : a.isOf controller c = false) : Alike controller c (h.step controller a) h' := by
  have other : (a.inverter controller).identity ≠ c.identity := of_decide_eq_false foreign
  cases a with
  | save d register value =>
    refine { alike with values := fun r => ?_ }
    rw [step, cacheGet_cacheSave, if_neg fun same => other same.1.symm]
    exact alike.values r
  | notify d register value =>
    refine { alike with received := fun l mine => ?_ }
    have quiet := received_notify_of_ne register value (Ne.symm other) fun signal =>
      alike.own l signal mine
    refine Eq.trans quiet ?_
    exact alike.received l mine
  | listen sensor register =>
    -- The sensor that connects is not one of the inverter's.
    have apart (l : L) (mine : (controller l).identity = c.identity) (signal : String) :
        (h.step controller (.listen sensor register)).connected l signal = h.connected l signal := by
      have ne : l ≠ sensor := by
        rintro rfl
        exact other mine
      simp [step, connected_connect, ne]
    refine { alike with connected := fun l mine => ?_, own := fun l signal mine heard => ?_ }
    · funext signal
      rw [apart l mine, alike.connected l mine]
    · rw [apart l mine] at heard
      exact alike.own l signal mine heard

variable (V L)

/-- Nothing saved, and no sensor connected. -/
def start : Hass V L := ⟨fun _ => none, fun _ _ => false, fun _ => []⟩

variable {V L} (controller)

theorem alike_run (c : Inverter) (acts : List (Action V L)) :
    Alike controller c (run controller acts (start V L))
      (run controller (acts.filter (Action.isOf controller c)) (start V L)) := by
  have initial : Alike controller c (start V L) (start V L) :=
    ⟨fun _ => rfl, fun _ _ => rfl, fun _ _ => rfl, fun _ _ _ heard => by cases heard⟩
  exact Transition.rel_foldl_filter (fun _ _ a alike _ => alike.step_both a)
    (fun _ _ _ alike foreign => alike.step_foreign foreign) initial acts

end Runs

end Hass

/-- Keys and signals determine the connection, the device and the register. So, in whatever order
the inverters save and announce, each reads, and its sensors receive, what they would with the
inverter alone. -/
theorem keys_private {V L : Type*} [DecidableEq L] (controller : L → Inverter) :
    (∀ (c d : Inverter) (r r' : Int), c.registerCacheKey r = d.registerCacheKey r' ↔
      (c.connectionId, c.deviceId, r) = (d.connectionId, d.deviceId, r')) ∧
    (∀ (c d : Inverter) (r r' : Int), c.registerUpdateSignal r = d.registerUpdateSignal r' ↔
      (c.connectionId, c.deviceId, r) = (d.connectionId, d.deviceId, r')) ∧
    ∀ acts : List (Hass.Action V L),
      (∀ (c : Inverter) (r : Int),
        (Hass.run controller acts (Hass.start V L)).cacheGet c r =
          (Hass.run controller (acts.filter (Hass.Action.isOf controller c))
            (Hass.start V L)).cacheGet c r) ∧
      ∀ l : L,
        (Hass.run controller acts (Hass.start V L)).received l =
          (Hass.run controller (acts.filter (Hass.Action.isOf controller (controller l)))
            (Hass.start V L)).received l := by
  have triple (c d : Inverter) (r r' : Int) : c.identity = d.identity ∧ r = r' ↔
      (c.connectionId, c.deviceId, r) = (d.connectionId, d.deviceId, r') := by
    simp only [Inverter.identity, Prod.mk.injEq, and_assoc]
  refine ⟨fun c d r r' => ?_, fun c d r r' => ?_, fun acts => ⟨fun c r => ?_, fun l => ?_⟩⟩
  · rw [Inverter.registerCacheKey_inj, triple]
  · rw [Inverter.registerUpdateSignal_inj, triple]
  · exact (Hass.alike_run controller c acts).values r
  · exact (Hass.alike_run controller (controller l) acts).received l rfl

/-! ### The keys of the polls -/

/-- The text that stands for a key of the cache that the polls work on. -/
def RegisterKey.text (k : RegisterKey) : String :=
  ControllerAttributes.registerCacheKey ⟨some k.connection, "", none, 0, k.slave⟩ k.register

theorem RegisterKey.text_injective : Function.Injective RegisterKey.text := by
  intro k l same
  have parts := (Inverter.registerCacheKey_inj
    (c := ⟨⟨some k.connection, "", none, 0, k.slave⟩, rfl⟩)
    (d := ⟨⟨some l.connection, "", none, 0, l.slave⟩, rfl⟩)).mp same
  simp only [Inverter.identity, Prod.mk.injEq, Option.some.injEq, Int.natCast_inj] at parts
  obtain ⟨connection, slave, register⟩ := k
  obtain ⟨⟨rfl, rfl⟩, rfl⟩ := parts
  rfl

/-- A cache that is indexed by the parts of its keys stands for one that is indexed by texts. -/
theorem DataRetrieval.cacheSave_text (c : ModbusController) (s : DataRetrieval) (register : Nat)
    (word : Word) (values : String → Option Word) (stands : s.cache = values ∘ RegisterKey.text) :
    (s.cacheSave c register word).cache =
      Function.update values (RegisterKey.text (HHModbus.registerCacheKey c register)) (some word) ∘
        RegisterKey.text := by
  rw [Function.update_comp_eq_of_injective _ RegisterKey.text_injective, ← stands]
  rfl

end HHModbus
