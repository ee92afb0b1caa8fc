import HHModbus.Lib.RefCount
import HHModbus.Lib.Transition

/-!
# Config entries and the clients they share

`ModbusClientManager` keeps one client per link with a reference count. A controller takes
a reference when it is constructed and gives it back in `close_connection`; the setup
functions of the brands and `async_unload_entry` have to pair the two.
-/
namespace HHModbus

open Transition RefCount

inductive InverterBrand where
  | solis
  | sunsynk
  | givenergy
  | sigenergy
  | solaredge
  | skyline
  | duracell
  deriving DecidableEq, Repr

/-- The connection parameters a `ModbusController` is constructed with. -/
inductive Connection where
  | tcp (host : String) (port : Nat)
  | serial (serialPort : String)
  deriving DecidableEq, Repr

namespace Connection

def connectionId : Connection → String
  | tcp host port => s!"{host}:{port}"
  | serial serialPort => serialPort

/-- The constructor raises `ValueError` without a host or a serial port. -/
def valid : Connection → Bool
  | tcp host _ => host != ""
  | serial serialPort => serialPort != ""

end Connection

/-- The links with a client: the client, its `ref_count`, and the clients closed so far. -/
abbrev ClientManager := Registry String

namespace ClientManager

def getTcpClient (m : ClientManager) (host : String) (port : Nat) : ClientManager × Nat :=
  m.acquire s!"{host}:{port}"

def getSerialClient (m : ClientManager) (serialPort : String) : ClientManager × Nat :=
  m.acquire serialPort

def releaseClient (m : ClientManager) (connectionId : String) : ClientManager :=
  m.release connectionId

/-- What `ModbusController.__init__` asks of the manager; `none` when it raises before. -/
def getClient (m : ClientManager) (connection : Connection) : Option (ClientManager × Nat) :=
  if connection.valid then
    match connection with
    | .tcp host port => some (m.getTcpClient host port)
    | .serial serialPort => some (m.getSerialClient serialPort)
  else none

theorem getClient_eq (m : ClientManager) (connection : Connection) :
    m.getClient connection =
      if connection.valid then some (m.acquire connection.connectionId) else none := by
  cases connection <;> rfl

end ClientManager

structure EntryConfig where
  brand : InverterBrand
  connection : Connection
  deriving DecidableEq, Repr

/-- A controller object, with the client it got from the manager. -/
structure EntryController where
  id : Nat
  connectionId : String
  client : Nat
  deriving DecidableEq, Repr

/-- How far a setup gets. -/
inductive SetupOutcome where
  | loaded
  /-- An exception before the controller is constructed. -/
  | failedEarly
  /-- An exception while the sensor groups are built. -/
  | failedBuilding
  /-- An exception, or the cancellation, of an await after `set_controller`. -/
  | failedForwarding (cancelled : Bool)
  deriving DecidableEq, Repr

inductive EntryOp where
  | setup (entry : Nat) (config : EntryConfig) (outcome : SetupOutcome)
  | unload (entry : Nat)
  deriving DecidableEq, Repr

structure Integration where
  manager : ClientManager
  nextController : Nat
  /-- `entry.runtime_data.controller`. -/
  runtime : Nat → Option EntryController
  /-- `hass.data[DOMAIN][CONTROLLER]`. -/
  stored : Nat → Option EntryController
  /-- The entries Home Assistant has loaded. -/
  loaded : List (Nat × EntryConfig)

namespace Integration

def start : Integration := ⟨.empty, 0, fun _ => none, fun _ => none, []⟩

def closeConnection (s : Integration) (c : EntryController) : Integration :=
  { s with manager := s.manager.releaseClient c.connectionId }

def setController (s : Integration) (entry : Nat) (c : EntryController) : Integration :=
  { s with
    stored := Function.update s.stored entry (some c)
    runtime := Function.update s.runtime entry (some c) }

def load (s : Integration) (entry : Nat) (config : EntryConfig) : Integration :=
  { s with loaded := (entry, config) :: s.loaded }

/-- `_setup_solis_entry` from the construction of its controller on. -/
def setupSolisEntry (s : Integration) (entry : Nat) (config : EntryConfig) (c : EntryController) :
    SetupOutcome → Integration
  | .loaded => (s.setController entry c).load entry config
  | .failedEarly => s
  | .failedBuilding =>
    -- The `try` around the rest of the setup gives the reference back and re-raises.
    { s.closeConnection c with runtime := Function.update s.runtime entry none }
  | .failedForwarding cancelled =>
    let set := s.setController entry c
    -- `except Exception` does not catch a `CancelledError`.
    if cancelled then set
    else { set.closeConnection c with runtime := Function.update set.runtime entry none }

/-- The same part of a setup function that has no `try` around it. -/
def setupUnguardedEntry (s : Integration) (entry : Nat) (config : EntryConfig)
    (c : EntryController) : SetupOutcome → Integration
  | .loaded => (s.setController entry c).load entry config
  | .failedEarly | .failedBuilding => s
  | .failedForwarding _ => s.setController entry c

def setupSunsynkEntry (s : Integration) (entry : Nat) (config : EntryConfig)
    (c : EntryController) (outcome : SetupOutcome) : Integration :=
  s.setupUnguardedEntry entry config c outcome

def setupGenericEntry (s : Integration) (entry : Nat) (config : EntryConfig)
    (c : EntryController) (outcome : SetupOutcome) : Integration :=
  s.setupUnguardedEntry entry config c outcome

/-- `async_setup_entry`: the controller is constructed, then the brand decides. -/
def setupEntry (s : Integration) (entry : Nat) (config : EntryConfig) (outcome : SetupOutcome) :
    Integration :=
  if outcome = .failedEarly then s
  else
    match s.manager.getClient config.connection with
    | none => s
    | some (manager, client) =>
      let c : EntryController := ⟨s.nextController, config.connection.connectionId, client⟩
      let constructed := { s with manager, nextController := s.nextController + 1 }
      match config.brand with
      | .solis => constructed.setupSolisEntry entry config c outcome
      | .sunsynk => constructed.setupSunsynkEntry entry config c outcome
      | _ => constructed.setupGenericEntry entry config c outcome

/-- `async_unload_entry` once every platform has been unloaded. -/
def unloadEntry (s : Integration) (entry : Nat) : Integration :=
  let released :=
    match s.runtime entry with
    | some c => s.closeConnection c
    | none => s
  let popped := { released with stored := Function.update s.stored entry none }
  let done :=
    match s.stored entry with
    -- The fallback for a controller that the runtime data does not have.
    | some c =>
      if (s.runtime entry).map EntryController.id = some c.id then popped
      else popped.closeConnection c
    | none => popped
  { done with loaded := s.loaded.filter fun e => e.1 != entry }

def step (s : Integration) : EntryOp → Option Integration
  | .setup entry config outcome =>
    if entry ∈ s.loaded.map Prod.fst then none else some (s.setupEntry entry config outcome)
  | .unload entry =>
    if entry ∈ s.loaded.map Prod.fst then some (s.unloadEntry entry) else none

/-- The number of loaded entries on each link. -/
def loadedOn (s : Integration) (connectionId : String) : Nat :=
  s.loaded.countP fun e => e.2.connection.connectionId == connectionId

/-- The counts agree with the loaded entries, and each of these has the open client of its link. -/
structure Paired (s : Integration) : Prop where
  counted : Counted s.manager s.loadedOn
  live : ∀ e ∈ s.loaded, ∃ c, s.runtime e.1 = some c ∧
    ∃ shared, s.manager.entries e.2.connection.connectionId = some shared ∧
      shared.resource = c.client

/-- A setup that raises after its controller took a reference, where nothing gives it back. -/
def leaks : EntryOp → Bool
  | .setup _ config .failedBuilding => config.connection.valid && config.brand != .solis
  | .setup _ config (.failedForwarding cancelled) =>
    config.connection.valid && (config.brand != .solis || cancelled)
  | _ => false

/-- A loaded entry has one controller, on its own link, in both places. -/
structure Consistent (s : Integration) : Prop where
  nodup : (s.loaded.map Prod.fst).Nodup
  own : ∀ e ∈ s.loaded, ∃ c, s.runtime e.1 = some c ∧ s.stored e.1 = some c ∧
    c.connectionId = e.2.connection.connectionId

/-- What a setup does: nothing, or it loads the entry, or it fails with its controller
constructed; a leak is the last case without the release. -/
theorem setupEntry_cases (s : Integration) (entry : Nat) (config : EntryConfig)
    (outcome : SetupOutcome) :
    (s.setupEntry entry config outcome = s ∧ leaks (.setup entry config outcome) = false) ∨
    (∃ c : EntryController, c.connectionId = config.connection.connectionId ∧
      c.client = (s.manager.acquire config.connection.connectionId).2 ∧
      s.setupEntry entry config outcome =
        (({ s with
          manager := (s.manager.acquire config.connection.connectionId).1
          nextController := s.nextController + 1 } : Integration).setController entry c).load
            entry config ∧
      leaks (.setup entry config outcome) = false) ∨
    ((s.setupEntry entry config outcome).loaded = s.loaded ∧
      (∀ other, other ≠ entry →
        (s.setupEntry entry config outcome).runtime other = s.runtime other ∧
        (s.setupEntry entry config outcome).stored other = s.stored other) ∧
      (s.setupEntry entry config outcome).manager =
        if leaks (.setup entry config outcome) then
          (s.manager.acquire config.connection.connectionId).1
        else (s.manager.acquire config.connection.connectionId).1.release
          config.connection.connectionId) := by
  by_cases early : outcome = .failedEarly
  · subst early
    exact .inl ⟨rfl, rfl⟩
  · cases valid : config.connection.valid with
    | false =>
      left
      refine ⟨by simp [setupEntry, early, ClientManager.getClient_eq, valid], ?_⟩
      cases outcome <;> simp [leaks, valid]
    | true =>
      right
      have found := s.manager.getClient_eq config.connection
      rw [if_pos valid] at found
      cases outcome with
      | failedEarly => exact absurd rfl early
      | loaded =>
        left
        refine ⟨⟨s.nextController, config.connection.connectionId, _⟩, rfl, rfl, ?_, rfl⟩
        unfold setupEntry
        rw [if_neg early, found]
        cases config.brand <;> rfl
      | failedBuilding =>
        right
        unfold setupEntry
        rw [if_neg early, found]
        cases brand : config.brand with
        | solis =>
          refine ⟨rfl, fun other different => ⟨Function.update_of_ne different _ _, rfl⟩, ?_⟩
          simp [leaks, brand, setupSolisEntry, closeConnection, ClientManager.releaseClient]
        | _ =>
          refine ⟨rfl, fun other different => ⟨rfl, rfl⟩, ?_⟩
          simp [leaks, brand, valid, setupSunsynkEntry, setupGenericEntry, setupUnguardedEntry]
      | failedForwarding cancelled =>
        right
        unfold setupEntry
        rw [if_neg early, found]
        cases brand : config.brand with
        | solis =>
          cases cancelled with
          | true =>
            refine ⟨rfl, fun other different => ⟨Function.update_of_ne different _ _,
              Function.update_of_ne different _ _⟩, ?_⟩
            simp [leaks, valid, setupSolisEntry, setController]
          | false =>
            refine ⟨rfl, fun other different => ⟨?_, Function.update_of_ne different _ _⟩, ?_⟩
            · exact (Function.update_of_ne different _ _).trans (Function.update_of_ne different _ _)
            · simp [leaks, brand, setupSolisEntry, setController, closeConnection,
                ClientManager.releaseClient]
        | _ =>
          refine ⟨rfl, fun other different => ⟨Function.update_of_ne different _ _,
            Function.update_of_ne different _ _⟩, ?_⟩
          simp [leaks, brand, valid, setupSunsynkEntry, setupGenericEntry, setupUnguardedEntry,
            setController]

/-- Unloading an entry releases its link once: the fallback finds the controller it has
just closed. -/
theorem unloadEntry_eq {s : Integration} {entry : Nat} {c : EntryController}
    (runtime : s.runtime entry = some c) (stored : s.stored entry = some c) :
    s.unloadEntry entry =
      { s with
        manager := s.manager.release c.connectionId
        stored := Function.update s.stored entry none
        loaded := s.loaded.filter fun e => e.1 != entry } := by
  simp only [unloadEntry, runtime, stored, Option.map_some, if_true, closeConnection,
    ClientManager.releaseClient]

theorem perm_cons_filter {l : List (Nat × EntryConfig)} {entry : Nat} {config : EntryConfig}
    (nodup : (l.map Prod.fst).Nodup) (member : (entry, config) ∈ l) :
    l.Perm ((entry, config) :: l.filter fun e => e.1 != entry) := by
  induction l with
  | nil => cases member
  | cons head l ih =>
    simp only [List.map_cons, List.nodup_cons, List.mem_map, not_exists, not_and] at nodup
    obtain ⟨absent, nodup⟩ := nodup
    rcases List.mem_cons.mp member with rfl | later
    · have untouched : l.filter (fun e => e.1 != entry) = l := by
        apply List.filter_eq_self.mpr
        intro e inside
        simpa using absent e inside
      simp [untouched]
    · have other : head.1 ≠ entry := fun same => absent (entry, config) later same.symm
      rw [List.filter_cons_of_pos (by simpa using other)]
      exact ((ih nodup later).cons head).trans (List.Perm.swap _ _ _)

/-- An operation sets up an entry that is not loaded, or unloads one that is. -/
theorem step_cases {s t : Integration} {op : EntryOp} (h : s.step op = some t) :
    (∃ entry config outcome, op = .setup entry config outcome ∧
      (∀ e ∈ s.loaded, e.1 ≠ entry) ∧ t = s.setupEntry entry config outcome) ∨
    ∃ e ∈ s.loaded, op = .unload e.1 ∧ t = s.unloadEntry e.1 := by
  cases op with
  | setup entry config outcome =>
    simp only [step] at h
    split at h
    next => cases h
    next absent =>
      left
      refine ⟨entry, config, outcome, rfl, ?_, (Option.some.inj h).symm⟩
      rintro e member rfl
      exact absent (List.mem_map_of_mem member)
  | unload entry =>
    simp only [step] at h
    split at h
    next present =>
      obtain ⟨e, member, rfl⟩ := List.mem_map.mp present
      exact .inr ⟨e, member, rfl, (Option.some.inj h).symm⟩
    next => cases h

theorem consistent_step (s : Integration) (op : EntryOp) (t : Integration)
    (consistent : s.Consistent) (h : s.step op = some t) : t.Consistent := by
  rcases step_cases h with ⟨entry, config, outcome, -, different, rfl⟩ | ⟨e, member, -, rfl⟩
  · rcases s.setupEntry_cases entry config outcome with
      ⟨same, -⟩ | ⟨c, link, -, loads, -⟩ | ⟨loaded, others, -⟩
    · rw [same]
      exact consistent
    · -- The new entry has its own controller, and the others keep theirs.
      have absent : entry ∉ s.loaded.map Prod.fst := by
        intro present
        obtain ⟨e, member, same⟩ := List.mem_map.mp present
        exact different e member same
      rw [loads]
      refine ⟨List.nodup_cons.mpr ⟨absent, consistent.nodup⟩, fun e member => ?_⟩
      rcases List.mem_cons.mp member with rfl | old
      · exact ⟨c, Function.update_self _ _ _, Function.update_self _ _ _, link⟩
      · obtain ⟨d, runtime, stored, own⟩ := consistent.own e old
        exact ⟨d, (Function.update_of_ne (different e old) _ _).trans runtime,
          (Function.update_of_ne (different e old) _ _).trans stored, own⟩
    · -- A failed setup touches the controllers of its own entry only.
      refine ⟨loaded ▸ consistent.nodup, fun e member => ?_⟩
      rw [loaded] at member
      obtain ⟨d, runtime, stored, own⟩ := consistent.own e member
      obtain ⟨sameRuntime, sameStored⟩ := others e.1 (different e member)
      exact ⟨d, sameRuntime.trans runtime, sameStored.trans stored, own⟩
  · obtain ⟨c, runtime, stored, own⟩ := consistent.own e member
    rw [unloadEntry_eq runtime stored]
    refine ⟨(List.filter_sublist.map Prod.fst).nodup consistent.nodup, fun f left => ?_⟩
    obtain ⟨old, different⟩ := List.mem_filter.mp left
    obtain ⟨d, runtime, stored, own⟩ := consistent.own f old
    exact ⟨d, runtime, (Function.update_of_ne (by simpa using different) _ _).trans stored, own⟩

private theorem loadedOn_load (s : Integration) (entry : Nat) (config : EntryConfig) :
    (s.load entry config).loadedOn =
      Function.update s.loadedOn config.connection.connectionId
        (s.loadedOn config.connection.connectionId + 1) := by
  funext link
  by_cases same : link = config.connection.connectionId
  · subst same
    simp [loadedOn, load]
  · rw [Function.update_of_ne same]
    simp [loadedOn, load, Ne.symm same]

theorem loadedOn_pos {s : Integration} {e : Nat × EntryConfig} (member : e ∈ s.loaded) :
    0 < s.loadedOn e.2.connection.connectionId :=
  List.countP_pos_iff.mpr ⟨e, member, beq_self_eq_true _⟩

/-- A link of two different loaded entries counts both. -/
theorem one_lt_loadedOn {s : Integration} (consistent : s.Consistent) {e f : Nat × EntryConfig}
    (he : e ∈ s.loaded) (hf : f ∈ s.loaded) (different : f.1 ≠ e.1)
    (link : f.2.connection.connectionId = e.2.connection.connectionId) :
    1 < s.loadedOn e.2.connection.connectionId := by
  have others : f ∈ s.loaded.filter fun g => g.1 != e.1 :=
    List.mem_filter.mpr ⟨hf, by simpa using different⟩
  have counted : 0 < (s.loaded.filter fun g => g.1 != e.1).countP
      fun g => g.2.connection.connectionId == e.2.connection.connectionId :=
    List.countP_pos_iff.mpr ⟨f, others, by simpa using link⟩
  rw [loadedOn, (perm_cons_filter consistent.nodup he).countP_eq]
  simpa using counted

theorem loadedOn_unload {s : Integration} (consistent : s.Consistent) {e : Nat × EntryConfig}
    (member : e ∈ s.loaded) (link : String) :
    (s.loaded.filter fun f => f.1 != e.1).countP (fun f => f.2.connection.connectionId == link) =
      Function.update s.loadedOn e.2.connection.connectionId
        (s.loadedOn e.2.connection.connectionId - 1) link := by
  have total : s.loadedOn link = _ := (perm_cons_filter consistent.nodup member).countP_eq _
  by_cases same : link = e.2.connection.connectionId
  · subst same
    rw [Function.update_self, total]
    simp
  · rw [Function.update_of_ne same, total]
    simp [Ne.symm same]

theorem paired_load {s : Integration} {entry : Nat} {config : EntryConfig} {c : EntryController}
    (paired : s.Paired) (absent : ∀ e ∈ s.loaded, e.1 ≠ entry)
    (client : c.client = (s.manager.acquire config.connection.connectionId).2) :
    ((({ s with
      manager := (s.manager.acquire config.connection.connectionId).1
      nextController := s.nextController + 1 } : Integration).setController entry c).load
        entry config).Paired where
  counted := by
    rw [loadedOn_load]
    exact counted_acquire paired.counted config.connection.connectionId
  live e member := by
    rcases List.mem_cons.mp member with rfl | old
    · obtain ⟨shared, present, resource⟩ :=
        acquire_resource s.manager config.connection.connectionId
      exact ⟨c, Function.update_self _ _ _, shared, present, resource.trans client.symm⟩
    · obtain ⟨d, runtime, shared, present, resource⟩ := paired.live e old
      obtain ⟨kept, still, same⟩ := acquire_keeps config.connection.connectionId present
      exact ⟨d, (Function.update_of_ne (absent e old) _ _).trans runtime, kept, still,
        same.trans resource⟩

/-- Taking a reference and giving it back leaves every count and every client in use as it was. -/
theorem paired_failed {s t : Integration} {entry : Nat} {link : String} (paired : s.Paired)
    (absent : ∀ e ∈ s.loaded, e.1 ≠ entry) (loaded : t.loaded = s.loaded)
    (others : ∀ other, other ≠ entry → t.runtime other = s.runtime other)
    (manager : t.manager = (s.manager.acquire link).1.release link) : t.Paired := by
  -- The count of the link goes up by one and down again.
  have taken := counted_acquire paired.counted link
  have held : 0 < Function.update s.loadedOn link (s.loadedOn link + 1) link := by simp
  have given := counted_release taken link held
  rw [Function.update_self, Function.update_idem, Nat.add_sub_cancel, Function.update_eq_self]
    at given
  have same : t.loadedOn = s.loadedOn := by
    unfold loadedOn
    rw [loaded]
  refine ⟨by rw [manager, same]; exact given, fun e member => ?_⟩
  rw [loaded] at member
  obtain ⟨d, runtime, shared, present, resource⟩ := paired.live e member
  obtain ⟨kept, still, keptResource⟩ := acquire_keeps link present
  -- Giving the reference back closes no client, since a loaded entry still counts on the link.
  have above : e.2.connection.connectionId = link →
      1 < Function.update s.loadedOn link (s.loadedOn link + 1) link := by
    rintro rfl
    rw [Function.update_self]
    have := loadedOn_pos member
    omega
  obtain ⟨left, stays, leftResource⟩ := release_keeps taken link still above
  rw [manager]
  exact ⟨d, (others e.1 (absent e member)).trans runtime, left, stays,
    leftResource.trans (keptResource.trans resource)⟩

/-- A reference that nobody gives back makes the count of its link one too high. -/
theorem not_paired_leak {s t : Integration} {link : String} (paired : s.Paired)
    (loaded : t.loaded = s.loaded) (manager : t.manager = (s.manager.acquire link).1) :
    ¬ t.Paired := by
  intro after
  obtain ⟨shared, present, -⟩ := acquire_resource s.manager link
  have taken := (counted_acquire paired.counted link).count link shared present
  have claimed := after.counted.count link shared (manager ▸ present)
  rw [Function.update_self] at taken
  unfold loadedOn at taken claimed
  rw [loaded] at claimed
  omega

theorem paired_unload {s : Integration} (consistent : s.Consistent) (paired : s.Paired)
    {e : Nat × EntryConfig} (member : e ∈ s.loaded) : (s.unloadEntry e.1).Paired := by
  obtain ⟨c, runtime, stored, own⟩ := consistent.own e member
  rw [unloadEntry_eq runtime stored, own]
  have released := counted_release paired.counted _ (loadedOn_pos member)
  constructor
  · have counts := funext (loadedOn_unload consistent member)
    rw [← counts] at released
    exact released
  · intro f left
    obtain ⟨old, different⟩ := List.mem_filter.mp left
    have different : f.1 ≠ e.1 := by simpa using different
    obtain ⟨d, runtime, shared, present, resource⟩ := paired.live f old
    obtain ⟨kept, still, same⟩ := release_keeps paired.counted e.2.connection.connectionId present
      (one_lt_loadedOn consistent member old different)
    exact ⟨d, runtime, kept, still, same.trans resource⟩

/-- From a paired state an operation leads to a paired state exactly when it does not leak. -/
theorem paired_step_iff (s : Integration) (op : EntryOp) (t : Integration)
    (consistent : s.Consistent) (paired : s.Paired) (h : s.step op = some t) :
    t.Paired ↔ leaks op = false := by
  rcases step_cases h with ⟨entry, config, outcome, rfl, different, rfl⟩ | ⟨e, member, rfl, rfl⟩
  · rcases s.setupEntry_cases entry config outcome with
      ⟨same, clean⟩ | ⟨c, -, client, loads, clean⟩ | ⟨loaded, others, manager⟩
    · rw [same, clean]
      exact iff_of_true paired rfl
    · rw [loads, clean]
      exact iff_of_true (paired_load paired different client) rfl
    · -- The setup failed with its reference taken: the leak is that nobody gives it back.
      cases leak : leaks (.setup entry config outcome) with
      | true =>
        rw [leak, if_pos rfl] at manager
        exact iff_of_false (not_paired_leak paired loaded manager) (by simp)
      | false =>
        rw [leak, if_neg (by simp)] at manager
        exact iff_of_true (paired_failed paired different loaded
          (fun other apart => (others other apart).1) manager) rfl
  · exact iff_of_true (paired_unload consistent paired member) rfl

/-- **The reference counts follow the loaded entries** after every operation of a run exactly
when no operation of it is a setup that leaks. -/
theorem paired_along_iff (ops : List EntryOp) :
    Along step (fun _ _ t => t.Paired) start ops ↔
      Along step (fun _ op _ => leaks op = false) start ops := by
  have initial : start.Consistent ∧ start.Paired := by
    refine ⟨⟨List.nodup_nil, fun e member => ?_⟩, ⟨counted_empty, fun e member => ?_⟩⟩
    · cases member
    · cases member
  apply along_iff (I := fun s => s.Consistent ∧ s.Paired) _ _ ops initial
  · intro s op t inv h
    exact paired_step_iff s op t inv.1 inv.2 h
  · intro s op t inv h after
    exact ⟨consistent_step s op t inv.1 h, after⟩

/-- A GivEnergy setup whose platforms fail to set up, with nothing else on the link. -/
def failedGivEnergySetup : List EntryOp :=
  [.setup 0 ⟨.givenergy, .tcp "192.168.1.10" 502⟩ (.failedForwarding false)]

/-- No entry is loaded, and the link keeps its client with a reference count of one. -/
theorem failedGivEnergySetup_leaks :
    ¬ Along step (fun _ _ t => t.Paired) start failedGivEnergySetup := by
  intro all
  have after := (all _ rfl).1
  have absent := (after.counted.absent_iff (Connection.tcp "192.168.1.10" 502).connectionId).mpr rfl
  revert absent
  decide

end Integration

end HHModbus
