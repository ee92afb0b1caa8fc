import HHModbus.Lib.WriteBehind

/-!
# The write path of a controller

`ModbusController.write_queue`, the task `process_write_queue` that executes it, the
holding registers of the inverter and the controller's slice of the register cache
(`cache_save` / `cache_get` keyed by this controller). The executor's accepted writes
echo into the cache and are announced to the entities.
-/
namespace HHModbus

open WriteBehind

/-- An entry of `write_queue`: `(register, value, False)` or `(start_register, values, True)`. -/
inductive WriteRequest where
  | single (register value : Nat)
  | multiple (startRegister : Nat) (values : List Nat)
  deriving DecidableEq, Repr

/-- The registers an accepted write changes, in ascending order, with their new contents. -/
def WriteRequest.writes : WriteRequest → List (Nat × Nat)
  | .single register value => [(register, value)]
  | .multiple startRegister values => (values.zipIdx startRegister).map Prod.swap

@[simp] theorem WriteRequest.writes_single (register value : Nat) :
    (WriteRequest.single register value).writes = [(register, value)] := rfl

theorem WriteRequest.registers_multiple (start : Nat) (values : List Nat) :
    (WriteRequest.multiple start values).writes.map Prod.fst =
      List.range' start values.length := by
  simp only [writes, List.map_map]
  change List.map Prod.snd _ = _
  exact List.zipIdx_map_snd start values

theorem WriteRequest.mem_writes_multiple {start : Nat} {values : List Nat} {i v : Nat}
    (h : values[i]? = some v) : (start + i, v) ∈ (WriteRequest.multiple start values).writes := by
  refine List.mem_map.mpr ⟨(v, start + i), ?_, rfl⟩
  exact List.mk_add_mem_zipIdx_iff_getElem?.mpr h

/-- A block write names no register twice, and neither does a single write. -/
theorem WriteRequest.nodup_registers (w : WriteRequest) : (w.writes.map Prod.fst).Nodup := by
  cases w with
  | single register value => simp [writes]
  | multiple start values =>
    rw [registers_multiple]
    exact List.nodup_range'

structure Controller where
  queue : Queue Nat Nat WriteRequest
  cache : Nat → Option Nat

namespace Controller

/-- What the holding register holds on the inverter. -/
def device (c : Controller) (register : Nat) : Nat := c.queue.store register

/-- What the holding register holds once the writes already queued have been accepted. -/
def settled (c : Controller) (register : Nat) : Nat := c.queue.settled WriteRequest.writes register

def cacheGet (c : Controller) (register : Nat) : Option Nat := c.cache register

def cacheSave (c : Controller) (register value : Nat) : Controller :=
  { c with cache := Function.update c.cache register (some value) }

/-- `async_write_holding_register`: queue a single-register write. -/
def asyncWriteHoldingRegister (c : Controller) (register value : Nat) : Controller :=
  { c with queue := c.queue.put (.single register value) }

/-- The updates the executor announces when it is done with a request: one per register of
an accepted write, none of a rejected one. -/
def announced (c : Controller) : WriteBehind.Action WriteRequest → List (Nat × Nat)
  | .finish =>
    match c.queue.executing with
    -- The response echoes what was written.
    | .answered w true => w.writes
    | _ => []
  | _ => []

/-- One action of the write queue. `_execute_write_holding_register(s)` saves an accepted
write into the cache when its response is back, which is after the inverter took it. -/
def step (c : Controller) (a : WriteBehind.Action WriteRequest) : Option Controller :=
  (c.queue.step WriteRequest.writes a).map fun q =>
    { queue := q
      cache := (c.announced a).foldl
        (fun cache kv => Function.update cache kv.1 (some kv.2)) c.cache }

/-- A controller whose queue is empty, over given device contents and cache. -/
def start (device : Nat → Nat) (cache : Nat → Option Nat) : Controller :=
  ⟨.start device, cache⟩

@[simp] theorem settled_start (device : Nat → Nat) (cache : Nat → Option Nat) (r : Nat) :
    (start device cache).settled r = device r := rfl

@[simp] theorem settled_cacheSave (c : Controller) (register value r : Nat) :
    (c.cacheSave register value).settled r = c.settled r := rfl

@[simp] theorem cacheGet_cacheSave_self (c : Controller) (register value : Nat) :
    (c.cacheSave register value).cacheGet register = some value := by
  simp only [cacheGet, cacheSave, Function.update_self]

theorem cacheGet_cacheSave_of_ne (c : Controller) {register r : Nat} (value : Nat)
    (h : r ≠ register) : (c.cacheSave register value).cacheGet r = c.cacheGet r := by
  simp only [cacheGet, cacheSave, Function.update_of_ne h]

@[simp] theorem cacheGet_asyncWriteHoldingRegister (c : Controller) (register value r : Nat) :
    (c.asyncWriteHoldingRegister register value).cacheGet r = c.cacheGet r := rfl

@[simp] theorem settled_asyncWriteHoldingRegister (c : Controller) (register value : Nat) :
    (c.asyncWriteHoldingRegister register value).settled register = value := by
  simp [settled, asyncWriteHoldingRegister]

theorem settled_asyncWriteHoldingRegister_of_ne (c : Controller) {register r : Nat} (value : Nat)
    (h : r ≠ register) : (c.asyncWriteHoldingRegister register value).settled r = c.settled r := by
  apply Queue.settled_put_of_notMem
  simpa using h

/-- A queued write decides what its own register settles at, and no other. -/
theorem settled_asyncWriteHoldingRegister_eq (c : Controller) (register value r : Nat) :
    (c.asyncWriteHoldingRegister register value).settled r =
      if r = register then value else c.settled r := by
  by_cases same : r = register
  · rw [same, settled_asyncWriteHoldingRegister, if_pos rfl]
  · rw [settled_asyncWriteHoldingRegister_of_ne c value same, if_neg same]

theorem settled_of_drained {c : Controller} (h : c.queue.Drained) (r : Nat) :
    c.settled r = c.device r := congrFun (Queue.settled_of_drained h) r

/-- While every write is accepted, executing the queue changes no outcome. -/
theorem settled_step {c t : Controller} {a : WriteBehind.Action WriteRequest}
    (h : c.step a = some t) (noPut : ∀ w, a ≠ .put w) (accepts : a ≠ .frame false) (r : Nat) :
    t.settled r = c.settled r := by
  simp only [step, Option.map_eq_some_iff] at h
  obtain ⟨q, hq, rfl⟩ := h
  exact congrFun (Queue.settled_step hq noPut accepts) r

end Controller

end HHModbus
