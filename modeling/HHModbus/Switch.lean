import HHModbus.Bits
import HHModbus.Controller

/-!
# Switch and select entities

`SolisBinaryEntity.set_register_bit` and `SolisSelectEntity.set_register_bit` from the
point where the current register value is known (cached, or read live from the inverter),
and the switch's reaction to a register update.
-/
namespace HHModbus

/-- The keys of a switch definition that `SolisBinaryEntity` reads. -/
structure SwitchDefinition where
  name : String
  register : Nat
  writeRegister : Option Nat := none
  bitPosition : Option Nat := none
  conflictsWith : List Nat := []
  requires : List Nat := []
  requiresAny : List Nat := []
  onValue : Option Nat := none
  offValue : Option Nat := none
  inverted : Bool := false
  keepAlive : Bool := false
  companionWrites : List Nat := []
  touV1 : Bool := false
  deriving DecidableEq, Repr

namespace SwitchDefinition

def targetRegister (d : SwitchDefinition) : Nat := d.writeRegister.getD d.register

/-- The bit path of `set_register_bit`: conflicting bits off and required bits on when
turning on, then the switch's own bit. -/
def bitValue (d : SwitchDefinition) (bit current : Nat) (value : Bool) : Nat :=
  let cleared := if value then d.conflictsWith.foldl (fun v c => setBit v c false) current else current
  let required := if value then d.requires.foldl (fun v r => setBit v r true) cleared else cleared
  let chosen :=
    match d.requiresAny with
    | first :: rest =>
      -- The alternatives are looked up in the value before any bit of it was changed.
      if value && !(first :: rest).any (getBitBool current) then setBit required first true
      else required
    | [] => required
  setBit chosen bit (if d.inverted then !value else value)

/-- The register value a toggle asks for, given the current one. -/
def newRegisterValue (d : SwitchDefinition) (current : Option Nat) (value : Bool) : Nat :=
  match d.bitPosition with
  | some bit => d.bitValue bit (current.getD 0) value
  | none =>
    -- A switch of a whole register falls back on 1 and 0.
    match value, d.onValue, d.offValue with
    | true, some on, _ => on
    | false, _, some off => off
    | _, _, _ => value.toNat

/-- `_write_companions`: queue the cached setpoints behind the command. -/
def writeCompanions (d : SwitchDefinition) (c : Controller) : Controller :=
  d.companionWrites.foldl (fun acc companion =>
    match c.cacheGet companion with
    | some cached => acc.asyncWriteHoldingRegister companion cached
    | none => acc) c

/-- The rest of `set_register_bit` once the current value is known. -/
def setRegisterBit (d : SwitchDefinition) (c : Controller) (connected : Bool)
    (current : Option Nat) (value force : Bool) : Controller :=
  let new := d.newRegisterValue current value
  if (force || current != some new) && connected then
    -- The cache gets the new value at once, not when the write has been executed.
    let queued := (c.asyncWriteHoldingRegister d.targetRegister new).cacheSave d.targetRegister new
    if value then d.writeCompanions queued else queued
  else c

/-- What a toggle asks of a bit, given the current value: nothing, or a value. The stages of
`set_register_bit` overwrite each other, so the last one that names the bit decides. -/
def asks (d : SwitchDefinition) (bit current : Nat) (value : Bool) (i : Nat) : Option Bool :=
  if i = bit then some (value != d.inverted)
  else if !value then none
  else if d.requiresAny.head? = some i ∧ !d.requiresAny.any current.testBit then some true
  else if i ∈ d.requires then some true
  else if i ∈ d.conflictsWith then some false
  else none

/-- The bits a toggle may change besides the ones it finds as it wants them. -/
def touchedBits (d : SwitchDefinition) : List Nat :=
  d.bitPosition.toList ++ d.conflictsWith ++ d.requires ++ d.requiresAny.take 1

/-- `is_on` after `handle_modbus_update` has seen an update of the switch's register. -/
def handleModbusUpdate (d : SwitchDefinition) (isOn : Bool) (updated : Nat) : Bool :=
  match d.onValue, d.bitPosition with
  -- An on value decides before a bit position does.
  | some on, _ => updated == on
  | none, some bit => if d.inverted then !getBitBool updated bit else getBitBool updated bit
  | none, none => isOn

end SwitchDefinition

/-- An entry of a select's `entities`. -/
structure SelectOption where
  name : String
  onValue : Option Nat := none
  bitPosition : Option Nat := none
  conflictsWith : List Nat := []
  requires : List Nat := []
  touV1 : Bool := false
  deriving DecidableEq, Repr

namespace SelectOption

def bitValue (o : SelectOption) (bit current : Nat) : Nat :=
  let cleared := o.conflictsWith.foldl (fun v c => setBit v c false) current
  let required := o.requires.foldl (fun v r => setBit v r true) cleared
  setBit required bit true

/-- `SolisSelectEntity.set_register_bit` from a known current value. -/
def setRegisterBit (o : SelectOption) (register bit : Nat) (c : Controller) (connected : Bool)
    (current : Nat) : Controller :=
  let new := o.bitValue bit current
  if current != new && connected then
    (c.asyncWriteHoldingRegister register new).cacheSave register new
  else c

def touchedBits (o : SelectOption) : List Nat :=
  o.bitPosition.toList ++ o.conflictsWith ++ o.requires

end SelectOption

/-! ### What the new value does to the bits -/

theorem SwitchDefinition.testBit_bitValue (d : SwitchDefinition) (bit current : Nat) (value : Bool) :
    (d.bitValue bit current value).testBit bit = (value != d.inverted) := by
  rw [bitValue, testBit_setBit_self]
  cases value <;> cases d.inverted <;> rfl

/-- The new value has every bit the toggle asks for and the current one's other bits. -/
theorem SwitchDefinition.testBit_bitValue_eq (d : SwitchDefinition) (bit current : Nat)
    (value : Bool) (i : Nat) :
    (d.bitValue bit current value).testBit i =
      (d.asks bit current value i).getD (current.testBit i) := by
  by_cases own : i = bit
  · rw [own, testBit_bitValue]
    simp [asks]
  · rw [bitValue, testBit_setBit_of_ne _ _ (Ne.symm own)]
    cases value with
    | false =>
      -- Turning off changes the switch's own bit only.
      cases d.requiresAny <;> simp [asks, own]
    | true =>
      have required : (d.requires.foldl (fun v r => setBit v r true)
          (d.conflictsWith.foldl (fun v c => setBit v c false) current)).testBit i =
          if i ∈ d.requires then true
          else if i ∈ d.conflictsWith then false else current.testBit i := by
        rw [testBit_foldl_setBit, testBit_foldl_setBit]
      have looked : d.requiresAny.any (getBitBool current) = d.requiresAny.any current.testBit := by
        congr
        funext bit
        exact getBitBool_eq_testBit current bit
      cases alternatives : d.requiresAny with
      | nil =>
        simp only [if_true, required, asks, alternatives, own, if_false, Bool.not_true,
          List.head?_nil, reduceCtorEq, false_and]
        split_ifs <;> rfl
      | cons first rest =>
        rw [alternatives] at looked
        simp only [if_true, Bool.true_and, looked, asks, alternatives, own, if_false,
          Bool.not_true, List.head?_cons, Option.some.injEq]
        -- The first alternative is set only when none of them was set before.
        cases unset : !(first :: rest).any current.testBit with
        | false =>
          simp only [Bool.false_eq_true, if_false, and_false, required]
          split_ifs <;> rfl
        | true =>
          simp only [if_true, testBit_setBit, and_true, required, Bool.false_eq_true, if_false]
          split_ifs <;> rfl

theorem SwitchDefinition.testBit_bitValue_of_notMem (d : SwitchDefinition) {bit : Nat}
    (position : d.bitPosition = some bit) (current : Nat) (value : Bool) (i : Nat)
    (untouched : i ∉ d.touchedBits) :
    (d.bitValue bit current value).testBit i = current.testBit i := by
  simp only [touchedBits, position, Option.toList_some, List.mem_append, List.mem_singleton,
    not_or] at untouched
  obtain ⟨⟨⟨own, conflicts⟩, requires⟩, any⟩ := untouched
  -- Each stage of the new value changes listed bits only, and `i` is not listed.
  have required (w : Nat) (h : w.testBit i = current.testBit i) :
      (if value then d.requires.foldl (fun v r => setBit v r true) w else w).testBit i =
        current.testBit i := by
    cases value with
    | false => exact h
    | true => rw [if_pos rfl, testBit_foldl_setBit_of_notMem _ _ _ _ requires, h]
  have cleared : (if value then d.conflictsWith.foldl (fun v c => setBit v c false) current
      else current).testBit i = current.testBit i := by
    cases value with
    | false => rfl
    | true => rw [if_pos rfl, testBit_foldl_setBit_of_notMem _ _ _ _ conflicts]
  rw [bitValue, testBit_setBit_of_ne _ _ (Ne.symm own)]
  cases alternatives : d.requiresAny with
  | nil => exact required _ cleared
  | cons first rest =>
    have other : first ≠ i := by
      rintro rfl
      exact any (by simp [alternatives])
    dsimp only
    split
    · rw [testBit_setBit_of_ne _ _ other, required _ cleared]
    · exact required _ cleared

theorem SelectOption.testBit_bitValue (o : SelectOption) (bit current : Nat) :
    (o.bitValue bit current).testBit bit = true := by
  rw [bitValue, testBit_setBit_self]

theorem SelectOption.testBit_bitValue_of_notMem (o : SelectOption) {bit : Nat}
    (position : o.bitPosition = some bit) (current i : Nat) (untouched : i ∉ o.touchedBits) :
    (o.bitValue bit current).testBit i = current.testBit i := by
  simp only [touchedBits, position, Option.toList_some, List.mem_append, List.mem_singleton,
    not_or] at untouched
  obtain ⟨⟨own, conflicts⟩, requires⟩ := untouched
  rw [bitValue, testBit_setBit_of_ne _ _ (Ne.symm own),
    testBit_foldl_setBit_of_notMem _ _ _ _ requires,
    testBit_foldl_setBit_of_notMem _ _ _ _ conflicts]

/-! ### What the queue will make of the register -/

/-- Re-writing cached companions makes each of them settle at its cached value. -/
theorem settled_rewrite (c : Controller) (companions : List Nat) (acc : Controller) (r : Nat) :
    (companions.foldl (fun acc companion =>
      match c.cacheGet companion with
      | some cached => acc.asyncWriteHoldingRegister companion cached
      | none => acc) acc).settled r =
      if r ∈ companions then (c.cacheGet r).getD (acc.settled r) else acc.settled r := by
  induction companions generalizing acc with
  | nil => rfl
  | cons companion companions ih =>
    rw [List.foldl_cons, ih]
    by_cases same : r = companion
    · subst same
      cases cached : c.cacheGet r with
      | none => simp
      | some value => simp
    · have other : (match c.cacheGet companion with
          | some cached => acc.asyncWriteHoldingRegister companion cached
          | none => acc).settled r = acc.settled r := by
        cases c.cacheGet companion with
        | none => rfl
        | some value => exact Controller.settled_asyncWriteHoldingRegister_of_ne acc value same
      simp only [other, List.mem_cons, same, false_or]

theorem SwitchDefinition.settled_writeCompanions (d : SwitchDefinition) (c : Controller) (r : Nat) :
    (d.writeCompanions c).settled r =
      if r ∈ d.companionWrites then (c.cacheGet r).getD (c.settled r) else c.settled r :=
  settled_rewrite c d.companionWrites c r

/-- Queueing companions changes nothing but the queue. -/
theorem SwitchDefinition.writeCompanions_frame (d : SwitchDefinition) (c : Controller) :
    (d.writeCompanions c).cache = c.cache ∧ (d.writeCompanions c).device = c.device ∧
    (d.writeCompanions c).queue.executing = c.queue.executing := by
  unfold writeCompanions
  apply List.foldlRecOn
    (motive := fun acc : Controller => acc.cache = c.cache ∧ acc.device = c.device ∧
      acc.queue.executing = c.queue.executing)
  · exact ⟨rfl, rfl, rfl⟩
  · intro acc same companion _
    cases c.cacheGet companion with
    | none => exact same
    | some value => exact same

/-- A toggle that queues its write makes the register settle at the new value. -/
theorem SwitchDefinition.settled_setRegisterBit_of_written (d : SwitchDefinition) (c : Controller)
    (current : Option Nat) (value force : Bool)
    (written : force = true ∨ current ≠ some (d.newRegisterValue current value)) :
    (d.setRegisterBit c true current value force).settled d.targetRegister =
      d.newRegisterValue current value := by
  have queued : ((c.asyncWriteHoldingRegister d.targetRegister
      (d.newRegisterValue current value)).cacheSave d.targetRegister
      (d.newRegisterValue current value)).settled d.targetRegister =
      d.newRegisterValue current value := by simp
  unfold setRegisterBit
  dsimp only
  rw [if_pos (by simpa using written)]
  cases value with
  | false => exact queued
  | true =>
    -- The register may be a companion of its own; its cached value is the new one by now.
    simp only [if_true]
    rw [d.settled_writeCompanions]
    split
    next =>
      rw [Controller.cacheGet_cacheSave_self]
      rfl
    next => exact queued

/-- Until its write is executed, a toggle changes the cache and the queue only. -/
theorem SwitchDefinition.setRegisterBit_frame (d : SwitchDefinition) (c : Controller)
    (connected : Bool) (current : Option Nat) (value force : Bool) :
    (d.setRegisterBit c connected current value force).device = c.device ∧
    (d.setRegisterBit c connected current value force).queue.executing = c.queue.executing ∧
    (d.setRegisterBit c connected current value force).cacheGet d.targetRegister =
      if (force || current != some (d.newRegisterValue current value)) && connected then
        some (d.newRegisterValue current value)
      else c.cacheGet d.targetRegister := by
  unfold setRegisterBit
  dsimp only
  split
  next =>
    cases value with
    | false => exact ⟨rfl, rfl, by simp⟩
    | true =>
      simp only [if_true]
      obtain ⟨cache, device, executing⟩ := d.writeCompanions_frame
        ((c.asyncWriteHoldingRegister d.targetRegister (d.newRegisterValue current true)).cacheSave
          d.targetRegister (d.newRegisterValue current true))
      refine ⟨device, executing, ?_⟩
      rw [Controller.cacheGet, cache]
      exact Controller.cacheGet_cacheSave_self _ _ _
  next => exact ⟨rfl, rfl, rfl⟩

theorem SwitchDefinition.setRegisterBit_of_same (d : SwitchDefinition) (c : Controller)
    (connected : Bool) (current : Option Nat) (value : Bool)
    (same : current = some (d.newRegisterValue current value)) :
    d.setRegisterBit c connected current value false = c := by
  unfold setRegisterBit
  dsimp only
  rw [if_neg (by rw [← same]; simp)]

/-- A toggle that starts from the value its register will settle at makes the register
settle at the value it computed, whether or not it had to queue a write. -/
theorem SwitchDefinition.settled_setRegisterBit (d : SwitchDefinition) (c : Controller)
    (current : Nat) (value force : Bool) (fresh : c.settled d.targetRegister = current) :
    (d.setRegisterBit c true (some current) value force).settled d.targetRegister =
      d.newRegisterValue (some current) value := by
  -- Either a write is queued, or the register was going to hold the value anyway.
  by_cases written : force = true ∨ some current ≠ some (d.newRegisterValue (some current) value)
  · exact d.settled_setRegisterBit_of_written c (some current) value force written
  · obtain ⟨unforced, same⟩ := not_or.mp written
    have unchanged : some current = some (d.newRegisterValue (some current) value) :=
      not_not.mp same
    rw [Bool.eq_false_iff.mpr unforced, d.setRegisterBit_of_same c true _ value unchanged, fresh]
    exact Option.some.inj unchanged

theorem SelectOption.settled_setRegisterBit (o : SelectOption) (register bit : Nat)
    (c : Controller) (current : Nat) (fresh : c.settled register = current) :
    (o.setRegisterBit register bit c true current).settled register = o.bitValue bit current := by
  unfold setRegisterBit
  dsimp only
  split
  next => simp
  next same =>
    have unchanged : current = o.bitValue bit current := by simpa using same
    rw [fresh, ← unchanged]

end HHModbus
