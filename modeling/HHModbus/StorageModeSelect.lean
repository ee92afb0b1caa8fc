import Mathlib.Data.List.Sort
import HHModbus.Switch

/-!
# The Storage Mode select

`SolisSelectEntity`: which options it offers, which one it shows for the cached register, and
what selecting one writes, over the definition of the select on register 43110.
-/
namespace HHModbus

/-- `TOU_VERSION_REGISTER`, and its content on an inverter with V2 time-of-use. -/
abbrev touVersionRegister : Nat := 33289

abbrev touVersionV2 : Nat := 0xAA55

/-- `STORAGE_MODE_BITS`. -/
def storageModeBits : List Nat := [0, 1, 2, 4, 6, 11]

structure SelectEntity where
  register : Nat
  /-- `_attr_options_raw`. -/
  options : List SelectOption
  companionWrites : List Nat := []

namespace SelectOption

/-- What an option matches: its bits, and in the strict pass none of those it conflicts with. -/
def holdsIn (o : SelectOption) (strict : Bool) (value : Nat) : Bool :=
  match o.onValue, o.bitPosition with
  | some on, _ => value == on
  | none, some bit =>
    getBitBool value bit && o.requires.all (getBitBool value) &&
      !(strict && (o.conflictsWith.filter fun b => b ∉ bit :: o.requires).any (getBitBool value))
  | none, none => false

end SelectOption

namespace SelectEntity

/-- `tou_v2_active`. -/
def touV2Active (c : Controller) : Bool := c.cacheGet touVersionRegister == some touVersionV2

/-- `_hide_tou_v1`. -/
def hideTouV1 (s : SelectEntity) (c : Controller) : Bool :=
  s.options.any SelectOption.touV1 && touV2Active c

/-- `_available_options_raw`. -/
def availableOptions (s : SelectEntity) (c : Controller) : List SelectOption :=
  if s.hideTouV1 c then s.options.filter fun o => !o.touV1 else s.options

/-- `sorted` with the number of required bits as key, in reverse; it is stable. -/
def sortedOptions (s : SelectEntity) (c : Controller) : List SelectOption :=
  (s.availableOptions c).insertionSort fun a b => b.requires.length ≤ a.requires.length

/-- `current_option`. -/
def currentOption (s : SelectEntity) (c : Controller) : Option String :=
  match c.cacheGet s.register with
  | none => none
  | some cached =>
    -- The dead V1 bit is ignored.
    let value := if s.hideTouV1 c then setBit cached 1 false else cached
    (((s.sortedOptions c).find? (·.holdsIn true value)).or
      ((s.sortedOptions c).find? (·.holdsIn false value))).map SelectOption.name

/-- `_write_companions`. -/
def writeCompanions (s : SelectEntity) (c : Controller) : Controller :=
  s.companionWrites.foldl (fun acc companion =>
    match c.cacheGet companion with
    | some cached => acc.asyncWriteHoldingRegister companion cached
    | none => acc) c

/-- `set_register_bit`, where `live` is what a read of the register gets. -/
def setRegisterBit (s : SelectEntity) (o : SelectOption) (c : Controller) (connected : Bool)
    (live : Option Nat) : Controller :=
  match o.bitPosition, c.cacheGet s.register, live with
  | none, _, _ => c -- No definition lacks both an on value and a bit position.
  | some bit, some cached, _ => o.setRegisterBit s.register bit c connected cached
  | some bit, none, some read =>
    o.setRegisterBit s.register bit (c.cacheSave s.register read) connected read
  | some _, none, none => c

/-- The loop of `async_select_option`. -/
def selectAmong (s : SelectEntity) (option : String) (connected : Bool) (live : Option Nat) :
    List SelectOption → Controller → Controller
  | [], c => c
  | o :: rest, c =>
    if o.name = option then
      if o.touV1 && s.hideTouV1 c then c
      else
        match o.onValue with
        | some on => s.writeCompanions (c.asyncWriteHoldingRegister s.register on)
        -- Only the branch above leaves the loop.
        | none => s.selectAmong option connected live rest (s.setRegisterBit o c connected live)
    else s.selectAmong option connected live rest c

/-- `async_select_option`. -/
def asyncSelectOption (s : SelectEntity) (option : String) (connected : Bool) (live : Option Nat)
    (c : Controller) : Controller :=
  s.selectAmong option connected live s.options c

end SelectEntity

/-- A storage mode: a base bit with what is required on top of it. -/
def storageMode (name : String) (bit : Nat) (requires : List Nat) (touV1 : Bool) : SelectOption :=
  { name, bitPosition := some bit, conflictsWith := storageModeBits, requires, touV1 }

/-- The options of the select on 43110. -/
def storageModeOptions : List SelectOption := [
  storageMode "Self-Use" 0 [] false,
  storageMode "Self-Use + TOU" 0 [1] true,
  storageMode "Self-Use + Reserve/Backup" 0 [4] false,
  storageMode "Self-Use + TOU + Reserve/Backup" 0 [1, 4] true,
  storageMode "Feed-in Priority" 6 [] false,
  storageMode "Feed-in Priority + TOU" 6 [1] true,
  storageMode "Feed-in Priority + Reserve/Backup" 6 [4] false,
  storageMode "Feed-in Priority + TOU + Reserve/Backup" 6 [1, 4] true,
  storageMode "Off-Grid Operation" 2 [] false,
  storageMode "Peak Shaving" 11 [] false]

/-! ### Which options match -/

/-- Two values have the same storage mode bits. -/
def SameMode (v w : Nat) : Prop := ∀ i ∈ storageModeBits, v.testBit i = w.testBit i

instance (v w : Nat) : Decidable (SameMode v w) := inferInstanceAs (Decidable (∀ i ∈ _, _))

theorem SameMode.setBit {v w : Nat} (same : SameMode v w) (bit : Nat) (b : Bool) :
    SameMode (setBit v bit b) (setBit w bit b) := by
  intro i member
  rw [testBit_setBit, testBit_setBit, same i member]

/-- The value a storage mode asks for: its own bits on, the other ones it conflicts with off. -/
theorem SelectOption.testBit_bitValue_eq (o : SelectOption) (bit v i : Nat) :
    (o.bitValue bit v).testBit i =
      if i = bit ∨ i ∈ o.requires then true
      else if i ∈ o.conflictsWith then false
      else v.testBit i := by
  rw [bitValue, testBit_setBit, testBit_foldl_setBit, testBit_foldl_setBit]
  by_cases own : bit = i
  · simp [own]
  · simp [own, Ne.symm own]

/-- A storage mode option uses the storage mode bits only, and clears all the others of them. -/
structure SelectOption.IsMode (o : SelectOption) (bit : Nat) : Prop where
  onValue : o.onValue = none
  bitPosition : o.bitPosition = some bit
  conflictsWith : o.conflictsWith = storageModeBits
  own : ∀ i ∈ bit :: o.requires, i ∈ storageModeBits

theorem isMode_of_mem {o : SelectOption} (member : o ∈ storageModeOptions) :
    ∃ bit, o.IsMode bit := by
  have facts : ∀ o ∈ storageModeOptions, o.onValue = none ∧ o.bitPosition.isSome ∧
      o.conflictsWith = storageModeBits ∧
      ∀ i ∈ o.bitPosition.getD 0 :: o.requires, i ∈ storageModeBits := by decide
  obtain ⟨onValue, position, conflicts, own⟩ := facts o member
  obtain ⟨bit, some_⟩ := Option.isSome_iff_exists.mp position
  rw [some_] at own
  exact ⟨bit, onValue, some_, conflicts, own⟩

theorem SelectOption.IsMode.holdsIn_congr {o : SelectOption} {bit : Nat} (mode : o.IsMode bit)
    {v w : Nat} (same : SameMode v w) (strict : Bool) : o.holdsIn strict v = o.holdsIn strict w := by
  have read (i : Nat) (member : i ∈ storageModeBits) : getBitBool v i = getBitBool w i := by
    rw [getBitBool_eq_testBit, getBitBool_eq_testBit, same i member]
  have required : o.requires.all (getBitBool v) = o.requires.all (getBitBool w) := by
    rw [Bool.eq_iff_iff, List.all_eq_true, List.all_eq_true]
    exact forall₂_congr fun i member => by rw [read i (mode.own i (List.mem_cons_of_mem _ member))]
  have conflicts : (o.conflictsWith.filter fun b => b ∉ bit :: o.requires).any (getBitBool v) =
      (o.conflictsWith.filter fun b => b ∉ bit :: o.requires).any (getBitBool w) := by
    rw [mode.conflictsWith, Bool.eq_iff_iff, List.any_eq_true, List.any_eq_true]
    exact exists_congr fun i => and_congr_right fun member => by
      rw [read i (List.mem_of_mem_filter member)]
  unfold holdsIn
  rw [mode.onValue, mode.bitPosition]
  simp only [read bit (mode.own bit List.mem_cons_self), required, conflicts]

/-- The storage mode bits of the value that selecting an option writes. -/
theorem SelectOption.IsMode.sameMode {o : SelectOption} {bit : Nat} (mode : o.IsMode bit)
    (v w : Nat) : SameMode (o.bitValue bit v) (o.bitValue bit w) := by
  intro i member
  rw [testBit_bitValue_eq, testBit_bitValue_eq, mode.conflictsWith]
  simp only [member, if_true]

/-- A storage mode leaves all other bits as they are. -/
theorem SelectOption.IsMode.testBit_bitValue {o : SelectOption} {bit : Nat} (mode : o.IsMode bit)
    (v : Nat) {i : Nat} (other : i ∉ storageModeBits) : (o.bitValue bit v).testBit i = v.testBit i := by
  apply SelectOption.testBit_bitValue_of_notMem o mode.bitPosition
  intro touched
  simp only [SelectOption.touchedBits, mode.bitPosition, mode.conflictsWith, Option.toList_some,
    List.mem_append, List.mem_singleton] at touched
  rcases touched with (own | conflict) | required
  · exact other (own ▸ mode.own bit List.mem_cons_self)
  · exact other conflict
  · exact other (mode.own i (List.mem_cons_of_mem _ required))

/-- Of the options that are offered together, only the selected one matches strictly. -/
theorem holdsIn_bitValue_iff (hide : Bool) : ∀ o ∈ storageModeOptions, ∀ e ∈ storageModeOptions,
    (hide = true → o.touV1 = false ∧ e.touV1 = false) →
    (e.holdsIn true (if hide then setBit (o.bitValue (o.bitPosition.getD 0) 0) 1 false
      else o.bitValue (o.bitPosition.getD 0) 0) = true ↔ e = o) := by
  cases hide <;> decide +kernel

/-! ### What selecting an option does -/

namespace SelectEntity

theorem selectAmong_of_absent (s : SelectEntity) (option : String) (connected : Bool)
    (live : Option Nat) (options : List SelectOption) (c : Controller)
    (absent : option ∉ options.map SelectOption.name) :
    s.selectAmong option connected live options c = c := by
  induction options generalizing c with
  | nil => rfl
  | cons e rest ih =>
    simp only [List.map_cons, List.mem_cons, not_or] at absent
    rw [selectAmong, if_neg (Ne.symm absent.1)]
    exact ih c absent.2

/-- The loop does what is done for the one option of that name. -/
theorem selectAmong_of_mem (s : SelectEntity) (connected : Bool) (live : Option Nat)
    {options : List SelectOption} (names : (options.map SelectOption.name).Nodup) {o : SelectOption}
    (member : o ∈ options) (bits : o.onValue = none) (c : Controller)
    (visible : (o.touV1 && s.hideTouV1 c) = false) :
    s.selectAmong o.name connected live options c = s.setRegisterBit o c connected live := by
  induction options with
  | nil => cases member
  | cons e rest ih =>
    rw [List.map_cons, List.nodup_cons] at names
    rcases List.mem_cons.mp member with rfl | later
    · rw [selectAmong, if_pos rfl, if_neg (by simp [visible]), bits]
      exact s.selectAmong_of_absent o.name connected live rest _ names.1
    · have other : e.name ≠ o.name := by
        intro same
        exact names.1 (same ▸ List.mem_map_of_mem later)
      rw [selectAmong, if_neg other]
      exact ih names.2 later

/-- What is offered is defined, and not hidden. -/
theorem of_mem_availableOptions {s : SelectEntity} {c : Controller} {o : SelectOption}
    (available : o ∈ s.availableOptions c) :
    o ∈ s.options ∧ (s.hideTouV1 c = true → o.touV1 = false) := by
  unfold availableOptions at available
  split at available
  next =>
    obtain ⟨inside, visible⟩ := List.mem_filter.mp available
    exact ⟨inside, fun _ => by simpa using visible⟩
  next shown => exact ⟨available, fun hidden => absurd hidden shown⟩

/-- Selecting an option that is offered sets the bits of this one. -/
theorem asyncSelectOption_eq {s : SelectEntity} (names : (s.options.map SelectOption.name).Nodup)
    {o : SelectOption} (bits : o.onValue = none) {c : Controller}
    (available : o ∈ s.availableOptions c) (connected : Bool) (live : Option Nat) :
    s.asyncSelectOption o.name connected live c = s.setRegisterBit o c connected live := by
  obtain ⟨inside, visible⟩ := of_mem_availableOptions available
  apply selectAmong_of_mem _ _ _ names inside bits
  cases hidden : s.hideTouV1 c with
  | false => exact Bool.and_false _
  | true => rw [visible hidden, Bool.false_and]

/-- The current value of the register, as `set_register_bit` gets it. -/
def Knows (s : SelectEntity) (c : Controller) (live : Option Nat) (v : Nat) : Prop :=
  c.cacheGet s.register = some v ∨ (c.cacheGet s.register = none ∧ live = some v)

/-- With the link up, an option of bits is written unless the register has its value already. -/
structure Written (s : SelectEntity) (c after : Controller) (v new : Nat) : Prop where
  cached : after.cacheGet s.register = some new
  others : ∀ r, r ≠ s.register → after.cacheGet r = c.cacheGet r
  queue : after.queue = if v = new then c.queue else c.queue.put (.single s.register new)

/-- The version of time-of-use stands in another register, so the same options are hidden. -/
theorem Written.hideTouV1 {s : SelectEntity} {c after : Controller} {v new : Nat}
    (written : s.Written c after v new) (apart : touVersionRegister ≠ s.register) :
    s.hideTouV1 after = s.hideTouV1 c := by
  unfold SelectEntity.hideTouV1 touV2Active
  rw [written.others touVersionRegister apart]

theorem Written.availableOptions {s : SelectEntity} {c after : Controller} {v new : Nat}
    (written : s.Written c after v new) (apart : touVersionRegister ≠ s.register) :
    s.availableOptions after = s.availableOptions c := by
  unfold SelectEntity.availableOptions
  rw [written.hideTouV1 apart]

theorem setRegisterBit_written {s : SelectEntity} {c : Controller} {live : Option Nat} {v : Nat}
    (known : s.Knows c live v) {o : SelectOption} {bit : Nat} (position : o.bitPosition = some bit) :
    s.Written c (s.setRegisterBit o c true live) v (o.bitValue bit v) := by
  -- Both ways of learning the value lead to one state that caches it.
  have start : ∃ base : Controller, s.setRegisterBit o c true live =
      o.setRegisterBit s.register bit base true v ∧ base.cacheGet s.register = some v ∧
      (∀ r, r ≠ s.register → base.cacheGet r = c.cacheGet r) ∧ base.queue = c.queue := by
    rcases known with cached | ⟨cold, read⟩
    · exact ⟨c, by simp only [setRegisterBit, position, cached], cached, fun _ _ => rfl, rfl⟩
    · refine ⟨c.cacheSave s.register v, by simp only [setRegisterBit, position, cold, read],
        Controller.cacheGet_cacheSave_self .., ?_, rfl⟩
      exact fun r other => Controller.cacheGet_cacheSave_of_ne c v other
  obtain ⟨base, same, cached, others, queue⟩ := start
  rw [same, SelectOption.setRegisterBit]
  by_cases unchanged : v = o.bitValue bit v
  · rw [if_neg (by simp [← unchanged])]
    exact ⟨cached.trans (congrArg some unchanged), others, by rw [queue, if_pos unchanged]⟩
  · rw [if_pos (by simp [unchanged])]
    refine ⟨Controller.cacheGet_cacheSave_self .., ?_, ?_⟩
    · intro r other
      rw [Controller.cacheGet_cacheSave_of_ne _ _ other]
      exact others r other
    · rw [if_neg unchanged, ← queue]
      rfl

/-- The one option that matches strictly is the one shown. -/
theorem currentOption_of_unique {s : SelectEntity} {c : Controller} {v : Nat} {o : SelectOption}
    (cached : c.cacheGet s.register = some v) (available : o ∈ s.availableOptions c)
    (only : ∀ e ∈ s.availableOptions c,
      e.holdsIn true (if s.hideTouV1 c then setBit v 1 false else v) = true ↔ e = o) :
    s.currentOption c = some o.name := by
  have sorted (e : SelectOption) : e ∈ s.sortedOptions c ↔ e ∈ s.availableOptions c :=
    List.mem_insertionSort _
  have matched := (only o available).mpr rfl
  have found : (s.sortedOptions c).find?
      (·.holdsIn true (if s.hideTouV1 c then setBit v 1 false else v)) = some o := by
    have some_ : ((s.sortedOptions c).find?
        (·.holdsIn true (if s.hideTouV1 c then setBit v 1 false else v))).isSome = true :=
      List.find?_isSome.mpr ⟨o, (sorted o).mpr available, matched⟩
    obtain ⟨e, first⟩ := Option.isSome_iff_exists.mp some_
    have member := (sorted e).mp (List.mem_of_find?_eq_some first)
    have holds : e.holdsIn true (if s.hideTouV1 c then setBit v 1 false else v) = true := by
      simpa only using List.find?_some first
    rw [first, (only e member).mp holds]
  unfold currentOption
  rw [cached]
  simp only [found, Option.some_or, Option.map_some]

end SelectEntity

/-- The select on 43110, with its option definitions in some order. -/
def storageModeSelect (options : List SelectOption) : SelectEntity where
  register := 43110
  options

open SelectEntity in
/-- **Selecting a storage mode and reading it back**: whatever the register holds, whichever
version of time-of-use the inverter has and in whatever order the options are defined, the value
asked for keeps all other bits and is shown as the option selected; it is written unless the
register holds it already. -/
theorem storageMode_inverts (options : List SelectOption)
    (order : options.Perm storageModeOptions) (c : Controller) (live : Option Nat) (v : Nat)
    (known : (storageModeSelect options).Knows c live v) (o : SelectOption)
    (available : o ∈ (storageModeSelect options).availableOptions c) :
    ∃ new, (∀ i, i ∉ storageModeBits → new.testBit i = v.testBit i) ∧
      (storageModeSelect options).Written c
        ((storageModeSelect options).asyncSelectOption o.name true live c) v new ∧
      (storageModeSelect options).currentOption
        ((storageModeSelect options).asyncSelectOption o.name true live c) = some o.name := by
  have names : (options.map SelectOption.name).Nodup :=
    (order.map SelectOption.name).nodup_iff.mpr (by decide)
  have apart : touVersionRegister ≠ (storageModeSelect options).register := by
    change 33289 ≠ 43110
    decide
  obtain ⟨inside, visible⟩ := of_mem_availableOptions available
  obtain ⟨bit, mode⟩ := isMode_of_mem (order.mem_iff.mp inside)
  rw [asyncSelectOption_eq names mode.onValue available]
  have written := setRegisterBit_written known mode.bitPosition
  refine ⟨o.bitValue bit v, fun i other => mode.testBit_bitValue v other, written, ?_⟩
  have same := written.availableOptions apart
  apply currentOption_of_unique written.cached (same ▸ available)
  intro e there
  rw [same] at there
  obtain ⟨defined, shown⟩ := of_mem_availableOptions there
  obtain ⟨other, mode'⟩ := isMode_of_mem (order.mem_iff.mp defined)
  -- Only the storage mode bits count, so the register may as well have held 0 before.
  have canonical := mode.sameMode v 0
  have unique := holdsIn_bitValue_iff ((storageModeSelect options).hideTouV1 c) o
    (order.mem_iff.mp inside) e (order.mem_iff.mp defined) fun hidden =>
      ⟨visible hidden, shown hidden⟩
  rw [mode.bitPosition, Option.getD_some] at unique
  rw [written.hideTouV1 apart, ← unique]
  split
  · rw [mode'.holdsIn_congr (canonical.setBit 1 false)]
  · rw [mode'.holdsIn_congr canonical]

/-- Peak shaving chosen while the register holds self-use with time-of-use and grid charging. -/
theorem storageMode_inverts_peakShaving :
    let c : Controller :=
      { queue := ⟨fun _ => 35, [], .idle⟩
        cache := fun r => if r = 43110 then some 35 else none }
    ∃ new, (∀ i, i ∉ storageModeBits → new.testBit i = (35 : Nat).testBit i) ∧
      (storageModeSelect storageModeOptions).Written c
        ((storageModeSelect storageModeOptions).asyncSelectOption "Peak Shaving" true none c)
        35 new ∧
      (storageModeSelect storageModeOptions).currentOption
        ((storageModeSelect storageModeOptions).asyncSelectOption "Peak Shaving" true none c) =
          some "Peak Shaving" :=
  storageMode_inverts storageModeOptions (List.Perm.refl _) _ none 35 (.inl (by decide))
    (storageMode "Peak Shaving" 11 [] false) (by decide)

end HHModbus
