import HHModbus.Lib.Transition
import HHModbus.SwitchSensors

/-!
# The base modes of register 43110

Four bits of the register each stand for a base mode, and twelve switches change the
register by their own lists of conflicting and required bits. Toggles follow one another
with the link up, each starting from the value the last one left in the cache.
-/
namespace HHModbus

open Transition

abbrev storageModeReg : Nat := 43110

/-- Self-Use, Off-Grid, Feed-In Priority and Peak Shaving. -/
def baseModeBits : List Nat := [0, 2, 6, 11]

/-- At most one base mode is set. -/
def ExclusiveMode (value : Nat) : Prop :=
  ∀ i ∈ baseModeBits, ∀ j ∈ baseModeBits,
    value.testBit i = true → value.testBit j = true → i = j

instance (value : Nat) : Decidable (ExclusiveMode value) :=
  inferInstanceAs (Decidable (∀ i ∈ baseModeBits, ∀ j ∈ baseModeBits, _ → _ → _))

/-- Turning a switch of the register on or off. -/
structure StorageToggle where
  switch : SwitchDefinition
  value : Bool
  deriving DecidableEq

namespace StorageToggle

/-- `async_turn_on` and `async_turn_off`; none of these switches is kept alive or has
companions, so neither is forced. -/
def apply (a : StorageToggle) (c : Controller) : Option Controller :=
  if a.switch ∈ storageModeSwitches then
    some (a.switch.setRegisterBit c true (c.cacheGet storageModeReg) a.value false)
  else none

def start (value : Nat) (device : Nat → Nat) : Controller :=
  Controller.start device (Function.update (fun _ => none) storageModeReg (some value))

/-- A base mode the switch does not know to conflict with is set: it survives the toggle
beside the mode the switch sets or requires. -/
def meetsOtherMode (value : Nat) (a : StorageToggle) : Bool :=
  a.value && match a.switch.bitPosition with
    -- Feed-In Priority does not clear Off-Grid.
    | some 6 => value.testBit 2
    -- Reserve requires Self-Use and does not clear Feed-In Priority.
    | some 4 => value.testBit 6
    -- Time of Use falls back on Self-Use and clears nothing.
    | some 1 => value.testBit 2 || value.testBit 11
    | _ => false

end StorageToggle

/-- The values queued for the register. -/
def writtenModes (c : Controller) : List Nat :=
  (c.queue.pending.flatMap WriteRequest.writes).filterMap fun kv =>
    if kv.1 = storageModeReg then some kv.2 else none

/-- Every value queued for the register has at most one base mode. -/
def WritesExclusive (c : Controller) : Prop := ∀ w ∈ writtenModes c, ExclusiveMode w

instance (c : Controller) : Decidable (WritesExclusive c) :=
  inferInstanceAs (Decidable (∀ w ∈ writtenModes c, _))

/-- The cached value, which the next toggle starts from, has at most one base mode. -/
def CachedExclusive (c : Controller) : Prop :=
  ∃ value, c.cacheGet storageModeReg = some value ∧ ExclusiveMode value

/-- Exclusiveness of bits given by any function. -/
private def Apart (bits : Nat → Bool) : Prop :=
  (bits 0 = true → bits 2 = false ∧ bits 6 = false ∧ bits 11 = false) ∧
  (bits 2 = true → bits 6 = false ∧ bits 11 = false) ∧ (bits 6 = true → bits 11 = false)

private theorem exclusiveMode_iff (value : Nat) : ExclusiveMode value ↔ Apart value.testBit := by
  unfold ExclusiveMode Apart
  generalize value.testBit = bits
  simp [baseModeBits]
  grind

/-- From a value with at most one base mode a toggle computes such a value, unless it meets
a mode it does not clear. -/
theorem exclusive_newRegisterValue_iff (a : StorageToggle) (member : a.switch ∈ storageModeSwitches)
    (value : Nat) (exclusive : ExclusiveMode value) :
    ExclusiveMode (a.switch.newRegisterValue (some value) a.value) ↔
      a.meetsOtherMode value = false := by
  obtain ⟨d, on⟩ := a
  rw [exclusiveMode_iff] at exclusive ⊢
  -- One case per switch; only the four base bits of the value matter.
  simp only [storageModeSwitches, List.mem_cons, List.not_mem_nil, or_false] at member
  rcases member with rfl | rfl | rfl | rfl | rfl | rfl | rfl | rfl | rfl | rfl | rfl | rfl <;>
    simp only [SwitchDefinition.newRegisterValue, Apart, SwitchDefinition.testBit_bitValue_eq,
      SwitchDefinition.asks, StorageToggle.meetsOtherMode, Option.getD_some] at exclusive ⊢ <;>
    generalize value.testBit = bits at exclusive ⊢ <;>
    cases on <;>
    simp <;>
    grind

private theorem storageModeSwitches_plain : ∀ d ∈ storageModeSwitches,
    d.targetRegister = storageModeReg ∧ d.companionWrites = [] := by decide

/-- A toggle queues the value it computes and caches it, unless the value is the cached one. -/
theorem StorageToggle.apply_cases {c t : Controller} {a : StorageToggle} (h : a.apply c = some t) :
    a.switch ∈ storageModeSwitches ∧
    let new := a.switch.newRegisterValue (c.cacheGet storageModeReg) a.value
    ((c.cacheGet storageModeReg = some new ∧ t = c) ∨
      (t.cacheGet storageModeReg = some new ∧ writtenModes t = writtenModes c ++ [new])) := by
  simp only [apply] at h
  split at h
  next member =>
    obtain ⟨target, companions⟩ := storageModeSwitches_plain a.switch member
    refine ⟨member, ?_⟩
    simp only [Option.some.injEq] at h
    subst h
    by_cases same : c.cacheGet storageModeReg =
        some (a.switch.newRegisterValue (c.cacheGet storageModeReg) a.value)
    · left
      exact ⟨same, a.switch.setRegisterBit_of_same c true _ a.value same⟩
    · right
      have differs : (c.cacheGet storageModeReg !=
          some (a.switch.newRegisterValue (c.cacheGet storageModeReg) a.value)) = true := by
        simpa using same
      simp only [SwitchDefinition.setRegisterBit, SwitchDefinition.writeCompanions, companions,
        List.foldl_nil, ite_self, differs, Bool.or_true, Bool.and_true, if_true, target]
      refine ⟨by simp, ?_⟩
      simp [writtenModes, Controller.cacheSave, Controller.asyncWriteHoldingRegister,
        WriteBehind.Queue.put]
  next => cases h

/-- A toggle keeps the values written exclusive exactly when it meets no mode it leaves set. -/
theorem writesExclusive_step_iff (c : Controller) (a : StorageToggle) (t : Controller)
    (cached : CachedExclusive c) (written : WritesExclusive c) (h : a.apply c = some t) :
    WritesExclusive t ↔ ∀ value ∈ c.cacheGet storageModeReg, a.meetsOtherMode value = false := by
  obtain ⟨value, inCache, exclusive⟩ := cached
  obtain ⟨member, outcome⟩ := a.apply_cases h
  have computes := exclusive_newRegisterValue_iff a member value exclusive
  simp only [inCache, Option.mem_def, Option.some.injEq, forall_eq'] at outcome ⊢
  rw [← computes]
  rcases outcome with ⟨same, rfl⟩ | ⟨-, queued⟩
  · rw [← same]
    exact iff_of_true written exclusive
  · simp only [WritesExclusive, queued, List.mem_append, List.mem_singleton]
    constructor
    · intro all
      exact all _ (.inr rfl)
    · rintro new w (old | rfl)
      · exact written w old
      · exact new

theorem cachedExclusive_step (c : Controller) (a : StorageToggle) (t : Controller)
    (cached : CachedExclusive c) (h : a.apply c = some t) (written : WritesExclusive t) :
    CachedExclusive t := by
  obtain ⟨-, ⟨-, rfl⟩ | ⟨saved, queued⟩⟩ := a.apply_cases h
  · exact cached
  · exact ⟨_, saved, written _ (by rw [queued]; simp)⟩

/-- What has been queued stays queued, so a value with two modes is never made good. -/
theorem writesExclusive_mono (c : Controller) (a : StorageToggle) (t : Controller)
    (h : a.apply c = some t) (after : WritesExclusive t) : WritesExclusive c := by
  obtain ⟨-, ⟨-, rfl⟩ | ⟨-, queued⟩⟩ := a.apply_cases h
  · exact after
  · exact fun w old => after w (by rw [queued]; exact List.mem_append_left _ old)

/-- **At most one base mode is set in every value written** along a run of toggles, from a
value with at most one, exactly when no toggle of the run meets a base mode that its switch
does not clear. -/
theorem written_exclusive_iff (value : Nat) (device : Nat → Nat) (exclusive : ExclusiveMode value)
    (acts : List StorageToggle) (t : Controller)
    (run : exec (fun c a => a.apply c) (StorageToggle.start value device) acts = some t) :
    WritesExclusive t ↔
      Along (fun c a => a.apply c)
        (fun c a _ => ∀ v ∈ c.cacheGet storageModeReg, a.meetsOtherMode v = false)
        (StorageToggle.start value device) acts := by
  apply final_iff (I := CachedExclusive) writesExclusive_mono _ _ _ _ run
  · exact fun c a u cached written h => writesExclusive_step_iff c a u cached written h
  · exact fun c a u cached _ h after => cachedExclusive_step c a u cached h after
  · exact ⟨value, by simp [StorageToggle.start, Controller.start, Controller.cacheGet], exclusive⟩
  · intro w queued
    cases queued

/-- From Off-Grid with grid charging allowed, back to Self-Use and on to Feed-In Priority. -/
def offGridToFeedIn : List StorageToggle :=
  [⟨storageModeSwitches[0], true⟩, ⟨storageModeSwitches[6], true⟩]

theorem written_exclusive_offGridToFeedIn :
    WritesExclusive ((exec (fun c (a : StorageToggle) => a.apply c) (StorageToggle.start 36 fun _ => 36)
      offGridToFeedIn).getD (StorageToggle.start 36 fun _ => 36)) ↔
      Along (fun c (a : StorageToggle) => a.apply c)
        (fun c a _ => ∀ v ∈ c.cacheGet storageModeReg, a.meetsOtherMode v = false)
        (StorageToggle.start 36 fun _ => 36) offGridToFeedIn :=
  written_exclusive_iff 36 (fun _ => 36) (by decide) offGridToFeedIn _ rfl

/-- Feed-In Priority turned on straight from Off-Grid sets both modes: 4 becomes 68. -/
theorem feedIn_joins_offGrid :
    ExclusiveMode 4 ∧ ∃ t, exec (fun c (a : StorageToggle) => a.apply c)
      (StorageToggle.start 4 fun _ => 4) [⟨storageModeSwitches[6], true⟩] = some t ∧
      writtenModes t = [68] ∧ ¬ WritesExclusive t := by
  refine ⟨by decide, _, rfl, by decide, by decide⟩

end HHModbus
