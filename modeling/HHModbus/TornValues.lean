import HHModbus.Lib.Assembly
import HHModbus.Lib.Transition
import HHModbus.SolisSensor

/-!
# Sensors of several registers between polls and stray updates

The entity collects the words of its registers and publishes when it has all of them. An
update that comes on its own shifts where the collection ends, and the words that a poll
delivers behind that point wait for the next one.
-/
namespace HHModbus

open Assembly Transition

namespace DataRetrieval

variable (c : ModbusController) (x : BaseSensor) (enabled : Bool) (g : SensorGroup)

/-- What reaches a sensor's entity: complete polls of its group, and updates of one register. -/
inductive SensorEvent where
  | poll (values : List Nat)
  | update (register value : Nat)

def eventStep (s : DataRetrieval) : SensorEvent → Option DataRetrieval
  | .poll values => s.poll c x enabled g values
  | .update register value => some (s.written c x enabled register value)

/-- The value that a poll of the group has read for a register of its block. -/
def readValue (values : List Nat) (register : Nat) : Nat :=
  values.getD (register - g.startRegister) 0

/-- After a poll the entity shows what the words of that poll say. -/
def Whole (_ : DataRetrieval) : SensorEvent → DataRetrieval → Prop
  | .poll values, t =>
    t.entity.nativeValue = x.convertValue (x.registrars.map (readValue g values))
  | .update _ _, _ => True

/-- The register is above all those that the entity misses. -/
def AboveMissing (s : DataRetrieval) (register : Nat) : Prop :=
  ∀ m ∈ x.registrars, s.entity.received m = none → m < register

/-- Every word that a poll completes the collection with is one of its own: a word waiting
above the missing registers is what the poll reads again. The spike filter passes the words
of the sensor, the sensor is enabled and not a grid inverter's that is told to show 0. -/
structure InPhase (s : DataRetrieval) (values : List Nat) : Prop where
  enabled : enabled = true
  waiting : ∀ r ∈ x.registrars, ∀ w, s.entity.received r = some w → AboveMissing x s r →
    w.value = readValue g values r
  passed : ∀ r ∈ x.registrars,
    (s.filtered c r ⟨readValue g values r, g.registerType⟩).value = readValue g values r
  shown : c.isGrid = true → 3014 ∈ x.registrars → ∀ w, s.cacheGet c 3043 = some w → w.value ≠ 2

def PollInPhase (s : DataRetrieval) : SensorEvent → DataRetrieval → Prop
  | .poll values, _ => InPhase c x enabled g s values
  | .update _ _, _ => True

/-! ### The entity as a collector -/

/-- The entity has the words that the collector has, and shows its last collection. -/
structure Collects (e : SolisSensor) (col : Collector Nat Nat) : Prop where
  received : ∀ r, (e.received r).map Word.value = col.received r
  shows : ∀ words, col.complete = some words → e.nativeValue = x.convertValue words

theorem convertValue_isSome (words : List Nat) (nonempty : words ≠ []) :
    ∃ v, x.convertValue words = some v := by
  unfold BaseSensor.convertValue convertRawValue
  rw [if_neg nonempty]
  split
  · exact ⟨_, rfl⟩
  · dsimp only
    split <;> exact ⟨_, rfl⟩

/-- A handler call that does not show 0 collects its word. -/
theorem Collects.handle {x : BaseSensor} {e : SolisSensor} {col : Collector Nat Nat}
    (same : Collects x e col) (c : ModbusController) (cache : RegisterKey → Option Word)
    (register : Nat) (word : Word)
    (shown : c.isGrid = true → register = 3014 → register ∈ x.registrars →
      ∀ w, cache (registerCacheKey c 3043) = some w → w.value ≠ 2) :
    Collects x (e.handleModbusUpdate c x true cache register word)
      (collect x.registrars col (register, word.value)) := by
  unfold SolisSensor.handleModbusUpdate collect
  dsimp only
  by_cases own : register ∈ x.registrars
  · have zero : ¬ (c.isGrid && register == 3014 &&
        (cache (registerCacheKey c 3043)).any (·.value == 2)) = true := by
      simp only [Bool.and_eq_true, beq_iff_eq, Option.any_eq_true]
      rintro ⟨⟨grid, special⟩, w, cached, two⟩
      exact shown grid special own w cached two
    have stored (r : Nat) : (Function.update e.received register (some word) r).map Word.value =
        Function.update col.received register (some word.value) r := by
      by_cases here : r = register
      · simp [here]
      · rw [Function.update_of_ne here, Function.update_of_ne here]
        exact same.received r
    have full : (∀ r ∈ x.registrars, (Function.update e.received register (some word) r).isSome) ↔
        ∀ r ∈ x.registrars, (Function.update col.received register (some word.value) r).isSome := by
      simp only [← stored, Option.isSome_map]
    rw [if_pos (by simpa using own), if_neg zero, if_pos own]
    -- The entity is complete exactly when the collector is.
    by_cases complete : ∀ r ∈ x.registrars,
        (Function.update e.received register (some word) r).isSome
    · rw [if_pos complete, if_pos (full.mp complete)]
      refine ⟨fun r => rfl, fun words collected => ?_⟩
      have list : (x.registrars.filterMap (Function.update e.received register (some word))).map
          Word.value = words := by
        rw [← Option.some.inj collected, List.map_filterMap]
        exact List.filterMap_congr fun r _ => stored r
      have nonempty : words ≠ [] := by
        rw [← list]
        simp only [ne_eq, List.map_eq_nil_iff, List.filterMap_eq_nil_iff]
        intro nothing
        have there := complete register own
        rw [nothing register own] at there
        cases there
      obtain ⟨v, converted⟩ := convertValue_isSome x words nonempty
      simp only [list, converted]
      rfl
    · rw [if_neg complete, if_neg fun all => complete (full.mpr all)]
      exact ⟨stored, same.shows⟩
  · rw [if_neg (by simpa using own), if_neg own]
    exact same

theorem foldl_collects {x : BaseSensor} (c : ModbusController) (cache : RegisterKey → Option Word)
    (words : List (Nat × Word)) (e : SolisSensor) (col : Collector Nat Nat) (same : Collects x e col)
    (shown : c.isGrid = true → 3014 ∈ x.registrars →
      ∀ w, cache (registerCacheKey c 3043) = some w → w.value ≠ 2) :
    Collects x (words.foldl (fun e n => e.handleModbusUpdate c x true cache n.1 n.2) e)
      ((words.map fun n => (n.1, n.2.value)).foldl (collect x.registrars) col) := by
  induction words generalizing e col with
  | nil => exact same
  | cons n words ih =>
    refine ih _ _ (same.handle c cache n.1 n.2 ?_)
    rintro grid special own
    rw [special] at own
    exact shown grid own

/-- The entity never has all its words. -/
def Opened (s : DataRetrieval) : Prop := ∃ r ∈ x.registrars, s.entity.received r = none

theorem handleModbusUpdate_opened (cache : RegisterKey → Option Word) (e : SolisSensor)
    (register : Nat) (word : Word) (opened : ∃ r ∈ x.registrars, e.received r = none) :
    ∃ r ∈ x.registrars, (e.handleModbusUpdate c x enabled cache register word).received r = none := by
  unfold SolisSensor.handleModbusUpdate
  dsimp only
  split
  · split
    · exact opened
    · split
      next =>
        -- A complete collection is cleared.
        obtain ⟨r, own⟩ := List.exists_mem_of_ne_nil _ x.registrars_ne
        exact ⟨r, own, rfl⟩
      next incomplete =>
        push Not at incomplete
        obtain ⟨r, own, missing⟩ := incomplete
        exact ⟨r, own, by simpa using missing⟩
  · exact opened

theorem foldl_handle_opened (cache : RegisterKey → Option Word) (words : List (Nat × Word))
    (e : SolisSensor) (opened : ∃ r ∈ x.registrars, e.received r = none) :
    ∃ r ∈ x.registrars, (words.foldl
      (fun e n => e.handleModbusUpdate c x enabled cache n.1 n.2) e).received r = none := by
  induction words generalizing e with
  | nil => exact opened
  | cons n words ih => exact ih _ (handleModbusUpdate_opened c x enabled cache e n.1 n.2 opened)

theorem eventStep_opened (s t : DataRetrieval) (event : SensorEvent) (opened : Opened x s)
    (taken : eventStep c x enabled g s event = some t) : Opened x t := by
  cases event with
  | poll values =>
    rw [Opened, (poll_polled c x enabled s t g values taken).entity]
    exact foldl_handle_opened c x enabled s.cache _ s.entity opened
  | update register value =>
    obtain rfl := Option.some.inj taken
    rw [Opened, written, notifyRegisterUpdate_eq]
    exact handleModbusUpdate_opened c x enabled _ s.entity register _ opened

theorem exists_largest_missing (s : DataRetrieval) (opened : Opened x s) :
    ∃ m ∈ x.registrars, s.entity.received m = none ∧
      ∀ r ∈ x.registrars, s.entity.received r = none → r ≤ m := by
  obtain ⟨r, own, missing⟩ := opened
  have nonempty : x.registrars.filter (fun r => (s.entity.received r).isNone) ≠ [] :=
    List.ne_nil_of_mem (List.mem_filter.mpr ⟨own, by simp [missing]⟩)
  obtain ⟨member, none_⟩ := List.mem_filter.mp (List.max_mem nonempty)
  refine ⟨_, member, by simpa using none_, fun r own missing => ?_⟩
  exact List.le_max_of_mem (List.mem_filter.mpr ⟨own, by simp [missing]⟩)

/-- A poll in phase publishes its own words. -/
theorem poll_whole (covered : ∀ r ∈ x.registrars, r ∈ g.block) (s t : DataRetrieval)
    (values : List Nat) (opened : Opened x s) (taken : s.poll c x enabled g values = some t)
    (phase : InPhase c x enabled g s values) :
    t.entity.nativeValue = x.convertValue (x.registrars.map (readValue g values)) := by
  obtain ⟨m, own, missing, largest⟩ := exists_largest_missing x s opened
  have effect := poll_polled c x enabled s t g values taken
  -- What the poll announces, as values by register.
  let read (r : Nat) : Nat := (s.filtered c r ⟨readValue g values r, g.registerType⟩).value
  have pieces : (s.announced c g.registerType g.startRegister values).map
      (fun n => (n.1, n.2.value)) = g.block.map fun r => (r, read r) := by
    rw [announced_eq_map, effect.length, List.map_map]
    rfl
  let waiting : Collector Nat Nat := ⟨fun r => (s.entity.received r).map Word.value, none⟩
  have before : Collects x s.entity waiting := ⟨fun r => rfl, fun words given => by cases given⟩
  have after := foldl_collects c s.cache (s.announced c g.registerType g.startRegister values)
    s.entity waiting before phase.shown
  have entity := effect.entity
  rw [phase.enabled] at entity
  rw [← entity, pieces] at after
  -- The block around the largest missing register, which completes the collection.
  have place := List.mem_range'_1.mp (covered m own)
  have blockSplit := Ranges.range'_split g.startRegister g.registrarCount m place.1 place.2
  have known : ∀ j ∈ x.registrars, j = m ∨
      j ∈ List.range' g.startRegister (m - g.startRegister) ∨ waiting.received j = some (read j) := by
    intro j member
    have inside := List.mem_range'_1.mp (covered j member)
    -- Below it the poll has just delivered the word, above it the entity has waited with it.
    rcases Nat.lt_trichotomy j m with below | rfl | above
    · exact .inr (.inl (List.mem_range'_1.mpr (by omega)))
    · exact .inl rfl
    · have there : s.entity.received j ≠ none := by
        intro gone
        have bound := largest j member gone
        omega
      obtain ⟨w, held⟩ := Option.ne_none_iff_exists'.mp there
      have value := phase.waiting j member w held fun k other gone => by
        have bound := largest k other gone
        omega
      right; right
      change (s.entity.received j).map Word.value = some (read j)
      rw [held, Option.map_some, value]
      exact congrArg some (phase.passed j member).symm
  have given := foldl_collect_complete x.registrars read m own
    (List.range' g.startRegister (m - g.startRegister))
    (List.range' (m + 1) (g.startRegister + g.registrarCount - m - 1))
    (fun early => by have bound := List.mem_range'_1.mp early; omega)
    (fun late => by have bound := List.mem_range'_1.mp late; omega)
    waiting (by simp [waiting, missing]) known
  rw [← blockSplit] at given
  rw [after.shows _ given]
  exact congrArg x.convertValue (List.map_congr_left phase.passed)

/-- **No torn values while the polls are in phase**: in every sequence of polls and updates
whose polls each find nothing else than their own words above the missing registers, every
poll is followed by the value of its own words. -/
theorem events_whole (c : ModbusController) (x : BaseSensor) (enabled : Bool) (g : SensorGroup)
    (covered : ∀ r ∈ x.registrars, r ∈ g.block) (groups : List SensorGroup)
    (events : List SensorEvent)
    (phase : Along (eventStep c x enabled g) (PollInPhase c x enabled g) (start groups) events) :
    Along (eventStep c x enabled g) (Whole x g) (start groups) events := by
  apply along_of_invariant (I := Opened x) _ _ phase
  · intro s event t opened taken inPhase
    refine ⟨eventStep_opened c x enabled g s t event opened taken, ?_⟩
    cases event with
    | poll values => exact poll_whole c x enabled g covered s t values opened taken inPhase
    | update register value => trivial
  · obtain ⟨r, own⟩ := List.exists_mem_of_ne_nil _ x.registrars_ne
    exact ⟨r, own, rfl⟩

instance (s : DataRetrieval) (register : Nat) : Decidable (AboveMissing x s register) :=
  inferInstanceAs (Decidable (∀ m ∈ x.registrars, s.entity.received m = none → m < register))

instance (s : DataRetrieval) (values : List Nat) : Decidable (InPhase c x enabled g s values) :=
  decidable_of_iff
    (enabled = true ∧
      (∀ r ∈ x.registrars, ∀ w ∈ s.entity.received r, AboveMissing x s r →
        w.value = readValue g values r) ∧
      (∀ r ∈ x.registrars,
        (s.filtered c r ⟨readValue g values r, g.registerType⟩).value = readValue g values r) ∧
      (c.isGrid = true → 3014 ∈ x.registrars → ∀ w ∈ s.cacheGet c 3043, w.value ≠ 2))
    ⟨fun h => ⟨h.1, h.2.1, h.2.2.1, h.2.2.2⟩, fun h => ⟨h.enabled, h.waiting, h.passed, h.shown⟩⟩

instance (s : DataRetrieval) (event : SensorEvent) (t : DataRetrieval) :
    Decidable (PollInPhase c x enabled g s event t) :=
  match event with
  | .poll values => inferInstanceAs (Decidable (InPhase c x enabled g s values))
  | .update _ _ => isTrue trivial

instance (s : DataRetrieval) (event : SensorEvent) (t : DataRetrieval) :
    Decidable (Whole x g s event t) :=
  match event with
  | .poll values => inferInstanceAs (Decidable (t.entity.nativeValue =
      x.convertValue (x.registrars.map (readValue g values))))
  | .update _ _ => isTrue trivial

/-- Dispatch Power Target. -/
def dispatchPowerTarget : BaseSensor where
  id := 6
  registrars := [44106, 44107]
  registrars_ne := List.cons_ne_nil _ _
  multiplier := 10

/-- The remote dispatch state, holding registers 44100 to 44112. -/
def dispatchState : SensorGroup where
  id := 0
  sensors := (List.range' 44100 6).map .single ++ [dispatchPowerTarget] ++
    (List.range' 44108 5).map .single
  pollSpeed := .slow
  registerType := .holding

/-- The registers 44100 to 44112 with the power target in 44106 and 44107. -/
def dispatchValues (high low : Nat) : List Nat := [1, 5, 0, 0, 0, 2, high, low, 0, 10, 90, 20, 100]

/-- A write of 44106, and one of 44107 to what the next poll reads. -/
theorem events_whole_dispatch :
    Along (eventStep ⟨"192.168.1.10:502", 1, false, 0⟩ dispatchPowerTarget true dispatchState)
      (Whole dispatchPowerTarget dispatchState) (start [dispatchState])
      [.update 44106 1, .poll (dispatchValues 0 20), .update 44107 40, .poll (dispatchValues 0 40)] :=
  events_whole ⟨"192.168.1.10:502", 1, false, 0⟩ dispatchPowerTarget true dispatchState (by decide)
    [dispatchState] _ (by decide)

/-- 44107 is written on its own, and the poll completes the target with the written word. -/
theorem strayUpdate_tears :
    ¬ Along (eventStep ⟨"192.168.1.10:502", 1, false, 0⟩ dispatchPowerTarget true dispatchState)
      (Whole dispatchPowerTarget dispatchState) (start [dispatchState])
      [.update 44107 5, .poll (dispatchValues 0 20)] := by
  decide

end DataRetrieval

end HHModbus
