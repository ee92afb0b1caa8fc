import HHModbus.Lib.Debounce
import HHModbus.SolisSensor

/-!
# The spike filter over a run of readings

What `spike_filtering` makes of all the readings of a register, one poll after the other.
-/
namespace HHModbus

open Debounce

variable (c : ModbusController) (x : BaseSensor) (enabled : Bool)

/-- The readings of a battery SOC that may be spikes. -/
def hardEdge (value : Nat) : Bool := value == 0 || value == 100

/-- The readings of the backup load power that are not plausible. -/
def implausibleLoad (value : Nat) : Bool :=
  65000 ≤ value || max 10000 (c.wattageChosen * 2) < value

/-- What the filter suspects of each register that has one. -/
def suspectReading (register : Nat) : Option (Nat → Bool) :=
  if register = 33139 then some hardEdge
  else if register = 33148 then some (implausibleLoad c)
  else none

namespace DataRetrieval

/-- Successive readings of one register. -/
def readAll (s : DataRetrieval) (register : Nat) (readings : List Nat) : DataRetrieval :=
  readings.foldl (fun s v => s.applyRegister c x enabled register ⟨v, .input⟩) s

/-- The value cached after these readings, from an empty cache on. -/
def cachedAfter (groups : List SensorGroup) (register : Nat) (readings : List Nat) : Option Nat :=
  (((start groups).readAll c x enabled register readings).cacheGet c register).map Word.value

/-- The counter and the cache entry of a register, as a filter. -/
def filterOf (s : DataRetrieval) (register : Nat) : Debounce.Filter Nat :=
  ⟨s.spikeCounter register, (s.cacheGet c register).map Word.value⟩

theorem filterOf_applyRegister {register : Nat} {suspect : Nat → Bool}
    (filtered : suspectReading c register = some suspect) (s : DataRetrieval) (v : Nat) :
    (s.applyRegister c x enabled register ⟨v, .input⟩).filterOf c register =
      (s.filterOf c register).feed suspect 3 v := by
  -- Both registers with a filter count and hold in the same way.
  have spike : s.spikeFiltering c register ⟨v, .input⟩ =
      s.holdSpike c register ⟨v, .input⟩ (suspect v) := by
    unfold suspectReading at filtered
    unfold spikeFiltering
    split at filtered
    next soc =>
      rw [if_pos soc, ← Option.some.inj filtered]
      rfl
    next other =>
      rw [if_neg other]
      split at filtered
      next load =>
        rw [if_pos load, ← Option.some.inj filtered]
        rfl
      next => cases filtered
  have count : (s.applyRegister c x enabled register ⟨v, .input⟩).spikeCounter register =
      (s.spikeFiltering c register ⟨v, .input⟩).1 := by
    rw [applyRegister_eq]
    exact Function.update_self ..
  rw [filterOf, count, applyRegister_cacheGet, if_pos rfl, DataRetrieval.filtered, spike]
  unfold holdSpike Filter.feed
  by_cases suspicious : suspect v = true
  · rw [if_pos suspicious, if_pos suspicious]
    by_cases more : (s.filterOf c register).count + 1 < 3
    · have more' : s.spikeCounter register + 1 < 3 := more
      rw [if_pos more, if_pos more']
      cases cached : s.cacheGet c register <;> simp [filterOf, cached]
    · have full : ¬ s.spikeCounter register + 1 < 3 := more
      rw [if_neg more, if_neg full]
      rfl
  · rw [if_neg suspicious, if_neg suspicious]
    rfl

/-- The filter of a register is a debouncer of its readings. -/
theorem filterOf_readAll {register : Nat} {suspect : Nat → Bool}
    (filtered : suspectReading c register = some suspect) (groups : List SensorGroup)
    (readings : List Nat) :
    ((start groups).readAll c x enabled register readings).filterOf c register =
      Debounce.run suspect 3 readings := by
  induction readings using List.reverseRecOn with
  | nil => rfl
  | append_singleton readings v ih =>
    rw [run_concat, ← ih, readAll, List.foldl_append]
    exact filterOf_applyRegister c x enabled filtered _ v

theorem cachedAfter_eq {register : Nat} {suspect : Nat → Bool}
    (filtered : suspectReading c register = some suspect) (groups : List SensorGroup)
    (readings : List Nat) :
    cachedAfter c x enabled groups register readings = (Debounce.run suspect 3 readings).held :=
  congrArg Filter.held (filterOf_readAll c x enabled filtered groups readings)

/-! ### Spikes of the battery SOC -/

/-- What the filter promises for the readings of register 33139. -/
structure SpikesFiltered (groups : List SensorGroup) (readings : List Nat) : Prop where
  /-- An edge reading takes the place of another value only as the third of its kind in a row. -/
  replaced : ∀ before v old, before ++ [v] <+: readings → hardEdge v = true →
    cachedAfter c x enabled groups 33139 before = some old → old ≠ v →
    cachedAfter c x enabled groups 33139 (before ++ [v]) = some v → [v, v] <:+ before
  passed : ∀ before v, before ++ [v] <+: readings → hardEdge v = false →
    cachedAfter c x enabled groups 33139 (before ++ [v]) = some v
  settles : ∀ before v, before ++ [v, v, v] <+: readings → hardEdge v = true →
    cachedAfter c x enabled groups 33139 (before ++ [v, v, v]) = some v

/-- In each stretch of edge readings, counted in threes, the third reading equals the two before it
or the one three before it; at the very start, the first one. -/
def ThreesAgree (readings : List Nat) : Prop :=
  ∀ before u w v, before ++ [u, w, v] <+: readings → hardEdge v = true →
    streak hardEdge (before ++ [u, w, v]) % 3 = 0 →
    (u = v ∧ w = v) ∨ before.getLast?.getD u = v

variable {c x enabled}

private theorem cachedSoc (groups : List SensorGroup) (readings : List Nat) :
    cachedAfter c x enabled groups 33139 readings = (Debounce.run hardEdge 3 readings).held :=
  cachedAfter_eq c x enabled rfl groups readings

/-- Before the third reading of three, the one in use is the one before the three. -/
private theorem held_second {before : List Nat} {u w : Nat} (whole : streak hardEdge before % 3 = 0)
    (edges : ∀ e ∈ [u, w], hardEdge e = true) :
    (Debounce.run hardEdge 3 (before ++ [u, w])).held = some (before.getLast?.getD u) := by
  rw [run_append_of_short (by decide) before [u, w] whole edges (Nat.lt_succ_self 2)]
  cases before.getLast? <;> rfl

/-- A reading that ends a stretch of whole threes has two edge readings before it. -/
private theorem edges_of_whole {before : List Nat} {u w v : Nat} (edge : hardEdge v = true)
    (whole : streak hardEdge (before ++ [u, w, v]) % 3 = 0) :
    (∀ e ∈ [u, w], hardEdge e = true) ∧ streak hardEdge before % 3 = 0 := by
  have parts : before ++ [u, w, v] = before ++ [u] ++ [w] ++ [v] := by simp
  rw [parts, streak_concat, if_pos edge, streak_concat] at whole
  by_cases second : hardEdge w = true
  · rw [if_pos second, streak_concat] at whole
    by_cases first : hardEdge u = true
    · rw [if_pos first] at whole
      exact ⟨by simp [first, second], by omega⟩
    · rw [if_neg first] at whole
      cases whole
  · rw [if_neg second] at whole
    cases whole

/-- **When the battery SOC is filtered as promised**: exactly when the threes of edge readings
agree. -/
theorem spikesFiltered_iff (groups : List SensorGroup) (readings : List Nat) :
    SpikesFiltered c x enabled groups readings ↔ ThreesAgree readings := by
  constructor
  · intro promised before u w v within edge whole
    obtain ⟨edges, earlier⟩ := edges_of_whole edge whole
    have parts : before ++ [u, w] ++ [v] = before ++ [u, w, v] := by simp
    by_cases same : before.getLast?.getD u = v
    · exact .inr same
    · left
      -- The third reading is used, whatever its value.
      have used : cachedAfter c x enabled groups 33139 (before ++ [u, w] ++ [v]) = some v := by
        rw [cachedSoc, parts, run_of_whole (by decide) _ whole]
        simp
      have cached : cachedAfter c x enabled groups 33139 (before ++ [u, w]) = _ :=
        (cachedSoc groups _).trans (held_second earlier edges)
      have third := promised.replaced (before ++ [u, w]) v _ (parts ▸ within) edge cached same used
      obtain ⟨front, equal⟩ := third
      have tails := List.append_inj_right' equal rfl
      simp only [List.cons.injEq, and_true] at tails
      exact ⟨tails.1.symm, tails.2.symm⟩
  · intro agree
    refine ⟨?_, ?_, ?_⟩
    · intro before v old within edge cached different used
      rw [cachedSoc] at cached used
      rw [run_concat, Filter.feed, if_pos edge, cached, count_run (by decide)] at used
      -- The reading is used, so it is the third since the count began.
      have third : ¬ streak hardEdge before % 3 + 1 < 3 := by
        intro more
        rw [if_pos more] at used
        exact different (Option.some.inj used)
      have two : 2 ≤ streak hardEdge before := by omega
      obtain ⟨front, window, rfl, length, edges, rest⟩ := exists_window before 2 two
      obtain ⟨u, w, rfl⟩ := List.length_eq_two.mp length
      have parts : front ++ [u, w] ++ [v] = front ++ [u, w, v] := by simp
      have whole : streak hardEdge (front ++ [u, w, v]) % 3 = 0 := by
        rw [← parts, streak_concat, if_pos edge]
        omega
      have inUse : some old = some (front.getLast?.getD u) :=
        cached.symm.trans (held_second (by omega) edges)
      rcases agree front u w v (parts ▸ within) edge whole with ⟨rfl, rfl⟩ | same
      · exact List.suffix_append front _
      · exact absurd ((Option.some.inj inUse).trans same) different
    · intro before v _ passes
      rw [cachedSoc]
      exact held_of_trusted before v passes
    · intro before v _ edge
      rw [cachedSoc]
      exact held_of_persistent (by decide) before v edge

/-- The SOC has stood at 100 for two polls, and the next reading is a spike of 0. -/
theorem spike_after_full_used :
    ¬ SpikesFiltered ⟨"192.168.1.10:502", 1, false, 5000⟩ (.single 33139) true [] [100, 100, 0] := by
  intro promised
  have cached (readings : List Nat) :
      cachedAfter ⟨"192.168.1.10:502", 1, false, 5000⟩ (.single 33139) true [] 33139 readings = _ :=
    cachedSoc [] readings
  have third := promised.replaced [100, 100] 0 100 (List.prefix_refl _) rfl (cached _) (by decide)
    (cached _)
  exact absurd third (by decide)

end DataRetrieval

end HHModbus
