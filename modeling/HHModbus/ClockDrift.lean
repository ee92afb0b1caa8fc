import HHModbus.Controller
import HHModbus.Lib.Debounce
import HHModbus.Lib.Keys
import Mathlib.Algebra.GroupWithZero.Nat
import Mathlib.Logic.Function.Basic

/-!
# The clock correction

`clock_drift_test`: how far the inverter's clock is off, the counters by which it waits for
seven cycles in a row, and the time it then writes. All controllers count in one dictionary.
-/
namespace HHModbus

open Debounce

/-! ### Dates and times -/

def isLeap (year : Nat) : Bool := year % 4 == 0 && (year % 100 != 0 || year % 400 == 0)

def daysInMonth (year month : Nat) : Nat :=
  match month with
  | 2 => if isLeap year then 29 else 28
  | 4 | 6 | 9 | 11 => 30
  | _ => 31

/-- What the constructor of `datetime` accepts; anything else raises `ValueError`. -/
def validTime (year month day hour minute second : Nat) : Prop :=
  (1 ≤ year ∧ year ≤ 9999) ∧ (1 ≤ month ∧ month ≤ 12) ∧ (1 ≤ day ∧ day ≤ daysInMonth year month) ∧
    hour < 24 ∧ minute < 60 ∧ second < 60

instance (year month day hour minute second : Nat) :
    Decidable (validTime year month day hour minute second) :=
  inferInstanceAs (Decidable (_ ∧ _))

/-- A `datetime`, in the time zone of Home Assistant. -/
structure DateTime where
  year : Nat
  month : Nat
  day : Nat
  hour : Nat
  minute : Nat
  second : Nat
  microsecond : Nat
  valid : validTime year month day hour minute second
  fraction : microsecond < 1000000

namespace DateTime

def ofFields (year month day hour minute second : Nat) : Option DateTime :=
  if valid : validTime year month day hour minute second then
    some { year, month, day, hour, minute, second, microsecond := 0, valid, fraction := by decide }
  else none

def daysBeforeYear (year : Nat) : Nat :=
  (year - 1) * 365 + (year - 1) / 4 - (year - 1) / 100 + (year - 1) / 400

def daysBeforeMonth (year month : Nat) : Nat :=
  ((List.range' 1 (month - 1)).map (daysInMonth year)).sum

def toOrdinal (t : DateTime) : Nat :=
  daysBeforeYear t.year + daysBeforeMonth t.year t.month + t.day

def microseconds (t : DateTime) : Nat :=
  (((t.toOrdinal * 24 + t.hour) * 60 + t.minute) * 60 + t.second) * 1000000 + t.microsecond

/-- The absolute value of `t - u`. Both have one time zone, so the clock times are compared. -/
def distance (t u : DateTime) : Nat := ((t.microseconds : Int) - u.microseconds).natAbs

end DateTime

/-! ### The test -/

/-- The contents of the registers 33022 to 33027. -/
structure RtcWords where
  year : Nat
  month : Nat
  day : Nat
  hours : Nat
  minutes : Nat
  seconds : Nat

/-- `register_cache_key`, with a register number or another last part. -/
def cacheKeyText (connectionId : String) (deviceId : Nat) (register : String) : String :=
  connectionId ++ "|" ++ toString deviceId ++ "|" ++ register

/-- `total_drift` in microseconds; `none` is infinite. -/
def totalDrift (now : DateTime) (rtc : RtcWords) : Option Nat :=
  (DateTime.ofFields (2000 + rtc.year) rtc.month rtc.day rtc.hours rtc.minutes rtc.seconds).map
    now.distance

/-- More than 60 seconds. -/
def drifted (now : DateTime) (rtc : RtcWords) : Bool :=
  match totalDrift now rtc with
  | none => true
  | some drift => 60000000 < drift

def rtcWords (now : DateTime) : RtcWords where
  year := now.year % 100
  month := now.month
  day := now.day
  hours := now.hour
  minutes := now.minute
  seconds := now.second

def RtcWords.values (rtc : RtcWords) : List Nat :=
  [rtc.year, rtc.month, rtc.day, rtc.hours, rtc.minutes, rtc.seconds]

/-- `hass.data[DOMAIN][DRIFT_COUNTER]`. -/
abbrev DriftCounters := String → Option Nat

/-- `clock_drift_test`: the counters after it, and the write it creates a task for. -/
def clockDriftTest (counters : DriftCounters) (key : String) (connected : Bool) (now : DateTime)
    (rtc : RtcWords) : DriftCounters × Option WriteRequest :=
  let driftCounter := (counters key).getD 0
  if drifted now rtc then
    if 5 < driftCounter then
      -- The counter stays until a call finds no drift.
      (counters, if connected then some (.multiple 43000 (rtcWords now).values) else none)
    else (Function.update counters key (some (driftCounter + 1)), none)
  else (Function.update counters key (some 0), none)

theorem clockDriftTest_counter (counters : DriftCounters) (key : String) (connected : Bool)
    (now : DateTime) (rtc : RtcWords) :
    ((clockDriftTest counters key connected now rtc).1 key).getD 0 =
      if drifted now rtc then
        if 5 < (counters key).getD 0 then (counters key).getD 0 else (counters key).getD 0 + 1
      else 0 := by
  simp only [clockDriftTest]
  split
  · split
    · rfl
    · simp
  · simp

theorem clockDriftTest_of_ne (counters : DriftCounters) {key other : String} (apart : other ≠ key)
    (connected : Bool) (now : DateTime) (rtc : RtcWords) :
    (clockDriftTest counters key connected now rtc).1 other = counters other := by
  simp only [clockDriftTest]
  split
  · split
    · rfl
    · exact Function.update_of_ne apart ..
  · exact Function.update_of_ne apart ..

/-! ### Any number of inverters -/

/-- Controllers that differ in their connection or in their slave. -/
structure Controllers (κ : Type*) where
  connectionId : κ → String
  deviceId : κ → Nat
  distinct : Function.Injective fun c => (connectionId c, deviceId c)

/-- A call of `clock_drift_test` for a controller. -/
structure DriftCall (κ : Type*) where
  controller : κ
  connected : Bool
  now : DateTime
  rtc : RtcWords

def DriftCall.drifted {κ : Type*} (call : DriftCall κ) : Bool :=
  HHModbus.drifted call.now call.rtc

variable {κ : Type*}

namespace Controllers

variable (cs : Controllers κ)

def driftKey (c : κ) : String := cacheKeyText (cs.connectionId c) (cs.deviceId c) "drift"

def test (counters : DriftCounters) (call : DriftCall κ) : DriftCounters × Option WriteRequest :=
  clockDriftTest counters (cs.driftKey call.controller) call.connected call.now call.rtc

/-- The counters after some calls, from no counters. -/
def counters (calls : List (DriftCall κ)) : DriftCounters :=
  calls.foldl (fun counters call => (cs.test counters call).1) fun _ => none

end Controllers

theorem cacheKeyText_inj {connectionId connectionId' register : String} {deviceId deviceId' : Nat} :
    cacheKeyText connectionId deviceId register = cacheKeyText connectionId' deviceId' register ↔
      connectionId = connectionId' ∧ deviceId = deviceId' := by
  constructor
  · intro same
    have letters := congrArg String.toList same
    simp only [cacheKeyText, String.toList_append, List.append_left_inj] at letters
    have parts : connectionId.toList ++ '|' :: (toString deviceId).toList =
        connectionId'.toList ++ '|' :: (toString deviceId').toList := by
      simpa using letters
    -- A connection may contain the separator, a slave does not: the last one splits the key.
    have digits (n : Nat) : '|' ∉ (toString n).toList := Keys.notMem_toString (by decide) n
    obtain ⟨connections, slaves⟩ := Keys.last_separator_inj (digits _) (digits _) parts
    exact ⟨String.ext connections, Keys.toString_nat_injective (String.ext slaves)⟩
  · rintro ⟨rfl, rfl⟩
    rfl

namespace Controllers

variable (cs : Controllers κ)

theorem driftKey_injective : Function.Injective cs.driftKey := by
  intro c d same
  obtain ⟨connections, slaves⟩ := cacheKeyText_inj.mp same
  exact cs.distinct (Prod.ext connections slaves)

variable [DecidableEq κ]

/-- The calls for a controller, oldest first. -/
def callsOf (c : κ) (calls : List (DriftCall κ)) : List (DriftCall κ) :=
  calls.filter fun call => call.controller = c

/-- A controller's counter is the length of its streak, up to six. -/
theorem counter_eq_streak (calls : List (DriftCall κ)) (c : κ) :
    ((cs.counters calls) (cs.driftKey c)).getD 0 =
      min 6 (streak DriftCall.drifted (callsOf c calls)) := by
  induction calls using List.reverseRecOn with
  | nil => rfl
  | append_singleton calls call ih =>
    have after : cs.counters (calls ++ [call]) = (cs.test (cs.counters calls) call).1 := by
      rw [counters, List.foldl_append]
      rfl
    rw [after]
    by_cases own : call.controller = c
    · -- The newest call of the controller itself: one step of the streak.
      subst own
      have newest : callsOf call.controller (calls ++ [call]) =
          callsOf call.controller calls ++ [call] := by
        simp [callsOf]
      rw [newest, streak_concat, test, clockDriftTest_counter, ih, DriftCall.drifted]
      split
      · split
        · omega
        · omega
      · rfl
    · -- The counter of another controller stands under another key.
      have same : callsOf c (calls ++ [call]) = callsOf c calls := by
        simp [callsOf, own]
      have apart : cs.driftKey c ≠ cs.driftKey call.controller :=
        fun same => own (cs.driftKey_injective same).symm
      rw [same, test, clockDriftTest_of_ne _ apart]
      exact ih

/-- The call and the six calls before it for the same controller all found a drift. -/
def SevenDrifted (calls : List (DriftCall κ)) (call : DriftCall κ) : Prop :=
  call.drifted = true ∧ ∃ before window, callsOf call.controller calls = before ++ window ∧
    window.length = 6 ∧ ∀ earlier ∈ window, earlier.drifted = true

/-- What a call writes, by the history of its controller. -/
theorem test_writes_iff (calls : List (DriftCall κ)) (call : DriftCall κ) (w : WriteRequest) :
    (cs.test (cs.counters calls) call).2 = some w ↔
      w = .multiple 43000 (rtcWords call.now).values ∧ call.connected = true ∧
        SevenDrifted calls call := by
  -- Six drifts in a row before this call are what the counter tells.
  have waited : 5 < ((cs.counters calls) (cs.driftKey call.controller)).getD 0 ↔
      6 ≤ streak DriftCall.drifted (callsOf call.controller calls) := by
    rw [cs.counter_eq_streak]
    omega
  rw [le_streak_iff] at waited
  unfold test clockDriftTest SevenDrifted
  dsimp only
  rw [← waited, ← DriftCall.drifted]
  by_cases drifts : call.drifted = true
  · rw [if_pos drifts]
    by_cases late : 5 < ((cs.counters calls) (cs.driftKey call.controller)).getD 0
    · rw [if_pos late]
      by_cases up : call.connected = true
      · simp [up, drifts, late, eq_comm]
      · simp [up]
    · simp [late]
  · simp [drifts]

end Controllers

/-- The words written are the time they were written at, without its fraction of a second. -/
theorem totalDrift_rtcWords (now : DateTime) (from2000 : 2000 ≤ now.year)
    (to2099 : now.year ≤ 2099) : totalDrift now (rtcWords now) = some now.microsecond := by
  -- The clock has two digits for the year.
  have year : 2000 + now.year % 100 = now.year := by omega
  have made : DateTime.ofFields (2000 + (rtcWords now).year) (rtcWords now).month (rtcWords now).day
      (rtcWords now).hours (rtcWords now).minutes (rtcWords now).seconds =
        some { now with microsecond := 0, fraction := by decide } := by
    simp only [rtcWords, year]
    exact dif_pos now.valid
  rw [totalDrift, made, Option.map_some, DateTime.distance]
  simp only [DateTime.microseconds, DateTime.toOrdinal]
  congr 1
  omega

/-- **When the clock is corrected**: a call writes the time exactly when its controller is connected
and has drifted in seven calls of its own in a row; between 2000 and 2099 the drift is then less
than a second. -/
theorem clock_corrected [DecidableEq κ] (cs : Controllers κ) :
    (∀ (calls : List (DriftCall κ)) (call : DriftCall κ) (w : WriteRequest),
      (cs.test (cs.counters calls) call).2 = some w ↔
        w = .multiple 43000 (rtcWords call.now).values ∧ call.connected = true ∧
          Controllers.SevenDrifted calls call) ∧
      ∀ now : DateTime, 2000 ≤ now.year → now.year ≤ 2099 →
        ∃ drift, totalDrift now (rtcWords now) = some drift ∧ drift < 1000000 :=
  ⟨cs.test_writes_iff, fun now from2000 to2099 =>
    ⟨now.microsecond, totalDrift_rtcWords now from2000 to2099, now.fraction⟩⟩

/-- The slaves 1 and 2 on one link. -/
def twoSlaves : Controllers Bool where
  connectionId _ := "10.0.0.5:502"
  deviceId second := if second then 2 else 1
  distinct := by
    intro b c same
    revert same
    cases b <;> cases c <;> simp

/-- One minute past noon on the first of May. -/
def pastNoon : DateTime where
  year := 2024
  month := 5
  day := 1
  hour := 12
  minute := 1
  second := 0
  microsecond := 0
  valid := by decide
  fraction := by decide

/-- The clock of the slave 2 is 60 s behind. -/
def minuteBehind : DriftCall Bool := ⟨true, true, pastNoon, ⟨24, 5, 1, 12, 0, 0⟩⟩

/-- That of the slave 1 is 61 s behind. -/
def driftedBehind : DriftCall Bool := ⟨false, true, pastNoon, ⟨24, 5, 1, 11, 59, 59⟩⟩

/-- It shows the 30th of February. -/
def impossibleDate : DriftCall Bool := ⟨false, true, pastNoon, ⟨24, 2, 30, 12, 1, 0⟩⟩

/-- Six drifts of the slave 1 among the calls for the slave 2. -/
def interleaved : List (DriftCall Bool) :=
  [driftedBehind, minuteBehind, impossibleDate, driftedBehind, minuteBehind, driftedBehind, impossibleDate,
    minuteBehind, driftedBehind]

theorem clock_corrected_twoSlaves :
    (twoSlaves.test (twoSlaves.counters interleaved) impossibleDate).2 =
        some (.multiple 43000 [24, 5, 1, 12, 1, 0]) ∧
      (twoSlaves.test (twoSlaves.counters interleaved) minuteBehind).2 = none ∧
      ∃ drift, totalDrift pastNoon ⟨24, 5, 1, 12, 1, 0⟩ = some drift ∧ drift < 1000000 := by
  obtain ⟨writes, kept⟩ := clock_corrected twoSlaves
  refine ⟨?_, ?_, kept pastNoon (by decide) (by decide)⟩
  · rw [writes]
    refine ⟨rfl, rfl, by decide, [], [driftedBehind, impossibleDate, driftedBehind, driftedBehind,
      impossibleDate, driftedBehind], rfl, rfl, by decide⟩
  · -- 60 s are not more than 60 s.
    rw [Option.eq_none_iff_forall_ne_some]
    intro w written
    have drifts := ((writes interleaved minuteBehind w).mp written).2.2.1
    exact absurd drifts (by decide)

end HHModbus
