import HHModbus.Lib.Numerals
import HHModbus.SunsynkNewest

/-!
# Program times

A `TimeRWSensor` holds a time as `100 * hour + minute` and shows it as a text. What Home Assistant may
choose from are the texts of times between those of two other programs.
-/
namespace HHModbus

open Numerals Transition Addon

/-! ### Texts and registers -/

namespace SSTime

/-- The minutes that a text is parsed as; 0 if it is no time. -/
def ofString (value : String) : Int :=
  let hours := value.toList.takeWhile (· ≠ ':')
  -- `partition`: without a colon there are no minutes.
  let minutes := (value.toList.dropWhile (· ≠ ':')).tail
  match pythonInt hours, pythonInt minutes with
  | some h, some m => h * 60 + m
  | _, _ => 0

def ofRegister (regv : Nat) : Int := (regv / 100 : Nat) * 60 + (regv % 100 : Nat)

def regValue (minutes : Int) : Int := minutes / 60 * 100 + minutes % 60

/-- `f"{n:02}"`, of a number of at most two digits. -/
def twoDigits (n : Nat) : String := if n < 10 then "0" ++ toString n else toString n

def strValue (minutes : Int) : String :=
  toString (minutes / 60 % 24).toNat ++ ":" ++ twoDigits (minutes % 60).toNat

/-- Only the time of the day is shown. -/
theorem strValue_mod (minutes : Int) : strValue (minutes % 1440) = strValue minutes := by
  have hours : minutes % 1440 / 60 % 24 = minutes / 60 % 24 := by omega
  have rest : minutes % 1440 % 60 = minutes % 60 := by omega
  rw [strValue, strValue, hours, rest]

theorem pythonInt_hours :
    ∀ h : Nat, h < 24 → pythonInt (toString h).toList = some (h : Int) ∧ ':' ∉ (toString h).toList := by
  decide +kernel

theorem pythonInt_minutes : ∀ m : Nat, m < 60 → pythonInt (twoDigits m).toList = some (m : Int) := by
  decide +kernel

/-- A text is parsed as the time of the day that it shows. -/
theorem ofString_strValue (minutes : Int) : ofString (strValue minutes) = minutes % 1440 := by
  obtain ⟨h, hour, below⟩ : ∃ h : Nat, minutes / 60 % 24 = h ∧ h < 24 :=
    ⟨(minutes / 60 % 24).toNat, by omega, by omega⟩
  obtain ⟨m, minute, short⟩ : ∃ m : Nat, minutes % 60 = m ∧ m < 60 := ⟨(minutes % 60).toNat, by omega, by omega⟩
  obtain ⟨hourRead, plain⟩ := pythonInt_hours h below
  have text : (strValue minutes).toList = (toString h).toList ++ ':' :: (twoDigits m).toList := by
    simp [strValue, hour, minute]
  -- The colon is the first one, since there is none among the digits of the hour.
  have digits : ∀ c ∈ (toString h).toList, decide (c ≠ ':') = true := by
    intro c member
    exact decide_eq_true (ne_of_mem_of_not_mem member plain)
  have front : (strValue minutes).toList.takeWhile (· ≠ ':') = (toString h).toList := by
    rw [text, List.takeWhile_append_of_pos digits]
    simp
  have behind : ((strValue minutes).toList.dropWhile (· ≠ ':')).tail = (twoDigits m).toList := by
    rw [text, List.dropWhile_append_of_pos digits]
    simp
  simp only [ofString, front, behind, hourRead, pythonInt_minutes m short]
  omega

/-- A register of a time of the day is read as that time. -/
theorem ofRegister_regValue {minutes : Int} (low : 0 ≤ minutes) (high : minutes < 1440) :
    ∃ r : Nat, regValue minutes = r ∧ r < 65536 ∧ ofRegister r = minutes := by
  refine ⟨(minutes / 60 * 100 + minutes % 60).toNat, ?_, by omega, ?_⟩
  · unfold regValue
    omega
  · unfold ofRegister
    omega

end SSTime

/-! ### The sensors -/

theorem zero_lt_word : 0 < 65536 := by decide

/-- A `TimeRWSensor`; of those that bound it their registers and names matter. -/
structure TimeRWSensor where
  register : Nat
  name : String
  min : Option SensorKey := none
  max : Option SensorKey := none

/-- `str(state.get(sensor, "0:00"))`; a time shows a text, or nothing. -/
def InverterState.timeText (st : InverterState) (key : SensorKey) : String :=
  match st.values.find? fun entry => entry.1.key = key with
  | some (_, .str text) => text
  | some _ => "None"
  | none => "0:00"

namespace TimeRWSensor

/-- A number that does not fit a register is none that a request can carry. -/
def valueToReg (value : String) : Option (List Nat) :=
  let reg := SSTime.regValue (SSTime.ofString value)
  if 0 ≤ reg ∧ reg < 65536 then some [reg.toNat] else none

def regToValue (regs : List Nat) : ValType := .str (SSTime.strValue (SSTime.ofRegister (regs.headD 0)))

/-- What is written of a text of a time is shown as this text. -/
theorem valueToReg_strValue (minutes : Int) :
    ∃ r, valueToReg (SSTime.strValue minutes) = some [r] ∧ r < 65536 ∧
      regToValue [r] = .str (SSTime.strValue minutes) := by
  -- The text is parsed as the time of the day, which fits the register.
  have low : 0 ≤ minutes % 1440 := Int.emod_nonneg _ (by decide)
  have high : minutes % 1440 < 1440 := Int.emod_lt_of_pos _ (by decide)
  obtain ⟨r, value, word, back⟩ := SSTime.ofRegister_regValue low high
  refine ⟨r, ?_, word, ?_⟩
  · simp only [valueToReg, SSTime.ofString_strValue, value]
    rw [if_pos ⟨Int.natCast_nonneg r, by exact_mod_cast word⟩, Int.toNat_natCast]
  · rw [regToValue, List.headD_cons, back, SSTime.strValue_mod]

theorem ne_nil_of_valueToReg {value : String} {regs : List Nat} (written : valueToReg value = some regs) :
    regs ≠ [] := by
  simp only [valueToReg] at written
  split at written
  · cases written
    exact List.cons_ne_nil _ _
  · cases written

variable (x : TimeRWSensor)

def key : SensorKey := ([x.register], x.name)

def setting : Setting where
  address := [x.register]
  name := x.name
  bitmask := 0
  discrete := true
  regToValue := regToValue
  valueToReg value _ := valueToReg value
  nonempty _ _ _ := ne_nil_of_valueToReg
  single masked := absurd rfl masked
  fits := zero_lt_word

theorem setting_valueToReg (value : String) (st : InverterState) :
    x.setting.valueToReg value st = valueToReg value := rfl

/-- `minv`, and `maxv` before a day is added. -/
def bound (st : InverterState) : Option SensorKey → Int
  | some key => SSTime.ofString (st.timeText key)
  | none => 0

def maxBound (st : InverterState) : Int :=
  -- A range that ends before it starts goes on behind midnight.
  if bound st x.min ≥ bound st x.max then bound st x.max + 1440 else bound st x.max

/-- The steps of the day between the bounds, with these; for a step of a minute or more. -/
def between (stepMinutes : Nat) (minv maxv : Int) : List Int :=
  let day := ((List.range 1440).filter fun m => m % stepMinutes = 0).map Int.ofNat
  minv :: (day.filter fun v => v > minv ∧ v < maxv) ++ [maxv]

/-- What the options are made of, the current time included. -/
def availableMinutes (stepMinutes : Nat) (st : InverterState) : List Int :=
  let opt := between stepMinutes (bound st x.min) (x.maxBound st)
  let val := SSTime.ofString (st.timeText x.key)
  (if val ∈ opt then opt else opt ++ [val]).mergeSort

/-- `available_values`; `none`: a `range` whose step is 0 raises. -/
def availableValues (stepMinutes : Nat) (st : InverterState) : Option (List String) :=
  if stepMinutes = 0 then none else some ((x.availableMinutes stepMinutes st).map SSTime.strValue)

/-- The text is one of the options that the state and the step of minutes give. -/
def Offers (stepMinutes : Nat) (st : InverterState) (text : String) : Prop :=
  ∃ options, x.availableValues stepMinutes st = some options ∧ text ∈ options

variable {x}

theorem mem_availableMinutes {stepMinutes : Nat} {st : InverterState} {m : Int} :
    m ∈ x.availableMinutes stepMinutes st ↔
      m ∈ between stepMinutes (bound st x.min) (x.maxBound st) ∨ m = SSTime.ofString (st.timeText x.key) := by
  simp only [availableMinutes, List.mem_mergeSort]
  split
  case isTrue inside => exact ⟨.inl, fun either => either.elim id fun current => current ▸ inside⟩
  case isFalse => rw [List.mem_append, List.mem_singleton]

theorem offers_iff {stepMinutes : Nat} {st : InverterState} {text : String} :
    x.Offers stepMinutes st text ↔
      0 < stepMinutes ∧ ∃ m ∈ x.availableMinutes stepMinutes st, SSTime.strValue m = text := by
  unfold Offers availableValues
  by_cases none_ : stepMinutes = 0
  · simp [none_]
  · simp [none_, Nat.pos_iff_ne_zero]

/-- The time that is shown stays one of the options. -/
theorem offered_of_shown {st : InverterState} {s : StateSensor} {minutes : Int}
    (shown : (st.values.find? fun entry => entry.1.key = x.key) = some (s, .str (SSTime.strValue minutes)))
    (stepMinutes : Nat) (step : 0 < stepMinutes) : x.Offers stepMinutes st (SSTime.strValue minutes) := by
  have text : st.timeText x.key = SSTime.strValue minutes := by simp [InverterState.timeText, shown]
  -- A current time between the steps is added to the options.
  have current : SSTime.ofString (st.timeText x.key) ∈ x.availableMinutes stepMinutes st :=
    mem_availableMinutes.mpr (.inr rfl)
  refine offers_iff.mpr ⟨step, _, current, ?_⟩
  rw [text, SSTime.ofString_strValue, SSTime.strValue_mod]

theorem shown_of_holds {minutes : Int} {c : Connector} {unit a : Nat} {st : InverterState}
    (holds : c.Holds unit x.setting a (SSTime.strValue minutes) st) :
    x.setting.decode (c.unitRegisters unit) = .str (SSTime.strValue minutes) := by
  obtain ⟨regs, r, translated, pair, kept⟩ := holds
  obtain ⟨rfl, rest, rfl⟩ := mem_zip_single pair
  obtain ⟨w, written, word, back⟩ := valueToReg_strValue minutes
  rw [setting_valueToReg, written] at translated
  obtain ⟨rfl, rfl⟩ := List.cons.inj (Option.some.inj translated)
  have shown : x.setting.decode (c.unitRegisters unit) =
      regToValue [maskedWord x.setting.bitmask (c.units unit x.register).toNat] := decode_single rfl rfl
  have same : maskedWord x.setting.bitmask (c.units unit x.register).toNat =
      maskedWord x.setting.bitmask w := maskedWord_congr (BitVec.isLt _) word kept
  -- A time has no mask.
  have whole : maskedWord x.setting.bitmask w = w := rfl
  rw [shown, same, whole, back]

end TimeRWSensor

/-- The programs of a single-phase inverter, each between its neighbours. -/
def singlePhaseTimes : List TimeRWSensor := [
  { register := 250, name := "Prog1 Time", min := some ([255], "Prog6 Time"), max := some ([251], "Prog2 Time") },
  { register := 251, name := "Prog2 Time", min := some ([250], "Prog1 Time"), max := some ([252], "Prog3 Time") },
  { register := 252, name := "Prog3 Time", min := some ([251], "Prog2 Time"), max := some ([253], "Prog4 Time") },
  { register := 253, name := "Prog4 Time", min := some ([252], "Prog3 Time"), max := some ([254], "Prog5 Time") },
  { register := 254, name := "Prog5 Time", min := some ([253], "Prog4 Time"), max := some ([255], "Prog6 Time") },
  { register := 255, name := "Prog6 Time", min := some ([254], "Prog5 Time"), max := some ([250], "Prog1 Time") }]

theorem singlePhaseTimes_placed : ∀ x ∈ singlePhaseTimes, x.setting.place ∈ singlePhasePlaces := by
  decide +kernel

/-! ### Runs -/

/-- **A time that was offered is shown as it was chosen.** In every run over a connector whose requests
succeed, for commands to the settings of the single-phase map: when no command for a time waits and
nothing is under way, the unit of the inverter shows the newest time that was chosen, whenever it was
offered, and a state that shows this goes on offering it. -/
theorem newest_time_shown (options : ConnectorOptions) (own : Function.Injective options.modbusId)
    (a a' : Addon) (acts : List AddonAction) (idle : a.Idle) (run : exec (step options) a acts = some a')
    (map : ∀ j t w, .command j t w ∈ acts → t.place ∈ singlePhasePlaces)
    (one : ∀ j k t u v w, .command j t v ∈ acts → .command k u w ∈ acts → t.key = u.key → t = u)
    (calm : ∀ unit address value, .move unit address value ∈ acts →
      ∀ place ∈ singlePhasePlaces, place.2.2 ≠ 0 → address ∉ place.2.1)
    (success : ∀ r, .reply r ∈ acts → r.Succeeds) (i : Nat) (x : TimeRWSensor) (text : String)
    (given : .command i x.setting text ∈ acts) (stepMinutes : Nat) (seen : InverterState)
    (offered : x.Offers stepMinutes seen text)
    (still : ∀ value, .move (options.modbusId i) x.register value ∉ acts)
    (newest : (commandsOf i x.setting.key (happened options a acts)).getLast? = some text)
    (begun : a'.waiting i x.setting.key = []) (finished : a'.connector.job = none) :
    x.setting.decode (a'.connector.unitRegisters (options.modbusId i)) = .str text ∧
      ∀ (st : InverterState) (s : StateSensor) (stepMinutes : Nat), 0 < stepMinutes →
        (st.values.find? fun entry => entry.1.key = x.key) =
          some (s, x.setting.decode (a'.connector.unitRegisters (options.modbusId i))) →
        x.Offers stepMinutes st text := by
  obtain ⟨-, minutes, -, rfl⟩ := TimeRWSensor.offers_iff.mp offered
  -- The text of an offered time never raises, in whatever state it is written.
  have translates (st : InverterState) : x.setting.valueToReg (SSTime.strValue minutes) st ≠ none := by
    obtain ⟨r, written, -, -⟩ := TimeRWSensor.valueToReg_strValue minutes
    rw [TimeRWSensor.setting_valueToReg, written]
    exact Option.some_ne_none _
  obtain ⟨st, holds⟩ :=
    holds_newest own idle run map one calm success given rfl still translates newest begun finished
  have shown := TimeRWSensor.shown_of_holds holds
  refine ⟨shown, ?_⟩
  intro st s stepMinutes step known
  rw [shown] at known
  exact TimeRWSensor.offered_of_shown known stepMinutes step

def firstTime : TimeRWSensor := singlePhaseTimes.get ⟨0, by decide⟩

/-- The first program is moved to a quarter past nine while half past eight is being written. -/
def movedTime : List AddonAction := [
  .command 0 firstTime.setting "8:30", .call 0, .connected 0 true, .next 0 [], .lock 0,
  .command 0 firstTime.setting "9:15", .reply (.returned true), .lock 0, .reply (.words 1),
  .next 0 [], .lock 0, .reply (.returned true)]

theorem movedTime_runs : (exec (step Connector.twoInverters) idleAddon movedTime).isSome = true := by
  decide +kernel

def afterMove : Addon := (exec (step Connector.twoInverters) idleAddon movedTime).get movedTime_runs

theorem movedTime_run : exec (step Connector.twoInverters) idleAddon movedTime = some afterMove :=
  (Option.some_get movedTime_runs).symm

theorem newest_time_shown_moved :
    firstTime.setting.decode (afterMove.connector.unitRegisters 1) = .str "9:15" := by
  have only {j : Nat} {t : Setting} {w : String} (member : .command j t w ∈ movedTime) :
      t = firstTime.setting := by
    simp only [movedTime, List.mem_cons, AddonAction.command.injEq, reduceCtorEq, List.not_mem_nil,
      or_false, false_or] at member
    rcases member with ⟨-, rfl, -⟩ | ⟨-, rfl, -⟩ <;> rfl
  have success (r : DriverReply) (member : .reply r ∈ movedTime) : r.Succeeds := by
    simp only [movedTime, List.mem_cons, AddonAction.reply.injEq, reduceCtorEq, List.not_mem_nil,
      or_false, false_or] at member
    rcases member with rfl | rfl | rfl <;> simp [DriverReply.Succeeds]
  have newest : (commandsOf 0 ([250], "Prog1 Time")
      (happened Connector.twoInverters idleAddon movedTime)).getLast? = some "9:15" := by decide +kernel
  have inMap : firstTime.setting.place ∈ singlePhasePlaces := singlePhaseTimes_placed _ (List.get_mem _ _)
  -- Before any reading the bounds are both midnight, so that all of the day is offered.
  have inside : 555 ∈ TimeRWSensor.between 15 0 1440 := by decide +kernel
  have offered : firstTime.Offers 15 InverterState.initial "9:15" :=
    TimeRWSensor.offers_iff.mpr
      ⟨by decide, 555, TimeRWSensor.mem_availableMinutes.mpr (.inl inside), by decide +kernel⟩
  have begun : afterMove.waiting 0 ([250], "Prog1 Time") = [] := by decide +kernel
  have finished : afterMove.connector.job.isNone = true := by decide +kernel
  exact (newest_time_shown Connector.twoInverters (add_left_injective 1) idleAddon afterMove movedTime
    idle_idleAddon movedTime_run
    (fun j t w member => only member ▸ inMap)
    (fun j k t u v w first second _ => (only first).trans (only second).symm)
    (fun unit address value member => by simp [movedTime] at member) success 0 firstTime "9:15"
    (by simp [movedTime]) 15 InverterState.initial offered
    (fun value member => by simp [movedTime] at member) newest begun
    (Option.isNone_iff_eq_none.mp finished)).1

end HHModbus
