import Mathlib.Algebra.BigOperators.Group.List.Basic
import Mathlib.Algebra.Order.Ring.Rat
import HHModbus.SunsynkOptions
import HHModbus.SunsynkState

/-!
# Reports of the addon

At the end of `callback_sensor` the values of the sensors that were read are published if they have
changed enough, and those whose time has come in any case: a number as the average of its readings.
-/
namespace HHModbus

/-- `sum(history) / len(history)`. -/
def mean (l : List ℚ) : ℚ := l.sum / l.length

/-- `significant_change`; `none` is the `NotImplementedError`. -/
def Schedule.significantChange (sch : Schedule) (history : List ℚ) (last : ℚ) : Option Bool :=
  if sch.changeAny then none
  else if history = [] then some false
  else
    let avg := mean history
    let chg := |avg * sch.changePercent / 100|
    some ((sch.changeBy ≠ 0 ∧ sch.changeBy ≤ |last - avg|) ∨
      (sch.changePercent ≠ 0 ∧ (avg + chg < last ∨ last < avg - chg)))

theorem Schedule.significantChange_isSome (sch : Schedule) (average : sch.changeAny = false) (history : List ℚ)
    (last : ℚ) : (sch.significantChange history last).isSome := by
  unfold significantChange
  rw [average]
  split
  · contradiction
  · split <;> rfl

namespace InverterState

/-- The check of a sensor that was read, and what is to be published; an outer `none` is the
`IndexError` of a history without readings. -/
def checkChange (sch : Schedule) (st : InverterState) (key : SensorKey) :
    InverterState × Option (Option ValType) :=
  match st.historynn key, st.history key with
  -- A sensor that is not numeric: `historynn` has its last two values.
  | some hist, _ => (st, some (if hist.head? ≠ hist.getLast? ∧ sch.changeAny then hist.getLast? else none))
  | none, none =>
    -- It becomes one of these with its first check, whether it has been read or not.
    if sch.changeAny then
      ({ st with historynn := Function.update st.historynn key (some [.none, .none]) }, some none)
    else (st, some none)
  | none, some hist =>
    if sch.changeAny then
      -- From now on the sensor is among those that are not numeric.
      let popped := { st with history := Function.update st.history key none }
      match hist.getLast? with
      | none => (popped, none)
      | some last =>
        ({ popped with historynn := Function.update st.historynn key (some [.none, .num last]) },
          some (some (.num last)))
    else
      match hist.getLast? with
      | none => (st, none)
      | some last =>
        -- The last reading is compared with the average of those before it.
        match sch.significantChange hist.dropLast last with
        | none => (st, none)
        | some false => (st, some none)
        | some true =>
          ({ st with history := Function.update st.history key (some [last]) }, some (some (.num last)))

/-- The report of a sensor whose time has come. -/
def fixedReport (st : InverterState) (key : SensorKey) : InverterState × Option ValType :=
  match st.historynn key, st.history key with
  | some hist, _ => (st, hist.getLast?)
  | none, some (hist0 :: hist) =>
    -- The first entry stands for what was published before, and does not count for the average.
    if hist = [] then (st, some (.num hist0))
    else ({ st with history := Function.update st.history key (some [mean hist]) }, some (.num (mean hist)))
  | none, _ =>
    -- The `defaultdict` keeps the empty list that it was asked for.
    ({ st with history := Function.update st.history key (some []) }, none)

end InverterState

/-- The loops over the sensors, up to an exception. -/
structure Publishing where
  state : InverterState
  pub : List (SensorKey × ValType)
  raised : Bool

namespace Publishing

def check (schedule : SensorKey → Schedule) (p : Publishing) (key : SensorKey) : Publishing :=
  if p.raised then p
  else match p.state.checkChange (schedule key) key with
    | (st, none) => { p with state := st, raised := true }
    | (st, some value) => { p with state := st, pub := p.pub ++ (value.map fun v => (key, v)).toList }

def report (p : Publishing) (key : SensorKey) : Publishing :=
  -- What a check publishes already is not reported once more.
  if p.raised ∨ key ∈ p.pub.map Prod.fst then p
  else
    let (st, value) := p.state.fixedReport key
    { p with state := st, pub := p.pub ++ (value.map fun v => (key, v)).toList }

end Publishing

/-- The end of a callback that has read some sensors, at a time at which some are due. -/
def publishing (schedule : SensorKey → Schedule) (st : InverterState) (read due : List SensorKey) :
    Publishing :=
  due.foldl Publishing.report (read.foldl (Publishing.check schedule) ⟨st, [], false⟩)

/-- What happens to the state of an inverter. -/
inductive ReportEvent
  | state (e : StateEvent)
  | publish (read due : List SensorKey)

/-- What happens to one sensor. What was to be published is lost if the callback raises. -/
inductive SensorEvent
  | reading (v : ValType)
  | published (v : ValType)
  | lost (v : ValType)
  deriving DecidableEq

namespace InverterState

variable (schedule : SensorKey → Schedule)

def after (st : InverterState) : ReportEvent → InverterState
  | .state e => st.step e
  | .publish read due => (publishing schedule st read due).state

/-- What is published of a sensor. -/
def publishedOf (key : SensorKey) (pub : List (SensorKey × ValType)) : List ValType :=
  pub.filterMap fun p => if p.1 = key then some p.2 else none

/-- What a reading brings for a sensor. -/
def broughtOf (key : SensorKey) (st : InverterState) (newRegs : Registers)
    (entries : List (StateSensor × ValType)) : List ValType :=
  entries.filterMap fun entry =>
    if entry.1.key = key ∧ entry.1.touched newRegs = true then some (st.refreshed newRegs entry) else none

def happens (key : SensorKey) (st : InverterState) : ReportEvent → List SensorEvent
  | .state (.update newRegs) => (broughtOf key st newRegs st.values).map .reading
  | .state (.track _) | .state (.wrote _ _) => []
  | .publish read due =>
    let p := publishing schedule st read due
    -- An exception comes before `publish_sensors` is called.
    (publishedOf key p.pub).map fun v => if p.raised then .lost v else .published v

/-- What happens to a sensor over a run. -/
def story (key : SensorKey) : List ReportEvent → InverterState → List SensorEvent
  | [], _ => []
  | e :: rest, st => st.happens schedule key e ++ story key rest (st.after schedule e)

end InverterState

/-! ### The readings since the last report -/

/-- What a sensor was last published as, or was to be in a callback that raised, and its readings since.
Before the first report the first reading stands for it. -/
structure ReportWindow where
  base : Option ℚ
  readings : List ℚ

namespace ReportWindow

def extend (w : ReportWindow) : SensorEvent → ReportWindow
  | .reading (.num q) =>
    -- The first reading of all has nothing published to be compared with.
    match w.base with
    | none => ⟨some q, []⟩
    | some b => ⟨some b, w.readings ++ [q]⟩
  | .published (.num q) | .lost (.num q) => ⟨some q, []⟩
  | _ => w

def ofStory (events : List SensorEvent) : ReportWindow := events.foldl extend ⟨none, []⟩

/-- The average of the readings; or the last of them, if it is a significant change from those before it;
or what was published before, if there are none. -/
def Fair (sch : Schedule) (w : ReportWindow) (v : ValType) : Prop :=
  ∃ b, w.base = some b ∧ ((w.readings = [] ∧ v = .num b) ∨ (w.readings ≠ [] ∧ v = .num (mean w.readings)) ∨
    ∃ earlier q, w.readings = earlier ++ [q] ∧ sch.significantChange (b :: earlier) q = some true ∧ v = .num q)

end ReportWindow

/-- Every reading of the sensor is a number, and it is not among the discrete ones. -/
def StateSensor.Numeric (s : StateSensor) : Prop :=
  s.discrete = false ∧ ∀ regs, ∃ q, s.regToValue regs = .num q

namespace ReportWindow

/-- The history is the base with the readings since. -/
def Recorded (w : ReportWindow) (history : Option (List ℚ)) : Prop :=
  match w.base with
  | none => w.readings = [] ∧ history.getD [] = []
  | some b => history = some (b :: w.readings)

theorem ofStory_append (events : List SensorEvent) (e : SensorEvent) :
    ofStory (events ++ [e]) = (ofStory events).extend e := by
  simp [ofStory]

theorem Recorded.reading {w : ReportWindow} {history : Option (List ℚ)} (recorded : w.Recorded history)
    (q : ℚ) : (w.extend (.reading (.num q))).Recorded (some (history.getD [] ++ [q])) := by
  obtain ⟨base, readings⟩ := w
  cases base with
  | none =>
    obtain ⟨-, empty⟩ := recorded
    simp [Recorded, extend, empty]
  | some b =>
    have known : history = some (b :: readings) := recorded
    simp [Recorded, extend, known]

/-- A history that is not empty starts with the base. -/
theorem Recorded.readings_eq {w : ReportWindow} {b : ℚ} {hist : List ℚ} (recorded : w.Recorded (some (b :: hist))) :
    w.base = some b ∧ w.readings = hist := by
  obtain ⟨base, readings⟩ := w
  cases base with
  | none => simp [Recorded] at recorded
  | some base => simpa [Recorded, eq_comm] using recorded

theorem Recorded.empty {w : ReportWindow} {history : Option (List ℚ)} (recorded : w.Recorded history)
    (nothing : history = none ∨ history = some []) : w.Recorded (some []) := by
  obtain ⟨base, readings⟩ := w
  cases base with
  | none => exact ⟨recorded.1, rfl⟩
  | some base => rcases nothing with rfl | rfl <;> simp [Recorded] at recorded

end ReportWindow

namespace InverterState

open ReportWindow

variable {schedule : SensorKey → Schedule} {sch : Schedule} {key other : SensorKey} {st st' : InverterState}
  {events : List SensorEvent}

/-- What holds of a numeric sensor at any time. -/
structure Reporting (sch : Schedule) (key : SensorKey) (events : List SensorEvent) (st : InverterState) : Prop where
  numeric : ∀ entry ∈ st.values, entry.1.key = key → entry.1.Numeric
  never : st.historynn key = none
  recorded : (ofStory events).Recorded (st.history key)
  fair : ∀ before v rest, events = before ++ .published v :: rest → (ofStory before).Fair sch v

/-- Another event, of which it is shown what it does to the history. -/
theorem Reporting.concat (reporting : Reporting sch key events st) {e : SensorEvent}
    (values : ∀ entry ∈ st'.values, entry.1.key = key → entry.1.Numeric)
    (never : st'.historynn key = none)
    (recorded : ((ofStory events).extend e).Recorded (st'.history key))
    (fair : ∀ v, e = .published v → (ofStory events).Fair sch v) : Reporting sch key (events ++ [e]) st' where
  numeric := values
  never := never
  recorded := by rwa [ofStory_append]
  -- A value was published before, or with this event.
  fair before v rest split := by
    rcases List.eq_nil_or_concat rest with rfl | ⟨rest, last, rfl⟩
    · obtain ⟨rfl, same⟩ := List.append_inj' split rfl
      exact fair v (List.singleton_inj.mp same)
    · rw [List.concat_eq_append, ← List.cons_append, ← List.append_assoc] at split
      exact reporting.fair before v rest (List.append_inj' split rfl).1

theorem Reporting.unchanged (reporting : Reporting sch key events st) (values : st'.values = st.values)
    (history : st'.history key = st.history key) (historynn : st'.historynn key = st.historynn key) :
    Reporting sch key events st' where
  numeric := values ▸ reporting.numeric
  never := historynn.trans reporting.never
  recorded := history ▸ reporting.recorded
  fair := reporting.fair

/-! ### Readings -/

theorem remember_other (st : InverterState) {s : StateSensor} (v : ValType) (different : s.key ≠ key) :
    (remember s v st).history key = st.history key ∧
      (remember s v st).historynn key = st.historynn key := by
  unfold remember
  split <;> simp [Function.update_of_ne (Ne.symm different)]

theorem remember_values (s : StateSensor) (v : ValType) : (remember s v st).values = st.values := by
  unfold remember
  split <;> rfl

theorem remember_own {s : StateSensor} {q : ℚ} (discrete : s.discrete = false)
    (never : st.historynn s.key = none) :
    (remember s (.num q) st).history s.key = some ((st.history s.key).getD [] ++ [q]) ∧
      (remember s (.num q) st).historynn s.key = none := by
  simp [remember, discrete, never]

/-- The loop over the tracked sensors. -/
theorem reporting_remembered (st : InverterState) (newRegs : Registers) (entries : List (StateSensor × ValType))
    (numeric : ∀ entry ∈ entries, entry.1.key = key → entry.1.Numeric)
    (reporting : Reporting sch key events st') :
    Reporting sch key (events ++ (broughtOf key st newRegs entries).map .reading)
      (entries.foldl (fun st' entry =>
        if entry.1.touched newRegs then remember entry.1 (st.refreshed newRegs entry) st' else st') st') := by
  induction entries generalizing events st' with
  | nil => simpa [broughtOf] using reporting
  | cons entry rest ih =>
    have later := fun e member => numeric e (List.mem_cons_of_mem entry member)
    rw [List.foldl_cons]
    by_cases brings : entry.1.key = key ∧ entry.1.touched newRegs = true
    · obtain ⟨rfl, touched⟩ := brings
      -- The sensor itself, which this reading brings: its history grows by the number.
      obtain ⟨discrete, number⟩ := numeric entry List.mem_cons_self rfl
      obtain ⟨q, value⟩ : ∃ q, st.refreshed newRegs entry = .num q := by
        simp only [refreshed, touched, if_true, StateSensor.decode]
        exact number _
      have step : Reporting sch entry.1.key (events ++ [.reading (.num q)])
          (remember entry.1 (.num q) st') := by
        obtain ⟨history, never⟩ := remember_own discrete reporting.never
        apply reporting.concat
        · rw [remember_values]
          exact reporting.numeric
        · exact never
        · rw [history]
          exact reporting.recorded.reading q
        · simp
      have brought : broughtOf entry.1.key st newRegs (entry :: rest) =
          .num q :: broughtOf entry.1.key st newRegs rest := by
        simp [broughtOf, touched, value]
      rw [if_pos touched, value, brought]
      simpa using ih later step
    · -- Another sensor, or one that this reading does not bring.
      have brought : broughtOf key st newRegs (entry :: rest) = broughtOf key st newRegs rest := by
        simp [broughtOf, brings]
      rw [brought]
      apply ih later
      split
      case isTrue touched =>
        have different : entry.1.key ≠ key := fun same => brings ⟨same, touched⟩
        obtain ⟨history, historynn⟩ := remember_other st' (st.refreshed newRegs entry) different
        exact reporting.unchanged (remember_values _ _) history historynn
      case isFalse => exact reporting

theorem Reporting.update (reporting : Reporting sch key events st) (newRegs : Registers) :
    Reporting sch key (events ++ st.happens schedule key (.state (.update newRegs))) (st.update newRegs) := by
  have remembered := reporting_remembered st newRegs st.values reporting.numeric reporting
  constructor
  · intro entry member same
    obtain ⟨old, known, rfl⟩ := List.mem_map.mp member
    exact reporting.numeric old known same
  · exact remembered.never
  · exact remembered.recorded
  · exact remembered.fair

theorem Reporting.track (reporting : Reporting sch key events st) {s : StateSensor}
    (numeric : s.key = key → s.Numeric) : Reporting sch key events (st.track s) := by
  rcases track_cases st s with same | ⟨-, new⟩
  · rwa [same]
  · rw [new]
    constructor
    · intro entry member same
      rcases List.mem_append.mp member with old | added
      · exact reporting.numeric entry old same
      · obtain rfl := List.mem_singleton.mp added
        exact numeric same
    · exact reporting.never
    · exact reporting.recorded
    · exact reporting.fair

/-! ### Reports -/

theorem checkChange_other (st : InverterState) (sch : Schedule) (different : other ≠ key) :
    (st.checkChange sch other).1.values = st.values ∧
      (st.checkChange sch other).1.history key = st.history key ∧
      (st.checkChange sch other).1.historynn key = st.historynn key := by
  unfold checkChange
  repeat' split
  all_goals simp [Function.update_of_ne (Ne.symm different)]

theorem fixedReport_other (st : InverterState) (different : other ≠ key) :
    (st.fixedReport other).1.values = st.values ∧
      (st.fixedReport other).1.history key = st.history key ∧
      (st.fixedReport other).1.historynn key = st.historynn key := by
  unfold fixedReport
  repeat' split
  all_goals simp [Function.update_of_ne (Ne.symm different)]

/-- A significant change is one of a reading after another. -/
theorem checkChange_own (average : sch.changeAny = false) (never : st.historynn key = none) :
    ((st.checkChange sch key).1 = st ∧ ∀ v, (st.checkChange sch key).2 ≠ some (some v)) ∨
      ∃ hist last, st.history key = some hist ∧ hist.getLast? = some last ∧
        sch.significantChange hist.dropLast last = some true ∧ st.checkChange sch key =
          ({ st with history := Function.update st.history key (some [last]) }, some (some (.num last))) := by
  unfold checkChange
  rw [never]
  cases known : st.history key with
  | none => simp [average]
  | some hist =>
    simp only [average, Bool.false_eq_true, if_false]
    cases last : hist.getLast? with
    | none => simp
    | some q =>
      cases change : sch.significantChange hist.dropLast q with
      | none => simp [change]
      | some significant =>
        cases significant with
        | false => simp [change]
        | true =>
          exact .inr ⟨hist, q, rfl, last, change, by simp [change]⟩

/-- The report of a sensor is what was published before, if there is no reading since. -/
theorem fixedReport_own (never : st.historynn key = none) :
    (st.history key = none ∨ st.history key = some []) ∧
        st.fixedReport key = ({ st with history := Function.update st.history key (some []) }, none) ∨
      (∃ b, st.history key = some [b] ∧ st.fixedReport key = (st, some (.num b))) ∨
      ∃ b hist, st.history key = some (b :: hist) ∧ hist ≠ [] ∧ st.fixedReport key =
        ({ st with history := Function.update st.history key (some [mean hist]) }, some (.num (mean hist))) := by
  unfold fixedReport
  rw [never]
  cases known : st.history key with
  | none => simp
  | some history =>
    cases history with
    | nil => simp
    | cons b hist =>
      by_cases first : hist = []
      · simp [first]
      · simp [first]

end InverterState

namespace Publishing

open InverterState ReportWindow

variable {schedule : SensorKey → Schedule} {sch : Schedule} {key other : SensorKey}
  {events : List SensorEvent} {p : Publishing} {mark : ValType → SensorEvent}

/-- Published, or lost. -/
def Marks (mark : ValType → SensorEvent) : Prop := mark = .published ∨ mark = .lost

theorem Marks.extend (marks : Marks mark) (w : ReportWindow) (q : ℚ) : w.extend (mark (.num q)) = ⟨some q, []⟩ := by
  rcases marks with rfl | rfl
  · rfl
  · rfl

/-- The loops of a callback, up to some point. -/
def Tells (sch : Schedule) (key : SensorKey) (events : List SensorEvent) (mark : ValType → SensorEvent)
    (p : Publishing) : Prop :=
  Reporting sch key (events ++ (publishedOf key p.pub).map mark) p.state

theorem publishedOf_other (pub : List (SensorKey × ValType)) (different : other ≠ key) (value : Option ValType) :
    publishedOf key (pub ++ (value.map fun v => (other, v)).toList) = publishedOf key pub := by
  cases value with
  | none => simp
  | some v => simp [publishedOf, different]

theorem publishedOf_own (pub : List (SensorKey × ValType)) (v : ValType) :
    publishedOf key (pub ++ [(key, v)]) = publishedOf key pub ++ [v] := by
  simp [publishedOf]

/-- The sensor gets another history, and what stands in it is published. -/
theorem Tells.concat (tells : p.Tells sch key events mark) (marks : Marks mark) {st : InverterState} {q : ℚ}
    (values : st.values = p.state.values) (never : st.historynn key = none) (history : st.history key = some [q])
    (fair : (ofStory (events ++ (publishedOf key p.pub).map mark)).Fair sch (.num q)) :
    Tells sch key events mark { p with state := st, pub := p.pub ++ [(key, .num q)] } := by
  have step : Reporting sch key (events ++ (publishedOf key p.pub).map mark ++ [mark (.num q)]) st := by
    apply Reporting.concat tells
    · rw [values]
      exact tells.numeric
    · exact never
    · rw [marks.extend, history]
      rfl
    · intro v same
      rcases marks with rfl | rfl
      · cases same
        exact fair
      · cases same
  simpa [Tells, publishedOf_own] using step

theorem Tells.check (tells : p.Tells (schedule key) key events mark) (marks : Marks mark)
    (average : (schedule key).changeAny = false) (other : SensorKey) :
    (p.check schedule other).Tells (schedule key) key events mark := by
  unfold Publishing.check
  split
  case isTrue => exact tells
  case isFalse =>
    by_cases same : other = key
    · subst same
      rcases checkChange_own average tells.never with ⟨state, nothing⟩ | ⟨hist, last, known, final, change, result⟩
      · rcases result : p.state.checkChange (schedule other) other with ⟨st, value⟩
        rw [result] at state nothing
        obtain rfl : st = p.state := state
        cases value with
        | none => exact tells
        | some value =>
          cases value with
          | none => simpa using tells
          | some v => exact absurd rfl (nothing v)
      · -- A significant change: the history starts anew with the reading that is published.
        obtain ⟨before, rfl⟩ := List.getLast?_eq_some_iff.mp final
        rw [List.dropLast_concat] at change
        -- The first reading is never a significant change, so there is one before it.
        obtain ⟨b, earlier, rfl⟩ : ∃ b earlier, before = b :: earlier := by
          apply List.exists_cons_of_ne_nil
          rintro rfl
          simp [Schedule.significantChange, average] at change
        have recorded := tells.recorded
        rw [known, List.cons_append] at recorded
        obtain ⟨base, since⟩ := recorded.readings_eq
        rw [result]
        apply Tells.concat tells marks
        · rfl
        · exact tells.never
        · simp
        · exact ⟨b, base, .inr (.inr ⟨earlier, last, since, change, rfl⟩)⟩
    · obtain ⟨values, history, historynn⟩ := checkChange_other p.state (schedule other) same
      rcases result : p.state.checkChange (schedule other) other with ⟨st, value⟩
      rw [result] at values history historynn
      -- The check of another sensor leaves the history of this one.
      have kept := Reporting.unchanged tells values history historynn
      cases value with
      | none => exact kept
      | some value =>
        simp only [Tells]
        rw [publishedOf_other p.pub same]
        exact kept

theorem Tells.report (tells : p.Tells sch key events mark) (marks : Marks mark) (other : SensorKey) :
    (p.report other).Tells sch key events mark := by
  unfold Publishing.report
  split
  case isTrue => exact tells
  case isFalse =>
    by_cases same : other = key
    · subst same
      rcases fixedReport_own tells.never with ⟨unknown, result⟩ | ⟨b, known, result⟩ | ⟨b, hist, known, several, result⟩
      · rw [result]
        -- Nothing was read yet; asking for the history leaves an empty one.
        have recorded := tells.recorded.empty unknown
        simp only [Tells, Option.map_none, Option.toList_none, List.append_nil]
        constructor
        · exact tells.numeric
        · exact tells.never
        · simpa using recorded
        · exact tells.fair
      · -- Nothing was read since: the value before is published again.
        have recorded := tells.recorded
        rw [known] at recorded
        obtain ⟨base, since⟩ := recorded.readings_eq
        rw [result]
        apply Tells.concat tells marks
        · rfl
        · exact tells.never
        · exact known
        · exact ⟨b, base, .inl ⟨since, rfl⟩⟩
      · -- The readings since are averaged, and the average is the new base.
        have recorded := tells.recorded
        rw [known] at recorded
        obtain ⟨base, since⟩ := recorded.readings_eq
        rw [result]
        apply Tells.concat tells marks
        · rfl
        · exact tells.never
        · simp
        · refine ⟨b, base, .inr (.inl ⟨?_, ?_⟩)⟩
          · rwa [since]
          · rw [since]
    · obtain ⟨values, history, historynn⟩ := fixedReport_other p.state same
      rcases result : p.state.fixedReport other with ⟨st, value⟩
      rw [result] at values history historynn
      simp only [Tells]
      rw [publishedOf_other p.pub same]
      exact Reporting.unchanged tells values history historynn

theorem tells_publishing {st : InverterState} (reporting : Reporting (schedule key) key events st) (marks : Marks mark)
    (average : (schedule key).changeAny = false) (read due : List SensorKey) :
    (publishing schedule st read due).Tells (schedule key) key events mark := by
  have start : Tells (schedule key) key events mark ⟨st, [], false⟩ := by
    simpa [Tells, publishedOf] using reporting
  -- First the loop of checks, then that of reports: both keep what is told.
  have checked := List.foldlRecOn read (Publishing.check schedule) start
    fun p tells other _ => Tells.check tells marks average other
  exact List.foldlRecOn due Publishing.report checked fun p tells other _ => Tells.report tells marks other

end Publishing

namespace InverterState

open ReportWindow Publishing

variable (schedule : SensorKey → Schedule)

theorem Reporting.after {key : SensorKey} {events : List SensorEvent} {st : InverterState}
    (reporting : Reporting (schedule key) key events st) (average : (schedule key).changeAny = false) (e : ReportEvent)
    (numeric : ∀ s, e = .state (.track s) → s.key = key → s.Numeric) :
    Reporting (schedule key) key (events ++ st.happens schedule key e) (st.after schedule e) := by
  cases e with
  | publish read due =>
    -- Whether the callback raises is known at its end, for all that it was to publish.
    have marks : Marks fun v =>
        if (publishing schedule st read due).raised then SensorEvent.lost v else .published v := by
      cases (publishing schedule st read due).raised with
      | true => exact .inr rfl
      | false => exact .inl rfl
    exact tells_publishing reporting marks average read due
  | state e =>
    cases e with
    | update newRegs => exact reporting.update newRegs
    | track s =>
      simp only [happens, List.append_nil]
      exact reporting.track (numeric s rfl)
    | wrote address value =>
      simp only [happens, List.append_nil]
      exact reporting.unchanged rfl rfl rfl

theorem reporting_story {key : SensorKey} {events : List SensorEvent} {st : InverterState}
    (reporting : Reporting (schedule key) key events st) (average : (schedule key).changeAny = false) (run : List ReportEvent)
    (numeric : ∀ s, .state (.track s) ∈ run → s.key = key → s.Numeric) :
    Reporting (schedule key) key (events ++ story schedule key run st) (run.foldl (after schedule) st) := by
  induction run generalizing events st with
  | nil => simpa [story] using reporting
  | cons e rest ih =>
    have step := reporting.after schedule average e fun s same => numeric s (same ▸ List.mem_cons_self)
    simpa [story] using ih step fun s member => numeric s (List.mem_cons_of_mem e member)

theorem reporting_initial (sch : Schedule) (key : SensorKey) : Reporting sch key [] initial where
  numeric := by simp [initial]
  never := rfl
  recorded := ⟨rfl, rfl⟩
  fair := by simp

/-- Whatever is read and whenever a callback reports, a sensor that is averaged is published as the
average of exactly its readings since it was published last (or was to be, in a callback that raised),
or as the last of them if that is a significant change. -/
theorem published_fair {key : SensorKey} (average : (schedule key).changeAny = false) (run : List ReportEvent)
    (numeric : ∀ s, .state (.track s) ∈ run → s.key = key → s.Numeric)
    {before rest : List SensorEvent} {v : ValType}
    (published : story schedule key run initial = before ++ .published v :: rest) :
    (ofStory before).Fair (schedule key) v := by
  have reporting := reporting_story schedule (reporting_initial (schedule key) key) average run numeric
  exact reporting.fair before v rest published

/-- A reading of 100 that is published, then readings of 200 and 300. -/
theorem published_fair_power :
    let power : StateSensor := ⟨[175], "load_power", 0, false, fun regs => .num (regs.headD 0)⟩
    let reads : Nat → ReportEvent := fun value => .state (.update (Function.update (fun _ => none) 175 (some value)))
    story (fun _ => { key := "w", changeBy := 80 }) power.key
        [.state (.track power), reads 100, .publish [power.key] [power.key], reads 200, reads 300,
          .publish [] [power.key]] initial =
      [.reading (.num 100), .published (.num 100), .reading (.num 200), .reading (.num 300)] ++ [.published (.num 250)] ∧
    (ofStory [.reading (.num 100), .published (.num 100), .reading (.num 200), .reading (.num 300)]).Fair
      { key := "w", changeBy := 80 } (.num 250) := by
  intro power reads
  have told : story (fun _ => { key := "w", changeBy := 80 }) power.key
        [.state (.track power), reads 100, .publish [power.key] [power.key], reads 200, reads 300,
          .publish [] [power.key]] initial =
      [.reading (.num 100), .published (.num 100), .reading (.num 200), .reading (.num 300)] ++
        [.published (.num 250)] := by
    decide +kernel
  refine ⟨told, published_fair _ rfl _ ?_ told⟩
  intro s member _
  simp only [List.mem_cons, ReportEvent.state.injEq, StateEvent.track.injEq, reads, reduceCtorEq, or_false,
    List.not_mem_nil] at member
  obtain rfl := member
  exact ⟨rfl, fun regs => ⟨_, rfl⟩⟩

end InverterState

end HHModbus
