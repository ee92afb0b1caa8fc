import HHModbus.SunsynkReports

/-!
# No callback stops at its reports

The loops at the end of a callback look at the last entry of a history. There is one for every sensor
that was read at some time, whatever has been reported since.
-/
namespace HHModbus

namespace InverterState

open ReportWindow Publishing

variable {schedule : SensorKey → Schedule} {key other : SensorKey} {st : InverterState} {newRegs : Registers}

/-- The histories have something to look at. -/
def Known (key : SensorKey) (st : InverterState) : Prop :=
  st.historynn key ≠ none ∨ ∃ hist, st.history key = some hist ∧ hist ≠ []

theorem known_remember (s : StateSensor) (v : ValType) : Known s.key (remember s v st) := by
  unfold remember
  split
  · exact .inr ⟨_, Function.update_self .., by simp⟩
  · exact .inl (by simp)

theorem Known.of_history_eq {st' : InverterState} (known : Known key st) (history : st'.history key = st.history key)
    (historynn : st'.historynn key = st.historynn key) : Known key st' := by
  unfold Known
  rwa [history, historynn]

theorem Known.remember (known : Known key st) (s : StateSensor) (v : ValType) : Known key (remember s v st) := by
  by_cases same : s.key = key
  · exact same ▸ known_remember s v
  · exact known.of_history_eq (remember_other st v same).1 (remember_other st v same).2

theorem Known.update (known : Known key st) : Known key (st.update newRegs) := by
  apply List.foldlRecOn st.values _ (motive := Known key) known
  intro st' known entry _
  split
  · exact known.remember _ _
  · exact known

/-- A reading of the sensor. -/
theorem known_of_brought {v : ValType} (brought : v ∈ broughtOf key st newRegs st.values) :
    Known key (st.update newRegs) := by
  obtain ⟨entry, member, value⟩ := List.mem_filterMap.mp brought
  have reads : entry.1.key = key ∧ entry.1.touched newRegs = true := by
    by_contra other
    simp [other] at value
  obtain ⟨rfl, touched⟩ := reads
  -- The loop gets to the entry, and what comes after it forgets nothing.
  obtain ⟨earlier, later, split⟩ := List.append_of_mem member
  let read := fun st' (entry : StateSensor × ValType) =>
    if entry.1.touched newRegs then InverterState.remember entry.1 (st.refreshed newRegs entry) st' else st'
  have here : Known entry.1.key (read (earlier.foldl read st) entry) := by
    simp only [read, touched, if_true]
    exact known_remember _ _
  have done : Known entry.1.key (later.foldl read (read (earlier.foldl read st) entry)) := by
    apply List.foldlRecOn later read here
    intro st' known entry' _
    simp only [read]
    split
    · exact known.remember _ _
    · exact known
  rw [← List.foldl_cons, ← List.foldl_append, ← split] at done
  exact done

theorem Known.track (known : Known key st) (s : StateSensor) : Known key (st.track s) := by
  rcases track_cases st s with same | ⟨-, new⟩
  · rwa [same]
  · rw [new]
    exact known

theorem Known.checkChange (known : Known key st) (sch : Schedule) (other : SensorKey) :
    Known key (st.checkChange sch other).1 ∧ (other = key → (st.checkChange sch other).2 ≠ none) := by
  by_cases same : other = key
  · subst same
    unfold InverterState.checkChange
    cases discrete : st.historynn other with
    | some hist => exact ⟨.inl (by simp [discrete]), by simp⟩
    | none =>
      obtain some_discrete | ⟨hist, history, readings⟩ := known
      · exact absurd discrete some_discrete
      · obtain ⟨last, final⟩ := List.getLast?_isSome.mpr readings |> Option.isSome_iff_exists.mp
        rw [history]
        -- There is a reading in the history, so that the last one is found.
        simp only [final]
        cases average : sch.changeAny with
        | true => exact ⟨.inl (by simp), by simp⟩
        | false =>
          obtain ⟨significant, change⟩ := Option.isSome_iff_exists.mp
            (sch.significantChange_isSome average hist.dropLast last)
          simp only [change, Bool.false_eq_true, if_false]
          cases significant with
          | false => exact ⟨.inr ⟨hist, history, readings⟩, by simp⟩
          | true => exact ⟨.inr ⟨[last], by simp, by simp⟩, by simp⟩
  · -- The check of another sensor.
    obtain ⟨-, history, historynn⟩ := checkChange_other st sch same
    exact ⟨known.of_history_eq history historynn, fun equal => absurd equal same⟩

theorem Known.fixedReport (known : Known key st) (other : SensorKey) : Known key (st.fixedReport other).1 := by
  by_cases same : other = key
  · subst same
    unfold InverterState.fixedReport
    cases discrete : st.historynn other with
    | some hist => exact .inl (by simp [discrete])
    | none =>
      obtain some_discrete | ⟨hist, history, readings⟩ := known
      · exact absurd discrete some_discrete
      · obtain ⟨b, hist, rfl⟩ := List.exists_cons_of_ne_nil readings
        rw [history]
        -- The average takes the place of what was averaged, and the history is not empty.
        by_cases first : hist = []
        · simp only [first, if_true]
          exact .inr ⟨b :: hist, history, readings⟩
        · simp only [first, if_false]
          exact .inr ⟨[mean hist], by simp, by simp⟩
  · obtain ⟨-, history, historynn⟩ := fixedReport_other st same
    exact known.of_history_eq history historynn

theorem known_check {p : Publishing} (known : Known key p.state) (other : SensorKey) :
    Known key (p.check schedule other).state := by
  have kept := (known.checkChange (schedule other) other).1
  unfold Publishing.check
  split
  case isTrue => exact known
  case isFalse =>
    rcases result : p.state.checkChange (schedule other) other with ⟨st', value⟩
    rw [result] at kept
    cases value with
    | none => exact kept
    | some value => exact kept

theorem known_report {p : Publishing} (known : Known key p.state) (other : SensorKey) :
    Known key (p.report other).state := by
  unfold Publishing.report
  split
  case isTrue => exact known
  case isFalse => exact known.fixedReport other

theorem known_publishing (read due : List SensorKey) (known : Known key st) :
    Known key (publishing schedule st read due).state := by
  have checked : Known key (read.foldl (Publishing.check schedule) ⟨st, [], false⟩).state :=
    List.foldlRecOn (motive := fun p : Publishing => Known key p.state) read (Publishing.check schedule) known
      fun _ known other _ => known_check known other
  exact List.foldlRecOn (motive := fun p : Publishing => Known key p.state) due Publishing.report checked
    fun _ known other _ => known_report known other

theorem check_raised {p : Publishing} (known : Known other p.state) (goes : p.raised = false) :
    (p.check schedule other).raised = false := by
  have result := (known.checkChange (schedule other) other).2 rfl
  unfold Publishing.check
  rw [if_neg (by simp [goes])]
  rcases same : p.state.checkChange (schedule other) other with ⟨st', value⟩
  rw [same] at result
  cases value with
  | none => exact absurd rfl result
  | some value => exact goes

theorem completes_of_known (read due : List SensorKey) (known : ∀ key ∈ read, Known key st) :
    (publishing schedule st read due).raised = false := by
  have checked : (∀ key ∈ read, Known key (read.foldl (Publishing.check schedule) ⟨st, [], false⟩).state) ∧
      (read.foldl (Publishing.check schedule) ⟨st, [], false⟩).raised = false := by
    refine List.foldlRecOn (motive := fun p : Publishing => (∀ key ∈ read, Known key p.state) ∧ p.raised = false)
      read (Publishing.check schedule) ⟨known, rfl⟩ ?_
    rintro p ⟨known, goes⟩ other member
    constructor
    · intro key inside
      exact known_check (known key inside) other
    · exact check_raised (known other member) goes
  -- The loop of reports catches its exceptions.
  refine List.foldlRecOn (motive := fun p : Publishing => p.raised = false) due Publishing.report checked.2 ?_
  intro p goes other _
  unfold Publishing.report
  split
  · exact goes
  · exact goes

theorem Known.after (known : Known key st) (e : ReportEvent) : Known key (st.after schedule e) := by
  cases e with
  | publish read due => exact known_publishing read due known
  | state e =>
    cases e with
    | update newRegs => exact known.update
    | track s => exact known.track s
    | wrote address value => exact known

theorem known_of_reading {v : ValType} (run : List ReportEvent)
    (reading : .reading v ∈ story schedule key run st) : Known key (run.foldl (after schedule) st) := by
  induction run generalizing st with
  | nil => simp [story] at reading
  | cons e rest ih =>
    rcases List.mem_append.mp reading with here | later
    · have now : Known key (st.after schedule e) := by
        cases e with
        | publish read due =>
          simp only [happens, List.mem_map] at here
          obtain ⟨w, -, same⟩ := here
          split at same <;> cases same
        | state e =>
          cases e with
          | update newRegs =>
            obtain ⟨w, brought, same⟩ := List.mem_map.mp here
            cases same
            exact known_of_brought brought
          | track s => simp [happens] at here
          | wrote address value => simp [happens] at here
      -- What was known once is known for the rest of the run.
      exact List.foldlRecOn (motive := Known key) rest (after schedule) now fun _ known e _ => known.after e
    · exact ih later

/-- A callback gets through its loops if each sensor that it checks was read at some time, whatever was
published before. -/
theorem publishing_completes (schedule : SensorKey → Schedule) (run : List ReportEvent) (read due : List SensorKey)
    (brought : ∀ key ∈ read, ∃ v, .reading v ∈ story schedule key run initial) :
    (publishing schedule (run.foldl (after schedule) initial) read due).raised = false := by
  apply completes_of_known
  intro key member
  obtain ⟨v, reading⟩ := brought key member
  exact known_of_reading run reading

/-- A sensor that was reported before its first reading, and is read and checked then. -/
theorem publishing_completes_power :
    let power : StateSensor := ⟨[175], "load_power", 0, false, fun regs => .num (regs.headD 0)⟩
    let run : List ReportEvent := [.state (.track power), .publish [] [power.key],
      .state (.update (Function.update (fun _ => none) 175 (some 100)))]
    (publishing (fun _ => { key := "w", changeBy := 80 })
      (run.foldl (after fun _ => { key := "w", changeBy := 80 }) initial) [power.key] [power.key]).raised = false := by
  intro power run
  apply publishing_completes
  intro key member
  obtain rfl := List.mem_singleton.mp member
  exact ⟨.num 100, by decide +kernel⟩

/-- Without the reading it would raise: the report has left an empty history. -/
example :
    let schedule : SensorKey → Schedule := fun _ => { key := "w", changeBy := 80 }
    (publishing schedule (initial.after schedule (.publish [] [([175], "load_power")])) [([175], "load_power")] []).raised =
      true := by decide +kernel

end InverterState

end HHModbus
