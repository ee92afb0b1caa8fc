import Mathlib.Logic.Basic

/-!
# Runs of partial step functions

A system is a step function `σ → α → Option σ`: `none` says that the action is not
enabled in the state. A run is the list of actions taken. `exec` executes it, and
`Along` states a property of each of its steps; the rules below reduce a property of
whole runs to one step.
-/
namespace Transition

variable {σ α : Type*} (step : σ → α → Option σ)

/-- Take the actions of a list in turn; `none` as soon as one of them is not enabled. -/
def exec : σ → List α → Option σ
  | s, [] => some s
  | s, a :: rest => (step s a).bind fun t => exec t rest

/-- Every step that the list takes from the state satisfies `Q before action after`. -/
def Along (Q : σ → α → σ → Prop) : σ → List α → Prop
  | _, [] => True
  | s, a :: rest => ∀ t, step s a = some t → Q s a t ∧ Along Q t rest

variable {step}

@[simp] theorem exec_nil (s : σ) : exec step s [] = some s := rfl

theorem exec_cons_iff {s u : σ} {a : α} {rest : List α} :
    exec step s (a :: rest) = some u ↔
      ∃ t, step s a = some t ∧ exec step t rest = some u := by
  simp only [exec, Option.bind_eq_some_iff]

theorem exec_append_iff {s u : σ} {first rest : List α} :
    exec step s (first ++ rest) = some u ↔
      ∃ t, exec step s first = some t ∧ exec step t rest = some u := by
  induction first generalizing s with
  | nil => simp
  | cons a first ih =>
    simp only [List.cons_append, exec_cons_iff, ih]
    constructor
    · rintro ⟨t, ha, m, hf, hr⟩
      exact ⟨m, ⟨t, ha, hf⟩, hr⟩
    · rintro ⟨m, ⟨t, ha, hf⟩, hr⟩
      exact ⟨t, ha, m, hf, hr⟩

@[simp] theorem along_nil (Q : σ → α → σ → Prop) (s : σ) : Along step Q s [] := trivial

/-- A step that is taken contributes its own property and those of the steps after it. -/
theorem along_cons {Q : σ → α → σ → Prop} {s t : σ} {a : α} {rest : List α}
    (h : step s a = some t) :
    Along step Q s (a :: rest) ↔ Q s a t ∧ Along step Q t rest := by
  simp only [Along, h, Option.some.injEq, forall_eq']

/-- What is true along a run is true of its last step. -/
theorem Along.last {Q : σ → α → σ → Prop} {s t u : σ} {acts : List α} {a : α}
    (all : Along step Q s (acts ++ [a])) (run : exec step s acts = some t) (h : step t a = some u) :
    Q t a u := by
  induction acts generalizing s with
  | nil =>
    cases run
    exact (all u h).1
  | cons b rest ih =>
    obtain ⟨m, hb, hr⟩ := exec_cons_iff.mp run
    exact ih (all m hb).2 hr

/-- An invariant of every step is an invariant of every run. -/
theorem invariant {I : σ → Prop} (preserved : ∀ s a t, I s → step s a = some t → I t)
    {s t : σ} {acts : List α} (initial : I s) (run : exec step s acts = some t) : I t := by
  induction acts generalizing s with
  | nil =>
    simp only [exec_nil, Option.some.injEq] at run
    exact run ▸ initial
  | cons a rest ih =>
    obtain ⟨m, ha, hr⟩ := exec_cons_iff.mp run
    exact ih (preserved s a m initial ha) hr

/-- The invariant rule for runs whose steps all satisfy a guard. -/
theorem invariant_along {I : σ → Prop} {G : σ → α → σ → Prop}
    (preserved : ∀ s a t, I s → step s a = some t → G s a t → I t)
    {s t : σ} {acts : List α} (initial : I s) (guarded : Along step G s acts)
    (run : exec step s acts = some t) : I t := by
  induction acts generalizing s with
  | nil =>
    simp only [exec_nil, Option.some.injEq] at run
    exact run ▸ initial
  | cons a rest ih =>
    obtain ⟨m, ha, hr⟩ := exec_cons_iff.mp run
    obtain ⟨hg, hrest⟩ := (along_cons ha).mp guarded
    exact ih (preserved s a m initial ha hg) hrest hr

/-- Where the guard holds, each step keeps the invariant and has the property. -/
theorem along_of_invariant {I : σ → Prop} {G Q : σ → α → σ → Prop}
    (preserved : ∀ s a t, I s → step s a = some t → G s a t → I t ∧ Q s a t)
    {s : σ} {acts : List α} (initial : I s) (guarded : Along step G s acts) :
    Along step Q s acts := by
  induction acts generalizing s with
  | nil => trivial
  | cons a rest ih =>
    intro t ha
    obtain ⟨hg, hrest⟩ := guarded t ha
    obtain ⟨hi, hq⟩ := preserved s a t initial ha hg
    exact ⟨hq, ih hi hrest⟩

/-- The same with nothing to guard against. -/
theorem along_always {I : σ → Prop} {Q : σ → α → σ → Prop}
    (preserved : ∀ s a t, I s → step s a = some t → I t ∧ Q s a t) {s : σ} (acts : List α)
    (initial : I s) : Along step Q s acts := by
  induction acts generalizing s with
  | nil => trivial
  | cons a rest ih =>
    intro t ha
    obtain ⟨hi, hq⟩ := preserved s a t initial ha
    exact ⟨hq, ih hi⟩

/-- A guard on the actions alone. -/
theorem along_of_forall_mem {P : α → Prop} {s : σ} {acts : List α} (all : ∀ a ∈ acts, P a) :
    Along step (fun _ a _ => P a) s acts := by
  induction acts generalizing s with
  | nil => trivial
  | cons a rest ih =>
    intro t _
    exact ⟨all a List.mem_cons_self, ih fun b member => all b (List.mem_cons_of_mem a member)⟩

/-- A guard that is exact at each step taken from a state satisfying the invariant is
exact for the run, provided that a step with the property re-establishes the invariant. -/
theorem along_iff {I : σ → Prop} {G Q : σ → α → σ → Prop}
    (exact_ : ∀ s a t, I s → step s a = some t → (Q s a t ↔ G s a t))
    (keeps : ∀ s a t, I s → step s a = some t → Q s a t → I t)
    {s : σ} (acts : List α) (initial : I s) : Along step Q s acts ↔ Along step G s acts := by
  induction acts generalizing s with
  | nil => exact Iff.rfl
  | cons a rest ih =>
    constructor
    · intro all t ha
      obtain ⟨hq, hrest⟩ := all t ha
      exact ⟨(exact_ s a t initial ha).mp hq, (ih (keeps s a t initial ha hq)).mp hrest⟩
    · intro all t ha
      obtain ⟨hg, hrest⟩ := all t ha
      have hq := (exact_ s a t initial ha).mpr hg
      exact ⟨hq, (ih (keeps s a t initial ha hq)).mpr hrest⟩

/-- A property of the states after each step holds in the state the run ends in. -/
theorem along_final {P : σ → Prop} {s t : σ} {acts : List α} (initial : P s)
    (all : Along step (fun _ _ u => P u) s acts) (run : exec step s acts = some t) : P t :=
  invariant_along (I := P) (fun _ _ _ _ _ hu => hu) initial all run

/-- A property that a step never restores held all along a run that ends with it. -/
theorem along_of_final {P : σ → Prop} (mono : ∀ s a t, step s a = some t → P t → P s)
    {s t : σ} {acts : List α} (run : exec step s acts = some t) (final : P t) :
    P s ∧ Along step (fun _ _ u => P u) s acts := by
  induction acts generalizing s with
  | nil =>
    simp only [exec_nil, Option.some.injEq] at run
    exact ⟨run ▸ final, trivial⟩
  | cons a rest ih =>
    obtain ⟨m, ha, hr⟩ := exec_cons_iff.mp run
    obtain ⟨after, others⟩ := ih hr
    exact ⟨mono s a m ha after, (along_cons ha).mpr ⟨after, others⟩⟩

/-- A guard that is exact for a property that is never restored decides whether a run ends
with the property. -/
theorem final_iff {I P : σ → Prop} {G : σ → α → σ → Prop}
    (mono : ∀ s a t, step s a = some t → P t → P s)
    (exact_ : ∀ s a t, I s → P s → step s a = some t → (P t ↔ G s a t))
    (keeps : ∀ s a t, I s → P s → step s a = some t → P t → I t)
    {s t : σ} {acts : List α} (initial : I s) (holds : P s) (run : exec step s acts = some t) :
    P t ↔ Along step G s acts := by
  have guarded : Along step (fun _ _ u => P u) s acts ↔ Along step G s acts := by
    apply along_iff (I := fun u => I u ∧ P u) _ _ acts ⟨initial, holds⟩
    · intro u a v inv h
      exact exact_ u a v inv.1 inv.2 h
    · intro u a v inv h after
      exact ⟨keeps u a v inv.1 inv.2 h after, after⟩
  rw [← guarded]
  constructor
  · intro final
    exact (along_of_final mono run final).2
  · intro all
    exact along_final holds all run

/-- If every step of one system is matched by steps of another that keep the states related, then
so is every run. -/
theorem exec_simulated {τ β : Type*} {step' : τ → β → Option τ} {I : σ → Prop} {R : σ → τ → Prop}
    (preserved : ∀ s a t, I s → step s a = some t → I t)
    (matched : ∀ s a t u, I s → R s u → step s a = some t →
      ∃ acts v, exec step' u acts = some v ∧ R t v)
    {s t : σ} {u : τ} {acts : List α} (initial : I s) (related : R s u)
    (run : exec step s acts = some t) : ∃ acts' v, exec step' u acts' = some v ∧ R t v := by
  induction acts generalizing s u with
  | nil =>
    cases run
    exact ⟨[], u, rfl, related⟩
  | cons a rest ih =>
    obtain ⟨m, ha, hr⟩ := exec_cons_iff.mp run
    obtain ⟨first, v, hv, relatedNext⟩ := matched s a m u initial related ha
    obtain ⟨later, w, hw, relatedLast⟩ := ih (preserved s a m initial ha) relatedNext hr
    exact ⟨first ++ later, w, exec_append_iff.mpr ⟨v, hv, hw⟩, relatedLast⟩

/-- What is observed at the steps that the list takes from the state. -/
def observed {ω : Type*} (step : σ → α → Option σ) (observe : σ → α → List ω) : σ → List α → List ω
  | _, [] => []
  | s, a :: rest =>
    match step s a with
    | some t => observe s a ++ observed step observe t rest
    | none => []

/-- What is observed in a run is observed at one of its steps. -/
theorem exists_of_mem_observed {ω : Type*} {observe : σ → α → List ω} {s : σ} {acts : List α} {x : ω}
    (member : x ∈ observed step observe s acts) : ∃ a ∈ acts, ∃ t, x ∈ observe t a := by
  induction acts generalizing s with
  | nil => simp [observed] at member
  | cons a rest ih =>
    simp only [observed] at member
    split at member
    case h_1 t _ =>
      rcases List.mem_append.mp member with here | later
      · exact ⟨a, List.mem_cons_self, s, here⟩
      · obtain ⟨b, inside, u, seen⟩ := ih later
        exact ⟨b, List.mem_cons_of_mem a inside, u, seen⟩
    case h_2 => cases member

/-- The invariant rule for invariants that refer to what has been observed so far, where all steps
satisfy a guard. -/
theorem invariant_observed_along {ω : Type*} {observe : σ → α → List ω} {I : List ω → σ → Prop}
    {G : σ → α → σ → Prop}
    (preserved : ∀ seen s a t, G s a t → I seen s → step s a = some t → I (seen ++ observe s a) t)
    {s t : σ} {acts : List α} {seen : List ω} (initial : I seen s) (guarded : Along step G s acts)
    (run : exec step s acts = some t) : I (seen ++ observed step observe s acts) t := by
  induction acts generalizing s seen with
  | nil =>
    simp only [exec_nil, Option.some.injEq] at run
    rw [observed, List.append_nil]
    exact run ▸ initial
  | cons a rest ih =>
    obtain ⟨m, ha, hr⟩ := exec_cons_iff.mp run
    obtain ⟨hg, hrest⟩ := (along_cons ha).mp guarded
    have later := ih (preserved seen s a m hg initial ha) hrest hr
    simp only [observed, ha]
    rwa [List.append_assoc] at later

/-- The same where every action satisfies a guard. -/
theorem invariant_observed_of_forall {ω : Type*} {observe : σ → α → List ω} {I : List ω → σ → Prop}
    {P : α → Prop}
    (preserved : ∀ seen s a t, P a → I seen s → step s a = some t → I (seen ++ observe s a) t)
    {s t : σ} {acts : List α} {seen : List ω} (initial : I seen s) (all : ∀ a ∈ acts, P a)
    (run : exec step s acts = some t) : I (seen ++ observed step observe s acts) t :=
  invariant_observed_along preserved initial (along_of_forall_mem all) run

/-- The same with nothing to guard against. -/
theorem invariant_observed {ω : Type*} {observe : σ → α → List ω} {I : List ω → σ → Prop}
    (preserved : ∀ seen s a t, I seen s → step s a = some t → I (seen ++ observe s a) t)
    {s t : σ} {acts : List α} {seen : List ω} (initial : I seen s)
    (run : exec step s acts = some t) : I (seen ++ observed step observe s acts) t :=
  invariant_observed_of_forall (fun seen s a t _ => preserved seen s a t) initial
    (fun _ _ => trivial) run

instance decidableAlong (Q : σ → α → σ → Prop) [∀ s a t, Decidable (Q s a t)] :
    ∀ (s : σ) (acts : List α), Decidable (Along step Q s acts)
  | _, [] => isTrue trivial
  | s, a :: rest =>
    match h : step s a with
    | none => isTrue fun t ht => by rw [h] at ht; cases ht
    | some t =>
      have := decidableAlong Q t rest
      decidable_of_iff _ (along_cons h).symm

/-- Two runs of a total step function agree on what a relation sees, where the second leaves out the
actions that the relation does not see. -/
theorem rel_foldl_filter {R : σ → σ → Prop} {act : σ → α → σ} {seen : α → Bool}
    (both : ∀ s t a, R s t → seen a = true → R (act s a) (act t a))
    (hidden : ∀ s t a, R s t → seen a = false → R (act s a) t)
    {s t : σ} (initial : R s t) (acts : List α) :
    R (acts.foldl act s) ((acts.filter seen).foldl act t) := by
  induction acts generalizing s t with
  | nil => exact initial
  | cons a rest ih =>
    cases visible : seen a with
    | true =>
      rw [List.filter_cons_of_pos visible]
      exact ih (both s t a initial visible)
    | false =>
      rw [List.filter_cons_of_neg (by simp [visible])]
      exact ih (hidden s t a initial visible)

end Transition
