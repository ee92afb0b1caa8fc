import Mathlib.Data.List.Chain
import Mathlib.Data.List.Infix

/-!
# Greedy segments

A list is cut into segments from left to right: an element joins the segment that is being built if
`fits` lets it, and starts a new one otherwise. Where a suffix of a segment lets in whatever the
segment lets in, no other cutting has fewer segments.
-/
namespace Segments

variable {α : Type*} (fits : List α → α → Bool)

/-- The segments of a list behind `current`, the segment that is being built. -/
def segmentsFrom (current : List α) : List α → List (List α)
  | [] => [current]
  | x :: rest =>
    if fits current x then segmentsFrom (current ++ [x]) rest else current :: segmentsFrom [x] rest

def segments : List α → List (List α)
  | [] => []
  | x :: rest => segmentsFrom fits [x] rest

/-- Every element but the first was let in by those before it. -/
def Fitting (s : List α) : Prop := ∀ a x, a ++ [x] <+: s → a ≠ [] → fits a x = true

structure Cutting (l : List α) (parts : List (List α)) : Prop where
  whole : parts.flatten = l
  nonempty : ∀ s ∈ parts, s ≠ []
  fitting : ∀ s ∈ parts, Fitting fits s

/-- What a segment lets in, its suffixes let in, among the stretches of the list. -/
def SuffixClosed (l : List α) : Prop :=
  ∀ a b x, a ++ b ++ [x] <:+: l → b ≠ [] → fits (a ++ b) x = true → fits b x = true

variable {fits}

theorem Fitting.singleton (x : α) : Fitting fits [x] := by
  intro a y initial nonempty
  have length := initial.length_le
  simp only [List.length_append, List.length_singleton] at length
  have none : a.length = 0 := by omega
  exact absurd (List.length_eq_zero_iff.mp none) nonempty

theorem Fitting.append {s : List α} {x : α} (fitting : Fitting fits s) (next : fits s x = true) :
    Fitting fits (s ++ [x]) := by
  intro a y initial nonempty
  rcases List.prefix_concat_iff.mp initial with same | before
  · obtain ⟨rfl, last⟩ := List.append_inj' same rfl
    rwa [List.singleton_inj.mp last]
  · exact fitting a y before nonempty

theorem Fitting.of_append {s : List α} {x : α} (fitting : Fitting fits (s ++ [x])) (nonempty : s ≠ []) :
    Fitting fits s ∧ fits s x = true := by
  constructor
  · intro a y initial
    exact fitting a y (initial.trans (List.prefix_append s [x]))
  · exact fitting s x (List.prefix_refl _) nonempty

/-! ### What the segments are -/

theorem segmentsFrom_cutting (current l : List α) (nonempty : current ≠ [])
    (fitting : Fitting fits current) : Cutting fits (current ++ l) (segmentsFrom fits current l) := by
  induction l generalizing current with
  | nil => exact ⟨by simp [segmentsFrom], by simpa [segmentsFrom], by simpa [segmentsFrom]⟩
  | cons x rest ih =>
    by_cases next : fits current x = true
    · have more := ih (current ++ [x]) (by simp) (fitting.append next)
      simpa [segmentsFrom, next] using more
    · have more := ih [x] (by simp) (Fitting.singleton x)
      constructor
      · simp [segmentsFrom, next, more.whole]
      · simpa [segmentsFrom, next, nonempty] using more.nonempty
      · simpa [segmentsFrom, next, fitting] using more.fitting

/-- The segments are a cutting of the list. -/
theorem segments_cutting (l : List α) : Cutting fits l (segments fits l) := by
  cases l with
  | nil => exact ⟨rfl, by simp [segments], by simp [segments]⟩
  | cons x rest => exact segmentsFrom_cutting [x] rest (by simp) (Fitting.singleton x)

/-! ### No cutting has fewer segments -/

/-- A way to go on behind `current`, and how many segments it comes to. -/
inductive Continuation (fits : List α → α → Bool) : List α → List α → Nat → Prop
  | last (current : List α) : Continuation fits current [] 1
  | join {current rest : List α} {x : α} {n : Nat} (next : fits current x = true)
      (later : Continuation fits (current ++ [x]) rest n) : Continuation fits current (x :: rest) n
  | start {current rest : List α} {x : α} {n : Nat} (later : Continuation fits [x] rest n) :
      Continuation fits current (x :: rest) (n + 1)

theorem continuation_of_fitting {current more rest : List α} {n : Nat} (nonempty : current ≠ [])
    (fitting : Fitting fits (current ++ more)) (later : ∀ s, Continuation fits s rest n) :
    Continuation fits current (more ++ rest) n := by
  induction more generalizing current with
  | nil => exact later current
  | cons x more ih =>
    have next : fits current x = true := fitting current x (by simp) nonempty
    apply Continuation.join next
    exact ih (by simp) (by simpa using fitting)

/-- A cutting, from its first element on. -/
theorem Cutting.continuation {x : α} {rest : List α} {parts : List (List α)}
    (cutting : Cutting fits (x :: rest) parts) : Continuation fits [x] rest parts.length := by
  induction parts generalizing x rest with
  | nil => exact absurd cutting.whole (by simp)
  | cons s parts ih =>
    have fitting := cutting.fitting s List.mem_cons_self
    have whole : s ++ parts.flatten = x :: rest := cutting.whole
    cases s with
    | nil => exact absurd rfl (cutting.nonempty [] List.mem_cons_self)
    | cons y s =>
      obtain ⟨rfl, rfl⟩ := List.cons_eq_cons.mp whole
      apply continuation_of_fitting (by simp) fitting
      intro current
      have later : Cutting fits parts.flatten parts :=
        ⟨rfl, fun t member => cutting.nonempty t (List.mem_cons_of_mem _ member),
          fun t member => cutting.fitting t (List.mem_cons_of_mem _ member)⟩
      cases behind : parts.flatten with
      | nil =>
        have none : parts = [] := by
          apply List.eq_nil_iff_forall_not_mem.mpr
          intro t member
          exact later.nonempty t member (List.flatten_eq_nil_iff.mp behind t member)
        subst none
        exact .last current
      | cons z rest =>
        rw [behind] at later
        exact .start (ih later)

/-- The greedy cutting stays ahead: whoever builds the longer segment cannot go further with it, and
whoever has made one segment more has no advantage. The induction follows the other cutting. -/
theorem segmentsFrom_length_le {l other rest : List α} {n : Nat} (closed : SuffixClosed fits l)
    (go : Continuation fits other rest n) (within : other ++ rest <:+: l) (current : List α)
    (nonempty : current ≠ []) :
    (current <:+ other → (segmentsFrom fits current rest).length ≤ n) ∧
      (segmentsFrom fits current rest).length ≤ n + 1 := by
  induction go generalizing current with
  | last other => simp [segmentsFrom]
  | @join other rest x n next later ih =>
    have within : other ++ [x] ++ rest <:+: l := by simpa using within
    have longer := ih within (current ++ [x]) (by simp)
    have fresh := (ih within [x] (by simp)).1 (List.suffix_append other [x])
    constructor
    · rintro ⟨before, rfl⟩
      have prefixed : before ++ current ++ [x] <:+: l :=
        (List.prefix_append (before ++ current ++ [x]) rest).isInfix.trans within
      have same : fits current x = true := closed before current x prefixed nonempty next
      simp only [segmentsFrom, same, if_true]
      exact longer.1 ⟨before, by simp⟩
    · by_cases same : fits current x = true
      · simpa [segmentsFrom, same] using longer.2
      · simpa [segmentsFrom, same] using fresh
  | @start other rest x n later ih =>
    have within : [x] ++ rest <:+: l := (List.suffix_append other (x :: rest)).isInfix.trans within
    have longer := ih within (current ++ [x]) (by simp)
    have fresh := (ih within [x] (by simp)).1 (List.suffix_refl [x])
    have bound : (segmentsFrom fits current (x :: rest)).length ≤ n + 1 := by
      by_cases same : fits current x = true
      · simpa [segmentsFrom, same] using longer.2
      · simpa [segmentsFrom, same] using fresh
    exact ⟨fun _ => bound, bound.trans (Nat.le_succ _)⟩

/-- No cutting has fewer segments than the greedy one. -/
theorem segments_minimal {l : List α} (closed : SuffixClosed fits l) {parts : List (List α)}
    (cutting : Cutting fits l parts) : (segments fits l).length ≤ parts.length := by
  cases l with
  | nil => simp [segments]
  | cons x rest =>
    exact (segmentsFrom_length_le closed cutting.continuation (List.infix_refl _) [x] (by simp)).1
      (List.suffix_refl [x])

end Segments
