import Mathlib.Data.List.Basic
import HHModbus.Lib.Suspension
import HHModbus.Lib.Transition

/-!
# Tasks that respect a common discipline

Several programs share a state, and each finds it as the others have left it whenever it has waited.
A `Discipline` says which changes all of them may make, given the answers that have been heard so
far; what such changes leave true, a program may rely on across its waits.
-/
namespace Cooperative

/-- The changes that are allowed once some requests have got their answers. -/
structure Discipline (σ Q R : Type) where
  allows : (heard : List (Q × R)) → σ → σ → Prop
  refl : ∀ heard s, allows heard s s
  trans : ∀ {heard s t u}, allows heard s t → allows heard t u → allows heard s u
  mono : ∀ {heard heard' s t}, heard ⊆ heard' → allows heard s t → allows heard' s t

variable {σ Q R α β : Type}

/-- Knowledge that no allowed change takes away. -/
def Discipline.Stable (D : Discipline σ Q R) (P : List (Q × R) → σ → Prop) : Prop :=
  ∀ {heard heard' s t}, heard ⊆ heard' → D.allows heard' s t → P heard s → P heard' t

namespace Program

/-- From `s` on, with `heard` heard, the program makes allowed changes only and ends in `post`, if
the others make allowed changes only while it waits. -/
def Respects (D : Discipline σ Q R) (post : List (Q × R) → α → σ → Prop) :
    Program σ Q R α → List (Q × R) → σ → Prop
  | done a, heard, s => post heard a s
  | atomic f k, heard, s => D.allows heard s (f s) ∧ (k (f s)).Respects D post heard (f s)
  | test k, heard, s => ∀ open_, (k open_).Respects D post heard s
  | dial k, heard, s =>
    ∀ up heard' t, heard ⊆ heard' → D.allows heard' s t → (k up).Respects D post heard' t
  | request q k, heard, s =>
    ∀ r heard' t, heard ⊆ heard' → D.allows heard' s t →
      (k r).Respects D post (heard' ++ [(q, r)]) t

variable {D : Discipline σ Q R} {post : List (Q × R) → α → σ → Prop} {p : Program σ Q R α}
  {heard : List (Q × R)} {s : σ}

/-- The rule of consequence. -/
theorem Respects.imp {post' : List (Q × R) → α → σ → Prop} (respects : p.Respects D post heard s)
    (weaker : ∀ heard a t, post heard a t → post' heard a t) : p.Respects D post' heard s := by
  induction p generalizing heard s with
  | done a => exact weaker heard a s respects
  | atomic f k ih => exact ⟨respects.1, ih (f s) respects.2⟩
  | test k ih => exact fun open_ => ih open_ (respects open_)
  | dial k ih => exact fun up heard' t sub allowed => ih up (respects up heard' t sub allowed)
  | request q k ih => exact fun r heard' t sub allowed => ih r (respects r heard' t sub allowed)

/-- The rule of sequence. -/
theorem Respects.bind {post' : List (Q × R) → β → σ → Prop} {f : α → Program σ Q R β}
    (first : p.Respects D post heard s)
    (later : ∀ heard a t, post heard a t → (f a).Respects D post' heard t) :
    (p.bind f).Respects D post' heard s := by
  induction p generalizing heard s with
  | done a => exact later heard a s first
  | atomic f k ih => exact ⟨first.1, ih (f s) first.2⟩
  | test k ih => exact fun open_ => ih open_ (first open_)
  | dial k ih => exact fun up heard' t sub allowed => ih up (first up heard' t sub allowed)
  | request q k ih => exact fun r heard' t sub allowed => ih r (first r heard' t sub allowed)

/-- The frame rule: stable knowledge is there at the end if it was at the beginning. -/
theorem Respects.frame {P : List (Q × R) → σ → Prop} (stable : D.Stable P)
    (respects : p.Respects D post heard s) (known : P heard s) :
    p.Respects D (fun heard' a t => post heard' a t ∧ P heard' t) heard s := by
  induction p generalizing heard s with
  | done a => exact ⟨respects, known⟩
  | atomic f k ih =>
    exact ⟨respects.1, ih (f s) respects.2 (stable (List.Subset.refl _) respects.1 known)⟩
  | test k ih => exact fun open_ => ih open_ (respects open_) known
  | dial k ih =>
    intro up heard' t sub allowed
    exact ih up (respects up heard' t sub allowed) (stable sub allowed known)
  | request q k ih =>
    intro r heard' t sub allowed
    have longer : heard' ⊆ heard' ++ [(q, r)] := List.subset_append_left _ _
    have moved := stable longer (D.refl _ t) (stable sub allowed known)
    exact ih r (respects r heard' t sub allowed) moved

/-- A suspended program goes on respecting the discipline after what the others have done. -/
theorem Respects.rely {heard' : List (Q × R)} {t : σ} (suspended : p.Suspended)
    (respects : p.Respects D post heard s) (sub : heard ⊆ heard') (allowed : D.allows heard' s t) :
    p.Respects D post heard' t := by
  cases p with
  | dial k =>
    intro up heard'' u longer next
    exact respects up heard'' u (List.Subset.trans sub longer)
      (D.trans (D.mono longer allowed) next)
  | request q k =>
    intro r heard'' u longer next
    exact respects r heard'' u (List.Subset.trans sub longer)
      (D.trans (D.mono longer allowed) next)
  | done a => cases suspended
  | atomic f k => cases suspended
  | test k => cases suspended

end Program

end Cooperative
