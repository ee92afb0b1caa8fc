import HHModbus.Lib.Cooperative

/-!
# Programs while others run

A suspended program finds the shared state as the other tasks have left it. `Keeps` states what
holds whenever the program is suspended and when it ends, given what the others leave alone and
what is known of the answers; `Follows` compares two programs on a part of the state.
-/
namespace Cooperative.Program

variable {σ τ Q R S α β γ δ : Type}

/-- Run the program up to where it is next suspended, or to its end: `gate` is what it finds
the gate to be, and `connect` the outcome of dialling, if that is known at once. -/
def settle (gate : Bool) (connect : Option Bool) : Program σ Q R α → σ → σ × Program σ Q R α
  | done a, s => (s, done a)
  | atomic f k, s => (k (f s)).settle gate connect (f s)
  | test k, s => (k gate).settle gate connect s
  | dial k, s =>
    match connect with
    | some up => (k up).settle gate connect s
    | none => (s, dial k)
  | request q k, s => (s, request q k)

/-- The program waits for something from outside. -/
def Suspended : Program σ Q R α → Prop
  | dial _ | request _ _ => True
  | _ => False

theorem settled (gate : Bool) (connect : Option Bool) (p : Program σ Q R α) (s : σ) :
    (∃ a, (p.settle gate connect s).2 = done a) ∨ (p.settle gate connect s).2.Suspended := by
  induction p generalizing s with
  | done a => exact .inl ⟨a, rfl⟩
  | atomic f k ih => exact ih (f s) (f s)
  | test k ih => exact ih gate s
  | dial k ih =>
    cases connect with
    | none => exact .inr trivial
    | some up => exact ih up s
  | request q k => exact .inr trivial

/-! ### What holds at every suspension -/

/-- From `s` on the program keeps `I` at every suspension and ends in `post`. While it is
suspended the others lead from `s` to a state `t` with `Rely s t`, and keep `I` as well; the
answers satisfy `Answer` in the state in which they arrive. -/
def Keeps (I : σ → Prop) (Rely : σ → σ → Prop) (Answer : R → σ → Prop) (post : α → σ → Prop) :
    Program σ Q R α → σ → Prop
  | done a, s => post a s
  | atomic f k, s => (k (f s)).Keeps I Rely Answer post (f s)
  | test k, s => ∀ open_, (k open_).Keeps I Rely Answer post s
  | dial k, s => I s ∧ ∀ up t, Rely s t → I t → (k up).Keeps I Rely Answer post t
  | request _ k, s =>
    I s ∧ ∀ r t, Rely s t → I t → Answer r t → (k r).Keeps I Rely Answer post t

section Keeps

variable {I : σ → Prop} {Rely : σ → σ → Prop} {Answer : R → σ → Prop} {post : α → σ → Prop}
  {p : Program σ Q R α} {s : σ}

/-- The rule of consequence. -/
theorem Keeps.imp {post' : α → σ → Prop} (keeps : p.Keeps I Rely Answer post s)
    (weaker : ∀ a t, post a t → post' a t) : p.Keeps I Rely Answer post' s := by
  induction p generalizing s with
  | done a => exact weaker a s keeps
  | atomic f k ih => exact ih (f s) keeps
  | test k ih => exact fun open_ => ih open_ (keeps open_)
  | dial k ih => exact ⟨keeps.1, fun up t rely inv => ih up (keeps.2 up t rely inv)⟩
  | request q k ih =>
    exact ⟨keeps.1, fun r t rely inv answer => ih r (keeps.2 r t rely inv answer)⟩

/-- The rule of sequence. -/
theorem Keeps.bind {post' : β → σ → Prop} {f : α → Program σ Q R β}
    (first : p.Keeps I Rely Answer post s)
    (later : ∀ a t, post a t → (f a).Keeps I Rely Answer post' t) :
    (p.bind f).Keeps I Rely Answer post' s := by
  induction p generalizing s with
  | done a => exact later a s first
  | atomic g k ih => exact ih (g s) first
  | test k ih => exact fun open_ => ih open_ (first open_)
  | dial k ih => exact ⟨first.1, fun up t rely inv => ih up (first.2 up t rely inv)⟩
  | request q k ih =>
    exact ⟨first.1, fun r t rely inv answer => ih r (first.2 r t rely inv answer)⟩

/-- A program that keeps the invariant up to its next suspension keeps it from there on. -/
theorem Keeps.settle (gate : Bool) (connect : Option Bool) (refl : ∀ t, Rely t t)
    (keeps : p.Keeps I Rely Answer post s) :
    (p.settle gate connect s).2.Keeps I Rely Answer post (p.settle gate connect s).1 := by
  induction p generalizing s with
  | done a => exact keeps
  | atomic f k ih => exact ih (f s) keeps
  | test k ih => exact ih gate (keeps gate)
  | dial k ih =>
    cases connect with
    | none => exact keeps
    | some up => exact ih up (keeps.2 up s (refl s) keeps.1)
  | request q k => exact keeps

/-- What the others do while the program is suspended may be several steps. -/
theorem Keeps.rely {t : σ} (trans : ∀ {s t u}, Rely s t → Rely t u → Rely s u)
    (suspended : p.Suspended) (keeps : p.Keeps I Rely Answer post s) (moved : Rely s t)
    (inv : I t) : p.Keeps I Rely Answer post t := by
  cases p with
  | dial k => exact ⟨inv, fun up u rely => keeps.2 up u (trans moved rely)⟩
  | request q k => exact ⟨inv, fun r u rely => keeps.2 r u (trans moved rely)⟩
  | done a => cases suspended
  | atomic f k => cases suspended
  | test k => cases suspended

end Keeps

/-! ### What a program does to the others -/

/-- Every step of the program on the shared state is one of these. -/
def Guarantees (Guarantee : σ → σ → Prop) : Program σ Q R α → Prop
  | done _ => True
  | atomic f k => ∀ s, Guarantee s (f s) ∧ (k s).Guarantees Guarantee
  | test k => ∀ open_, (k open_).Guarantees Guarantee
  | dial k => ∀ up, (k up).Guarantees Guarantee
  | request _ k => ∀ r, (k r).Guarantees Guarantee

section Guarantees

variable {Guarantee : σ → σ → Prop}

theorem Guarantees.bind {p : Program σ Q R α} {f : α → Program σ Q R β}
    (first : p.Guarantees Guarantee) (later : ∀ a, (f a).Guarantees Guarantee) :
    (p.bind f).Guarantees Guarantee := by
  induction p with
  | done a => exact later a
  | atomic g k ih => exact fun s => ⟨(first s).1, ih s (first s).2⟩
  | test k ih => exact fun open_ => ih open_ (first open_)
  | dial k ih => exact fun up => ih up (first up)
  | request q k ih => exact fun r => ih r (first r)

theorem Guarantees.settle (gate : Bool) (connect : Option Bool) (refl : ∀ s, Guarantee s s)
    (trans : ∀ {s t u}, Guarantee s t → Guarantee t u → Guarantee s u) {p : Program σ Q R α}
    (guarantees : p.Guarantees Guarantee) (s : σ) :
    Guarantee s (p.settle gate connect s).1 ∧ (p.settle gate connect s).2.Guarantees Guarantee := by
  induction p generalizing s with
  | done a => exact ⟨refl s, trivial⟩
  | atomic f k ih =>
    obtain ⟨moved, later⟩ := ih (f s) (guarantees (f s)).2 (f s)
    exact ⟨trans (guarantees s).1 moved, later⟩
  | test k ih => exact ih gate (guarantees gate) s
  | dial k ih =>
    cases connect with
    | none => exact ⟨refl s, guarantees⟩
    | some up => exact ih up (guarantees up) s
  | request q k => exact ⟨refl s, guarantees⟩

end Guarantees

/-! ### Programs on a part of the state -/

/-- The program does on the part `part` of its state what the other one does, and gets the same
answers, as far as `seen` tells them; their results are related. -/
inductive Follows (part : τ → σ) (seen : S → R) (same : α → β → Prop) :
    Program τ Q S α → Program σ Q R β → Prop where
  | done (a : α) (b : β) (result : same a b) : Follows part seen same (.done a) (.done b)
  /-- A step on the rest of the state. -/
  | silent (f : τ → τ) (k : τ → Program τ Q S α) (q : Program σ Q R β)
      (untouched : ∀ t, part (f t) = part t) (later : ∀ t, Follows part seen same (k t) q) :
    Follows part seen same (.atomic f k) q
  | atomic (f : τ → τ) (k : τ → Program τ Q S α) (g : σ → σ) (l : σ → Program σ Q R β)
      (acts : ∀ t, part (f t) = g (part t))
      (later : ∀ t, Follows part seen same (k t) (l (part t))) :
    Follows part seen same (.atomic f k) (.atomic g l)
  | test (k : Bool → Program τ Q S α) (l : Bool → Program σ Q R β)
      (later : ∀ open_, Follows part seen same (k open_) (l open_)) :
    Follows part seen same (.test k) (.test l)
  | dial (k : Bool → Program τ Q S α) (l : Bool → Program σ Q R β)
      (later : ∀ up, Follows part seen same (k up) (l up)) :
    Follows part seen same (.dial k) (.dial l)
  | request (q : Q) (k : S → Program τ Q S α) (l : R → Program σ Q R β)
      (later : ∀ r, Follows part seen same (k r) (l (seen r))) :
    Follows part seen same (.request q k) (.request q l)

section Follows

variable {part : τ → σ} {seen : S → R} {same : α → β → Prop} {same' : γ → δ → Prop}
  {p : Program τ Q S α} {q : Program σ Q R β}

theorem Follows.bind {f : α → Program τ Q S γ} {g : β → Program σ Q R δ}
    (first : Follows part seen same p q)
    (later : ∀ a b, same a b → Follows part seen same' (f a) (g b)) :
    Follows part seen same' (p.bind f) (q.bind g) := by
  induction first with
  | done a b result => exact later a b result
  | silent h k _ untouched _ ih => exact .silent h _ _ untouched ih
  | atomic h k h' l acts _ ih => exact .atomic h _ h' _ acts ih
  | test k l _ ih => exact .test _ _ ih
  | dial k l _ ih => exact .dial _ _ ih
  | request q k l _ ih => exact .request q _ _ ih

/-- Run alone, with the same answers, the two come to the same. -/
theorem Follows.eval {env : Environment τ Q S} {env' : Environment σ Q R}
    (follows : Follows part seen same p q) (tests : ∀ t, env.test t = env'.test (part t))
    (dials : ∀ t, env.dial t = env'.dial (part t))
    (replies : ∀ t q, seen (env.reply t q) = env'.reply (part t) q)
    (replied : ∀ t, part (env.replied t) = env'.replied (part t)) (t : τ) :
    part (p.eval env t).1 = (q.eval env' (part t)).1 ∧
      same (p.eval env t).2 (q.eval env' (part t)).2 := by
  induction follows generalizing t with
  | done a b result => exact ⟨rfl, result⟩
  | silent f k q untouched _ ih =>
    have rest := ih (f t) (f t)
    rw [untouched t] at rest
    exact rest
  | atomic f k g l acts _ ih =>
    simp only [Program.eval, ← acts t]
    exact ih (f t) (f t)
  | test k l _ ih =>
    simp only [Program.eval, ← tests t]
    exact ih (env.test t) t
  | dial k l _ ih =>
    simp only [Program.eval, ← dials t]
    exact ih (env.dial t) t
  | request q k l _ ih =>
    have rest := ih (env.reply t q) (env.replied t)
    rw [replied t] at rest
    simp only [Program.eval, ← replies t q]
    exact rest

end Follows

/-- A program that works on a part of the state only, `put` in place. -/
def within (part : τ → σ) (put : σ → τ → τ) (seen : S → R) : Program σ Q R α → Program τ Q S α
  | done a => done a
  | atomic f k => atomic (fun t => put (f (part t)) t) fun t => (k (part t)).within part put seen
  | test k => test fun open_ => (k open_).within part put seen
  | dial k => dial fun up => (k up).within part put seen
  | request q k => request q fun r => (k (seen r)).within part put seen

theorem follows_within {part : τ → σ} {put : σ → τ → τ} (seen : S → R)
    (part_put : ∀ s t, part (put s t) = s) (p : Program σ Q R α) :
    Follows part seen Eq (p.within part put seen) p := by
  induction p with
  | done a => exact .done a a rfl
  | atomic f k ih => exact .atomic _ _ f k (fun t => part_put _ t) fun t => ih (part t)
  | test k ih => exact .test _ _ ih
  | dial k ih => exact .dial _ _ ih
  | request q k ih => exact .request q _ _ fun r => ih (seen r)

/-- Such a program keeps what does not depend on its part of the state. -/
theorem keeps_within {I : τ → Prop} {Rely : τ → τ → Prop} {Answer : S → τ → Prop} {part : τ → σ}
    {put : σ → τ → τ} {seen : S → R} {post : τ → Prop} (moves : ∀ s t, post t → post (put s t))
    (relied : ∀ t u, post t → Rely t u → I u → post u) (invariant : ∀ t, post t → I t)
    (p : Program σ Q R α) {t : τ} (initial : post t) :
    (p.within part put seen).Keeps I Rely Answer (fun _ u => post u) t := by
  induction p generalizing t with
  | done a => exact initial
  | atomic f k ih => exact ih _ (moves _ t initial)
  | test k ih => exact fun open_ => ih open_ initial
  | dial k ih =>
    exact ⟨invariant t initial, fun up u rely inv => ih up (relied t u initial rely inv)⟩
  | request q k ih =>
    exact ⟨invariant t initial, fun r u rely inv _ => ih (seen r) (relied t u initial rely inv)⟩

theorem guarantees_within {Guarantee : τ → τ → Prop} {part : τ → σ} {put : σ → τ → τ} {seen : S → R}
    (moves : ∀ s t, Guarantee t (put s t)) (p : Program σ Q R α) :
    (p.within part put seen).Guarantees Guarantee := by
  induction p with
  | done a => trivial
  | atomic f k ih => exact fun t => ⟨moves _ t, ih (part t)⟩
  | test k ih => exact ih
  | dial k ih => exact ih
  | request q k ih => exact fun r => ih (seen r)

end Cooperative.Program
