/-!
# Programs of cooperative tasks

A task runs without interruption until it waits for something from outside: the outcome of
dialling a connection, or the answer to a request. In between it works on state that it
shares with other tasks and tests a gate that others open and close.
-/
namespace Cooperative

/-- A program over shared state `σ`, with requests `Q` that are answered by `R`. -/
inductive Program (σ Q R α : Type) where
  | done (a : α)
  | atomic (f : σ → σ) (k : σ → Program σ Q R α)
  | test (k : Bool → Program σ Q R α)
  | dial (k : Bool → Program σ Q R α)
  | request (q : Q) (k : R → Program σ Q R α)

/-- What answers a program that runs alone. -/
structure Environment (σ Q R : Type) where
  test : σ → Bool
  dial : σ → Bool
  reply : σ → Q → R
  replied : σ → σ

namespace Program

variable {σ Q R α β : Type}

def bind : Program σ Q R α → (α → Program σ Q R β) → Program σ Q R β
  | done a, f => f a
  | atomic g k, f => atomic g fun s => (k s).bind f
  | test k, f => test fun b => (k b).bind f
  | dial k, f => dial fun b => (k b).bind f
  | request q k, f => request q fun r => (k r).bind f

instance : Monad (Program σ Q R) where
  pure := done
  bind := bind

@[simp] theorem pure_eq (a : α) : (pure a : Program σ Q R α) = done a := rfl

@[simp] theorem bind_eq (p : Program σ Q R α) (f : α → Program σ Q R β) : p >>= f = p.bind f := rfl

/-- Work on the shared state. -/
def modify (f : σ → σ) : Program σ Q R Unit := atomic f fun _ => done ()

def get : Program σ Q R σ := atomic id done

/-! ### Running a program alone -/

/-- The result of the program, and the state it leaves. -/
def eval (env : Environment σ Q R) : Program σ Q R α → σ → σ × α
  | done a, s => (s, a)
  | atomic f k, s => (k (f s)).eval env (f s)
  | test k, s => (k (env.test s)).eval env s
  | dial k, s => (k (env.dial s)).eval env s
  | request q k, s => (k (env.reply s q)).eval env (env.replied s)

theorem eval_bind (env : Environment σ Q R) (p : Program σ Q R α) (f : α → Program σ Q R β) (s : σ) :
    (p.bind f).eval env s = (f (p.eval env s).2).eval env (p.eval env s).1 := by
  induction p generalizing s with
  | done a => rfl
  | atomic g k ih => exact ih (g s) (g s)
  | test k ih => exact ih (env.test s) s
  | dial k ih => exact ih (env.dial s) s
  | request q k ih => exact ih (env.reply s q) (env.replied s)

/-! ### Dialling only behind a test -/

/-- The program dials only behind a test of the gate that it has passed since it was last
suspended; `passed` says whether it has at the beginning. -/
def Careful : (passed : Bool) → Program σ Q R α → Prop
  | _, done _ => True
  | passed, atomic _ k => ∀ s, (k s).Careful passed
  | _, test k => (k true).Careful true ∧ (k false).Careful false
  | passed, dial k => passed = true ∧ (k true).Careful true ∧ (k false).Careful false
  | _, request _ k => ∀ r, (k r).Careful false

theorem Careful.mono {p : Program σ Q R α} (careful : p.Careful false) (passed : Bool) :
    p.Careful passed := by
  induction p with
  | done a => trivial
  | atomic f k ih => exact fun s => ih s (careful s)
  | test k => exact careful
  | dial k => cases careful.1
  | request q k => exact careful

theorem Careful.bind {passed : Bool} {p : Program σ Q R α} {f : α → Program σ Q R β}
    (first : p.Careful passed) (later : ∀ a, (f a).Careful false) : (p.bind f).Careful passed := by
  induction p generalizing passed with
  | done a => exact (later a).mono passed
  | atomic g k ih => exact fun s => ih s (first s)
  | test k ih => exact ⟨ih true first.1, ih false first.2⟩
  | dial k ih => exact ⟨first.1, ih true first.2.1, ih false first.2.2⟩
  | request q k ih => exact fun r => ih r (first r)

/-! ### Requests behind a closed gate -/

/-- With the gate closed the program makes another request. -/
def asks : σ → Program σ Q R α → Bool
  | _, done _ => false
  | s, atomic f k => asks (f s) (k (f s))
  | s, test k => asks s (k false)
  | s, dial k => asks s (k false)
  | _, request _ _ => true

/-- A program that makes no request behind a closed gate, wherever it starts. -/
def Heeds (p : Program σ Q R α) : Prop := ∀ s, asks s p = false

/-- What heeds the gate does not ask more than what it follows. -/
theorem asks_bind_of_heeds (p : Program σ Q R α) {f : α → Program σ Q R β}
    (later : ∀ a, (f a).Heeds) (s : σ) : asks s (p.bind f) = asks s p := by
  induction p generalizing s with
  | done a => exact later a s
  | atomic g k ih => exact ih (g s) (g s)
  | test k ih => exact ih false s
  | dial k ih => exact ih false s
  | request q k => rfl

theorem Heeds.bind {p : Program σ Q R α} {f : α → Program σ Q R β} (first : p.Heeds)
    (later : ∀ a, (f a).Heeds) : (p.bind f).Heeds := by
  intro s
  rw [asks_bind_of_heeds p later, first s]

theorem asks_bind {p : Program σ Q R α} (f : α → Program σ Q R β) {s : σ} (asking : asks s p = true) :
    asks s (p.bind f) = true := by
  induction p generalizing s with
  | done a => cases asking
  | atomic g k ih => exact ih (g s) asking
  | test k ih => exact ih false asking
  | dial k ih => exact ih false asking
  | request q k => rfl

/-! ### All requests of a program -/

/-- Every request of the program satisfies `P` together with what follows its answer. -/
def Throughout (P : Q → (R → Program σ Q R α) → Prop) : Program σ Q R α → Prop
  | done _ => True
  | atomic _ k => ∀ s, (k s).Throughout P
  | test k => (k true).Throughout P ∧ (k false).Throughout P
  | dial k => (k true).Throughout P ∧ (k false).Throughout P
  | request q k => P q k ∧ ∀ r, (k r).Throughout P

theorem Throughout.bind {P : Q → (R → Program σ Q R α) → Prop}
    {P' : Q → (R → Program σ Q R β) → Prop} {p : Program σ Q R α} {f : α → Program σ Q R β}
    (first : p.Throughout P) (carries : ∀ q k, P q k → P' q fun r => (k r).bind f)
    (later : ∀ a, (f a).Throughout P') : (p.bind f).Throughout P' := by
  induction p with
  | done a => exact later a
  | atomic g k ih => exact fun s => ih s (first s)
  | test k ih => exact ⟨ih true first.1, ih false first.2⟩
  | dial k ih => exact ⟨ih true first.1, ih false first.2⟩
  | request q k ih => exact ⟨carries q k first.1, fun r => ih r (first.2 r)⟩

end Program

end Cooperative
