import Mathlib.Data.List.Basic

/-!
# Programs that issue requests

A program is a tree: it ends, or it issues one request and goes on with the answer. A service answers requests over a state.
`Prog.run` executes a program on a service that answers every request; `Prog.Exec` lets any request fail instead, with any
error and without effect. `Prog.Only` bounds the requests a program may ever issue, whatever it is answered. `Prog.advance` executes a
single request, so that programs over one state can be interleaved.
-/

/-- A program with errors `ε` and requests `Req`, where the answer to `q` has type `Res q`. -/
inductive Prog (ε Req : Type) (Res : Req → Type) (α : Type) : Type where
  | done (r : Except ε α)
  | call (q : Req) (k : Except ε (Res q) → Prog ε Req Res α)

/-- A service answers a request in a state and moves to the next state. -/
abbrev Service (ε Req : Type) (Res : Req → Type) (σ : Type) : Type :=
  σ → (q : Req) → Except ε (Res q) × σ

/-- What an execution leaves: its result, the requests it issued in order, and the state of the service. -/
structure Outcome (ε Req σ α : Type) where
  result : Except ε α
  issued : List Req
  state : σ

/-- What is left when another execution goes on from the value of the first; an error ends both. -/
def Outcome.andThen {ε Req σ α β : Type} (o : Outcome ε Req σ α) (g : α → σ → Outcome ε Req σ β) : Outcome ε Req σ β :=
  match o.result with
  | .ok a => ⟨(g a o.state).result, o.issued ++ (g a o.state).issued, (g a o.state).state⟩
  | .error e => ⟨.error e, o.issued, o.state⟩

namespace Prog

variable {ε Req : Type} {Res : Req → Type} {α β σ : Type}

/-- Run one program and then another on its value; an error ends both. -/
def bind : Prog ε Req Res α → (α → Prog ε Req Res β) → Prog ε Req Res β
  | done (.ok a), f => f a
  | done (.error e), _ => done (.error e)
  | call q k, f => call q (fun r => (k r).bind f)

/-- Go on from the result of a program, whether a value or an error. -/
def attempt : Prog ε Req Res α → Prog ε Req Res (Except ε α)
  | done r => done (.ok r)
  | call q k => call q (fun r => (k r).attempt)

/-- Issue one request and pass its error on. -/
def perform (q : Req) : Prog ε Req Res (Res q) := call q done

instance : Monad (Prog ε Req Res) where
  pure a := done (.ok a)
  bind := bind

instance : MonadExcept ε (Prog ε Req Res) where
  throw e := done (.error e)
  tryCatch p h := p.attempt.bind fun
    | .ok a => done (.ok a)
    | .error e => h e

@[simp] theorem done_ok_bind (a : α) (f : α → Prog ε Req Res β) : (done (.ok a) : Prog ε Req Res α) >>= f = f a := rfl

@[simp] theorem done_error_bind (e : ε) (f : α → Prog ε Req Res β) :
    (done (.error e) : Prog ε Req Res α) >>= f = done (.error e) := rfl

@[simp] theorem call_bind (q : Req) (k : Except ε (Res q) → Prog ε Req Res α) (f : α → Prog ε Req Res β) :
    call q k >>= f = call q (fun r => k r >>= f) := rfl

theorem pure_bind (a : α) (f : α → Prog ε Req Res β) : (pure a : Prog ε Req Res α) >>= f = f a := rfl

theorem bind_assoc {γ : Type} (p : Prog ε Req Res α) (f : α → Prog ε Req Res β) (g : β → Prog ε Req Res γ) :
    p >>= f >>= g = p >>= fun a => f a >>= g := by
  induction p with
  | done r => cases r <;> rfl
  | call q k ih =>
    simp only [call_bind]
    exact congrArg (call q) (funext ih)

/-! ## Execution on a service -/

/-- Execute a program on a service that answers every request. -/
def run (S : Service ε Req Res σ) : Prog ε Req Res α → σ → Outcome ε Req σ α
  | done r, s => ⟨r, [], s⟩
  | call q k, s =>
    let o := (k (S s q).1).run S (S s q).2
    ⟨o.result, q :: o.issued, o.state⟩

@[simp] theorem run_done (S : Service ε Req Res σ) (r : Except ε α) (s : σ) : (done r).run S s = ⟨r, [], s⟩ := rfl

@[simp] theorem run_pure (S : Service ε Req Res σ) (a : α) (s : σ) :
    (pure a : Prog ε Req Res α).run S s = ⟨.ok a, [], s⟩ := rfl

@[simp] theorem run_throw (S : Service ε Req Res σ) (e : ε) (s : σ) :
    (throw e : Prog ε Req Res α).run S s = ⟨.error e, [], s⟩ := rfl

@[simp] theorem run_perform (S : Service ε Req Res σ) (q : Req) (s : σ) :
    (perform q).run S s = ⟨(S s q).1, [q], (S s q).2⟩ := rfl

theorem run_bind (S : Service ε Req Res σ) (p : Prog ε Req Res α) (f : α → Prog ε Req Res β) (s : σ) :
    (p >>= f).run S s = (p.run S s).andThen (fun a s' => (f a).run S s') := by
  induction p generalizing s with
  | done r => cases r <;> rfl
  | call q k ih =>
    rw [call_bind, run, run]
    simp only [ih, Outcome.andThen]
    cases ((k (S s q).1).run S (S s q).2).result <;> rfl

@[simp] theorem run_attempt (S : Service ε Req Res σ) (p : Prog ε Req Res α) (s : σ) :
    p.attempt.run S s = ⟨.ok (p.run S s).result, (p.run S s).issued, (p.run S s).state⟩ := by
  induction p generalizing s with
  | done r => rfl
  | call q k ih => simp only [attempt, run, ih]

/-! ## Execution on a service whose requests may fail -/

/-- The executions of a program when any request may fail: a request is served, or it fails with some error and the state
stays as it was. -/
inductive Exec (S : Service ε Req Res σ) : Prog ε Req Res α → σ → List Req → Except ε α → σ → Prop where
  | done (r : Except ε α) (s : σ) : Exec S (.done r) s [] r s
  | served {q : Req} {k : Except ε (Res q) → Prog ε Req Res α} {s s' : σ} {l : List Req} {r : Except ε α} :
      Exec S (k (S s q).1) (S s q).2 l r s' → Exec S (.call q k) s (q :: l) r s'
  | failed {q : Req} {k : Except ε (Res q) → Prog ε Req Res α} {s s' : σ} {l : List Req} {r : Except ε α} (e : ε) :
      Exec S (k (.error e)) s l r s' → Exec S (.call q k) s (q :: l) r s'

/-- The execution in which every request is served. -/
theorem exec_run (S : Service ε Req Res σ) (p : Prog ε Req Res α) (s : σ) :
    Exec S p s (p.run S s).issued (p.run S s).result (p.run S s).state := by
  induction p generalizing s with
  | done r => exact Exec.done r s
  | call q k ih => exact Exec.served (ih _ _)

/-- A program that has ended issues nothing. -/
theorem exec_done_iff {S : Service ε Req Res σ} {r r' : Except ε α} {s s' : σ} {l : List Req} :
    Exec S (done r) s l r' s' ↔ l = [] ∧ r' = r ∧ s' = s := by
  constructor
  · intro h
    cases h
    exact ⟨rfl, rfl, rfl⟩
  · rintro ⟨rfl, rfl, rfl⟩
    exact Exec.done _ _

@[simp] theorem exec_pure_iff {S : Service ε Req Res σ} {a : α} {r : Except ε α} {s s' : σ} {l : List Req} :
    Exec S (pure a : Prog ε Req Res α) s l r s' ↔ l = [] ∧ r = .ok a ∧ s' = s :=
  exec_done_iff

@[simp] theorem exec_throw_iff {S : Service ε Req Res σ} {e : ε} {r : Except ε α} {s s' : σ} {l : List Req} :
    Exec S (throw e : Prog ε Req Res α) s l r s' ↔ l = [] ∧ r = .error e ∧ s' = s :=
  exec_done_iff

/-- One request is issued; it is served or it fails. -/
theorem exec_perform_iff {S : Service ε Req Res σ} {q : Req} {r : Except ε (Res q)} {s s' : σ} {l : List Req} :
    Exec S (perform q) s l r s' ↔ l = [q] ∧ ((r = (S s q).1 ∧ s' = (S s q).2) ∨ ((∃ e, r = .error e) ∧ s' = s)) := by
  constructor
  · intro h
    cases h with
    | served h =>
      obtain ⟨rfl, rfl, rfl⟩ := exec_done_iff.1 h
      exact ⟨rfl, Or.inl ⟨rfl, rfl⟩⟩
    | failed e h =>
      obtain ⟨rfl, rfl, rfl⟩ := exec_done_iff.1 h
      exact ⟨rfl, Or.inr ⟨⟨e, rfl⟩, rfl⟩⟩
  · intro h
    obtain ⟨rfl, ⟨rfl, rfl⟩ | ⟨⟨e, rfl⟩, rfl⟩⟩ := h
    · exact Exec.served (Exec.done _ _)
    · exact Exec.failed e (Exec.done _ _)

/-- A request that was answered was served. -/
theorem exec_perform_ok_iff {S : Service ε Req Res σ} {q : Req} {a : Res q} {s s' : σ} {l : List Req} :
    Exec S (perform q) s l (.ok a) s' ↔ l = [q] ∧ (S s q).1 = .ok a ∧ s' = (S s q).2 := by
  rw [exec_perform_iff]
  simp [eq_comm]

/-- An execution of two programs in a row ends with the error of the first, or executes the second on its value. -/
theorem exec_bind_iff {S : Service ε Req Res σ} {p : Prog ε Req Res α} {f : α → Prog ε Req Res β} {r : Except ε β}
    {s s' : σ} {l : List Req} :
    Exec S (p >>= f) s l r s' ↔
      (∃ e, Exec S p s l (.error e) s' ∧ r = .error e) ∨
        ∃ a l₁ l₂ s₁, Exec S p s l₁ (.ok a) s₁ ∧ Exec S (f a) s₁ l₂ r s' ∧ l = l₁ ++ l₂ := by
  constructor
  · intro h
    induction p generalizing s l with
    | done r₀ =>
      cases r₀ with
      | ok a => exact Or.inr ⟨a, [], l, s, Exec.done _ _, h, rfl⟩
      | error e =>
        obtain ⟨rfl, rfl, rfl⟩ := exec_done_iff.1 h
        exact Or.inl ⟨e, Exec.done _ _, rfl⟩
    | call q k ih =>
      rw [call_bind] at h
      cases h with
      | served h =>
        rcases ih _ h with ⟨e, he, hr⟩ | ⟨a, l₁, l₂, s₁, h₁, h₂, rfl⟩
        · exact Or.inl ⟨e, Exec.served he, hr⟩
        · exact Or.inr ⟨a, q :: l₁, l₂, s₁, Exec.served h₁, h₂, rfl⟩
      | failed e h =>
        rcases ih _ h with ⟨e', he, hr⟩ | ⟨a, l₁, l₂, s₁, h₁, h₂, rfl⟩
        · exact Or.inl ⟨e', Exec.failed e he, hr⟩
        · exact Or.inr ⟨a, q :: l₁, l₂, s₁, Exec.failed e h₁, h₂, rfl⟩
  · intro h
    rcases h with ⟨e, h, rfl⟩ | ⟨a, l₁, l₂, s₁, h₁, h₂, rfl⟩
    · generalize hr : (Except.error e : Except ε α) = r₀ at h
      induction h with
      | done r s => subst hr; exact Exec.done _ _
      | served _ ih => exact Exec.served (ih hr)
      | failed e' _ ih => exact Exec.failed e' (ih hr)
    · generalize hr : (Except.ok a : Except ε α) = r₀ at h₁
      induction h₁ with
      | done r s => subst hr; exact h₂
      | served _ ih => exact Exec.served (ih h₂ hr)
      | failed e' _ ih => exact Exec.failed e' (ih h₂ hr)

/-- Two programs in a row end with a value when both do. -/
theorem exec_bind_ok_iff {S : Service ε Req Res σ} {p : Prog ε Req Res α} {f : α → Prog ε Req Res β} {b : β}
    {s s' : σ} {l : List Req} :
    Exec S (p >>= f) s l (.ok b) s' ↔
      ∃ a l₁ l₂ s₁, Exec S p s l₁ (.ok a) s₁ ∧ Exec S (f a) s₁ l₂ (.ok b) s' ∧ l = l₁ ++ l₂ := by
  rw [exec_bind_iff]
  simp

/-- An attempt executes what it attempts, and its value is the result. -/
theorem exec_attempt_iff {S : Service ε Req Res σ} {p : Prog ε Req Res α} {r : Except ε (Except ε α)} {s s' : σ}
    {l : List Req} : Exec S p.attempt s l r s' ↔ ∃ r₀, r = .ok r₀ ∧ Exec S p s l r₀ s' := by
  induction p generalizing s l with
  | done r₀ =>
    constructor
    · intro h
      obtain ⟨rfl, rfl, rfl⟩ := exec_done_iff.1 h
      exact ⟨r₀, rfl, Exec.done _ _⟩
    · rintro ⟨r₁, rfl, h⟩
      obtain ⟨rfl, rfl, rfl⟩ := exec_done_iff.1 h
      exact Exec.done _ _
  | call q k ih =>
    constructor
    · intro h
      cases h with
      | served h =>
        obtain ⟨r₀, hr, h'⟩ := (ih _).1 h
        exact ⟨r₀, hr, Exec.served h'⟩
      | failed e h =>
        obtain ⟨r₀, hr, h'⟩ := (ih _).1 h
        exact ⟨r₀, hr, Exec.failed e h'⟩
    · rintro ⟨r₀, rfl, h⟩
      cases h with
      | served h => exact Exec.served ((ih _).2 ⟨r₀, rfl, h⟩)
      | failed e h => exact Exec.failed e ((ih _).2 ⟨r₀, rfl, h⟩)

/-! ## The requests a program may issue -/

/-- Whatever it is answered, the program issues only requests that satisfy `P`. -/
def Only (P : Req → Prop) : Prog ε Req Res α → Prop
  | done _ => True
  | call q k => P q ∧ ∀ r, (k r).Only P

@[simp] theorem only_done (P : Req → Prop) (r : Except ε α) : (done r : Prog ε Req Res α).Only P := trivial

@[simp] theorem only_pure (P : Req → Prop) (a : α) : (pure a : Prog ε Req Res α).Only P := trivial

@[simp] theorem only_throw (P : Req → Prop) (e : ε) : (throw e : Prog ε Req Res α).Only P := trivial

@[simp] theorem only_perform (P : Req → Prop) (q : Req) : (perform q : Prog ε Req Res _).Only P ↔ P q := by
  simp [perform, Only]

theorem Only.bind {P : Req → Prop} {p : Prog ε Req Res α} {f : α → Prog ε Req Res β} (hp : p.Only P)
    (hf : ∀ a, (f a).Only P) : (p >>= f).Only P := by
  induction p with
  | done r =>
    cases r with
    | ok a => exact hf a
    | error e => trivial
  | call q k ih => exact ⟨hp.1, fun r => ih r (hp.2 r)⟩

theorem Only.attempt {P : Req → Prop} {p : Prog ε Req Res α} (hp : p.Only P) : p.attempt.Only P := by
  induction p with
  | done r => trivial
  | call q k ih => exact ⟨hp.1, fun r => ih r (hp.2 r)⟩

theorem Only.mono {P Q : Req → Prop} {p : Prog ε Req Res α} (hp : p.Only P) (h : ∀ q, P q → Q q) : p.Only Q := by
  induction p with
  | done r => trivial
  | call q k ih => exact ⟨h q hp.1, fun r => ih r (hp.2 r)⟩

/-- Every request of an execution satisfies the bound. -/
theorem Only.exec {P : Req → Prop} {S : Service ε Req Res σ} {p : Prog ε Req Res α} (hp : p.Only P) {s s' : σ}
    {l : List Req} {r : Except ε α} (h : Exec S p s l r s') : ∀ q ∈ l, P q := by
  induction h with
  | done r s => intro q hq; exact absurd hq List.not_mem_nil
  | served _ ih =>
    intro q hq
    rcases List.mem_cons.1 hq with rfl | hq
    · exact hp.1
    · exact ih (hp.2 _) q hq
  | failed e _ ih =>
    intro q hq
    rcases List.mem_cons.1 hq with rfl | hq
    · exact hp.1
    · exact ih (hp.2 _) q hq

/-- A request that the first of two programs never issues was issued by the second, on the value of the first. -/
theorem Only.exec_bind {P : Req → Prop} {S : Service ε Req Res σ} {p : Prog ε Req Res α} {f : α → Prog ε Req Res β}
    (hp : p.Only (fun q => ¬P q)) {s s' : σ} {l : List Req} {r : Except ε β} (h : Exec S (p >>= f) s l r s') {q : Req}
    (hq : q ∈ l) (hP : P q) :
    ∃ a l₁ l₂ s₁, Exec S p s l₁ (.ok a) s₁ ∧ Exec S (f a) s₁ l₂ r s' ∧ q ∈ l₂ := by
  rcases exec_bind_iff.1 h with ⟨e, he, -⟩ | ⟨a, l₁, l₂, s₁, h₁, h₂, rfl⟩
  · exact absurd hP (hp.exec he q hq)
  · rcases List.mem_append.1 hq with hq | hq
    · exact absurd hP (hp.exec h₁ q hq)
    · exact ⟨a, l₁, l₂, s₁, h₁, h₂, hq⟩

/-! ## The requests a program may issue from a state -/

/-- Some execution of the program, whatever fails, issues the request. -/
def MayIssue (S : Service ε Req Res σ) (p : Prog ε Req Res α) (s : σ) (q : Req) : Prop :=
  ∃ l r s', Exec S p s l r s' ∧ q ∈ l

/-- The request is issued when every request is served. -/
theorem MayIssue.of_run {S : Service ε Req Res σ} {p : Prog ε Req Res α} {s : σ} {q : Req}
    (h : q ∈ (p.run S s).issued) : MayIssue S p s q := ⟨_, _, _, exec_run S p s, h⟩

theorem not_mayIssue_done {S : Service ε Req Res σ} {r : Except ε α} {s : σ} {q : Req} :
    ¬MayIssue S (done r) s q := by
  intro h
  obtain ⟨l, r', s', h, hq⟩ := h
  obtain ⟨rfl, -, -⟩ := exec_done_iff.1 h
  exact List.not_mem_nil hq

theorem mayIssue_perform_iff {S : Service ε Req Res σ} {q q' : Req} {s : σ} : MayIssue S (perform q') s q ↔ q = q' := by
  constructor
  · intro h
    obtain ⟨l, r, s', h, hq⟩ := h
    obtain ⟨rfl, -⟩ := exec_perform_iff.1 h
    exact List.mem_singleton.1 hq
  · rintro rfl
    exact ⟨_, _, _, exec_run S _ s, List.mem_singleton.2 rfl⟩

/-- A request that the first of two programs never issues is issued by the second, on a value of the first. -/
theorem mayIssue_bind_iff {S : Service ε Req Res σ} {p : Prog ε Req Res α} {f : α → Prog ε Req Res β} {s : σ} {q : Req}
    (hp : p.Only (fun q' => q' ≠ q)) :
    MayIssue S (p >>= f) s q ↔ ∃ a l s', Exec S p s l (.ok a) s' ∧ MayIssue S (f a) s' q := by
  constructor
  · intro h
    obtain ⟨l, r, s', h, hq⟩ := h
    obtain ⟨a, l₁, l₂, s₁, h₁, h₂, hq⟩ := Only.exec_bind hp h hq rfl
    exact ⟨a, l₁, s₁, h₁, l₂, r, s', h₂, hq⟩
  · intro h
    obtain ⟨a, l₁, s₁, h₁, l₂, r, s', h₂, hq⟩ := h
    exact ⟨l₁ ++ l₂, r, s', exec_bind_iff.2 (Or.inr ⟨a, l₁, l₂, s₁, h₁, h₂, rfl⟩), List.mem_append_right _ hq⟩

/-- After a request that was served, the program goes on from its value. -/
theorem mayIssue_perform_bind_iff {S : Service ε Req Res σ} {q q' : Req} {f : Res q' → Prog ε Req Res β} {s : σ}
    (hq : q' ≠ q) :
    MayIssue S (perform q' >>= f) s q ↔ ∃ a, (S s q').1 = .ok a ∧ MayIssue S (f a) (S s q').2 q := by
  rw [mayIssue_bind_iff ((only_perform _ _).2 hq)]
  simp only [exec_perform_ok_iff]
  constructor
  · rintro ⟨a, l, s', ⟨-, ha, rfl⟩, h⟩
    exact ⟨a, ha, h⟩
  · intro h
    obtain ⟨a, ha, h⟩ := h
    exact ⟨a, _, _, ⟨rfl, ha, rfl⟩, h⟩

/-- A call issues its request, or what it does after the answer of the service or after an error. -/
theorem mayIssue_call_iff {S : Service ε Req Res σ} {q q' : Req} {k : Except ε (Res q') → Prog ε Req Res α} {s : σ} :
    MayIssue S (call q' k) s q ↔
      q = q' ∨ MayIssue S (k (S s q').1) (S s q').2 q ∨ ∃ e, MayIssue S (k (.error e)) s q := by
  constructor
  · intro h
    obtain ⟨l, r, s', h, hq⟩ := h
    cases h with
    | served h =>
      rcases List.mem_cons.1 hq with hq | hq
      · exact Or.inl hq
      · exact Or.inr (Or.inl ⟨_, _, _, h, hq⟩)
    | failed e h =>
      rcases List.mem_cons.1 hq with hq | hq
      · exact Or.inl hq
      · exact Or.inr (Or.inr ⟨e, _, _, _, h, hq⟩)
  · intro h
    rcases h with rfl | ⟨l, r, s', h, hq⟩ | ⟨e, l, r, s', h, hq⟩
    · exact MayIssue.of_run List.mem_cons_self
    · exact ⟨_, _, _, Exec.served h, List.mem_cons_of_mem _ hq⟩
    · exact ⟨_, _, _, Exec.failed e h, List.mem_cons_of_mem _ hq⟩

/-- The first error ends the program. -/
def FailFast : Prog ε Req Res α → Prop
  | done _ => True
  | call _ k => (∀ e, k (.error e) = done (.error e)) ∧ ∀ r, (k r).FailFast

@[simp] theorem failFast_pure (a : α) : (pure a : Prog ε Req Res α).FailFast := trivial

@[simp] theorem failFast_throw (e : ε) : (throw e : Prog ε Req Res α).FailFast := trivial

@[simp] theorem failFast_perform (q : Req) : (perform q : Prog ε Req Res _).FailFast :=
  ⟨fun _ => rfl, fun _ => trivial⟩

theorem FailFast.bind {p : Prog ε Req Res α} {f : α → Prog ε Req Res β} (hp : p.FailFast) (hf : ∀ a, (f a).FailFast) :
    (p >>= f).FailFast := by
  induction p with
  | done r =>
    cases r with
    | ok a => exact hf a
    | error e => trivial
  | call q k ih =>
    refine ⟨fun e => ?_, fun r => ih r (hp.2 r)⟩
    change k (.error e) >>= f = _
    rw [hp.1 e, done_error_bind]

theorem FailFast.ite {c : Prop} [Decidable c] {p p' : Prog ε Req Res α} (hp : p.FailFast) (hp' : p'.FailFast) :
    (if c then p else p').FailFast := by
  split
  · exact hp
  · exact hp'

/-- A program that ends at the first error issues in no execution what it does not issue when every request is served. -/
theorem FailFast.mayIssue_iff {S : Service ε Req Res σ} {p : Prog ε Req Res α} (hp : p.FailFast) {s : σ} {q : Req} :
    MayIssue S p s q ↔ q ∈ (p.run S s).issued := by
  induction p generalizing s with
  | done r => simp [not_mayIssue_done]
  | call q' k ih =>
    rw [mayIssue_call_iff, run, List.mem_cons, ih _ (hp.2 _)]
    refine or_congr_right (or_iff_left ?_)
    intro h
    obtain ⟨e, h⟩ := h
    rw [hp.1 e] at h
    exact not_mayIssue_done h

/-! ## Execution request by request -/

/-- The request a program issues next. -/
def awaits : Prog ε Req Res α → Option Req
  | done _ => none
  | call q _ => some q

/-- Execute the next request of a program: it is served, or it fails with the error given. -/
def advance (S : Service ε Req Res σ) (fault : Option ε) : Prog ε Req Res α → σ → Prog ε Req Res α × σ
  | done r, s => (done r, s)
  | call q k, s =>
    match fault with
    | none => (k (S s q).1, (S s q).2)
    | some e => (k (.error e), s)

@[simp] theorem awaits_done (r : Except ε α) : (done r : Prog ε Req Res α).awaits = none := rfl

@[simp] theorem awaits_call (q : Req) (k : Except ε (Res q) → Prog ε Req Res α) : (call q k).awaits = some q := rfl

@[simp] theorem awaits_perform_bind (q : Req) (f : Res q → Prog ε Req Res α) : (perform q >>= f).awaits = some q := rfl

@[simp] theorem advance_done (S : Service ε Req Res σ) (fault : Option ε) (r : Except ε α) (s : σ) :
    (done r : Prog ε Req Res α).advance S fault s = (done r, s) := rfl

/-- A request that is served with a value goes on from that value. -/
theorem advance_perform_bind {S : Service ε Req Res σ} {q : Req} {s : σ} {a : Res q} (h : (S s q).1 = .ok a)
    (f : Res q → Prog ε Req Res α) : (perform q >>= f).advance S none s = (f a, (S s q).2) := by
  change ((done (S s q).1 : Prog ε Req Res (Res q)) >>= f, (S s q).2) = _
  rw [h, done_ok_bind]

/-- A program keeps its bound. -/
theorem Only.advance {P : Req → Prop} {p : Prog ε Req Res α} (hp : p.Only P) (S : Service ε Req Res σ)
    (fault : Option ε) (s : σ) : (p.advance S fault s).1.Only P := by
  cases p with
  | done r => exact hp
  | call q k =>
    cases fault with
    | none => exact hp.2 _
    | some e => exact hp.2 _

/-- What the requests of a bound preserve, a step of a program within the bound preserves. -/
theorem Only.advance_state {P : Req → Prop} {p : Prog ε Req Res α} (hp : p.Only P) {S : Service ε Req Res σ} {s : σ}
    {R : σ → Prop} (hs : R s) (hR : ∀ q, P q → R (S s q).2) (fault : Option ε) : R (p.advance S fault s).2 := by
  cases p with
  | done r => exact hs
  | call q k =>
    cases fault with
    | none => exact hR q hp.1
    | some e => exact hs

end Prog
