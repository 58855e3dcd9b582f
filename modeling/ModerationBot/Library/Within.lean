import ModerationBot.Library.Pool
import ModerationBot.Library.Translate

/-!
# Programs within a number of requests

A program that issues no more than so many requests, whatever it is answered, has ended as soon as its turn came that often: whatever
else happens in the pool, and however its requests fare.
-/

namespace Prog

/-- Whatever it is answered, the program issues at most so many requests. -/
def Within {ε Req : Type} {Res : Req → Type} {α : Type} : Prog ε Req Res α → Nat → Prop
  | done _, _ => True
  | call _ _, 0 => False
  | call _ k, n + 1 => ∀ r, (k r).Within n

section Rules

variable {ε Req Req' : Type} {Res : Req → Type} {Res' : Req' → Type} {α β : Type} {m n : Nat}

theorem within_done (r : Except ε α) (n : Nat) : (done r : Prog ε Req Res α).Within n := trivial

theorem within_perform (q : Req) (n : Nat) : (perform q : Prog ε Req Res _).Within (n + 1) := fun r => within_done r n

theorem Within.mono {p : Prog ε Req Res α} (hp : p.Within m) (h : m ≤ n) : p.Within n := by
  induction p generalizing m n with
  | done r => trivial
  | call q k ih =>
    match m, n, hp, h with
    | m + 1, n + 1, hp, h => exact fun r => ih r (hp r) (Nat.le_of_succ_le_succ h)

/-- One program after another issues no more than both. -/
theorem Within.bind {p : Prog ε Req Res β} {f : β → Prog ε Req Res α} (hp : p.Within m) (hf : ∀ b, (f b).Within n) :
    (p >>= f).Within (n + m) := by
  induction p generalizing m with
  | done r =>
    cases r with
    | ok b => exact (hf b).mono (Nat.le_add_right n m)
    | error e => trivial
  | call q k ih =>
    match m, hp with
    | m + 1, hp => exact fun r => ih r (hp r)

theorem within_perform_bind {q : Req} {f : Res q → Prog ε Req Res α} (hf : ∀ a, (f a).Within n) :
    (perform q >>= f).Within (n + 1) :=
  (within_perform q 0).bind hf

theorem Within.attempt {p : Prog ε Req Res α} (hp : p.Within n) : p.attempt.Within n := by
  induction p generalizing n with
  | done r => trivial
  | call q k ih =>
    match n, hp with
    | n + 1, hp => exact fun r => ih r (hp r)

theorem Within.translate {p : Prog ε Req Res α} (t : Translation Req Res Req' Res') (hp : p.Within n) :
    (p.translate t).Within n := by
  induction p generalizing n with
  | done r => trivial
  | call q k ih =>
    match n, hp with
    | n + 1, hp => exact fun r => ih _ (hp _)

/-- An execution of a translated program is one of the program, where the wider service answers as the service does. -/
theorem Exec.of_translate {σ σ' : Type} {t : Translation Req Res Req' Res'} {S : Service ε Req Res σ}
    {S' : Service ε Req' Res' σ'} {view : σ' → σ} (hanswer : ∀ s q, (S' s (t.request q)).1.map (t.answer q) = (S (view s) q).1)
    (hstate : ∀ s q, view (S' s (t.request q)).2 = (S (view s) q).2) {p : Prog ε Req Res α} {s s' : σ'} {l : List Req'}
    {r : Except ε α} (h : (p.translate t).Exec S' s l r s') : ∃ l₀, l = l₀.map t.request ∧ p.Exec S (view s) l₀ r (view s') := by
  induction p generalizing s l with
  | done r₀ =>
    obtain ⟨rfl, rfl, rfl⟩ := exec_done_iff.1 h
    exact ⟨[], rfl, .done _ _⟩
  | call q k ih =>
    rw [Prog.translate] at h
    cases h with
    | served h =>
      dsimp only at h
      rw [hanswer] at h
      obtain ⟨l₀, rfl, h₀⟩ := ih _ h
      rw [hstate] at h₀
      exact ⟨q :: l₀, rfl, .served h₀⟩
    | failed e h =>
      obtain ⟨l₀, rfl, h₀⟩ := ih _ h
      exact ⟨q :: l₀, rfl, .failed e h₀⟩

/-- A program that may issue nothing more has ended. -/
theorem Within.done_of_zero {p : Prog ε Req Res α} (hp : p.Within 0) : ∃ r, p = done r := by
  cases p with
  | done r => exact ⟨r, rfl⟩
  | call q k => exact absurd hp id

end Rules

/-- What a program has issued counts. -/
theorem Reaches.within {φ ε Req σ α : Type} {Res : Req → Type} {M : Medium φ ε Req Res σ} {p p' : Prog ε Req Res α}
    {h : List (Event φ Req σ)} {n : Nat} (hr : p.Reaches M h p') (hp : p.Within n) : ∃ m, p'.Within m ∧ h.length + m = n := by
  induction hr with
  | start => exact ⟨n, hp, Nat.zero_add n⟩
  | next s fate _ ih =>
    obtain ⟨m, hm, hlen⟩ := ih
    match m, hm with
    | m + 1, hm =>
      refine ⟨m, hm _, ?_⟩
      rw [List.length_append, List.length_singleton]
      omega

end Prog

/-- Whether a turn is that of a program. -/
def Turn.isOf {τ κ φ : Type} (i : Nat) : Turn τ κ φ → Bool
  | .issue j _ => j == i
  | _ => false

namespace Pool

variable {τ κ φ ε Req : Type} {Res : Req → Type} {σ α : Type} {P : Setup τ κ φ ε Req Res σ α} {t : τ} {i n : Nat}

/-- A turn of a program lowers what it may still issue, and any other turn leaves the program alone. -/
theorem step_within {s : Pool τ φ ε Req Res σ α} {p : Prog ε Req Res α} (hi : s.jobs[i]? = some ⟨t, p⟩) (hp : p.Within n)
    (turn : Turn τ κ φ) :
    ∃ p', (s.step P turn).jobs[i]? = some ⟨t, p'⟩ ∧ p'.Within (n - if turn.isOf i = true then 1 else 0) := by
  cases turn with
  | start t' =>
    refine ⟨p, ?_, hp⟩
    rw [step, List.getElem?_append_left (List.getElem?_eq_some_iff.1 hi).1]
    exact hi
  | change c => exact ⟨p, hi, hp⟩
  | issue j fate =>
    by_cases hj : j = i
    · subst hj
      cases p with
      | done r => exact ⟨.done r, by simp only [step, hi], trivial⟩
      | call q k =>
        cases n with
        | zero => exact absurd hp id
        | succ n =>
          refine ⟨k (P.medium.answer s.state q fate), ?_, ?_⟩
          · simp only [step, hi]
            exact List.getElem?_set_self (List.getElem?_eq_some_iff.1 hi).1
          · rw [Turn.isOf, beq_self_eq_true, if_pos rfl]
            exact hp _
    · have hother : Turn.isOf i (.issue j fate : Turn τ κ φ) = false := beq_false_of_ne hj
      refine ⟨p, ?_, by simpa [hother] using hp⟩
      rcases step_issue P s j fate with heq | ⟨t', q, k, -, heq⟩
      · rw [heq, hi]
      · rw [heq]
        exact (List.getElem?_set_ne hj).trans hi

/-- Once its turn came as often as it may issue something, a program has ended. -/
theorem ended_of_turns {turns : List (Turn τ κ φ)} {s : Pool τ φ ε Req Res σ α} {p : Prog ε Req Res α}
    (hi : s.jobs[i]? = some ⟨t, p⟩) (hp : p.Within n) (hn : n ≤ turns.countP (Turn.isOf i)) :
    ∃ r, (turns.foldl (step P) s).jobs[i]? = some ⟨t, .done r⟩ := by
  induction turns generalizing s p n with
  | nil =>
    obtain ⟨r, rfl⟩ := (hp.mono hn).done_of_zero
    exact ⟨r, hi⟩
  | cons turn turns ih =>
    obtain ⟨p', hi', hp'⟩ := step_within (P := P) hi hp turn
    refine ih hi' hp' ?_
    rw [List.countP_cons] at hn
    omega

/-! ## A program whose turns come in a row -/

/-- What is left of a program, executed by itself between two pools: the claims about single executions are about these. -/
structure Executes (P : Setup τ κ φ ε Req Res σ α) (fates : List (Fate φ)) (s s' : Pool τ φ ε Req Res σ α) (i : Nat)
    (job : Job τ ε Req Res α) (l : List Req) (r : Except ε α) : Prop where
  exec : job.rest.Exec P.medium.service s.state l r s'.state
  run : (∀ fate ∈ fates, fate = .served) → job.rest.run P.medium.service s.state = ⟨r, l, s'.state⟩
  jobs : s'.jobs = s.jobs.set i ⟨job.origin, .done r⟩
  requests : s'.history.map (fun e => (e.1, e.2.request)) = s.history.map (fun e => (e.1, e.2.request)) ++ l.map fun q => (i, q)

/-- A program that has ended is executed by doing nothing. -/
theorem executes_done {s : Pool τ φ ε Req Res σ α} {r : Except ε α} (hi : s.jobs[i]? = some ⟨t, .done r⟩) (fates : List (Fate φ)) :
    Executes P fates s ((fates.map (Turn.issue i)).foldl (step P) s) i ⟨t, .done r⟩ [] r := by
  have hstay : (fates.map (Turn.issue i)).foldl (step P) s = s := by
    induction fates with
    | nil => rfl
    | cons fate fates ih =>
      have hstep : s.step P (.issue i fate) = s := by simp only [step, hi]
      rw [List.map_cons, List.foldl_cons, hstep, ih]
  rw [hstay]
  refine ⟨.done r s.state, fun _ => rfl, ?_, by simp⟩
  obtain ⟨hlt, hjob⟩ := List.getElem?_eq_some_iff.1 hi
  rw [← hjob, List.set_getElem_self]

/-- Given enough turns in a row, none of whose answers is lost, a program is executed. -/
theorem exists_executes {fates : List (Fate φ)} {s : Pool τ φ ε Req Res σ α} {p : Prog ε Req Res α}
    (hi : s.jobs[i]? = some ⟨t, p⟩) (hp : p.Within n) (hn : n ≤ fates.length) (hfates : ∀ f, .lost f ∉ fates) :
    ∃ l r, Executes P fates s ((fates.map (Turn.issue i)).foldl (step P) s) i ⟨t, p⟩ l r := by
  induction fates generalizing s p n with
  | nil =>
    obtain ⟨r, rfl⟩ := (hp.mono hn).done_of_zero
    exact ⟨[], r, executes_done hi []⟩
  | cons fate fates ih =>
    cases p with
    | done r => exact ⟨[], r, executes_done hi (fate :: fates)⟩
    | call q k =>
      cases n with
      | zero => exact absurd hp id
      | succ n =>
        have hlt : i < s.jobs.length := (List.getElem?_eq_some_iff.1 hi).1
        have hstep : s.step P (.issue i fate) =
            { state := P.medium.after s.state q fate
              jobs := s.jobs.set i ⟨t, k (P.medium.answer s.state q fate)⟩
              history := s.history ++ [(i, ⟨s.state, q, fate⟩)] } := by simp only [step, hi]
        have hi' : (s.step P (.issue i fate)).jobs[i]? = some ⟨t, k (P.medium.answer s.state q fate)⟩ := by
          rw [hstep]
          exact List.getElem?_set_self hlt
        obtain ⟨l, r, h⟩ := ih hi' (hp _) (Nat.le_of_succ_le_succ hn) fun f hf => hfates f (List.mem_cons_of_mem _ hf)
        obtain ⟨hexec, hrun, hjobs, hrequests⟩ := h
        rw [hstep] at hexec hrun hjobs hrequests
        refine ⟨q :: l, r, ?_, fun hserved => ?_, ?_, ?_⟩ <;> rw [List.map_cons, List.foldl_cons, hstep]
        · cases fate with
          | served => exact .served hexec
          | refused f => exact .failed (P.medium.error f) hexec
          | lost f => exact absurd List.mem_cons_self (hfates f)
        · obtain rfl := hserved fate List.mem_cons_self
          have hrest := hrun fun fate' hfate' => hserved fate' (List.mem_cons_of_mem _ hfate')
          rw [Prog.run]
          exact congrArg (fun o => (⟨o.result, q :: o.issued, o.state⟩ : Outcome ε Req σ α)) hrest
        · rw [hjobs, List.set_set]
        · rw [hrequests, List.map_append, List.append_assoc]
          rfl

end Pool
