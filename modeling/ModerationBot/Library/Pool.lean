import Mathlib.Data.List.Induction
import ModerationBot.Library.Interference

/-!
# Pools of programs

Any number of programs over one state. In each turn one more program is started, or a program issues its next request, or the state
changes by other hands. The pool records the requests in the order in which they are issued; those of one program are a history of it,
so what the logic of `Prog.Along` establishes of every program holds of every request of the pool.
-/

/-- A program in progress: what it was started as, and what is left of it. -/
structure Job (τ ε Req : Type) (Res : Req → Type) (α : Type) where
  origin : τ
  rest : Prog ε Req Res α

/-- What happens in a turn. -/
inductive Turn (τ κ φ : Type) where
  | start (origin : τ)
  | issue (i : Nat) (fate : Fate φ)
  | change (c : κ)

/-- What runs in a pool, and over what: the medium of the requests, the programs, and the changes by other hands. -/
structure Setup (τ κ φ ε Req : Type) (Res : Req → Type) (σ α : Type) where
  medium : Medium φ ε Req Res σ
  program : τ → Prog ε Req Res α
  change : κ → σ → σ

/-- The state, the programs in progress, and the requests they issued. -/
structure Pool (τ φ ε Req : Type) (Res : Req → Type) (σ α : Type) where
  state : σ
  jobs : List (Job τ ε Req Res α)
  history : List (Nat × Event φ Req σ)

/-- The events of one program in the history of a pool. -/
def eventsOf {φ Req σ : Type} (i : Nat) (history : List (Nat × Event φ Req σ)) : List (Event φ Req σ) :=
  history.filterMap fun e => if e.1 = i then some e.2 else none

section

variable {φ Req σ : Type} {i j : Nat} {l : List (Nat × Event φ Req σ)} {ev : Event φ Req σ}

@[simp] theorem eventsOf_nil : eventsOf i ([] : List (Nat × Event φ Req σ)) = [] := rfl

theorem eventsOf_concat_self : eventsOf i (l ++ [(i, ev)]) = eventsOf i l ++ [ev] := by
  simp [eventsOf]

theorem eventsOf_concat_of_ne (h : j ≠ i) : eventsOf i (l ++ [(j, ev)]) = eventsOf i l := by
  simp [eventsOf, h]

theorem eventsOf_prefix {l' : List (Nat × Event φ Req σ)} (h : l <+: l') : eventsOf i l <+: eventsOf i l' :=
  h.filterMap _

/-- A program that issued nothing has no events. -/
theorem eventsOf_eq_nil (h : ∀ e ∈ l, e.1 < i) : eventsOf i l = [] := by
  refine List.filterMap_eq_nil_iff.2 fun e he => if_neg ?_
  exact Nat.ne_of_lt (h e he)

theorem mem_eventsOf_iff : ev ∈ eventsOf i l ↔ (i, ev) ∈ l := by
  rw [eventsOf, List.mem_filterMap]
  constructor
  · intro h
    obtain ⟨⟨j, ev'⟩, he, hev⟩ := h
    simp only [Option.ite_none_right_eq_some, Option.some.injEq] at hev
    obtain ⟨rfl, rfl⟩ := hev
    exact he
  · intro h
    exact ⟨(i, ev), h, if_pos rfl⟩

/-- An event of a program stands at its place in the history of the pool. -/
theorem exists_prefix_of_mem_eventsOf (h : ev ∈ eventsOf i l) : ∃ l', l' ++ [(i, ev)] <+: l := by
  obtain ⟨before, after, rfl⟩ := List.append_of_mem (mem_eventsOf_iff.1 h)
  exact ⟨before, after, by rw [List.append_assoc, List.singleton_append]⟩

end

namespace Pool

variable {τ κ φ ε Req : Type} {Res : Req → Type} {σ α : Type} (P : Setup τ κ φ ε Req Res σ α)

/-- The pool after a turn; a program that has ended issues nothing. -/
def step (s : Pool τ φ ε Req Res σ α) : Turn τ κ φ → Pool τ φ ε Req Res σ α
  | .start t => { s with jobs := s.jobs ++ [⟨t, P.program t⟩] }
  | .issue i fate =>
    match s.jobs[i]? with
    | some ⟨t, .call q k⟩ =>
      { state := P.medium.after s.state q fate
        jobs := s.jobs.set i ⟨t, k (P.medium.answer s.state q fate)⟩
        history := s.history ++ [(i, ⟨s.state, q, fate⟩)] }
    | _ => s
  | .change c => { s with state := P.change c s.state }

/-- The pool after a run from a state: its turns, in order. -/
def run (s : σ) (turns : List (Turn τ κ φ)) : Pool τ φ ε Req Res σ α := turns.foldl (step P) ⟨s, [], []⟩

theorem run_concat (s : σ) (turns : List (Turn τ κ φ)) (turn : Turn τ κ φ) :
    run P s (turns ++ [turn]) = (run P s turns).step P turn := by
  rw [run, List.foldl_append]
  rfl

/-- What a turn of a program does, spelled out: nothing, or its next request. -/
theorem step_issue (s : Pool τ φ ε Req Res σ α) (i : Nat) (fate : Fate φ) :
    s.step P (.issue i fate) = s ∨ ∃ t q k, s.jobs[i]? = some ⟨t, .call q k⟩ ∧ s.step P (.issue i fate) =
      { state := P.medium.after s.state q fate
        jobs := s.jobs.set i ⟨t, k (P.medium.answer s.state q fate)⟩
        history := s.history ++ [(i, ⟨s.state, q, fate⟩)] } := by
  cases ht : s.jobs[i]? with
  | none => exact Or.inl (by simp only [step, ht])
  | some job =>
    obtain ⟨t, rest⟩ := job
    cases rest with
    | done r => exact Or.inl (by simp only [step, ht])
    | call q k => exact Or.inr ⟨t, q, k, rfl, by simp only [step, ht]⟩

/-! ## The events of each program are a history of it -/

/-- What holds of a pool at all times. -/
structure Sound (s : Pool τ φ ε Req Res σ α) : Prop where
  reaches : ∀ (i : Nat) (job : Job τ ε Req Res α), s.jobs[i]? = some job →
    (P.program job.origin).Reaches P.medium (eventsOf i s.history) job.rest
  started : ∀ e ∈ s.history, e.1 < s.jobs.length

variable {P}

theorem Sound.start {s : Pool τ φ ε Req Res σ α} (h : Sound P s) (t : τ) : Sound P (s.step P (.start t)) where
  reaches i job hi := by
    rcases Nat.lt_or_ge i s.jobs.length with hlt | hge
    · rw [step, List.getElem?_append_left hlt] at hi
      exact h.reaches i job hi
    · rw [step, List.getElem?_append_right hge] at hi
      have hlen : i - s.jobs.length < 1 := (List.getElem?_eq_some_iff.1 hi).1
      obtain rfl : i = s.jobs.length := by omega
      rw [Nat.sub_self, List.getElem?_cons_zero, Option.some.injEq] at hi
      subst hi
      simp only [step]
      rw [eventsOf_eq_nil h.started]
      exact .start
  started e he := by
    have := h.started e he
    simp only [step, List.length_append, List.length_singleton]
    omega

theorem Sound.issue {s : Pool τ φ ε Req Res σ α} (h : Sound P s) (i : Nat) (fate : Fate φ) :
    Sound P (s.step P (.issue i fate)) := by
  rcases step_issue P s i fate with heq | ⟨t, q, k, ht, heq⟩
  · rw [heq]
    exact h
  rw [heq]
  have hlt : i < s.jobs.length := (List.getElem?_eq_some_iff.1 ht).1
  refine ⟨fun j job hj => ?_, fun e he => ?_⟩
  · by_cases hij : i = j
    · subst hij
      rw [List.getElem?_set_self hlt, Option.some.injEq] at hj
      subst hj
      rw [eventsOf_concat_self]
      exact (h.reaches i _ ht).next s.state fate
    · rw [List.getElem?_set_ne hij] at hj
      rw [eventsOf_concat_of_ne hij]
      exact h.reaches j job hj
  · rw [List.length_set]
    rcases List.mem_append.1 he with he | he
    · exact h.started e he
    · rw [List.mem_singleton.1 he]
      exact hlt

theorem Sound.step {s : Pool τ φ ε Req Res σ α} (h : Sound P s) (turn : Turn τ κ φ) : Sound P (s.step P turn) := by
  cases turn with
  | start t => exact h.start t
  | issue i fate => exact h.issue i fate
  | change c => exact ⟨h.reaches, h.started⟩

theorem sound_run (s : σ) (turns : List (Turn τ κ φ)) : Sound P (run P s turns) := by
  induction turns using List.reverseRecOn with
  | nil => exact ⟨fun i job hi => by simp [run] at hi, fun e he => absurd he List.not_mem_nil⟩
  | append_singleton turns turn ih =>
    rw [run_concat]
    exact ih.step turn

/-! ## What every program satisfies, every request of a run satisfies -/

section Laws

variable {Φ : τ → List (Event φ Req σ) → Req → Prop} {Ψ : τ → List (Event φ Req σ) → Except ε α → Prop}

/-- Each request of a run was issued by a job of the run, and satisfies what the program of the job guarantees. -/
theorem issued (hP : ∀ t, (P.program t).Along P.medium (Φ t) (Ψ t) []) (s : σ) (turns : List (Turn τ κ φ))
    {l : List (Nat × Event φ Req σ)} {i : Nat} {ev : Event φ Req σ} (hl : l ++ [(i, ev)] <+: (run P s turns).history) :
    ∃ job, (run P s turns).jobs[i]? = some job ∧ Φ job.origin (eventsOf i l) ev.request := by
  have hsound := sound_run (P := P) s turns
  have hlt : i < (run P s turns).jobs.length := hsound.started (i, ev) (hl.subset (by simp))
  refine ⟨_, List.getElem?_eq_getElem hlt, ?_⟩
  have hev : eventsOf i l ++ [ev] <+: eventsOf i (run P s turns).history := by
    rw [← eventsOf_concat_self]
    exact eventsOf_prefix hl
  exact (hsound.reaches i _ (List.getElem?_eq_getElem hlt)).issued (hP _) hev

/-- A job that has ended satisfies what its program guarantees of the result. -/
theorem ended (hP : ∀ t, (P.program t).Along P.medium (Φ t) (Ψ t) []) (s : σ) (turns : List (Turn τ κ φ)) {i : Nat} {t : τ}
    {r : Except ε α} (ht : (run P s turns).jobs[i]? = some ⟨t, .done r⟩) : Ψ t (eventsOf i (run P s turns).history) r :=
  ((sound_run s turns).reaches i _ ht).along (hP t)

/-- Each job of a run was started in a turn of it. -/
theorem started (s : σ) (turns : List (Turn τ κ φ)) : ∀ job ∈ (run P s turns).jobs, .start job.origin ∈ turns := by
  induction turns using List.reverseRecOn with
  | nil => exact fun job ht => absurd ht List.not_mem_nil
  | append_singleton turns turn ih =>
    have hmono : ∀ job ∈ (run P s turns).jobs, .start job.origin ∈ turns ++ [turn] :=
      fun job ht => List.mem_append_left _ (ih job ht)
    rw [run_concat]
    cases turn with
    | start t =>
      intro job ht
      rcases List.mem_append.1 ht with ht | ht
      · exact hmono job ht
      · rw [List.mem_singleton.1 ht]
        simp
    | issue i fate =>
      rcases step_issue P (run P s turns) i fate with heq | ⟨t, q, k, ht, heq⟩
      · rw [heq]
        exact hmono
      · rw [heq]
        intro job hjob
        rcases List.mem_or_eq_of_mem_set hjob with hjob | rfl
        · exact hmono job hjob
        · exact hmono ⟨t, .call q k⟩ (List.mem_of_getElem? ht)
    | change c => exact hmono

/-- Each request of a run satisfies what a program that was started guarantees. -/
theorem issued_of_mem (hP : ∀ t, (P.program t).Along P.medium (Φ t) (Ψ t) []) (s : σ) (turns : List (Turn τ κ φ))
    {e : Nat × Event φ Req σ} (he : e ∈ (run P s turns).history) :
    ∃ t l, .start t ∈ turns ∧ Φ t l e.2.request := by
  obtain ⟨before, after, hsplit⟩ := List.append_of_mem he
  have hprefix : before ++ [(e.1, e.2)] <+: (run P s turns).history :=
    ⟨after, by rw [hsplit, List.append_assoc, List.singleton_append]⟩
  obtain ⟨job, hjob, hΦ⟩ := issued hP s turns hprefix
  exact ⟨job.origin, _, started s turns job (List.mem_of_getElem? hjob), hΦ⟩

end Laws

end Pool
