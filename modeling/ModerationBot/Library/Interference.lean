import ModerationBot.Library.Prog

/-!
# Programs under interference

A program whose requests go over an unreliable medium, while anything may happen to the state in between: each request meets some
state, and is served, is refused without effect, or takes effect while its answer is lost. `Prog.Along` is the logic of such
executions: what each request satisfies, given the events before it, and what the result satisfies, given all of them. It is computed
along the program, so a rule for each way to build a program suffices; `Prog.Reaches` is what the rules are sound for.
-/

/-- How a request fares: it is served, it is refused without effect, or it takes effect and its answer is lost. -/
inductive Fate (φ : Type) where
  | served
  | refused (fault : φ)
  | lost (fault : φ)

/-- A request that takes effect. -/
def Fate.effective {φ : Type} : Fate φ → Bool
  | served => true
  | refused _ => false
  | lost _ => true

/-- A request as it was issued: the state it met, and how it fared. -/
structure Event (φ Req σ : Type) where
  before : σ
  request : Req
  fate : Fate φ

/-- A service reached over a medium whose faults show as errors. -/
structure Medium (φ ε Req : Type) (Res : Req → Type) (σ : Type) where
  service : Service ε Req Res σ
  error : φ → ε

namespace Medium

variable {φ ε Req : Type} {Res : Req → Type} {σ : Type}

/-- What the program is answered. -/
def answer (M : Medium φ ε Req Res σ) (s : σ) (q : Req) : Fate φ → Except ε (Res q)
  | .served => (M.service s q).1
  | .refused f => .error (M.error f)
  | .lost f => .error (M.error f)

/-- The state the request leaves. -/
def after (M : Medium φ ε Req Res σ) (s : σ) (q : Req) : Fate φ → σ
  | .served => (M.service s q).2
  | .refused _ => s
  | .lost _ => (M.service s q).2

variable (M : Medium φ ε Req Res σ) (s : σ) (q : Req) (f : φ)

@[simp] theorem answer_served : M.answer s q .served = (M.service s q).1 := rfl

@[simp] theorem answer_refused : M.answer s q (.refused f) = .error (M.error f) := rfl

@[simp] theorem answer_lost : M.answer s q (.lost f) = .error (M.error f) := rfl

/-- A request that took effect leaves what the service leaves, and any other leaves the state as it was. -/
theorem after_eq (fate : Fate φ) : M.after s q fate = if fate.effective = true then (M.service s q).2 else s := by
  cases fate <;> rfl

/-- Only a served request is answered with a value, and it is the value of the service. -/
theorem answer_eq_ok_iff {M : Medium φ ε Req Res σ} {s : σ} {q : Req} {fate : Fate φ} {a : Res q} :
    M.answer s q fate = .ok a ↔ fate = .served ∧ (M.service s q).1 = .ok a := by
  cases fate <;> simp

end Medium

namespace Prog

variable {φ ε Req : Type} {Res : Req → Type} {α β σ : Type} {M : Medium φ ε Req Res σ}

/-! ## The logic -/

/-- Whatever states its requests meet and however they fare: after a history `h`, each request the program issues satisfies `Φ` of the
history so far, and its result satisfies `Ψ` of the whole history. -/
def Along (M : Medium φ ε Req Res σ) (Φ : List (Event φ Req σ) → Req → Prop)
    (Ψ : List (Event φ Req σ) → Except ε α → Prop) : Prog ε Req Res α → List (Event φ Req σ) → Prop
  | done r, h => Ψ h r
  | call q k, h => Φ h q ∧ ∀ s fate, (k (M.answer s q fate)).Along M Φ Ψ (h ++ [⟨s, q, fate⟩])

section Rules

variable {Φ Φ' : List (Event φ Req σ) → Req → Prop} {Ψ Ψ' : List (Event φ Req σ) → Except ε α → Prop}
  {h : List (Event φ Req σ)}

@[simp] theorem along_pure {a : α} : (pure a : Prog ε Req Res α).Along M Φ Ψ h ↔ Ψ h (.ok a) := Iff.rfl

@[simp] theorem along_throw {e : ε} : (throw e : Prog ε Req Res α).Along M Φ Ψ h ↔ Ψ h (.error e) := Iff.rfl

@[simp] theorem along_perform {q : Req} {Ψ : List (Event φ Req σ) → Except ε (Res q) → Prop} :
    (perform q).Along M Φ Ψ h ↔ Φ h q ∧ ∀ s fate, Ψ (h ++ [⟨s, q, fate⟩]) (M.answer s q fate) := Iff.rfl

/-- What follows a program holds along it: of its value the continuation, and of its error the end. -/
theorem along_bind {p : Prog ε Req Res β} {f : β → Prog ε Req Res α} :
    (p >>= f).Along M Φ Ψ h ↔ p.Along M Φ (fun h' r => match r with
      | .ok b => (f b).Along M Φ Ψ h'
      | .error e => Ψ h' (.error e)) h := by
  induction p generalizing h with
  | done r => cases r <;> rfl
  | call q k ih => exact and_congr_right fun _ => forall_congr' fun s => forall_congr' fun fate => ih _

/-- What follows a request: the continuation holds along every value the service may give, and the end along every error. -/
theorem along_perform_bind {q : Req} {f : Res q → Prog ε Req Res α} :
    (perform q >>= f).Along M Φ Ψ h ↔ Φ h q ∧
      (∀ s a, (M.service s q).1 = .ok a → (f a).Along M Φ Ψ (h ++ [⟨s, q, .served⟩])) ∧
        ∀ s fate e, M.answer s q fate = .error e → Ψ (h ++ [⟨s, q, fate⟩]) (.error e) := by
  rw [along_bind, along_perform]
  refine and_congr_right fun _ => ⟨fun hall => ⟨fun s a ha => ?_, fun s fate e he => ?_⟩, fun hall s fate => ?_⟩
  · have := hall s .served
    rwa [Medium.answer_served, ha] at this
  · have := hall s fate
    rwa [he] at this
  · obtain ⟨hok, herror⟩ := hall
    cases hr : M.answer s q fate with
    | ok a =>
      obtain ⟨rfl, ha⟩ := Medium.answer_eq_ok_iff.1 hr
      exact hok s a ha
    | error e => exact herror s fate e hr

theorem along_attempt {p : Prog ε Req Res β} {Ψ : List (Event φ Req σ) → Except ε (Except ε β) → Prop} :
    p.attempt.Along M Φ Ψ h ↔ p.Along M Φ (fun h' r => Ψ h' (.ok r)) h := by
  induction p generalizing h with
  | done r => rfl
  | call q k ih => exact and_congr_right fun _ => forall_congr' fun s => forall_congr' fun fate => ih _

/-- What every request satisfies from now on, the requests of any program satisfy. -/
theorem along_of_forall {p : Prog ε Req Res α} (hΦ : ∀ h' q, h <+: h' → Φ h' q) : p.Along M Φ (fun _ _ => True) h := by
  induction p generalizing h with
  | done r => trivial
  | call q k ih =>
    exact ⟨hΦ h q (List.prefix_refl h), fun s fate => ih _ fun h' q' hh => hΦ h' q' ((List.prefix_append h _).trans hh)⟩

/-- The rule of consequence, for the histories that extend the present one. -/
theorem Along.mono {p : Prog ε Req Res α} (hp : p.Along M Φ Ψ h) (hΦ : ∀ h' q, h <+: h' → Φ h' q → Φ' h' q)
    (hΨ : ∀ h' r, h <+: h' → Ψ h' r → Ψ' h' r) : p.Along M Φ' Ψ' h := by
  induction p generalizing h with
  | done r => exact hΨ h r (List.prefix_refl h) hp
  | call q k ih =>
    refine ⟨hΦ h q (List.prefix_refl h) hp.1, fun s fate => ih _ (hp.2 s fate) ?_ ?_⟩
    · exact fun h' q' hh => hΦ h' q' ((List.prefix_append h _).trans hh)
    · exact fun h' r hh => hΨ h' r ((List.prefix_append h _).trans hh)

/-- What two runs of the logic establish holds together. -/
theorem Along.and {p : Prog ε Req Res α} (hp : p.Along M Φ Ψ h) (hp' : p.Along M Φ' Ψ' h) :
    p.Along M (fun h' q => Φ h' q ∧ Φ' h' q) (fun h' r => Ψ h' r ∧ Ψ' h' r) h := by
  induction p generalizing h with
  | done r => exact ⟨hp, hp'⟩
  | call q k ih => exact ⟨⟨hp.1, hp'.1⟩, fun s fate => ih _ (hp.2 s fate) (hp'.2 s fate)⟩

/-- What holds along a program under a condition on which it does not depend. -/
theorem along_imp {c : Prop} {p : Prog ε Req Res α} (hp : c → p.Along M Φ Ψ h) :
    p.Along M (fun h' q => c → Φ h' q) (fun h' r => c → Ψ h' r) h := by
  by_cases hc : c
  · exact (hp hc).mono (fun _ _ _ hq _ => hq) fun _ _ _ hr _ => hr
  · exact (along_of_forall fun _ _ _ hc' => absurd hc' hc).mono (fun _ _ _ hq => hq) fun _ _ _ _ hc' => absurd hc' hc

/-- One program after another: what the first establishes is what the second may rely on. -/
theorem Along.bind {p : Prog ε Req Res β} {f : β → Prog ε Req Res α} {Θ : List (Event φ Req σ) → Except ε β → Prop}
    (hp : p.Along M Φ Θ h) (herror : ∀ h' e, h <+: h' → Θ h' (.error e) → Ψ h' (.error e))
    (hok : ∀ h' b, h <+: h' → Θ h' (.ok b) → (f b).Along M Φ Ψ h') : (p >>= f).Along M Φ Ψ h := by
  refine along_bind.2 (hp.mono (fun _ _ _ hq => hq) ?_)
  intro h' r hh hr
  cases r with
  | ok b => exact hok h' b hh hr
  | error e => exact herror h' e hh hr

/-- One program after an attempt of another: the second relies on what the first establishes of its result, value or error. -/
theorem Along.attempt_bind {p : Prog ε Req Res β} {f : Except ε β → Prog ε Req Res α}
    {Θ : List (Event φ Req σ) → Except ε β → Prop} (hp : p.Along M Φ Θ h)
    (hf : ∀ h' r, h <+: h' → Θ h' r → (f r).Along M Φ Ψ h') : (p.attempt >>= f).Along M Φ Ψ h :=
  along_bind.2 (along_attempt.2 (hp.mono (fun _ _ _ hq => hq) hf))

/-- A program within a bound adds to the history only events within it. -/
theorem Only.along {P : Req → Prop} {p : Prog ε Req Res α} (hp : p.Only P) (hΦ : ∀ h' q, h <+: h' → P q → Φ h' q) :
    p.Along M Φ (fun h' _ => ∃ l, h' = h ++ l ∧ ∀ ev ∈ l, P ev.request) h := by
  induction p generalizing h with
  | done r => exact ⟨[], (List.append_nil h).symm, fun ev hev => absurd hev List.not_mem_nil⟩
  | call q k ih =>
    refine ⟨hΦ h q (List.prefix_refl h) hp.1, fun s fate => ?_⟩
    refine (ih _ (hp.2 _) fun h' q' hh => hΦ h' q' ((List.prefix_append h _).trans hh)).mono (fun _ _ _ hq => hq) ?_
    rintro h' r - ⟨l, rfl, hl⟩
    refine ⟨⟨s, q, fate⟩ :: l, by rw [List.append_assoc, List.singleton_append], ?_⟩
    exact List.forall_mem_cons.2 ⟨hp.1, hl⟩

/-- A program all of whose requests satisfy what they are to satisfy, whatever the history has become by then. -/
theorem Along.of_only {p : Prog ε Req Res α} (hp : p.Only fun q => ∀ h', h <+: h' → Φ h' q) :
    p.Along M Φ (fun _ _ => True) h :=
  (hp.along fun h' _ hh hq => hq h' hh).mono (fun _ _ _ hq => hq) fun _ _ _ _ => trivial

end Rules

/-! ## What it is sound for -/

/-- A program, after the events of a history, goes on as another. -/
inductive Reaches (M : Medium φ ε Req Res σ) (p : Prog ε Req Res α) : List (Event φ Req σ) → Prog ε Req Res α → Prop where
  | start : Reaches M p [] p
  | next {h : List (Event φ Req σ)} {q : Req} {k : Except ε (Res q) → Prog ε Req Res α} (s : σ) (fate : Fate φ) :
      Reaches M p h (call q k) → Reaches M p (h ++ [⟨s, q, fate⟩]) (k (M.answer s q fate))

section Soundness

variable {Φ : List (Event φ Req σ) → Req → Prop} {Ψ : List (Event φ Req σ) → Except ε α → Prop}
  {h : List (Event φ Req σ)} {p p' : Prog ε Req Res α}

theorem Reaches.along (hr : p.Reaches M h p') (hp : p.Along M Φ Ψ []) : p'.Along M Φ Ψ h := by
  induction hr with
  | start => exact hp
  | next s fate _ ih => exact ih.2 s fate

/-- Every request of the history satisfied what it was to satisfy, given the events before it. -/
theorem Reaches.issued (hr : p.Reaches M h p') (hp : p.Along M Φ Ψ []) {l : List (Event φ Req σ)} {ev : Event φ Req σ}
    (hl : l ++ [ev] <+: h) : Φ l ev.request := by
  induction hr with
  | start => simp at hl
  | next s fate hr ih =>
    rcases List.prefix_concat_iff.1 hl with heq | hl
    · obtain ⟨rfl, hev⟩ := List.append_inj' heq rfl
      obtain rfl := List.singleton_inj.1 hev
      exact (hr.along hp).1
    · exact ih hl

end Soundness

end Prog
