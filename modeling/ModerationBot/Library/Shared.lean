import ModerationBot.Library.Pool

/-!
# Objects shared by a pool

An object that the programs of a pool share: some requests are operations on it, each of which takes effect in one moment. Whatever the
programs do besides, and however their requests fare, the object is at all times what the operations that took effect have made of it,
one after another in the order in which they were issued.
-/

/-- A shared object: the operation a request is, what an operation makes of the object, and when a state holds the object. -/
structure Shared (σ Req A Op : Type) where
  op : Req → Option Op
  apply : A → Op → A
  Rep : σ → A → Prop

namespace Shared

variable {τ κ φ ε Req : Type} {Res : Req → Type} {σ α A Op : Type}

/-- The operations of a history that took effect. -/
def log (O : Shared σ Req A Op) (history : List (Nat × Event φ Req σ)) : List Op :=
  history.filterMap fun e => if e.2.fate.effective = true then O.op e.2.request else none

/-- What the operations of a history make of the object. -/
def replay (O : Shared σ Req A Op) (a : A) (history : List (Nat × Event φ Req σ)) : A := (O.log history).foldl O.apply a

/-- The state holds the object through every allowed request, and through the changes by other hands that are calm. -/
structure Faithful (O : Shared σ Req A Op) (P : Setup τ κ φ ε Req Res σ α) (allowed : Req → Prop) (calm : κ → Prop) : Prop where
  operation : ∀ s a q o, allowed q → O.op q = some o → O.Rep s a → O.Rep (P.medium.service s q).2 (O.apply a o)
  other : ∀ s a q, allowed q → O.op q = none → O.Rep s a → O.Rep (P.medium.service s q).2 a
  change : ∀ c s a, calm c → O.Rep s a → O.Rep (P.change c s) a

variable {O : Shared σ Req A Op} {P : Setup τ κ φ ε Req Res σ α} {allowed : Req → Prop} {calm : κ → Prop}

@[simp] theorem replay_nil (a : A) : O.replay a ([] : List (Nat × Event φ Req σ)) = a := rfl

theorem replay_concat (a : A) (history : List (Nat × Event φ Req σ)) (i : Nat) (ev : Event φ Req σ) :
    O.replay a (history ++ [(i, ev)]) =
      (if ev.fate.effective = true then O.op ev.request else none).elim (O.replay a history) (O.apply (O.replay a history)) := by
  rw [replay, replay, log, log, List.filterMap_append, List.foldl_append, List.filterMap_cons]
  cases (if ev.fate.effective = true then O.op ev.request else none) <;> rfl

/-- A request keeps the object in the state. -/
theorem Faithful.after (h : O.Faithful P allowed calm) {s : σ} {a : A} {q : Req} (hq : allowed q) (hs : O.Rep s a) (fate : Fate φ) :
    O.Rep (P.medium.after s q fate)
      ((if fate.effective = true then O.op q else none).elim a (O.apply a)) := by
  rw [Medium.after_eq]
  split
  · cases ho : O.op q with
    | none => exact h.other s a q hq ho hs
    | some o => exact h.operation s a q o hq ho hs
  · exact hs

/-- At the end of a run, and at each of its requests, the state holds what the operations before have made of the object. -/
theorem Faithful.replayed (h : O.Faithful P allowed calm) {s : σ} {a : A} (hs : O.Rep s a) {turns : List (Turn τ κ φ)}
    (hallowed : ∀ e ∈ (Pool.run P s turns).history, allowed e.2.request) (hcalm : ∀ c, .change c ∈ turns → calm c) :
    O.Rep (Pool.run P s turns).state (O.replay a (Pool.run P s turns).history) ∧
      ∀ l i ev, l ++ [(i, ev)] <+: (Pool.run P s turns).history → O.Rep ev.before (O.replay a l) := by
  induction turns using List.reverseRecOn with
  | nil => exact ⟨hs, fun l i ev hl => absurd hl (by simp [Pool.run])⟩
  | append_singleton turns turn ih =>
    rw [Pool.run_concat] at hallowed ⊢
    have hbefore : ∀ c, .change c ∈ turns → calm c := fun c hc => hcalm c (List.mem_append_left _ hc)
    cases turn with
    | start t => exact ih hallowed hbefore
    | change c =>
      obtain ⟨hstate, hevents⟩ := ih hallowed hbefore
      exact ⟨h.change c _ _ (hcalm c (by simp)) hstate, hevents⟩
    | issue i fate =>
      rcases Pool.step_issue P (Pool.run P s turns) i fate with heq | ⟨t, q, k, -, heq⟩
      · rw [heq] at hallowed ⊢
        exact ih hallowed hbefore
      · rw [heq] at hallowed ⊢
        obtain ⟨hstate, hevents⟩ := ih (fun e he => hallowed e (List.mem_append_left _ he)) hbefore
        refine ⟨?_, fun l j ev hl => ?_⟩
        · rw [replay_concat]
          exact h.after (hallowed (i, ⟨_, q, fate⟩) (by simp)) hstate fate
        · rcases List.prefix_concat_iff.1 hl with hl | hl
          · obtain ⟨rfl, hev⟩ := List.append_inj' hl rfl
            obtain ⟨-, rfl⟩ := Prod.mk.inj (List.singleton_inj.1 hev)
            exact hstate
          · exact hevents l j ev hl

end Shared

/-- What every allowed request and every change by other hands preserves, a run preserves. -/
theorem Pool.invariant {τ κ φ ε Req : Type} {Res : Req → Type} {σ α : Type} {P : Setup τ κ φ ε Req Res σ α}
    {allowed : Req → Prop} {I : σ → Prop} (hserve : ∀ s q, allowed q → I s → I (P.medium.service s q).2)
    (hchange : ∀ c s, I s → I (P.change c s)) {s : σ} (hs : I s) {turns : List (Turn τ κ φ)}
    (hallowed : ∀ e ∈ (run P s turns).history, allowed e.2.request) : I (run P s turns).state := by
  let O : Shared σ Req Unit Empty := ⟨fun _ => none, fun a _ => a, fun s _ => I s⟩
  have hO : O.Faithful P allowed fun _ => True :=
    { operation := fun s a q o hq ho => nomatch ho
      other := fun s a q hq _ hI => hserve s q hq hI
      change := fun c s _ _ hI => hchange c s hI }
  have := hO.replayed (a := ()) hs hallowed fun _ _ => trivial
  exact this.1
