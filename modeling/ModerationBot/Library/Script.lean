import ModerationBot.Library.Interference
import ModerationBot.Library.Translate

/-!
# Programs that conclude once and stop at a fault

A script issues requests one after another. An error it does not know ends it with that error; a final request ends it, whatever the
answer; and where it ends of itself, its result satisfies a condition. So in any execution under interference every request before the
last was served and not final, and the last one tells how the script ended.
-/

namespace Prog

/-- A script: it stops at the first error of the medium, and at its first final request, which it may issue only if `may` is set.
A result it gives of itself satisfies `D`. -/
def Script {ε Req : Type} {Res : Req → Type} {α : Type} (Fatal : ε → Prop) (final : Req → Bool) (may : Bool)
    (D : Except ε α → Prop) : Prog ε Req Res α → Prop
  | done r => D r
  | call q k =>
    (final q = true ∧ may = true ∧ (∀ a, ∃ b, k (.ok a) = done (.ok b)) ∧ ∀ e, k (.error e) = done (.error e)) ∨
      (final q = false ∧ (∀ a, (k (.ok a)).Script Fatal final may D) ∧
        ∀ e, k (.error e) = done (.error e) ∨ ¬Fatal e ∧ (k (.error e)).Script Fatal final may D)

section Rules

variable {ε Req Req' : Type} {Res : Req → Type} {Res' : Req' → Type} {α β : Type} {Fatal : ε → Prop} {final : Req → Bool}
  {may : Bool} {D D' : Except ε α → Prop}

theorem script_pure {a : α} (h : D (.ok a)) : (pure a : Prog ε Req Res α).Script Fatal final may D := h

theorem script_throw {e : ε} (h : D (.error e)) : (throw e : Prog ε Req Res α).Script Fatal final may D := h

/-- A request that is not final. -/
theorem script_perform {q : Req} (hq : final q = false) :
    (perform q : Prog ε Req Res _).Script Fatal final may fun r => ∃ a, r = .ok a :=
  Or.inr ⟨hq, fun a => ⟨a, rfl⟩, fun _ => Or.inl rfl⟩

/-- A request that is. -/
theorem script_final {q : Req} {D : Except ε (Res q) → Prop} (hq : final q = true) :
    (perform q : Prog ε Req Res _).Script Fatal final true D :=
  Or.inl ⟨hq, rfl, fun a => ⟨a, rfl⟩, fun _ => rfl⟩

theorem Script.mono {p : Prog ε Req Res α} (hp : p.Script Fatal final may D) (h : ∀ r, D r → D' r) :
    p.Script Fatal final may D' := by
  induction p with
  | done r => exact h r hp
  | call q k ih =>
    rcases hp with hp | ⟨hq, hok, herror⟩
    · exact Or.inl hp
    · exact Or.inr ⟨hq, fun a => ih _ (hok a), fun e => (herror e).imp_right fun h => ⟨h.1, ih _ h.2⟩⟩

/-- One script after another, the first of which issues no final request. -/
theorem Script.bind {p : Prog ε Req Res β} {f : β → Prog ε Req Res α} {E : Except ε β → Prop}
    (hp : p.Script Fatal final false E) (hok : ∀ b, E (.ok b) → (f b).Script Fatal final may D)
    (herror : ∀ e, E (.error e) → D (.error e)) : (p >>= f).Script Fatal final may D := by
  induction p with
  | done r =>
    cases r with
    | ok b => exact hok b hp
    | error e => exact herror e hp
  | call q k ih =>
    rcases hp with ⟨-, hmay, -⟩ | ⟨hq, hk, hstop⟩
    · cases hmay
    · refine Or.inr ⟨hq, fun a => ih _ (hk a), fun e => ?_⟩
      rcases hstop e with hdone | ⟨hfatal, hrest⟩
      · left
        change k (.error e) >>= f = _
        rw [hdone, done_error_bind]
      · exact Or.inr ⟨hfatal, ih _ hrest⟩

/-- A script goes on after a request that is not final. -/
theorem script_perform_bind {q : Req} {f : Res q → Prog ε Req Res α} (hq : final q = false)
    (hf : ∀ a, (f a).Script Fatal final may D) : (perform q >>= f).Script Fatal final may D := by
  refine (script_perform hq).bind (fun a _ => hf a) fun e h => ?_
  obtain ⟨a, ha⟩ := h
  cases ha

/-- A script ends well after its final request. -/
theorem script_final_bind {q : Req} {f : Res q → Prog ε Req Res α} {b : α} (hq : final q = true) (hf : ∀ a, f a = pure b) :
    (perform q >>= f).Script Fatal final true D :=
  Or.inl ⟨hq, rfl, fun a => ⟨b, hf a⟩, fun _ => rfl⟩

/-- A script after an attempt of another, whose errors it passes on unless it knows them. -/
theorem Script.attempt_bind {p : Prog ε Req Res β} {f : Except ε β → Prog ε Req Res α} {E : Except ε β → Prop}
    (hp : p.Script Fatal final false E) (hf : ∀ r, E r → (f r).Script Fatal final may D)
    (herror : ∀ e, f (.error e) = throw e ∨ ¬Fatal e ∧ (f (.error e)).Script Fatal final may D) :
    (p.attempt >>= f).Script Fatal final may D := by
  induction p with
  | done r => exact hf r hp
  | call q k ih =>
    rcases hp with ⟨-, hmay, -⟩ | ⟨hq, hk, hstop⟩
    · cases hmay
    · refine Or.inr ⟨hq, fun a => ih _ (hk a), fun e => ?_⟩
      rcases hstop e with hdone | ⟨hfatal, hrest⟩
      · change (k (.error e)).attempt >>= f = _ ∨ _ ∧ ((k (.error e)).attempt >>= f).Script Fatal final may D
        rw [hdone]
        exact herror e
      · exact Or.inr ⟨hfatal, ih _ hrest⟩

/-- A script over wider requests. -/
theorem Script.translate {t : Translation Req Res Req' Res'} {final' : Req' → Bool} (ht : ∀ q, final' (t.request q) = final q)
    {p : Prog ε Req Res α} (hp : p.Script Fatal final may D) : (p.translate t).Script Fatal final' may D := by
  induction p with
  | done r => exact hp
  | call q k ih =>
    rcases hp with ⟨hq, hmay, hok, herror⟩ | ⟨hq, hok, herror⟩
    · refine Or.inl ⟨(ht q).trans hq, hmay, fun a => ?_, fun e => ?_⟩
      · obtain ⟨b, hb⟩ := hok (t.answer q a)
        exact ⟨b, congrArg (Prog.translate t) hb⟩
      · exact congrArg (Prog.translate t) (herror e)
    · refine Or.inr ⟨(ht q).trans hq, fun a => ih _ (hok _), fun e => ?_⟩
      exact (herror e).imp (congrArg (Prog.translate t)) fun h => ⟨h.1, ih _ h.2⟩

end Rules

/-! ## How scripts end -/

section Ends

variable {φ ε Req : Type} {Res : Req → Type} {α σ : Type} {M : Medium φ ε Req Res σ} {Fatal : ε → Prop} {final : Req → Bool}
  {may : Bool} {D : Except ε α → Prop}

/-- Every request of the history was served, and none was final. -/
def Open (final : Req → Bool) (h : List (Event φ Req σ)) : Prop := ∀ ev ∈ h, ev.fate = .served ∧ final ev.request = false

theorem Open.concat {h : List (Event φ Req σ)} (hh : Open final h) {s : σ} {q : Req} (hq : final q = false) :
    Open final (h ++ [⟨s, q, .served⟩]) := by
  intro ev hev
  rcases List.mem_append.1 hev with hev | hev
  · exact hh ev hev
  · rw [List.mem_singleton.1 hev]
    exact ⟨rfl, hq⟩

/-- How a script has ended: of itself, by its final request, or with the error of its last request. -/
inductive Ends (M : Medium φ ε Req Res σ) (final : Req → Bool) (D : Except ε α → Prop) :
    List (Event φ Req σ) → Except ε α → Prop where
  | quiet {h : List (Event φ Req σ)} {r : Except ε α} : Open final h → D r → Ends M final D h r
  | concluded {h : List (Event φ Req σ)} {s : σ} {q : Req} {a : Res q} (b : α) : Open final h → final q = true →
      (M.service s q).1 = .ok a → Ends M final D (h ++ [⟨s, q, .served⟩]) (.ok b)
  | failed {h : List (Event φ Req σ)} {s : σ} {q : Req} {fate : Fate φ} {e : ε} : Open final h →
      M.answer s q fate = .error e → Ends M final D (h ++ [⟨s, q, fate⟩]) (.error e)

/-- Along a script nothing is issued after a request that was not served, nor after the final one. -/
theorem Script.along {p : Prog ε Req Res α} (hp : p.Script Fatal final may D) (hfatal : ∀ f, Fatal (M.error f))
    {h : List (Event φ Req σ)} (hh : Open final h) :
    p.Along M (fun h' _ => Open final h') (fun h' r => Ends M final D h' r) h := by
  induction p generalizing h with
  | done r => exact .quiet hh hp
  | call q k ih =>
    refine ⟨hh, fun s fate => ?_⟩
    rcases hp with ⟨hq, -, hok, herror⟩ | ⟨hq, hok, herror⟩
    · cases ha : M.answer s q fate with
      | ok a =>
        obtain ⟨b, hb⟩ := hok a
        obtain ⟨rfl, hserved⟩ := Medium.answer_eq_ok_iff.1 ha
        rw [hb]
        exact .concluded b hh hq hserved
      | error e =>
        rw [herror e]
        exact .failed hh ha
    · cases ha : M.answer s q fate with
      | ok a =>
        obtain ⟨rfl, hserved⟩ := Medium.answer_eq_ok_iff.1 ha
        exact ih _ (hok a) (hh.concat hq)
      | error e =>
        rcases herror e with hdone | ⟨hknown, hrest⟩
        · rw [hdone]
          exact .failed hh ha
        · -- An error that the script knows is an answer of the service, not a fault of the medium.
          cases fate with
          | served => exact ih _ hrest (hh.concat hq)
          | refused f =>
            obtain rfl := Except.error.inj ha
            exact absurd (hfatal f) hknown
          | lost f =>
            obtain rfl := Except.error.inj ha
            exact absurd (hfatal f) hknown

end Ends

end Prog
