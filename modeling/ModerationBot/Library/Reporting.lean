import ModerationBot.Library.Interference

/-!
# Programs that report

A program that reads, decides, does at most one thing, and ends with a report. The report is right when it tells what the one thing did,
right after it, or why nothing was done.
-/

namespace Prog

/-- What reports a program is to give: what counts as doing something, and when a report is true of what was done last, or of a history in
which nothing was done. -/
structure Reporting (φ Req σ τ : Type) where
  report : τ → Req
  injective : Function.Injective report
  acts : Req → Bool
  tells : Event φ Req σ → τ → Prop
  declines : List (Event φ Req σ) → τ → Prop

namespace Reporting

variable {φ ε Req τ : Type} {Res : Req → Type} {α β σ : Type} {M : Medium φ ε Req Res σ} {R : Reporting φ Req σ τ}
  {h : List (Event φ Req σ)}

/-- Nothing was done. -/
def Idle (R : Reporting φ Req σ τ) (h : List (Event φ Req σ)) : Prop := ∀ ev ∈ h, R.acts ev.request = false

theorem idle_nil : R.Idle [] := fun _ hev => absurd hev List.not_mem_nil

theorem Idle.append {l : List (Event φ Req σ)} (hh : R.Idle h) (hl : R.Idle l) : R.Idle (h ++ l) := fun ev hev =>
  (List.mem_append.1 hev).elim (hh ev) (hl ev)

theorem Idle.concat {s : σ} {q : Req} {fate : Fate φ} (hh : R.Idle h) (hq : R.acts q = false) :
    R.Idle (h ++ [⟨s, q, fate⟩]) :=
  hh.append fun _ hev => List.mem_singleton.1 hev ▸ hq

/-- When a report is right after a history. -/
inductive Right (R : Reporting φ Req σ τ) : List (Event φ Req σ) → τ → Prop where
  | told {l : List (Event φ Req σ)} {ev : Event φ Req σ} {t : τ} : R.Idle l → R.tells ev t → Right R (l ++ [ev]) t
  | declined {l : List (Event φ Req σ)} {t : τ} : R.Idle l → R.declines l t → Right R l t

/-- A report that is given is right. -/
def Given (R : Reporting φ Req σ τ) (h : List (Event φ Req σ)) (q : Req) : Prop := ∀ t, q = R.report t → R.Right h t

/-- What ends well has ended with a right report, which was served. -/
def Closed (R : Reporting φ Req σ τ) (h : List (Event φ Req σ)) (r : Except ε α) : Prop :=
  ∀ a, r = .ok a → ∃ l s t, h = l ++ [⟨s, R.report t, .served⟩] ∧ R.Right l t

/-- After a history, the program gives only right reports, and ends well only with one. -/
def Reports (M : Medium φ ε Req Res σ) (R : Reporting φ Req σ τ) (p : Prog ε Req Res α) (h : List (Event φ Req σ)) : Prop :=
  p.Along M R.Given R.Closed h

theorem closed_error {e : ε} : R.Closed h (.error e : Except ε α) := fun _ => nofun

theorem reports_throw {e : ε} : R.Reports M (throw e : Prog ε Req Res α) h := closed_error

theorem reports_report {t : τ} (ht : R.Right h t) : R.Reports M (perform (R.report t) : Prog ε Req Res _) h := by
  refine along_perform.2 ⟨fun t' heq => R.injective heq ▸ ht, fun s fate a ha => ?_⟩
  obtain ⟨rfl, -⟩ := Medium.answer_eq_ok_iff.1 ha
  exact ⟨h, s, t, rfl, ht⟩

/-- The program goes on after a request that is no report. -/
theorem reports_perform_bind {q : Req} {f : Res q → Prog ε Req Res α} (hq : ∀ t, q ≠ R.report t)
    (hf : ∀ s a, (M.service s q).1 = .ok a → R.Reports M (f a) (h ++ [⟨s, q, .served⟩])) :
    R.Reports M (perform q >>= f) h :=
  along_perform_bind.2 ⟨fun t heq => absurd heq (hq t), hf, fun _ _ _ _ => closed_error⟩

/-- The program goes on after another that does nothing: it may rely on what that one establishes. -/
theorem reports_bind {p : Prog ε Req Res β} {f : β → Prog ε Req Res α} {Θ : List (Event φ Req σ) → Except ε β → Prop}
    (hh : R.Idle h) (hp : p.Along M R.Given Θ h) (hidle : p.Only fun q => R.acts q = false)
    (hf : ∀ h' b, h <+: h' → R.Idle h' → Θ h' (.ok b) → R.Reports M (f b) h') : R.Reports M (p >>= f) h := by
  refine Along.bind (Θ := fun h' r => Θ h' r ∧ R.Idle h') ?_ (fun _ _ _ _ => closed_error) fun h' b hh' hb => hf h' b hh' hb.2 hb.1
  refine (hp.and (hidle.along fun h' q _ hq => hq)).mono (fun _ _ _ hq => hq.1) ?_
  rintro h' r - ⟨hr, l, rfl, hl⟩
  exact ⟨hr, hh.append hl⟩

end Reporting

end Prog
