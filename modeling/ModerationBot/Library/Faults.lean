import ModerationBot.Library.Prog

/-!
# Services with faults

A service some of whose requests fail: a request with a fault fails with it, without effect, and any other is served. A program that
ends at the first error runs on such a service as it runs on the service itself, up to the first request with a fault.
-/

variable {ε Req : Type} {Res : Req → Type} {α σ : Type}

/-- The service on which the requests with a fault fail. -/
def Service.faulty (S : Service ε Req Res σ) (faults : Req → Option ε) : Service ε Req Res σ := fun s q =>
  match faults q with
  | some e => (.error e, s)
  | none => S s q

/-- The state of a service after it served some requests in order. -/
def Service.after (S : Service ε Req Res σ) (s : σ) (issued : List Req) : σ := issued.foldl (fun s q => (S s q).2) s

theorem Service.after_append (S : Service ε Req Res σ) (s : σ) (l l' : List Req) :
    Service.after S s (l ++ l') = Service.after S (Service.after S s l) l' := List.foldl_append

theorem Service.faulty_some {S : Service ε Req Res σ} {faults : Req → Option ε} {q : Req} {e : ε} (h : faults q = some e) (s : σ) :
    Service.faulty S faults s q = (.error e, s) := by
  rw [faulty, h]

theorem Service.faulty_none {S : Service ε Req Res σ} {faults : Req → Option ε} {q : Req} (h : faults q = none) (s : σ) :
    Service.faulty S faults s q = S s q := by
  rw [faulty, h]

namespace Prog

/-- A run leaves what its requests leave. -/
theorem run_state (S : Service ε Req Res σ) (p : Prog ε Req Res α) (s : σ) :
    (p.run S s).state = Service.after S s (p.run S s).issued := by
  induction p generalizing s with
  | done r => rfl
  | call q k ih => exact ih _ _

/-- How a program that ends at the first error runs among faults: either none of its requests has one, and the run is as without
faults; or it ends at the first request that has one. -/
theorem FailFast.run_faulty {S : Service ε Req Res σ} {p : Prog ε Req Res α} (hp : p.FailFast) (faults : Req → Option ε) (s : σ) :
    ((∀ q ∈ (p.run S s).issued, faults q = none) ∧ p.run (Service.faulty S faults) s = p.run S s) ∨
      ∃ before q e after, (p.run S s).issued = before ++ q :: after ∧ (∀ x ∈ before, faults x = none) ∧ faults q = some e ∧
        p.run (Service.faulty S faults) s = ⟨.error e, before ++ [q], Service.after S s before⟩ := by
  induction p generalizing s with
  | done r => exact Or.inl ⟨fun q hq => absurd hq List.not_mem_nil, rfl⟩
  | call q k ih =>
    cases hq : faults q with
    | some e =>
      refine Or.inr ⟨[], q, e, _, rfl, fun x hx => absurd hx List.not_mem_nil, hq, ?_⟩
      rw [run, Service.faulty_some hq, hp.1 e]
      rfl
    | none =>
      have hserved : (call q k).run (Service.faulty S faults) s =
          ⟨((k (S s q).1).run (Service.faulty S faults) (S s q).2).result,
            q :: ((k (S s q).1).run (Service.faulty S faults) (S s q).2).issued,
            ((k (S s q).1).run (Service.faulty S faults) (S s q).2).state⟩ := by
        rw [run, Service.faulty_none hq]
      rcases ih (S s q).1 (hp.2 _) (S s q).2 with ⟨hall, hrun⟩ | ⟨before, q', e, after, hissued, hbefore, hfault, hrun⟩
      · refine Or.inl ⟨?_, by rw [hserved, hrun, run]⟩
        rw [run, List.forall_mem_cons]
        exact ⟨hq, hall⟩
      · refine Or.inr ⟨q :: before, q', e, after, by rw [run, hissued, List.cons_append], ?_, hfault, by rw [hserved, hrun]; rfl⟩
        rw [List.forall_mem_cons]
        exact ⟨hq, hbefore⟩

end Prog
