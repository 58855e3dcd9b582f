import ModerationBot.Library.Interference

/-!
# Programs over more requests

A program over some requests, run where there are more: its requests are translated into the wider ones, and their answers back.
What the logic of `Prog.Along` establishes of the program, it establishes of the translated one, whose history may hold wider events
in between.
-/

/-- How the requests of one kind of program are those of another, and how their answers are read. -/
structure Translation (Req : Type) (Res : Req → Type) (Req' : Type) (Res' : Req' → Type) where
  request : Req → Req'
  answer : ∀ q, Res' (request q) → Res q

/-- The program over the wider requests. -/
def Prog.translate {ε Req Req' : Type} {Res : Req → Type} {Res' : Req' → Type} {α : Type} (t : Translation Req Res Req' Res') :
    Prog ε Req Res α → Prog ε Req' Res' α
  | done r => done r
  | call q k => call (t.request q) (fun r => (k (r.map (t.answer q))).translate t)

/-- How the media of both kinds belong together: a wider state shows a state, and an event of a translated request is read as one of
the request. -/
structure Translation.Over {φ ε Req Req' σ σ' : Type} {Res : Req → Type} {Res' : Req' → Type}
    (t : Translation Req Res Req' Res') (M : Medium φ ε Req Res σ) (M' : Medium φ ε Req' Res' σ') where
  view : σ' → σ
  read : Event φ Req' σ' → Option (Event φ Req σ)
  read_request : ∀ s q fate, read ⟨s, t.request q, fate⟩ = some ⟨view s, q, fate⟩
  answers : ∀ s q fate, (M'.answer s (t.request q) fate).map (t.answer q) = M.answer (view s) q fate

namespace Translation.Over

variable {φ ε Req Req' σ σ' α : Type} {Res : Req → Type} {Res' : Req' → Type} {t : Translation Req Res Req' Res'}
  {M : Medium φ ε Req Res σ} {M' : Medium φ ε Req' Res' σ'}

/-- The events of the requests in a history of wider ones. -/
def events (o : t.Over M M') (h : List (Event φ Req' σ')) : List (Event φ Req σ) := h.filterMap o.read

theorem events_concat (o : t.Over M M') (h : List (Event φ Req' σ')) (s : σ') (q : Req) (fate : Fate φ) :
    o.events (h ++ [⟨s, t.request q, fate⟩]) = o.events h ++ [⟨o.view s, q, fate⟩] := by
  rw [events, List.filterMap_append, List.filterMap_cons_some (o.read_request s q fate), List.filterMap_nil, events]

/-- What holds along a program holds along the translated one. -/
theorem along (o : t.Over M M') {Φ : List (Event φ Req σ) → Req → Prop} {Ψ : List (Event φ Req σ) → Except ε α → Prop}
    {Φ' : List (Event φ Req' σ') → Req' → Prop} {Ψ' : List (Event φ Req' σ') → Except ε α → Prop}
    (hΦ : ∀ h q, Φ (o.events h) q → Φ' h (t.request q)) (hΨ : ∀ h r, Ψ (o.events h) r → Ψ' h r) {p : Prog ε Req Res α}
    {h : List (Event φ Req' σ')} (hp : p.Along M Φ Ψ (o.events h)) : (p.translate t).Along M' Φ' Ψ' h := by
  induction p generalizing h with
  | done r => exact hΨ h r hp
  | call q k ih =>
    refine ⟨hΦ h q hp.1, fun s fate => ih _ ?_⟩
    rw [o.answers, o.events_concat]
    exact hp.2 (o.view s) fate

end Translation.Over
