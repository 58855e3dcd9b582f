import Mathlib.Data.List.Basic
import Mathlib.Logic.Function.Basic

/-!
# Find or create

Any number of parties share a place for one value. A party looks for the value, creates it when it found none, and then uses what
it found or created. To look and to create are two steps: if a party never looks while another is about to create, one value is
created and used by all (`Sole`); if it does once, a second one is bound to be created (`Doubled`).
-/

namespace FindOrCreate

variable {ι V : Type} [DecidableEq ι]

/-- What a party does next. -/
inductive Stage (V : Type) where
  | looking
  | creating
  | holding (v : V)
  | finished

/-- The parties, the value a look finds, who created one, and who used which. -/
structure State (ι V : Type) where
  stage : ι → Stage V
  found : Option V
  created : List ι
  used : List (ι × V)

/-- A party takes its next step; `fresh` is the value it creates if it creates one. -/
def State.step (fresh : V) (s : State ι V) (i : ι) : State ι V :=
  match s.stage i with
  | .looking =>
    match s.found with
    | some v => { s with stage := Function.update s.stage i (.holding v) }
    | none => { s with stage := Function.update s.stage i .creating }
  | .creating =>
    { s with
      stage := Function.update s.stage i (.holding fresh)
      found := some (s.found.getD fresh)
      created := s.created ++ [i] }
  | .holding v => { s with stage := Function.update s.stage i .finished, used := s.used ++ [(i, v)] }
  | .finished => s

/-- While no value is found, none was created and at most one party is about to create. Once one is found, it was created once,
nobody is about to create, and all hold and use it. -/
structure State.Sole (s : State ι V) : Prop where
  created_nil : s.found = none → s.created = []
  used_nil : s.found = none → s.used = []
  no_holder : s.found = none → ∀ i v, s.stage i ≠ .holding v
  one_creator : s.found = none → ∀ i j, s.stage i = .creating → s.stage j = .creating → i = j
  created_once : s.created.length ≤ 1
  no_creator : ∀ v, s.found = some v → ∀ i, s.stage i ≠ .creating
  held : ∀ v, s.found = some v → ∀ i v', s.stage i = .holding v' → v' = v
  used_same : ∀ v, s.found = some v → ∀ x ∈ s.used, x.2 = v

/-- A party that created a value or is about to. -/
def State.Owes (s : State ι V) (i : ι) : Prop := s.stage i = .creating ∨ i ∈ s.created

/-- Two parties that each created a value or are about to. -/
def State.Doubled (s : State ι V) : Prop := ∃ i j, i ≠ j ∧ s.Owes i ∧ s.Owes j

variable {s : State ι V} {i : ι}

section Steps

variable (fresh : V)

theorem State.step_looking_some {v : V} (hi : s.stage i = .looking) (hf : s.found = some v) :
    s.step fresh i = { s with stage := Function.update s.stage i (.holding v) } := by
  simp only [step, hi, hf]

theorem State.step_looking_none (hi : s.stage i = .looking) (hf : s.found = none) :
    s.step fresh i = { s with stage := Function.update s.stage i .creating } := by
  simp only [step, hi, hf]

theorem State.step_creating (hi : s.stage i = .creating) : s.step fresh i =
    { s with
      stage := Function.update s.stage i (.holding fresh)
      found := some (s.found.getD fresh)
      created := s.created ++ [i] } := by
  simp only [step, hi]

theorem State.step_holding {v : V} (hi : s.stage i = .holding v) :
    s.step fresh i = { s with stage := Function.update s.stage i .finished, used := s.used ++ [(i, v)] } := by
  simp only [step, hi]

theorem State.step_finished (hi : s.stage i = .finished) : s.step fresh i = s := by
  simp only [step, hi]

end Steps

/-- The stage of a party after one party moved on. -/
theorem stage_update {stage : ι → Stage V} {x : Stage V} {j : ι} {y : Stage V}
    (h : Function.update stage i x j = y) : j = i ∧ x = y ∨ j ≠ i ∧ stage j = y := by
  by_cases hj : j = i
  · subst hj
    rw [Function.update_self] at h
    exact Or.inl ⟨rfl, h⟩
  · rw [Function.update_of_ne hj] at h
    exact Or.inr ⟨hj, h⟩

/-- A look that finds the value keeps it sole. -/
theorem State.Sole.look_some (h : s.Sole) {v : V} (hf : s.found = some v) :
    State.Sole { s with stage := Function.update s.stage i (.holding v) } where
  created_nil := h.created_nil
  used_nil := h.used_nil
  no_holder hn := by
    rw [show s.found = none from hn] at hf
    cases hf
  one_creator hn := by
    rw [show s.found = none from hn] at hf
    cases hf
  created_once := h.created_once
  no_creator v' hv' j hj := by
    rcases stage_update hj with ⟨-, hx⟩ | ⟨-, hx⟩
    · cases hx
    · exact h.no_creator v' hv' j hx
  held v' hv' j u hj := by
    rcases stage_update hj with ⟨-, hx⟩ | ⟨-, hx⟩
    · cases hx
      rw [show s.found = some v' from hv'] at hf
      exact (Option.some.inj hf).symm
    · exact h.held v' hv' j u hx
  used_same := h.used_same

/-- A look that finds nothing keeps the value sole if nobody else is about to create it. -/
theorem State.Sole.look_none (h : s.Sole) (hf : s.found = none) (ha : ∀ j, s.stage j ≠ .creating) :
    State.Sole { s with stage := Function.update s.stage i .creating } where
  created_nil := h.created_nil
  used_nil := h.used_nil
  no_holder _ j v hj := by
    rcases stage_update hj with ⟨-, hx⟩ | ⟨-, hx⟩
    · cases hx
    · exact h.no_holder hf j v hx
  one_creator _ j k hj hk := by
    rcases stage_update hj with ⟨hj, -⟩ | ⟨-, hx⟩
    · rcases stage_update hk with ⟨hk, -⟩ | ⟨-, hx⟩
      · exact hj.trans hk.symm
      · exact absurd hx (ha k)
    · exact absurd hx (ha j)
  created_once := h.created_once
  no_creator v hv := by
    rw [show s.found = some v from hv] at hf
    cases hf
  held v hv := by
    rw [show s.found = some v from hv] at hf
    cases hf
  used_same := h.used_same

/-- A creation keeps the value sole: its creator was the only one. -/
theorem State.Sole.create (h : s.Sole) (fresh : V) (hi : s.stage i = .creating) :
    State.Sole { s with
      stage := Function.update s.stage i (.holding fresh)
      found := some (s.found.getD fresh)
      created := s.created ++ [i] } := by
  have hf : s.found = none := by
    cases hf : s.found with
    | none => rfl
    | some v => exact absurd hi (h.no_creator v hf i)
  rw [hf, Option.getD_none]
  refine ⟨by simp, by simp, by simp, by simp, ?_, ?_, ?_, ?_⟩
  · simp [h.created_nil hf]
  · intro v _ j hj
    rcases stage_update hj with ⟨-, hx⟩ | ⟨hne, hx⟩
    · cases hx
    · exact hne (h.one_creator hf j i hx hi)
  · intro v hv j u hj
    rcases stage_update hj with ⟨-, hx⟩ | ⟨-, hx⟩
    · cases hx
      exact Option.some.inj hv
    · exact absurd hx (h.no_holder hf j u)
  · simp [h.used_nil hf]

/-- A use keeps the value sole. -/
theorem State.Sole.use (h : s.Sole) {v : V} (hi : s.stage i = .holding v) :
    State.Sole { s with stage := Function.update s.stage i .finished, used := s.used ++ [(i, v)] } := by
  have hf : s.found ≠ none := fun hf => h.no_holder hf i v hi
  refine ⟨h.created_nil, fun hn => absurd hn hf, fun hn => absurd hn hf, fun hn => absurd hn hf, h.created_once,
    ?_, ?_, ?_⟩
  · intro u hu j hj
    rcases stage_update hj with ⟨-, hx⟩ | ⟨-, hx⟩
    · cases hx
    · exact h.no_creator u hu j hx
  · intro u hu j u' hj
    rcases stage_update hj with ⟨-, hx⟩ | ⟨-, hx⟩
    · cases hx
    · exact h.held u hu j u' hx
  · intro u hu x hx
    rcases List.mem_append.1 hx with hx | hx
    · exact h.used_same u hu x hx
    · rw [List.mem_singleton.1 hx]
      exact h.held u hu i v hi

/-- A party that does not look while another is about to create keeps the value sole. -/
theorem State.Sole.step (h : s.Sole) (fresh : V) (ha : s.stage i = .looking → ∀ j, s.stage j ≠ .creating) :
    (s.step fresh i).Sole := by
  cases hi : s.stage i with
  | finished => rwa [step_finished fresh hi]
  | looking =>
    cases hf : s.found with
    | none =>
      rw [step_looking_none fresh hi hf]
      exact h.look_none hf (ha hi)
    | some v =>
      rw [step_looking_some fresh hi hf]
      exact h.look_some hf
  | creating =>
    rw [step_creating fresh hi]
    exact h.create fresh hi
  | holding v =>
    rw [step_holding fresh hi]
    exact h.use hi

/-- A party that owes a creation keeps owing it, or has created. -/
theorem State.Owes.step {j : ι} (h : s.Owes j) (fresh : V) (i : ι) : (s.step fresh i).Owes j := by
  cases hi : s.stage i with
  | finished => rwa [step_finished fresh hi]
  | looking =>
    have hne : s.stage j = .creating → j ≠ i := by
      rintro hj rfl
      rw [hi] at hj
      cases hj
    cases hf : s.found with
    | none =>
      rw [step_looking_none fresh hi hf]
      exact h.imp_left fun hj => (Function.update_of_ne (hne hj) _ _).trans hj
    | some v =>
      rw [step_looking_some fresh hi hf]
      exact h.imp_left fun hj => (Function.update_of_ne (hne hj) _ _).trans hj
  | creating =>
    rw [step_creating fresh hi]
    rcases h with hj | hj
    · by_cases hji : j = i
      · exact Or.inr (by simp [hji])
      · exact Or.inl ((Function.update_of_ne hji _ _).trans hj)
    · exact Or.inr (List.mem_append_left _ hj)
  | holding v =>
    rw [step_holding fresh hi]
    refine h.imp_left fun hj => ?_
    have hne : j ≠ i := by
      rintro rfl
      rw [hi] at hj
      cases hj
    exact (Function.update_of_ne hne _ _).trans hj

theorem State.Doubled.step (h : s.Doubled) (fresh : V) (i : ι) : (s.step fresh i).Doubled := by
  obtain ⟨j, k, hne, hj, hk⟩ := h
  exact ⟨j, k, hne, hj.step fresh i, hk.step fresh i⟩

/-- A party that looks for a sole value while another is about to create it makes it doubled. -/
theorem State.Sole.doubled_step (h : s.Sole) (fresh : V) {j : ι} (hi : s.stage i = .looking) (hj : s.stage j = .creating) :
    (s.step fresh i).Doubled := by
  have hf : s.found = none := by
    cases hf : s.found with
    | none => rfl
    | some v => exact absurd hj (h.no_creator v hf j)
  have hne : i ≠ j := by
    rintro rfl
    rw [hi] at hj
    cases hj
  refine ⟨i, j, hne, Or.inl ?_, State.Owes.step (Or.inl hj) fresh i⟩
  rw [step_looking_none fresh hi hf]
  exact Function.update_self _ _ _

omit [DecidableEq ι] in
/-- Of a doubled value, two are created once nobody is about to create any more. -/
theorem State.Doubled.created (h : s.Doubled) (hc : ∀ i, s.stage i ≠ .creating) : 2 ≤ s.created.length := by
  obtain ⟨i, j, hne, hi, hj⟩ := h
  have hi' := hi.resolve_left (hc i)
  have hj' := hj.resolve_left (hc j)
  match hl : s.created with
  | [] =>
    rw [hl] at hi'
    exact absurd hi' List.not_mem_nil
  | [a] =>
    rw [hl, List.mem_singleton] at hi' hj'
    exact absurd (hi'.trans hj'.symm) hne
  | a :: b :: l => simp

end FindOrCreate
