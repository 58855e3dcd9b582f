import Mathlib.Data.List.Induction

/-!
# The last operation wins

A history of operations, each of which names some keys and grants or revokes every key it names. A key is granted when the last
operation that names it grants. A state in which each operation overwrites the keys it names holds exactly the granted ones.
-/

namespace LastWins

variable {ω κ σ : Type} (names : ω → κ → Bool) (grants : ω → Bool)

/-- The last operation of a history that names the key grants it. -/
def granted (ops : List ω) (k : κ) : Bool := (ops.filter (fun op => names op k)).getLast?.any grants

@[simp] theorem granted_nil (k : κ) : granted names grants [] k = false := rfl

/-- The next operation decides the keys it names and leaves the others. -/
theorem granted_concat (ops : List ω) (op : ω) (k : κ) :
    granted names grants (ops ++ [op]) k = if names op k then grants op else granted names grants ops k := by
  unfold granted
  rw [List.filter_append]
  by_cases h : names op k = true
  · simp [h]
  · simp [h]

/-- A state that holds nothing at first, and whose keys each operation overwrites, holds the granted keys. -/
theorem holds_foldl_iff (holds : σ → κ → Prop) {step : σ → ω → σ}
    (hstep : ∀ s op k, holds (step s op) k ↔ if names op k then grants op = true else holds s k) {s : σ}
    (hs : ∀ k, ¬holds s k) (ops : List ω) (k : κ) :
    holds (ops.foldl step s) k ↔ granted names grants ops k = true := by
  induction ops using List.reverseRecOn with
  | nil => simpa using hs k
  | append_singleton ops op ih =>
    rw [List.foldl_append, List.foldl_cons, List.foldl_nil, hstep, granted_concat]
    by_cases h : names op k = true
    · rw [if_pos h, if_pos h]
    · rw [if_neg h, if_neg h]
      exact ih

end LastWins
