import Mathlib.Data.List.Pairwise

/-!
# Tables under uniqueness constraints

A table is a list of rows no two of which are in conflict: what a database keeps under its unique keys. An insertion that would
put two rows in conflict is refused; a deletion keeps the constraint. A selection whose rows would all be in conflict with one
another has at most one row, so a lookup by a key is a partial function.
-/

/-- A table of rows, no two of which are in conflict. -/
structure Table {ρ : Type} (conflict : ρ → ρ → Prop) where
  rows : List ρ
  unique : rows.Pairwise (fun a b => ¬conflict a b)

namespace Table

variable {ρ : Type} {conflict : ρ → ρ → Prop}

/-- The table with no rows. -/
def empty : Table conflict := ⟨[], List.Pairwise.nil⟩

/-- Add a row, unless a row of the table is in conflict with it. -/
def insert [DecidableRel conflict] (t : Table conflict) (r : ρ) : Option (Table conflict) :=
  if h : ∃ x ∈ t.rows, conflict x r then none
  else some ⟨t.rows ++ [r], by
    refine List.pairwise_append.2 ⟨t.unique, List.pairwise_singleton _ _, ?_⟩
    intro a ha b hb
    rw [List.mem_singleton.1 hb]
    exact fun hc => h ⟨a, ha, hc⟩⟩

/-- The rows that satisfy a condition. -/
def select (t : Table conflict) (p : ρ → Bool) : List ρ := t.rows.filter p

/-- Remove the rows that satisfy a condition. -/
def delete (t : Table conflict) (p : ρ → Bool) : Table conflict :=
  ⟨t.rows.filter (fun x => !p x), t.unique.sublist List.filter_sublist⟩

@[simp] theorem rows_empty : (empty : Table conflict).rows = [] := rfl

theorem mem_select_iff {t : Table conflict} {p : ρ → Bool} {r : ρ} : r ∈ t.select p ↔ r ∈ t.rows ∧ p r = true :=
  List.mem_filter

theorem mem_delete_iff {t : Table conflict} {p : ρ → Bool} {r : ρ} : r ∈ (t.delete p).rows ↔ r ∈ t.rows ∧ p r = false := by
  simp [delete]

/-- An insertion is refused exactly when a row is in conflict with the new one. -/
theorem insert_eq_none_iff [DecidableRel conflict] {t : Table conflict} {r : ρ} :
    t.insert r = none ↔ ∃ x ∈ t.rows, conflict x r := by
  unfold insert
  split <;> simp_all

/-- An insertion that is not refused appends the row. -/
theorem rows_of_insert [DecidableRel conflict] {t t' : Table conflict} {r : ρ} (h : t.insert r = some t') :
    t'.rows = t.rows ++ [r] := by
  unfold insert at h
  split at h
  · cases h
  · cases h
    rfl

/-- An insertion without conflict is accepted. -/
theorem exists_insert [DecidableRel conflict] {t : Table conflict} {r : ρ} (h : ∀ x ∈ t.rows, ¬conflict x r) :
    ∃ t', t.insert r = some t' := by
  refine Option.ne_none_iff_exists'.1 fun hn => ?_
  obtain ⟨x, hx, hc⟩ := insert_eq_none_iff.1 hn
  exact h x hx hc

/-- A selection by a key has no row or the one row that holds the key. -/
theorem select_of_conflict (t : Table conflict) (p : ρ → Bool)
    (hp : ∀ a ∈ t.rows, ∀ b ∈ t.rows, p a = true → p b = true → conflict a b) :
    t.select p = [] ∨ ∃ r, t.select p = [r] := by
  have hu : (t.select p).Pairwise (fun a b => ¬conflict a b) := t.unique.sublist List.filter_sublist
  have hm : ∀ x ∈ t.select p, x ∈ t.rows ∧ p x = true := fun x hx => mem_select_iff.1 hx
  match hl : t.select p with
  | [] => exact Or.inl rfl
  | [r] => exact Or.inr ⟨r, rfl⟩
  | a :: b :: l =>
    exfalso
    rw [hl] at hu hm
    obtain ⟨ha, hpa⟩ := hm a (by simp)
    obtain ⟨hb, hpb⟩ := hm b (by simp)
    exact (List.pairwise_cons.1 hu).1 b (by simp) (hp a ha b hb hpa hpb)

/-- A selection by a key that a row of the table holds is that row. -/
theorem select_eq_singleton {t : Table conflict} {p : ρ → Bool} {r : ρ}
    (hp : ∀ a ∈ t.rows, ∀ b ∈ t.rows, p a = true → p b = true → conflict a b) (hr : r ∈ t.rows) (hpr : p r = true) :
    t.select p = [r] := by
  have hmem : r ∈ t.select p := mem_select_iff.2 ⟨hr, hpr⟩
  rcases t.select_of_conflict p hp with h | ⟨x, h⟩
  · rw [h] at hmem
    exact absurd hmem List.not_mem_nil
  · rw [h] at hmem ⊢
    rw [List.mem_singleton.1 hmem]

/-- A deletion by a key removes one row when the key is held, and none otherwise. -/
theorem length_select_of_conflict {t : Table conflict} {p : ρ → Bool}
    (hp : ∀ a ∈ t.rows, ∀ b ∈ t.rows, p a = true → p b = true → conflict a b) :
    (t.select p).length = if ∃ r ∈ t.rows, p r = true then 1 else 0 := by
  split
  · rename_i h
    obtain ⟨r, hr, hpr⟩ := h
    rw [select_eq_singleton hp hr hpr, List.length_singleton]
  · rename_i h
    have hn : t.select p = [] := List.filter_eq_nil_iff.2 fun r hr hpr => h ⟨r, hr, hpr⟩
    rw [hn, List.length_nil]

end Table
