import Mathlib.Data.PEquiv

/-!
# Partial bijections that grow and shrink by one pair

A partial bijection between two types is a matching: each side is matched to at most one of the other. `PEquiv.link` matches two
elements that are both free; `PEquiv.unlink` frees an element of the right side and its partner.
-/

namespace PEquiv

variable {α β : Type} [DecidableEq α] [DecidableEq β]

/-- Match two free elements. -/
def link (f : α ≃. β) (a : α) (b : β) (ha : f a = none) (hb : f.symm b = none) : α ≃. β where
  toFun x := if x = a then some b else f x
  invFun y := if y = b then some a else f.symm y
  inv x y := by
    by_cases hx : x = a <;> by_cases hy : y = b
    · simp [hx, hy]
    · have : ¬f.symm y = some a := by
        rw [eq_some_iff, ha]
        simp
      simp [hx, hy, this, Ne.symm hy]
    · have : ¬f x = some b := by
        rw [← eq_some_iff, hb]
        simp
      simp [hx, hy, this, Ne.symm hx]
    · simp [hx, hy, eq_some_iff]

/-- Free an element of the right side and its partner. -/
def unlink (f : α ≃. β) (b : β) : α ≃. β where
  toFun x := if f x = some b then none else f x
  invFun y := if y = b then none else f.symm y
  inv x y := by
    by_cases hy : y = b
    · subst hy
      by_cases hx : f x = some y <;> simp [hx]
    · by_cases hx : f x = some b
      · have : ¬f.symm y = some x := by
          rw [eq_some_iff, hx]
          simpa using Ne.symm hy
        simp [hy, hx, this]
      · simp [hy, hx, eq_some_iff]

/-- An edit of a partial bijection. -/
inductive Edit (α β : Type) where
  | link (a : α) (b : β)
  | unlink (b : β)
  deriving DecidableEq, Repr

/-- The partial bijection after an edit: two elements are matched only if both are free. -/
def edit (f : α ≃. β) : Edit α β → α ≃. β
  | .link a b => if h : f a = none ∧ f.symm b = none then f.link a b h.1 h.2 else f
  | .unlink b => f.unlink b

@[simp] theorem link_apply (f : α ≃. β) (a : α) (b : β) (ha : f a = none) (hb : f.symm b = none) (x : α) :
    f.link a b ha hb x = if x = a then some b else f x := rfl

omit [DecidableEq α] in
@[simp] theorem unlink_apply (f : α ≃. β) (b : β) (x : α) : f.unlink b x = if f x = some b then none else f x := rfl

theorem edit_link (f : α ≃. β) {a : α} {b : β} (ha : f a = none) (hb : f.symm b = none) :
    f.edit (.link a b) = f.link a b ha hb := dif_pos ⟨ha, hb⟩

/-- Two elements one of which is matched are not matched anew. -/
theorem edit_link_of_matched (f : α ≃. β) {a : α} {b : β} (h : ¬(f a = none ∧ f.symm b = none)) :
    f.edit (.link a b) = f := dif_neg h

@[simp] theorem edit_unlink (f : α ≃. β) (b : β) : f.edit (.unlink b) = f.unlink b := rfl

end PEquiv
