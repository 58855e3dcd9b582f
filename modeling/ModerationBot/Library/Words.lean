import Mathlib.Data.List.Infix

/-!
# Words in a text

A word that does not hold a character lies on one side of each occurrence of that character. So whether a text holds a word of a
set can be decided piece by piece, between characters that no word of the set holds.
-/

namespace List

variable {α : Type}

/-- A word without the separator lies on one side of it. -/
theorem infix_append_cons_iff {word a b : List α} {c : α} (hc : c ∉ word) :
    word <:+: a ++ c :: b ↔ word <:+: a ∨ word <:+: b := by
  constructor
  · intro h
    obtain ⟨p, q, h⟩ := h
    rcases List.append_eq_append_iff.1 h with ⟨a', ha, -⟩ | ⟨d, hpd, hd⟩
    · exact Or.inl ⟨p, a', ha.symm⟩
    · cases d with
      | nil =>
        rw [List.append_nil] at hpd
        exact Or.inl ⟨p, [], by rw [List.append_nil]; exact hpd⟩
      | cons x d =>
        obtain ⟨rfl, hb⟩ : c = x ∧ b = d ++ q := by simpa using hd
        rcases List.append_eq_append_iff.1 hpd with ⟨a', -, hw⟩ | ⟨e, hp, he⟩
        · exact absurd (hw ▸ List.mem_append_right a' List.mem_cons_self) hc
        · cases e with
          | nil =>
            have hw : c :: d = word := he
            exact absurd (hw ▸ List.mem_cons_self) hc
          | cons y e =>
            obtain ⟨-, hd'⟩ : c = y ∧ d = e ++ word := by simpa using he
            exact Or.inr ⟨e, q, by rw [hb, hd']⟩
  · intro h
    rcases h with h | h
    · exact h.trans (List.prefix_append a _).isInfix
    · exact h.trans ((List.suffix_cons c b).trans (List.suffix_append a _)).isInfix

/-- The text holds a word of the set. -/
def Holds (words : List α → Prop) (text : List α) : Prop := ∃ word, words word ∧ word <:+: text

variable {words : List α → Prop}

/-- A character that no word holds cuts the text in two. -/
theorem holds_append_cons_iff {a b : List α} {c : α} (hc : ∀ word, words word → c ∉ word) :
    Holds words (a ++ c :: b) ↔ Holds words a ∨ Holds words b := by
  constructor
  · intro h
    obtain ⟨word, hw, h⟩ := h
    rcases (infix_append_cons_iff (hc word hw)).1 h with h | h
    · exact Or.inl ⟨word, hw, h⟩
    · exact Or.inr ⟨word, hw, h⟩
  · intro h
    rcases h with ⟨word, hw, h⟩ | ⟨word, hw, h⟩
    · exact ⟨word, hw, (infix_append_cons_iff (hc word hw)).2 (Or.inl h)⟩
    · exact ⟨word, hw, (infix_append_cons_iff (hc word hw)).2 (Or.inr h)⟩

/-- What a text holds, a longer one holds. -/
theorem Holds.mono {a b : List α} (h : Holds words a) (hab : a <:+: b) : Holds words b := by
  obtain ⟨word, hw, hi⟩ := h
  exact ⟨word, hw, hi.trans hab⟩

/-- Characters that no word holds cut the text in two. -/
theorem holds_append_append_iff {a s b : List α} (hne : s ≠ []) (hs : ∀ c ∈ s, ∀ word, words word → c ∉ word) :
    Holds words (a ++ s ++ b) ↔ Holds words a ∨ Holds words b := by
  induction s generalizing a with
  | nil => exact absurd rfl hne
  | cons c s ih =>
    rw [append_assoc, cons_append, holds_append_cons_iff (hs c mem_cons_self)]
    by_cases hnil : s = []
    · rw [hnil, nil_append]
    · have hrest := @ih [] hnil fun x hx => hs x (mem_cons_of_mem c hx)
      rw [nil_append] at hrest
      have hempty : Holds words [] → Holds words a := fun h => h.mono nil_infix
      rw [hrest, ← or_assoc, or_iff_left_of_imp hempty]

/-- A text without a character that every word holds has none of the words. -/
theorem not_holds_of_notMem {text : List α} {x : α} (hx : ∀ word, words word → x ∈ word) (h : x ∉ text) :
    ¬Holds words text := by
  intro h
  obtain ⟨word, hw, hi⟩ := h
  exact h (hi.subset (hx word hw))

end List
