import ModerationBot.Library.Strip

/-!
# Searching a text for a word

The occurrences of a word that a search from the left finds: the leftmost one, then the leftmost one after it, and so on. `pieces` is what
stands between them. Without the occurrences the pieces are what a pass leaves; with something else in their places they are the text with
the word replaced. A letter that is marked with a second letter wherever it stands is restored by such a replacement.
-/

namespace List

variable {α β : Type} [DecidableEq β]

/-- The leftmost occurrence of a word: what stands before it and what stands after it. -/
def search (fold : α → β) (word : List β) : List α → Option (List α × List α)
  | [] => none
  | c :: text =>
    if word <+: (c :: text).map fold then some ([], (c :: text).drop word.length)
    else (search fold word text).map fun found => (c :: found.1, found.2)

variable {fold : α → β} {word : List β} {text : List α}

/-- A search that fails has met a text without the word. -/
theorem not_occurs_of_search (hw : word ≠ []) (h : search fold word text = none) : ¬Occurs fold word text := by
  induction text with
  | nil => exact not_occurs_of_length_lt (length_pos_iff.2 hw)
  | cons c text ih =>
    rw [search] at h
    split_ifs at h with hp
    rw [occurs_cons_iff, not_or]
    exact ⟨hp, ih (Option.map_eq_none_iff.1 h)⟩

/-- A search that succeeds has found an occurrence, and none ends before it does. -/
theorem exists_hit_of_search (hw : word ≠ []) {before after : List α} (h : search fold word text = some (before, after)) :
    ∃ hit, text = before ++ hit ++ after ∧ hit.map fold = word ∧ ¬Occurs fold word (before ++ hit).dropLast := by
  induction text generalizing before with
  | nil => cases h
  | cons c text ih =>
    rw [search] at h
    split_ifs at h with hp
    · obtain ⟨rfl, rfl⟩ := Prod.mk.inj (Option.some.inj h)
      have hhit : ((c :: text).take word.length).map fold = word := by rw [map_take, ← prefix_iff_eq_take.1 hp]
      exact ⟨(c :: text).take word.length, by rw [nil_append, take_append_drop], hhit, not_occurs_dropLast_hit hw hhit⟩
    · obtain ⟨⟨before', after'⟩, hfound, he⟩ := Option.map_eq_some_iff.1 h
      obtain ⟨rfl, rfl⟩ := Prod.mk.inj he
      obtain ⟨hit, rfl, hhit, hno⟩ := ih hfound
      exact ⟨hit, rfl, hhit, not_occurs_dropLast_cons hw hhit hp hno⟩

/-- What stands after an occurrence is shorter than the text. -/
theorem length_lt_of_search (hw : word ≠ []) {before after : List α} (h : search fold word text = some (before, after)) :
    after.length < text.length := by
  obtain ⟨hit, rfl, rfl, -⟩ := exists_hit_of_search hw h
  have hpos := length_pos_iff.2 hw
  rw [length_map] at hpos
  rw [length_append, length_append]
  omega

/-! ## The pieces -/

/-- The pieces of a text between the occurrences of a word. -/
def pieces (fold : α → β) (word : List β) (hw : word ≠ []) (text : List α) : List (List α) :=
  match _ : search fold word text with
  | none => [text]
  | some (before, after) => before :: pieces fold word hw after
termination_by text.length
decreasing_by exact length_lt_of_search hw ‹_›

/-- The text without the occurrences that are found. -/
def dropWord (fold : α → β) (word : List β) (hw : word ≠ []) (text : List α) : List α := (pieces fold word hw text).flatten

/-- The number of occurrences that are found. -/
def countWord (fold : α → β) (word : List β) (hw : word ≠ []) (text : List α) : Nat := (pieces fold word hw text).length - 1

/-- The text with other letters in the places of the occurrences that are found. -/
def replaceWord (fold : α → β) (word : List β) (hw : word ≠ []) (rep text : List α) : List α :=
  rep.intercalate (pieces fold word hw text)

theorem pieces_of_none {hw : word ≠ []} (h : search fold word text = none) : pieces fold word hw text = [text] := by
  rw [pieces]
  split
  · rfl
  · rename_i hfound
    rw [h] at hfound
    cases hfound

theorem pieces_of_some {hw : word ≠ []} {before after : List α} (h : search fold word text = some (before, after)) :
    pieces fold word hw text = before :: pieces fold word hw after := by
  rw [pieces]
  split
  · rename_i hnone
    rw [h] at hnone
    cases hnone
  · rename_i hfound
    rw [h] at hfound
    cases hfound
    rfl

theorem pieces_ne_nil (hw : word ≠ []) (text : List α) : pieces fold word hw text ≠ [] := by
  cases h : search fold word text with
  | none => rw [pieces_of_none h]; exact cons_ne_nil _ _
  | some found => rw [pieces_of_some h]; exact cons_ne_nil _ _

/-- A pass leaves the pieces, and drops the occurrences between them. -/
theorem strips_pieces (hw : word ≠ []) (text : List α) :
    Strips fold word text (dropWord fold word hw text) (countWord fold word hw text) := by
  unfold dropWord countWord
  induction text using pieces.induct fold word hw with
  | case1 text h =>
    rw [pieces_of_none h, flatten_singleton]
    exact Strips.done (not_occurs_of_search hw h)
  | case2 text before after h ih =>
    obtain ⟨hit, rfl, hhit, hno⟩ := exists_hit_of_search hw h
    have hpos := length_pos_iff.2 (@pieces_ne_nil _ _ _ fold word hw after)
    have hdrop := Strips.drop hhit hno ih
    rw [Nat.sub_add_cancel hpos] at hdrop
    rwa [pieces_of_some h, flatten_cons, length_cons, Nat.add_sub_cancel]

/-- An occurrence at the start of the text ends the first piece at once. -/
theorem pieces_append {hit : List α} (hw : word ≠ []) (hhit : hit.map fold = word) (text : List α) :
    pieces fold word hw (hit ++ text) = [] :: pieces fold word hw text := by
  refine pieces_of_some ?_
  have hlen : hit.length = word.length := by rw [← hhit, length_map]
  cases hit with
  | nil => exact absurd hhit.symm hw
  | cons c hit =>
    have hp : word <+: (c :: (hit ++ text)).map fold := ⟨text.map fold, by rw [← hhit, ← cons_append, map_append]⟩
    rw [cons_append, search, if_pos hp, ← hlen, ← cons_append, drop_left]

/-- A letter at which no occurrence starts belongs to the first piece. -/
theorem pieces_cons {c : α} (hw : word ≠ []) (hc : ¬word <+: (c :: text).map fold) :
    pieces fold word hw (c :: text) = (pieces fold word hw text).modifyHead (c :: ·) := by
  cases h : search fold word text with
  | none =>
    rw [pieces_of_none h, modifyHead_cons]
    exact pieces_of_none (by rw [search, if_neg hc, h, Option.map_none])
  | some found =>
    rw [pieces_of_some h, modifyHead_cons]
    exact pieces_of_some (by rw [search, if_neg hc, h, Option.map_some])

/-- An occurrence is found in a text that holds the word, and in no other. -/
theorem countWord_pos_iff (hw : word ≠ []) (text : List α) : 0 < countWord fold word hw text ↔ Occurs fold word text := by
  have hpos := length_pos_iff.2 hw
  have hs := @strips_pieces _ _ _ fold word hw text
  have hlen := hs.length
  rw [← not_iff_not, Nat.not_lt, Nat.le_zero, ← hs.eq_self_iff hw]
  constructor
  · intro h
    rw [h, Nat.zero_mul, Nat.add_zero] at hlen
    exact hs.sublist.eq_of_length hlen
  · intro h
    rw [h] at hlen
    exact (Nat.mul_eq_zero.1 (Nat.add_eq_left.1 hlen)).resolve_right hpos.ne'

/-! ## Replacing -/

theorem replaceWord_nil (hw : word ≠ []) (rep : List α) : replaceWord fold word hw rep [] = [] := by
  have hnil : search fold word [] = none := rfl
  rw [replaceWord, pieces_of_none hnil, intercalate_singleton]

/-- An occurrence at the start of the text is replaced. -/
theorem replaceWord_append {hit rep : List α} (hw : word ≠ []) (hhit : hit.map fold = word) (text : List α) :
    replaceWord fold word hw rep (hit ++ text) = rep ++ replaceWord fold word hw rep text := by
  rw [replaceWord, pieces_append hw hhit, intercalate_cons_of_ne_nil (pieces_ne_nil hw text), nil_append, replaceWord]

/-- A letter at which no occurrence starts is kept. -/
theorem replaceWord_cons {c : α} {rep : List α} (hw : word ≠ []) (hc : ¬word <+: (c :: text).map fold) :
    replaceWord fold word hw rep (c :: text) = c :: replaceWord fold word hw rep text := by
  rw [replaceWord, pieces_cons hw hc, replaceWord]
  obtain ⟨piece, rest, hpieces⟩ := exists_cons_of_ne_nil (@pieces_ne_nil _ _ _ fold word hw text)
  rw [hpieces, modifyHead_cons, intercalate_cons_cons_left]

/-! ## Marks -/

section Marks

variable [DecidableEq α] {a m : α}

/-- The text with a mark after each letter that is to be marked. -/
def mark (a m : α) (text : List α) : List α := text.flatMap fun c => if c == a then [a, m] else [c]

theorem mark_append (text text' : List α) : mark a m (text ++ text') = mark a m text ++ mark a m text' := flatMap_append

/-- One letter for each mark is added. -/
theorem length_mark (text : List α) : (mark a m text).length = text.length + text.count a := by
  induction text with
  | nil => rfl
  | cons c text ih =>
    rw [mark, flatMap_cons, ← mark, length_append, ih, length_cons, count_cons]
    split_ifs <;> simp only [length_cons, length_nil] <;> omega

/-- Marking is replacing the letter by itself and the mark. -/
theorem replaceWord_letter (text : List α) : replaceWord id [a] (cons_ne_nil a []) [a, m] text = mark a m text := by
  induction text with
  | nil => exact replaceWord_nil _ _
  | cons c text ih =>
    rw [mark, flatMap_cons, ← mark, ← ih]
    by_cases hc : c = a
    · subst hc
      rw [if_pos BEq.rfl]
      exact @replaceWord_append _ _ _ id [c] [c] [c, m] (cons_ne_nil c []) rfl text
    · rw [if_neg (by simpa using hc)]
      exact replaceWord_cons _ (by simpa using Ne.symm hc)

/-- Taking out the first mark after each marked letter, found from the left, restores the text, whatever marks it held itself. -/
theorem replaceWord_mark (text : List α) : replaceWord id [a, m] (cons_ne_nil a [m]) [a] (mark a m text) = text := by
  induction text with
  | nil => exact replaceWord_nil _ _
  | cons c text ih =>
    rw [mark, flatMap_cons, ← mark]
    by_cases hc : c = a
    · subst hc
      have hmarked := @replaceWord_append _ _ _ id [c, m] [c, m] [c] (cons_ne_nil c [m]) rfl (mark c m text)
      rw [if_pos BEq.rfl, hmarked, ih]
      rfl
    · rw [if_neg (by simpa using hc), singleton_append, replaceWord_cons, ih]
      intro hp
      exact hc (cons_prefix_cons.1 hp).1.symm

end Marks

end List
