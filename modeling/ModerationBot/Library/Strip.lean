import Mathlib.Data.List.Infix

/-!
# Dropping the occurrences of a word

One pass over a text that drops the occurrences of a word: the leftmost occurrence goes, and the pass continues after it. Letters are
compared through a folding, such as a change to lower case. A pass leaves a text as it is exactly when the word does not occur, and
otherwise shortens it by the length of the word for each occurrence dropped.
-/

namespace List

variable {α β : Type}

/-- The word occurs in the text, letters compared through the folding. -/
def Occurs (fold : α → β) (word : List β) (text : List α) : Prop := word <:+: text.map fold

/-- A pass over the text that drops `k` occurrences of the word leaves `out`. A dropped occurrence is the leftmost one: none ends before
it does. -/
inductive Strips (fold : α → β) (word : List β) : List α → List α → Nat → Prop
  | done {text : List α} : ¬Occurs fold word text → Strips fold word text text 0
  | drop {before hit after out : List α} {k : Nat} : hit.map fold = word → ¬Occurs fold word (before ++ hit).dropLast →
      Strips fold word after out k → Strips fold word (before ++ hit ++ after) (before ++ out) (k + 1)

variable {fold : α → β} {word : List β}

/-- A word that occurs in a part of a text occurs in the text. -/
theorem Occurs.mono {text text' : List α} (h : Occurs fold word text) (ht : text <:+: text') : Occurs fold word text' :=
  IsInfix.trans h (ht.map fold)

/-- A word occurs in a text at its start or after its first letter. -/
theorem occurs_cons_iff {c : α} {text : List α} :
    Occurs fold word (c :: text) ↔ word <+: (c :: text).map fold ∨ Occurs fold word text := by
  unfold Occurs
  rw [map_cons, infix_cons_iff]

/-- A shorter text does not hold the word. -/
theorem not_occurs_of_length_lt {text : List α} (h : text.length < word.length) : ¬Occurs fold word text := by
  intro ho
  have hl := IsInfix.length_le ho
  rw [length_map] at hl
  omega

/-- An occurrence that ends before another does ends before the last letter of it. -/
theorem occurs_dropLast {before hit after before' hit' after' : List α} (hhit : hit.map fold = word)
    (htext : before ++ hit ++ after = before' ++ hit' ++ after') (hlt : (before ++ hit).length < (before' ++ hit').length) :
    Occurs fold word (before' ++ hit').dropLast := by
  have hfirst : before ++ hit <+: before' ++ hit' :=
    prefix_of_prefix_length_le ⟨after, htext⟩ (prefix_append _ _) hlt.le
  have hcut : before ++ hit <+: (before' ++ hit').dropLast := by
    have hlast := dropLast_prefix (before' ++ hit')
    refine prefix_of_prefix_length_le hfirst hlast ?_
    rw [length_dropLast]
    omega
  have hoccurs : Occurs fold word (before ++ hit) := ⟨before.map fold, [], by simp [hhit]⟩
  exact hoccurs.mono hcut.isInfix

/-- An occurrence at the start of a text is the leftmost. -/
theorem not_occurs_dropLast_hit {hit : List α} (hw : word ≠ []) (hhit : hit.map fold = word) : ¬Occurs fold word hit.dropLast := by
  have hlen : hit.length = word.length := by rw [← hhit, length_map]
  have hpos : 0 < word.length := length_pos_iff.2 hw
  refine not_occurs_of_length_lt ?_
  rw [length_dropLast]
  omega

/-- The leftmost occurrence stays the leftmost behind one more letter at which none starts. -/
theorem not_occurs_dropLast_cons {c : α} {before hit after : List α} (hw : word ≠ []) (hhit : hit.map fold = word)
    (hc : ¬word <+: (c :: (before ++ hit ++ after)).map fold) (hno : ¬Occurs fold word (before ++ hit).dropLast) :
    ¬Occurs fold word (c :: (before ++ hit)).dropLast := by
  have hne : before ++ hit ≠ [] := by
    intro he
    rw [(append_eq_nil_iff.1 he).2] at hhit
    exact hw hhit.symm
  rw [dropLast_cons_of_ne_nil hne, occurs_cons_iff, not_or]
  refine ⟨fun hp => hc (hp.trans ?_), hno⟩
  have hlast := dropLast_prefix (before ++ hit)
  have hpre : c :: (before ++ hit).dropLast <+: c :: (before ++ hit ++ after) :=
    (prefix_cons_inj c).2 (hlast.trans (prefix_append _ _))
  exact hpre.map fold

namespace Strips

variable {text out : List α} {k : Nat}

/-- A letter at which no occurrence starts is kept. -/
theorem cons {c : α} (hw : word ≠ []) (hc : ¬word <+: (c :: text).map fold) (h : Strips fold word text out k) :
    Strips fold word (c :: text) (c :: out) k := by
  cases h with
  | done hno =>
    refine done fun ho => ?_
    rcases occurs_cons_iff.1 ho with hp | ho
    · exact hc hp
    · exact hno ho
  | @drop before hit after out k hhit hno h =>
    exact @drop _ _ fold word (c :: before) hit after out k hhit (not_occurs_dropLast_cons hw hhit hc hno) h

/-- An occurrence at the start of the text is dropped. -/
theorem skip {hit : List α} (hw : word ≠ []) (hhit : hit.map fold = word) (h : Strips fold word text out k) :
    Strips fold word (hit ++ text) out (k + 1) :=
  @drop _ _ fold word [] hit text out k hhit (not_occurs_dropLast_hit hw hhit) h

/-- A pass keeps a subsequence of the text. -/
theorem sublist (h : Strips fold word text out k) : out.Sublist text := by
  induction h with
  | done _ => exact Sublist.refl _
  | @drop before hit after out k _ _ _ ih =>
    rw [append_assoc]
    exact (Sublist.refl before).append (ih.trans (sublist_append_right hit after))

/-- A pass removes the length of the word for each occurrence it drops. -/
theorem length (h : Strips fold word text out k) : out.length + k * word.length = text.length := by
  induction h with
  | done _ => rw [Nat.zero_mul, Nat.add_zero]
  | @drop before hit after out k hhit _ _ ih =>
    have hlen : hit.length = word.length := by rw [← hhit, length_map]
    rw [length_append, length_append, length_append, ← ih, hlen, Nat.add_mul]
    omega

/-- A pass changes the text exactly when the word occurs in it. -/
theorem eq_self_iff (hw : word ≠ []) (h : Strips fold word text out k) : out = text ↔ ¬Occurs fold word text := by
  cases h with
  | done hno => exact iff_of_true rfl hno
  | @drop before hit after out k hhit hno h =>
    have hoccurs : Occurs fold word (before ++ hit ++ after) := ⟨before.map fold, after.map fold, by simp [hhit]⟩
    have hpos : 0 < word.length := length_pos_iff.2 hw
    refine iff_of_false (fun he => ?_) (not_not_intro hoccurs)
    have hlen := (drop hhit hno h).length
    rw [he, Nat.add_mul] at hlen
    omega

/-- A pass leaves one text. -/
theorem unique {out' : List α} {k' : Nat} (h : Strips fold word text out k) (h' : Strips fold word text out' k') : out = out' := by
  induction h generalizing out' k' with
  | done hno =>
    cases h' with
    | done _ => rfl
    | @drop before hit after _ _ hhit _ _ => exact absurd ⟨before.map fold, after.map fold, by simp [hhit]⟩ hno
  | @drop before hit after out k hhit hno _ ih =>
    generalize htext : before ++ hit ++ after = text at h'
    cases h' with
    | done hno' =>
      subst htext
      exact absurd ⟨before.map fold, after.map fold, by simp [hhit]⟩ hno'
    | @drop before' hit' after' out' k' hhit' hno' h' =>
      -- the two occurrences end at the same place, as neither ends before the other
      have hlen : (before ++ hit).length = (before' ++ hit').length := by
        rcases Nat.lt_trichotomy (before ++ hit).length (before' ++ hit').length with hlt | he | hlt
        · exact absurd (occurs_dropLast hhit htext hlt) hno'
        · exact he
        · exact absurd (occurs_dropLast hhit' htext.symm hlt) hno
      obtain ⟨hstart, rfl⟩ := append_inj htext hlen
      obtain ⟨rfl, rfl⟩ := append_inj' hstart (by rw [← length_map fold, ← length_map fold, hhit, hhit'])
      rw [ih h']

end Strips

end List
