import ModerationBot.Lemmas.Username
import ModerationBot.Library.Search

namespace ModerationBot

/-! ## One pass over a name -/

/-- The test of a turn does not panic, and is that of the loop. -/
theorem stripCiMatches_eq (chars : List Char) (needle : Needle) (i : Nat) : stripCiMatches chars needle i =
    some (decide (i + needle.text.length ≤ chars.length ∧
      eqIgnoreAsciiCase (String.ofList ((chars.drop i).take needle.text.length)) needle.text = true)) := by
  unfold stripCiMatches slice
  by_cases h : i + needle.text.length ≤ chars.length
  · rw [if_pos h, if_pos ⟨Nat.le_add_right _ _, h⟩, Option.map_some, Nat.add_sub_cancel_left]
    simp [h]
  · simp [h]

/-- With a turn for each character that is left, and one to see that none is, the loop ends without a panic. -/
theorem stripCiTurns_eq (chars : List Char) (needle : Needle) {turns i : Nat} (out : List Char) (h : chars.length - i < turns) :
    stripCiTurns chars needle turns i out = some (stripCiLoop chars needle i out) := by
  have hpos := needle.nonempty
  induction turns generalizing i out with
  | zero => exact absurd h (Nat.not_lt_zero _)
  | succ turns ih =>
    rw [stripCiTurns, stripCiLoop]
    by_cases hi : i < chars.length
    · rw [if_pos hi, dif_pos hi, stripCiMatches_eq, Option.bind_eq_bind, Option.bind_some]
      by_cases hm : i + needle.text.length ≤ chars.length ∧
          eqIgnoreAsciiCase (String.ofList ((chars.drop i).take needle.text.length)) needle.text = true
      · rw [if_pos (decide_eq_true hm), if_pos hm]
        exact ih out (by omega)
      · rw [if_neg (by simpa using hm), if_neg hm, List.getElem?_eq_getElem hi]
        exact ih _ (by omega)
    · rw [if_neg hi, dif_neg hi]

/-- What one pass of the source does to every name, for every needle. -/
structure OnePass (haystack : String) (needle : Needle) : Prop where
  /-- Given enough turns, the loop ends with no index out of range. -/
  ends : ∀ turns, haystack.length < turns →
    stripCiTurns haystack.toList needle turns 0 [] = some (stripCi haystack needle).toList
  /-- The occurrences dropped are those that a search from the left finds, each after the one before. -/
  searches : (stripCi haystack needle).toList =
    List.dropWord toAsciiLowercase needle.folded needle.folded_ne_nil haystack.toList
  unchanged_iff : stripCi haystack needle = haystack ↔ ¬Contains haystack needle.text
  found_iff : 0 < List.countWord toAsciiLowercase needle.folded needle.folded_ne_nil haystack.toList ↔
    Contains haystack needle.text
  length : (stripCi haystack needle).length +
    List.countWord toAsciiLowercase needle.folded needle.folded_ne_nil haystack.toList * needle.text.length = haystack.length

/-- A pass drops the occurrences that a search from the left finds. -/
theorem toList_stripCi (haystack : String) (needle : Needle) : (stripCi haystack needle).toList =
    List.dropWord toAsciiLowercase needle.folded needle.folded_ne_nil haystack.toList := by
  obtain ⟨k, hs⟩ := stripCi_strips haystack needle
  exact hs.unique (List.strips_pieces needle.folded_ne_nil haystack.toList)

/-- For every needle, a pass over every name is the search that drops what it finds. -/
theorem stripCi_one_pass (haystack : String) (needle : Needle) : OnePass haystack needle where
  ends turns h := by
    rw [stripCi, String.toList_ofList]
    refine stripCiTurns_eq haystack.toList needle [] ?_
    rwa [String.length_toList]
  searches := toList_stripCi haystack needle
  unchanged_iff := stripCi_eq_self_iff haystack needle
  found_iff := List.countWord_pos_iff needle.folded_ne_nil haystack.toList
  length := by
    have hlen := (@List.strips_pieces _ _ _ toAsciiLowercase _ needle.folded_ne_nil haystack.toList).length
    rwa [← toList_stripCi, String.length_toList, String.length_toList, needle.length_folded] at hlen

end ModerationBot
