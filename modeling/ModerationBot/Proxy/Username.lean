import ModerationBot.Library.Strip
import ModerationBot.Text

/-!
# Webhook usernames

`src/proxy/username.rs`: a remote display name made legal as a webhook username. `stripCi` is the window loop of the source,
by index over the characters; the outer loop repeats it to a fixed point, and ends because a pass that changes the name
shortens it.
-/

namespace ModerationBot

/-- The name used when nothing legal is left. -/
def fallback : String := "user"

/-- Discord's cap on a webhook username, in characters. -/
def maxLen : Nat := 80

/-- A needle: a nonempty ASCII string. -/
structure Needle where
  text : String
  ascii : ∀ c ∈ text.toList, c.toNat < 128
  nonempty : 0 < text.length

/-- The substrings Discord forbids anywhere in a webhook username. -/
def forbiddenSubstrings : List Needle :=
  [⟨"discord", by simp, by decide⟩, ⟨"clyde", by simp, by decide⟩]

/-- The loop of `stripCi` from index `i` with output `out`: skip a window that matches the needle, copy any other character. -/
def stripCiLoop (chars : List Char) (needle : Needle) (i : Nat) (out : List Char) : List Char :=
  if h : i < chars.length then
    if i + needle.text.length ≤ chars.length ∧
        eqIgnoreAsciiCase (String.ofList ((chars.drop i).take needle.text.length)) needle.text = true then
      stripCiLoop chars needle (i + needle.text.length) out
    else
      stripCiLoop chars needle (i + 1) (out ++ [chars[i]])
  else out
termination_by chars.length - i
decreasing_by
  · have := needle.nonempty
    omega
  · omega

/-- Remove every occurrence of the needle, ASCII case ignored, in one pass from left to right. -/
def stripCi (haystack : String) (needle : Needle) : String :=
  String.ofList (stripCiLoop haystack.toList needle 0 [])

/-! ### The loop with its checks -/

/-- `chars[i..j]`, which panics when the range is not one of the characters. -/
def slice (chars : List Char) (i j : Nat) : Option (List Char) :=
  if i ≤ j ∧ j ≤ chars.length then some ((chars.drop i).take (j - i)) else none

/-- The test of a turn at index `i`: whether the window there is in range and matches the needle. -/
def stripCiMatches (chars : List Char) (needle : Needle) (i : Nat) : Option Bool :=
  if i + needle.text.length ≤ chars.length then
    (slice chars i (i + needle.text.length)).map fun window => eqIgnoreAsciiCase (String.ofList window) needle.text
  else some false

/-- The loop from index `i` with output `out`, for at most so many turns. An index out of range panics. -/
def stripCiTurns (chars : List Char) (needle : Needle) : Nat → Nat → List Char → Option (List Char)
  | 0, _, _ => none
  | turns + 1, i, out =>
    if i < chars.length then do
      if ← stripCiMatches chars needle i then
        stripCiTurns chars needle turns (i + needle.text.length) out
      else
        let c ← chars[i]?
        stripCiTurns chars needle turns (i + 1) (out ++ [c])
    else some out

/-! ### Passes -/

/-- The needle as it is compared: in ASCII lower case. -/
def Needle.folded (needle : Needle) : List Char := needle.text.toList.map toAsciiLowercase

theorem Needle.length_folded (needle : Needle) : needle.folded.length = needle.text.length := by
  rw [Needle.folded, List.length_map, String.length_toList]

theorem Needle.folded_ne_nil (needle : Needle) : needle.folded ≠ [] := by
  rw [← List.length_pos_iff, needle.length_folded]
  exact needle.nonempty

/-- The window the loop compares is the needle exactly when an occurrence starts there. -/
theorem window_iff (needle : Needle) (rest : List Char) :
    needle.text.length ≤ rest.length ∧ eqIgnoreAsciiCase (String.ofList (rest.take needle.text.length)) needle.text = true ↔
      needle.folded <+: rest.map toAsciiLowercase := by
  unfold eqIgnoreAsciiCase
  rw [String.toList_ofList, beq_iff_eq, List.map_take, ← Needle.folded, List.prefix_iff_eq_take, needle.length_folded]
  constructor
  · intro h
    exact h.2.symm
  · intro h
    refine ⟨?_, h.symm⟩
    have hl := congrArg List.length h
    rw [needle.length_folded, List.length_take, List.length_map] at hl
    omega

/-- The loop makes one pass over the rest of the characters. -/
theorem stripCiLoop_strips (chars : List Char) (needle : Needle) (i : Nat) (out : List Char) :
    ∃ kept k, stripCiLoop chars needle i out = out ++ kept ∧
      List.Strips toAsciiLowercase needle.folded (chars.drop i) kept k := by
  induction i, out using stripCiLoop.induct chars needle with
  | case1 i out h hm ih =>
    obtain ⟨kept, k, hk, hs⟩ := ih
    have hit : ((chars.drop i).take needle.text.length).map toAsciiLowercase = needle.folded := by
      simpa [eqIgnoreAsciiCase, Needle.folded] using hm.2
    refine ⟨kept, k + 1, ?_, ?_⟩
    · rw [stripCiLoop, dif_pos h, if_pos hm, hk]
    · have hskip := List.Strips.skip needle.folded_ne_nil hit hs
      rwa [← List.drop_drop, List.take_append_drop] at hskip
  | case2 i out h hm ih =>
    obtain ⟨kept, k, hk, hs⟩ := ih
    refine ⟨chars[i] :: kept, k, ?_, ?_⟩
    · rw [stripCiLoop, dif_pos h, if_neg hm, hk, List.append_assoc, List.singleton_append]
    · rw [List.drop_eq_getElem_cons h]
      refine hs.cons needle.folded_ne_nil fun hp => hm ?_
      rw [← List.drop_eq_getElem_cons h, ← window_iff, List.length_drop] at hp
      have hlen := hp.1
      have hpos := needle.nonempty
      exact ⟨by omega, hp.2⟩
  | case3 i out h =>
    refine ⟨[], 0, by rw [stripCiLoop, dif_neg h, List.append_nil], ?_⟩
    rw [List.drop_eq_nil_of_le (Nat.le_of_not_lt h)]
    exact List.Strips.done (List.not_occurs_of_length_lt (List.length_pos_iff.2 needle.folded_ne_nil))

/-- `stripCi` makes one pass over the name. -/
theorem stripCi_strips (haystack : String) (needle : Needle) :
    ∃ k, List.Strips toAsciiLowercase needle.folded haystack.toList (stripCi haystack needle).toList k := by
  obtain ⟨kept, k, hk, hs⟩ := stripCiLoop_strips haystack.toList needle 0 []
  refine ⟨k, ?_⟩
  rw [stripCi, String.toList_ofList, hk, List.nil_append]
  exact hs

/-- A pass keeps a subsequence of the name. -/
theorem stripCi_sublist (haystack : String) (needle : Needle) :
    (stripCi haystack needle).toList.Sublist haystack.toList := by
  obtain ⟨k, hs⟩ := stripCi_strips haystack needle
  exact hs.sublist

/-- One round over the forbidden substrings. -/
def stripForbidden (name : String) : String := forbiddenSubstrings.foldl stripCi name

/-- A round keeps a subsequence of the name. -/
theorem stripForbidden_sublist (name : String) : (stripForbidden name).toList.Sublist name.toList :=
  (stripCi_sublist _ _).trans (stripCi_sublist _ _)

/-- A round that changes the name shortens it. -/
theorem length_stripForbidden_lt {name : String} (h : stripForbidden name ≠ name) :
    (stripForbidden name).length < name.length := by
  have hs := stripForbidden_sublist name
  rw [← String.length_toList, ← String.length_toList]
  refine lt_of_le_of_ne hs.length_le fun he => h ?_
  exact String.toList_inj.1 (hs.eq_of_length he)

/-- Repeat the round until nothing changes. -/
def stripFixed (name : String) : String :=
  if _ : stripForbidden name = name then stripForbidden name
  else stripFixed (stripForbidden name)
termination_by name.length
decreasing_by exact length_stripForbidden_lt ‹_›

/-- A Discord-legal webhook username from an arbitrary remote display name. -/
def deriveWebhookUsername (raw : String) : String :=
  let name := trim (stripFixed (trim raw))
  if name = "" ∨ eqIgnoreAsciiCase name "everyone" = true ∨ eqIgnoreAsciiCase name "here" = true then fallback
  else takeChars maxLen name

end ModerationBot
