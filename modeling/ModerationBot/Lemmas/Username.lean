import ModerationBot.Proxy.Username

/-!
# Legal webhook usernames

Discord's rules for a webhook username, and how far each stage of `deriveWebhookUsername` establishes them. The stripping ends in a
name that holds no forbidden substring; a piece of such a name holds none either, so neither the outer trim nor the cut brings one
back.
-/

namespace ModerationBot

/-- A name holds a word, ASCII case ignored. -/
def Contains (name word : String) : Prop :=
  List.Occurs toAsciiLowercase (word.toList.map toAsciiLowercase) name.toList

/-- A reserved name, ASCII case ignored. -/
def Reserved (name : String) : Prop := eqIgnoreAsciiCase name "everyone" = true ∨ eqIgnoreAsciiCase name "here" = true

instance (name : String) : Decidable (Reserved name) := inferInstanceAs (Decidable (_ ∨ _))

/-- What Discord asks of the username of a webhook message. -/
structure Legal (name : String) : Prop where
  nonempty : 1 ≤ name.length
  short : name.length ≤ 80
  no_discord : ¬Contains name "discord"
  no_clyde : ¬Contains name "clyde"
  not_reserved : ¬Reserved name

/-- A name without forbidden substrings. -/
def WordFree (name : String) : Prop := ¬Contains name "discord" ∧ ¬Contains name "clyde"

/-- What is left of a display name once outer whitespace and forbidden substrings are gone. -/
def strippedName (raw : String) : String := trim (stripFixed (trim raw))

/-- A piece of such a name is one. -/
theorem WordFree.piece {name piece : String} (h : WordFree name) (hp : piece.toList <:+: name.toList) : WordFree piece :=
  ⟨fun ho => h.1 (ho.mono hp), fun ho => h.2 (ho.mono hp)⟩

/-- A name without the letter `d` is one. -/
theorem wordFree_of_notMem {name : String} (h : 'd' ∉ name.toList.map toAsciiLowercase) : WordFree name :=
  ⟨fun ho => h (List.IsInfix.subset ho (by decide)), fun ho => h (List.IsInfix.subset ho (by decide))⟩

/-! ## The stripping -/

/-- A pass leaves a name as it is exactly when the name does not hold the needle. -/
theorem stripCi_eq_self_iff (name : String) (needle : Needle) : stripCi name needle = name ↔ ¬Contains name needle.text := by
  obtain ⟨k, hs⟩ := stripCi_strips name needle
  rw [← String.toList_inj]
  exact hs.eq_self_iff needle.folded_ne_nil

/-- A round that changes nothing has met a name without forbidden substrings. -/
theorem stripForbidden_eq_self_iff (name : String) : stripForbidden name = name ↔ WordFree name := by
  have hround : ∀ d c : Needle, stripCi (stripCi name d) c = name ↔ ¬Contains name d.text ∧ ¬Contains name c.text := by
    intro d c
    rw [← stripCi_eq_self_iff, ← stripCi_eq_self_iff]
    constructor
    · intro h
      have hd : stripCi name d = name := by
        have hfirst := stripCi_sublist name d
        have hsecond := stripCi_sublist (stripCi name d) c
        rw [h] at hsecond
        exact String.toList_inj.1 (hfirst.antisymm hsecond)
      rw [hd] at h
      exact ⟨hd, h⟩
    · intro h
      rw [h.1, h.2]
  exact hround _ _

/-- A pass drops the occurrences of a word from a name, ASCII case ignored. -/
def Pass (word name out : String) : Prop :=
  ∃ k, List.Strips toAsciiLowercase (word.toList.map toAsciiLowercase) name.toList out.toList k

/-- What is left of a name when the forbidden words are dropped in rounds, a pass for each word, until none is left. -/
inductive Cleaned : String → String → Prop
  | free {name : String} : WordFree name → Cleaned name name
  | round {name half next out : String} : ¬WordFree name → Pass "discord" name half → Pass "clyde" half next → Cleaned next out →
      Cleaned name out

/-- A pass leaves one name. -/
theorem Pass.unique {word name out out' : String} (h : Pass word name out) (h' : Pass word name out') : out = out' := by
  obtain ⟨k, hs⟩ := h
  obtain ⟨k', hs'⟩ := h'
  exact String.toList_inj.1 (hs.unique hs')

/-- The rounds leave one name. -/
theorem Cleaned.unique {name out out' : String} (h : Cleaned name out) (h' : Cleaned name out') : out = out' := by
  induction h with
  | free hfree =>
    cases h' with
    | free _ => rfl
    | round hnot _ _ _ => exact absurd hfree hnot
  | round hnot hd hc _ ih =>
    cases h' with
    | free hfree => exact absurd hfree hnot
    | round _ hd' hc' h' =>
      obtain rfl := hd.unique hd'
      obtain rfl := hc.unique hc'
      exact ih h'

/-- A round of the source is a pass for each word. -/
theorem passes_stripForbidden (name : String) : ∃ half, Pass "discord" name half ∧ Pass "clyde" half (stripForbidden name) :=
  ⟨_, stripCi_strips name ⟨"discord", by simp, by decide⟩, stripCi_strips _ ⟨"clyde", by simp, by decide⟩⟩

/-- The loop of the source makes these rounds. -/
theorem cleaned_stripFixed (name : String) : Cleaned name (stripFixed name) := by
  induction name using stripFixed.induct with
  | case1 name h =>
    rw [stripFixed, dif_pos h, h]
    exact Cleaned.free ((stripForbidden_eq_self_iff name).1 h)
  | case2 name h ih =>
    rw [stripFixed, dif_neg h]
    obtain ⟨half, hd, hc⟩ := passes_stripForbidden name
    exact Cleaned.round (fun hfree => h ((stripForbidden_eq_self_iff name).2 hfree)) hd hc ih

/-- The rounds end in a name without forbidden substrings. -/
theorem Cleaned.wordFree {name out : String} (h : Cleaned name out) : WordFree out := by
  induction h with
  | free hfree => exact hfree
  | round _ _ _ _ ih => exact ih

/-- The rounds keep a subsequence of the name. -/
theorem Cleaned.sublist {name out : String} (h : Cleaned name out) : out.toList.Sublist name.toList := by
  induction h with
  | free _ => exact List.Sublist.refl _
  | round _ hd hc _ ih =>
    obtain ⟨_, hd⟩ := hd
    obtain ⟨_, hc⟩ := hc
    exact (ih.trans hc.sublist).trans hd.sublist

/-- The rounds leave such a name as it is. -/
theorem stripFixed_of_wordFree {name : String} (h : WordFree name) : stripFixed name = name :=
  (cleaned_stripFixed name).unique (Cleaned.free h)

/-! ### What the rounds drop -/

/-- A pass that drops so many occurrences of a word from a name. -/
def Drops (word name out : String) (k : Nat) : Prop :=
  List.Strips toAsciiLowercase (word.toList.map toAsciiLowercase) name.toList out.toList k

/-- The rounds that leave a name without the forbidden words, and how many occurrences of "discord" and of "clyde" they drop. -/
inductive Counted : String → String → Nat → Nat → Prop
  | free {name : String} : WordFree name → Counted name name 0 0
  | round {name half next out : String} {k l a b : Nat} : ¬WordFree name → Drops "discord" name half k → Drops "clyde" half next l →
      Counted next out a b → Counted name out (k + a) (l + b)

/-- A pass removes the length of the word for each occurrence. -/
theorem Drops.length {word name out : String} {k : Nat} (h : Drops word name out k) :
    out.length + k * word.length = name.length := by
  have hlen := List.Strips.length h
  rwa [List.length_map, String.length_toList, String.length_toList, String.length_toList] at hlen

namespace Counted

variable {name out : String} {a b : Nat}

/-- Rounds that are counted are rounds. -/
theorem cleaned (h : Counted name out a b) : Cleaned name out := by
  induction h with
  | free hfree => exact Cleaned.free hfree
  | round hnot hd hc _ ih => exact Cleaned.round hnot ⟨_, hd⟩ ⟨_, hc⟩ ih

/-- The rounds remove seven characters for each "discord" and five for each "clyde". -/
theorem length (h : Counted name out a b) : out.length + (7 * a + 5 * b) = name.length := by
  induction h with
  | free _ => rfl
  | round _ hd hc _ ih =>
    have hdiscord := hd.length
    have hclyde := hc.length
    have hseven : "discord".length = 7 := rfl
    have hfive : "clyde".length = 5 := rfl
    rw [hseven] at hdiscord
    rw [hfive] at hclyde
    omega

end Counted

/-- Rounds can be counted. -/
theorem Cleaned.exists_counted {name out : String} (h : Cleaned name out) : ∃ a b, Counted name out a b := by
  induction h with
  | free hfree => exact ⟨0, 0, Counted.free hfree⟩
  | round hnot hd hc _ ih =>
    obtain ⟨k, hd⟩ := hd
    obtain ⟨l, hc⟩ := hc
    obtain ⟨a, b, h⟩ := ih
    exact ⟨k + a, l + b, Counted.round hnot hd hc h⟩

/-! ### The rest -/

/-- The rest of a display name: without outer whitespace, then without the forbidden words, then without outer whitespace again. -/
def Rest (raw rest : String) : Prop := ∃ name, Cleaned (trim raw) name ∧ rest = trim name

/-- The source computes the rest. -/
theorem rest_iff {raw rest : String} : Rest raw rest ↔ rest = strippedName raw := by
  constructor
  · intro h
    obtain ⟨name, hname, rfl⟩ := h
    rw [hname.unique (cleaned_stripFixed (trim raw)), strippedName]
  · intro h
    exact ⟨stripFixed (trim raw), cleaned_stripFixed _, h⟩

theorem wordFree_strippedName (raw : String) : WordFree (strippedName raw) := (cleaned_stripFixed _).wordFree.piece (isInfix_trim _)

theorem trim_strippedName (raw : String) : trim (strippedName raw) = strippedName raw := trim_trim _

/-- Of such a name only the outer whitespace goes. -/
theorem strippedName_of_wordFree {raw : String} (h : WordFree (trim raw)) : strippedName raw = trim raw := by
  rw [strippedName, stripFixed_of_wordFree h, trim_trim]

/-! ## The fallback and the cut -/

/-- The fallback takes the place of nothing and of the reserved names; any other name is cut. -/
theorem deriveWebhookUsername_eq (raw : String) : deriveWebhookUsername raw =
    if strippedName raw = "" ∨ Reserved (strippedName raw) then fallback else takeChars maxLen (strippedName raw) := rfl

/-- The fallback is legal. -/
theorem legal_fallback : Legal fallback where
  nonempty := by decide
  short := by decide
  no_discord := (wordFree_of_notMem (by decide)).1
  no_clyde := (wordFree_of_notMem (by decide)).2
  not_reserved := by decide

/-- The fallback is trimmed. -/
theorem trim_fallback : trim fallback = fallback :=
  trim_eq_self_of_ends (a := 'u') (b := 'r') rfl rfl rfl rfl

/-- A reserved name is short. -/
theorem Reserved.length_le {name : String} (h : Reserved name) : name.length ≤ 8 := by
  have hlen : ∀ word : String, eqIgnoreAsciiCase name word = true → name.length = word.length := by
    intro word he
    have hl := congrArg List.length (beq_iff_eq.1 he)
    rwa [List.length_map, List.length_map, String.length_toList, String.length_toList] at hl
  rcases h with h | h
  · exact (hlen _ h).le
  · rw [hlen _ h]
    decide

/-- The cut of a name without forbidden substrings that is neither empty nor reserved is legal. -/
theorem legal_takeChars {name : String} (hc : WordFree name) (hne : name ≠ "") (hr : ¬Reserved name) :
    Legal (takeChars maxLen name) := by
  have hlen := length_takeChars maxLen name
  have hpos : 0 < name.length := by
    rw [← String.length_toList, List.length_pos_iff]
    exact fun h => hne (String.toList_eq_nil_iff.1 h)
  have hmax : maxLen = 80 := rfl
  have hcut : WordFree (takeChars maxLen name) := by
    refine hc.piece ?_
    rw [takeChars, String.toList_ofList]
    exact (List.take_prefix _ _).isInfix
  refine ⟨by omega, by omega, hcut.1, hcut.2, fun h => hr ?_⟩
  have hshort := h.length_le
  rwa [takeChars_of_length_le (by omega)] at h

/-- A derived username is legal. -/
theorem legal_derived (raw : String) : Legal (deriveWebhookUsername raw) := by
  rw [deriveWebhookUsername_eq]
  by_cases h : strippedName raw = "" ∨ Reserved (strippedName raw)
  · rw [if_pos h]
    exact legal_fallback
  · rw [if_neg h]
    obtain ⟨hne, hr⟩ := not_or.1 h
    exact legal_takeChars (wordFree_strippedName raw) hne hr

end ModerationBot
