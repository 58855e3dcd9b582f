import ModerationBot.Lemmas.Username

namespace ModerationBot

/-! ## Webhook usernames are legal -/

/-- Every display name becomes a legal webhook username. -/
theorem deriveWebhookUsername_legal (raw : String) : Legal (deriveWebhookUsername raw) := legal_derived raw

/-! ## What is kept of a display name -/

/-- What the derivation keeps of a display name, and when it takes the fallback instead. -/
structure Conservative (raw : String) : Prop where
  /-- A name that is no trouble is only trimmed and cut. -/
  untouched : trim raw ≠ "" → WordFree (trim raw) → ¬Reserved (trim raw) → deriveWebhookUsername raw = takeChars 80 (trim raw)
  fallback : ∀ rest, Rest raw rest → rest = "" ∨ Reserved rest → deriveWebhookUsername raw = "user"
  kept : ∀ rest, Rest raw rest → ¬(rest = "" ∨ Reserved rest) →
    deriveWebhookUsername raw = takeChars 80 rest ∧ (deriveWebhookUsername raw).toList.Sublist raw.toList
  /-- The loop drops so many occurrences of each forbidden word, and no other character. -/
  counted : ∃ a b, Counted (trim raw) (stripFixed (trim raw)) a b
  removed : ∀ name a b, Counted (trim raw) name a b →
    Rest raw (trim name) ∧ name = stripFixed (trim raw) ∧ name.length + (7 * a + 5 * b) = (trim raw).length

/-- The rest of a display name is a subsequence of it. -/
theorem Rest.sublist {raw rest : String} (h : Rest raw rest) : rest.toList.Sublist raw.toList := by
  obtain ⟨name, hname, rfl⟩ := h
  exact ((isInfix_trim name).sublist.trans hname.sublist).trans (isInfix_trim raw).sublist

/-- The derivation keeps what it can of every display name. -/
theorem deriveWebhookUsername_conservative (raw : String) : Conservative raw where
  untouched hne hfree hr := by
    rw [deriveWebhookUsername_eq, strippedName_of_wordFree hfree, if_neg (not_or.2 ⟨hne, hr⟩), maxLen]
  fallback rest hrest h := by
    rw [rest_iff.1 hrest] at h
    rw [deriveWebhookUsername_eq, if_pos h, fallback]
  kept rest hrest h := by
    have hderive : deriveWebhookUsername raw = takeChars 80 rest := by
      rw [rest_iff.1 hrest] at h ⊢
      rw [deriveWebhookUsername_eq, if_neg h, maxLen]
    refine ⟨hderive, ?_⟩
    rw [hderive, takeChars, String.toList_ofList]
    exact (List.take_sublist 80 rest.toList).trans hrest.sublist
  counted := (cleaned_stripFixed (trim raw)).exists_counted
  removed name a b h := ⟨⟨name, h.cleaned, rfl⟩, h.cleaned.unique (cleaned_stripFixed (trim raw)), h.length⟩

/-! ## When a derived username is normalized -/

/-- A name that the derivation leaves as it is, and that stays legal when its outer whitespace is removed. -/
structure Normalized (name : String) : Prop where
  fixed : deriveWebhookUsername name = name
  trimmed : trim name = name
  legal_trim : Legal (trim name)

/-- The cut of a name does not end in whitespace: its 80th character, if there is one, is none. -/
def CutsCleanly (name : String) : Prop := ∀ c, name.toList[79]? = some c → isWhitespace c = false

/-- A trimmed name is cut to a trimmed name exactly when the cut does not end in whitespace. -/
theorem trim_takeChars_eq_self_iff {name : String} (ht : trim name = name) :
    trim (takeChars maxLen name) = takeChars maxLen name ↔ CutsCleanly name := by
  obtain ⟨hhead, hlast⟩ := trim_eq_self_iff.1 ht
  have hcut : (takeChars maxLen name).toList = name.toList.take 80 := by rw [takeChars, String.toList_ofList, maxLen]
  rw [trim_eq_self_iff, hcut, CutsCleanly]
  constructor
  · intro h c hc
    obtain ⟨hlt, -⟩ := List.getElem?_eq_some_iff.1 hc
    refine h.2 c ?_
    rw [Option.mem_def, List.getLast?_take, if_neg (by decide), hc, Option.some_or]
  · intro h
    constructor
    · intro c hc
      rw [List.head?_take, if_neg (by decide)] at hc
      exact hhead c hc
    · intro c hc
      rw [Option.mem_def, List.getLast?_take, if_neg (by decide)] at hc
      cases hget : name.toList[80 - 1]? with
      | none =>
        rw [hget, Option.none_or] at hc
        exact hlast c hc
      | some d =>
        rw [hget, Option.some_or] at hc
        obtain rfl := Option.some.inj hc
        exact h d hget

/-- A derived name is trimmed exactly when its cut does not end in whitespace. -/
theorem trim_derive_eq_self_iff (raw : String) :
    trim (deriveWebhookUsername raw) = deriveWebhookUsername raw ↔ CutsCleanly (strippedName raw) := by
  rw [deriveWebhookUsername_eq]
  by_cases h : strippedName raw = "" ∨ Reserved (strippedName raw)
  · rw [if_pos h]
    refine iff_of_true trim_fallback fun c hc => ?_
    have hlen : (strippedName raw).length ≤ 8 := by
      rcases h with h | h
      · rw [h]
        decide
      · exact h.length_le
    obtain ⟨hlt, -⟩ := List.getElem?_eq_some_iff.1 hc
    rw [String.length_toList] at hlt
    omega
  · rw [if_neg h]
    exact trim_takeChars_eq_self_iff (trim_strippedName raw)

/-- The derivation leaves a legal name as it is exactly when the name is trimmed. -/
theorem derive_eq_self_iff {name : String} (h : Legal name) : deriveWebhookUsername name = name ↔ trim name = name := by
  have hfree : WordFree name := ⟨h.no_discord, h.no_clyde⟩
  have hstripped : strippedName name = trim name := strippedName_of_wordFree (hfree.piece (isInfix_trim name))
  rw [deriveWebhookUsername_eq, hstripped]
  constructor
  · intro he
    by_cases hf : trim name = "" ∨ Reserved (trim name)
    · rw [if_pos hf] at he
      rw [← he]
      exact trim_fallback
    · have hlen : (trim name).length ≤ maxLen := by
        rw [← String.length_toList]
        refine (isInfix_trim name).length_le.trans ?_
        rw [String.length_toList]
        exact h.short
      rwa [if_neg hf, takeChars_of_length_le hlen] at he
  · intro ht
    have hne : name ≠ "" := by
      intro he
      have hpos := h.nonempty
      rw [he] at hpos
      exact absurd hpos (by decide)
    rw [ht, if_neg (not_or.2 ⟨hne, h.not_reserved⟩), @takeChars_of_length_le maxLen name h.short]

/-- A derived username is normalized, and so is a fixed point of the derivation, exactly when the cut of what is left of the display
name does not end in whitespace. -/
theorem derived_normalized_iff (raw : String) :
    (Normalized (deriveWebhookUsername raw) ↔ ∀ rest, Rest raw rest → CutsCleanly rest) ∧
      (deriveWebhookUsername (deriveWebhookUsername raw) = deriveWebhookUsername raw ↔ ∀ rest, Rest raw rest → CutsCleanly rest) := by
  have hrest : (∀ rest, Rest raw rest → CutsCleanly rest) ↔ CutsCleanly (strippedName raw) := by
    simp only [rest_iff, forall_eq]
  have hfixed := (derive_eq_self_iff (legal_derived raw)).trans (trim_derive_eq_self_iff raw)
  rw [hrest]
  refine ⟨⟨fun h => hfixed.1 h.fixed, fun h => ?_⟩, hfixed⟩
  have htrim := (trim_derive_eq_self_iff raw).2 h
  refine ⟨hfixed.2 h, htrim, ?_⟩
  rw [htrim]
  exact legal_derived raw

namespace PaddedReserved

/-- A reserved name, whitespace up to the 80th character, and one more letter. -/
def raw : String := "everyone" ++ String.ofList (List.replicate 72 ' ') ++ "x"

theorem strippedName_raw : strippedName raw = raw := by
  have htrim : trim raw = raw :=
    trim_eq_self_of_ends (a := 'e') (b := 'x') (by decide +kernel) (by decide +kernel) rfl rfl
  have hfree : WordFree (trim raw) := wordFree_of_notMem (by rw [htrim]; decide +kernel)
  rw [strippedName_of_wordFree hfree, htrim]

/-- The derived name is not a fixed point, and once trimmed it is a reserved name. -/
theorem not_normalized : deriveWebhookUsername (deriveWebhookUsername raw) ≠ deriveWebhookUsername raw ∧
    Reserved (trim (deriveWebhookUsername raw)) := by
  have hderive : deriveWebhookUsername raw = takeChars maxLen raw := by
    rw [deriveWebhookUsername_eq, strippedName_raw, if_neg (by decide +kernel)]
  have htrim : trim (takeChars maxLen raw) = "everyone" := by
    rw [← String.toList_inj, toList_trim]
    decide +kernel
  have hagain : deriveWebhookUsername (takeChars maxLen raw) = fallback := by
    rw [deriveWebhookUsername_eq, strippedName_of_wordFree (wordFree_of_notMem (by rw [htrim]; decide +kernel)), htrim]
    exact if_pos (by decide)
  rw [hderive, hagain, htrim]
  exact ⟨by decide +kernel, by decide⟩

end PaddedReserved

end ModerationBot
