import ModerationBot.Library.Search
import ModerationBot.Theorems.Sanitize

namespace ModerationBot

/-! ## Sanitizing loses nothing -/

/-- The text that was sanitized: each `@` with a zero-width space after it, found from the left, is an `@` again. -/
def restore (text : String) : String :=
  String.ofList (List.replaceWord id ['@', zwsp] (List.cons_ne_nil _ _) ['@'] text.toList)

/-- The sanitizer marks each `@` with a zero-width space. -/
theorem toList_sanitizeContent_eq_mark (input : String) : (sanitizeContent input).toList = List.mark '@' zwsp input.toList :=
  toList_sanitizeContent input

/-- The sanitizer is the replacement of the source: of each `@` by an `@` and a zero-width space. -/
theorem sanitizeContent_eq_replaceWord (input : String) : (sanitizeContent input).toList =
    List.replaceWord id ['@'] (List.cons_ne_nil _ _) ['@', zwsp] input.toList := by
  rw [toList_sanitizeContent_eq_mark, List.replaceWord_letter]

/-- What the sanitizer keeps of every text. -/
structure SanitizeLosesNothing : Prop where
  restored : ∀ text, restore (sanitizeContent text) = text
  injective : Function.Injective sanitizeContent
  append : ∀ text text', sanitizeContent (text ++ text') = sanitizeContent text ++ sanitizeContent text'
  length : ∀ text, (sanitizeContent text).length = text.length + text.toList.count '@'
  /-- A message with something to see that fits when it is sanitized is relayed in full. -/
  relayed : ∀ input, (∃ c ∈ input.toList, isWhitespace c = false) → input.length + input.toList.count '@' ≤ 2000 →
    ∃ out, prepareRelayContent input = some out ∧ restore out = input

/-- Sanitized text is restored. -/
theorem restore_sanitizeContent (text : String) : restore (sanitizeContent text) = text := by
  rw [restore, toList_sanitizeContent_eq_mark, List.replaceWord_mark, String.ofList_toList]

/-- Each `@` adds one character. -/
theorem length_sanitizeContent (text : String) : (sanitizeContent text).length = text.length + text.toList.count '@' := by
  rw [← String.length_toList, toList_sanitizeContent_eq_mark, List.length_mark, String.length_toList]

/-- The sanitizer loses nothing. -/
theorem sanitize_loses_nothing : SanitizeLosesNothing where
  restored := restore_sanitizeContent
  injective := Function.LeftInverse.injective restore_sanitizeContent
  append text text' := by
    rw [← String.toList_inj, String.toList_append, toList_sanitizeContent_eq_mark, toList_sanitizeContent_eq_mark,
      toList_sanitizeContent_eq_mark, String.toList_append, List.mark_append]
  length := length_sanitizeContent
  relayed input hv hfits := by
    have hvisible : ∃ c ∈ (sanitizeContent input).toList, isWhitespace c = false := by
      have hblank := not_congr (blank_sanitizeContent input)
      simp only [Blank, not_forall, Bool.not_eq_true, exists_prop] at hblank
      exact hblank.2 hv
    have hwhole : takeChars 2000 (sanitizeContent input) = sanitizeContent input := by
      refine takeChars_of_length_le ?_
      rwa [length_sanitizeContent]
    exact ⟨sanitizeContent input, prepareRelayContent_eq_some_iff.2 ⟨hwhole.symm, hvisible⟩, restore_sanitizeContent input⟩

end ModerationBot
