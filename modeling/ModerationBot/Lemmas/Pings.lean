import Mathlib.Data.List.Chain
import ModerationBot.Library.Words
import ModerationBot.Proxy.Sanitize

/-!
# The tokens that ping

By which tokens a message pings, and the two ways in which a text holds none: it has no `@`, or each `@` is cut off from what follows
by a zero-width space.
-/

namespace ModerationBot

/-- The tokens by which a message pings: everyone, those online, an account (in two spellings) or a role. -/
inductive IsPing : List Char → Prop
  | everyone : IsPing "@everyone".toList
  | here : IsPing "@here".toList
  | mention (sigil id : List Char) : sigil = [] ∨ sigil = ['!'] ∨ sigil = ['&'] → id ≠ [] → (∀ c ∈ id, c.isDigit = true) →
      IsPing ('<' :: '@' :: (sigil ++ id ++ ['>']))

/-- A text holds a token that pings. -/
def Pings (text : String) : Prop := List.Holds IsPing text.toList

theorem IsPing.at_mem {word : List Char} (h : IsPing word) : '@' ∈ word := by
  cases h with
  | everyone => decide
  | here => decide
  | mention sigil id hs hne hd => simp

/-- A text without the sign pings nobody. -/
theorem not_pings_of_notMem {text : String} (h : '@' ∉ text.toList) : ¬Pings text :=
  List.not_holds_of_notMem (fun _ hw => hw.at_mem) h

/-- Each `@` of the text that is not its last character stands before a zero-width space. -/
def Broken (text : List Char) : Prop := text.IsChain (fun a b => a = '@' → b = zwsp)

/-- What follows an `@` in a text where each is broken. -/
theorem Broken.after {before after : List Char} (h : Broken (before ++ '@' :: after)) :
    after = [] ∨ ∃ rest, after = zwsp :: rest := by
  cases after with
  | nil => exact Or.inl rfl
  | cons c rest =>
    have hc := List.isChain_iff_forall_rel_of_append_cons_cons.1 h rfl rfl
    exact Or.inr ⟨rest, by rw [hc]⟩

/-- A piece of a text where each `@` is broken is such a text. -/
theorem Broken.piece {text piece : List Char} (h : Broken text) (hp : piece <:+: text) : Broken piece := by
  obtain ⟨before, after, rfl⟩ := hp
  exact (List.isChain_append.1 (List.isChain_append.1 h).1).2.1

/-- In a token that pings, the `@` is not broken. -/
theorem IsPing.not_broken {word : List Char} (h : IsPing word) : ¬Broken word := by
  have hsplit : ∀ (before : List Char) (c : Char) (rest : List Char), c ≠ zwsp → ¬Broken (before ++ '@' :: c :: rest) := by
    intro before c rest hc hb
    rcases hb.after with he | ⟨rest', he⟩
    · cases he
    · exact hc (List.cons.inj he).1
  cases h with
  | everyone => exact hsplit [] 'e' "veryone".toList (by decide)
  | here => exact hsplit [] 'h' "ere".toList (by decide)
  | mention sigil id hs hne hd =>
    rcases hs with rfl | rfl | rfl
    · cases id with
      | nil => exact absurd rfl hne
      | cons d id =>
        refine hsplit ['<'] d (id ++ ['>']) fun he => ?_
        have hdigit := hd d List.mem_cons_self
        rw [he] at hdigit
        exact absurd hdigit (by decide)
    · exact hsplit ['<'] '!' (id ++ ['>']) (by decide)
    · exact hsplit ['<'] '&' (id ++ ['>']) (by decide)

/-- A text where each `@` is broken pings nobody. -/
theorem Broken.not_pings {text : String} (h : Broken text.toList) : ¬Pings text := by
  intro hp
  obtain ⟨word, hw, hi⟩ := hp
  exact hw.not_broken (h.piece hi)

end ModerationBot
