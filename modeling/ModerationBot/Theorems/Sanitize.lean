import ModerationBot.Lemmas.Pings
import ModerationBot.Lemmas.Webhook

namespace ModerationBot

/-! ## What is relayed of a remote message -/

/-- The sanitizer lets each character stand for itself, save the `@`. -/
theorem toList_sanitizeContent (input : String) :
    (sanitizeContent input).toList = input.toList.flatMap (fun c => if c == '@' then ['@', zwsp] else [c]) := by
  rw [sanitizeContent, String.toList_ofList]

/-- In sanitized text each `@` is broken. -/
theorem broken_sanitizeContent (input : String) : Broken (sanitizeContent input).toList := by
  rw [toList_sanitizeContent]
  unfold Broken
  induction input.toList with
  | nil => exact List.isChain_nil
  | cons c cs ih =>
    rw [List.flatMap_cons]
    by_cases hc : c = '@'
    · subst hc
      refine List.isChain_cons.2 ⟨fun d hd _ => (Option.some.inj hd).symm, List.isChain_cons.2 ⟨fun d _ hz => ?_, ih⟩⟩
      exact absurd hz (by decide)
    · rw [if_neg (by simpa using hc)]
      exact List.isChain_cons.2 ⟨fun d _ ha => absurd ha hc, ih⟩

/-- What is relayed of a message: as much of the sanitized text as fits, with something to see in it and no ping. -/
structure Relayed (input out : String) : Prop where
  starts : out.toList <+: (sanitizeContent input).toList
  fits : out.length ≤ 2000
  longest : ∀ text, text <+: (sanitizeContent input).toList → text.length ≤ 2000 → text <+: out.toList
  visible : ∃ c ∈ out.toList, isWhitespace c = false
  broken : ∀ before after, out.toList = before ++ '@' :: after → after = [] ∨ ∃ rest, after = zwsp :: rest
  silent : ¬Pings out

/-- The text that is cut, and then tested for something to see. -/
theorem prepareRelayContent_eq_some_iff {input out : String} : prepareRelayContent input = some out ↔
    out = takeChars 2000 (sanitizeContent input) ∧ ∃ c ∈ out.toList, isWhitespace c = false := by
  unfold prepareRelayContent
  simp only [Option.ite_none_left_eq_some, Option.some.injEq]
  constructor
  · intro h
    obtain ⟨hne, rfl⟩ := h
    exact ⟨rfl, (trim_ne_empty_iff _).1 hne⟩
  · intro h
    obtain ⟨rfl, hv⟩ := h
    exact ⟨(trim_ne_empty_iff _).2 hv, rfl⟩

/-- What is prepared is not too long. -/
theorem length_prepared {input out : String} (h : prepareRelayContent input = some out) : out.length ≤ 2000 := by
  obtain ⟨rfl, -⟩ := prepareRelayContent_eq_some_iff.1 h
  rw [← String.length_toList, takeChars, String.toList_ofList]
  exact List.length_take_le _ _

/-- What is prepared is a piece of the sanitized text, so each `@` in it is broken. -/
theorem broken_prepared {input out : String} (h : prepareRelayContent input = some out) : Broken out.toList := by
  obtain ⟨rfl, -⟩ := prepareRelayContent_eq_some_iff.1 h
  rw [takeChars, String.toList_ofList]
  exact (broken_sanitizeContent input).piece (List.take_prefix 2000 _).isInfix

/-- What is prepared of a message is as much of its sanitized text as fits, with something to see in it and no ping. -/
theorem prepareRelayContent_relayed {input out : String} (h : prepareRelayContent input = some out) : Relayed input out := by
  obtain ⟨hcut, hv⟩ := prepareRelayContent_eq_some_iff.1 h
  have hout : out.toList = (sanitizeContent input).toList.take 2000 := by
    rw [hcut, takeChars, String.toList_ofList]
  have hbroken := broken_prepared h
  refine ⟨?_, length_prepared h, fun text ht hl => ?_, hv, fun before after he => ?_, hbroken.not_pings⟩
  · rw [hout]
    exact List.take_prefix 2000 _
  · rw [hout, List.prefix_take_iff]
    exact ⟨ht, hl⟩
  · rw [he] at hbroken
    exact hbroken.after

theorem prepareRelayContent_relayed_everyone : Relayed "@everyone" ("@" ++ String.ofList [zwsp] ++ "everyone") :=
  prepareRelayContent_relayed (prepareRelayContent_eq_some_iff.2 ⟨by decide, '@', by decide, by decide⟩)

/-! ## Which messages are kept -/

/-- The whitespace before the first character to see. -/
def indent (input : String) : List Char := input.toList.takeWhile isWhitespace

/-- The first characters of a list satisfy a predicate when all do, or when enough of them do before one that does not. -/
theorem forall_mem_take_iff {α : Type} {p : α → Bool} {l : List α} {n : Nat} :
    (∀ c ∈ l.take n, p c = true) ↔ (∀ c ∈ l, p c = true) ∨ n ≤ (l.takeWhile p).length := by
  induction l generalizing n with
  | nil => simp
  | cons c l ih =>
    cases n with
    | zero => simp
    | succ n =>
      rw [List.take_succ_cons, List.forall_mem_cons, ih, List.forall_mem_cons]
      cases hc : p c with
      | false => simp [hc]
      | true => simp [hc]

/-- The sanitizer neither brings nor takes whitespace. -/
theorem blank_sanitizeContent (input : String) : Blank (sanitizeContent input) ↔ Blank input := by
  unfold Blank
  rw [toList_sanitizeContent]
  induction input.toList with
  | nil => rfl
  | cons c cs ih =>
    have hat : isWhitespace '@' = false := rfl
    rw [List.flatMap_cons, List.forall_mem_append, ih, List.forall_mem_cons]
    by_cases hc : c = '@'
    · simp [hc, hat]
    · rw [if_neg (by simpa using hc), List.forall_mem_singleton]

/-- The sanitizer leaves the whitespace at the start as it is. -/
theorem indent_sanitizeContent (input : String) : indent (sanitizeContent input) = indent input := by
  unfold indent
  rw [toList_sanitizeContent]
  induction input.toList with
  | nil => rfl
  | cons c cs ih =>
    have hat : isWhitespace '@' = false := rfl
    rw [List.flatMap_cons]
    by_cases hc : c = '@'
    · simp [hc, hat]
    · rw [if_neg (by simpa using hc), List.singleton_append, List.takeWhile_cons, List.takeWhile_cons, ih]

/-- Nothing is prepared of a blank message, nor of one that starts with as much whitespace as fits into a message. -/
theorem prepareRelayContent_eq_none_iff (input : String) :
    prepareRelayContent input = none ↔ Blank input ∨ 2000 ≤ (indent input).length := by
  have hcut : prepareRelayContent input = none ↔ ∀ c ∈ (sanitizeContent input).toList.take 2000, isWhitespace c = true := by
    unfold prepareRelayContent
    simp only [ite_eq_left_iff, reduceCtorEq, imp_false, not_not]
    rw [trim_eq_empty_iff, takeChars, String.toList_ofList, maxMessageChars]
  rw [hcut, forall_mem_take_iff, ← indent_sanitizeContent, ← blank_sanitizeContent]
  rfl

/-- A message that is not lost unless it is blank: nothing else is prepared as nothing, and the relay skips nothing else. -/
structure Kept (input : String) : Prop where
  none_iff : prepareRelayContent input = none ↔ Blank input
  skipped : ∀ (w : World) (channel : UInt64) (msg : RemoteMessage), msg.content = input →
    (relayInbound channel msg).run serve w = ⟨.ok (), [], w⟩ → Blank input

/-- A message is kept exactly when it is blank or does not start with as much whitespace as fits into a message. -/
theorem kept_iff (input : String) : Kept input ↔ Blank input ∨ (indent input).length < 2000 := by
  constructor
  · intro h
    by_cases hlen : (indent input).length < 2000
    · exact Or.inr hlen
    · exact Or.inl (h.none_iff.1 ((prepareRelayContent_eq_none_iff input).2 (Or.inr (by omega))))
  · intro h
    have hnone : prepareRelayContent input = none ↔ Blank input := by
      rw [prepareRelayContent_eq_none_iff]
      constructor
      · intro hn
        rcases h with hb | hlt
        · exact hb
        · exact hn.resolve_right (by omega)
      · exact Or.inl
    refine ⟨hnone, fun w channel msg hm hrun => hnone.1 ?_⟩
    cases hp : prepareRelayContent input with
    | none => rfl
    | some content =>
      subst hm
      have hissued := congrArg Outcome.issued hrun
      simp [relayInbound, hp, getOrCreateWebhook, Prog.bind_assoc, Prog.run_bind, Outcome.andThen] at hissued

namespace IndentedText

/-- Spaces, and then a letter. -/
def input (n : Nat) : String := String.ofList (List.replicate n ' ' ++ ['x'])

theorem length_indent (n : Nat) : (indent (input n)).length = n := by
  have hspace : ∀ c ∈ List.replicate n ' ', isWhitespace c = true := by
    intro c hc
    rw [List.eq_of_mem_replicate hc]
    decide
  have hletter : ['x'].takeWhile isWhitespace = [] := rfl
  rw [indent, input, String.toList_ofList, List.takeWhile_append_of_pos hspace, hletter, List.append_nil, List.length_replicate]

theorem letter_mem (n : Nat) : 'x' ∈ (input n).toList := by
  rw [input, String.toList_ofList]
  exact List.mem_append_right _ List.mem_cons_self

/-- A message that starts with 2000 spaces is not blank, and nothing is prepared of it. -/
theorem not_kept : prepareRelayContent (input 2000) = none ∧ ∃ c ∈ (input 2000).toList, isWhitespace c = false :=
  ⟨(prepareRelayContent_eq_none_iff _).2 (Or.inr (length_indent 2000).ge), 'x', letter_mem 2000, by decide⟩

end IndentedText

end ModerationBot
