import ModerationBot.Lemmas.Duration
import ModerationBot.Theorems.PollOptions

namespace ModerationBot

/-! ## The polls that are created -/

/-- A poll within the limits of Discord, in the form that `/poll` can give it: its texts are trimmed, and no answer holds the separator. -/
structure ValidPoll (p : CreatePoll) : Prop where
  asks : p.question ≠ ""
  trimmed : trim p.question = p.question
  short : p.question.length ≤ 300
  answers : ValidOptions p.answers
  duration : ∃ hours, 1 ≤ hours ∧ hours ≤ 768 ∧ p.duration = hours * 3600

/-- How long an optional token says that a poll runs: a day, or what the token says, cut to whole hours. -/
def Lasts : Option String → Nat → Prop
  | none, secs => secs = 86400
  | some s, secs => ∃ n k, Token s n k ∧ secs = n * k - n * k % 3600

/-- What arguments of `/poll` say. -/
structure Describes (question options : String) (duration : Option String) (multiple : Option Bool) (p : CreatePoll) : Prop where
  question : trim question = p.question
  answers : Encodes options p.answers
  duration : Lasts duration p.duration
  multiple : multiple.getD false = p.allowMultiselect

/-- The first of the arguments that is refused, and why. -/
inductive Refused (question options : String) (duration : Option String) : PollError → Prop
  | emptyQuestion : Blank question → Refused question options duration .emptyQuestion
  | questionTooLong : 300 < (trim question).length → Refused question options duration .questionTooLong
  | tooFewOptions : ¬Blank question → (trim question).length ≤ 300 → (visibleSegments options).length < 2 →
      Refused question options duration .tooFewOptions
  | tooManyOptions : ¬Blank question → (trim question).length ≤ 300 → 10 < (visibleSegments options).length →
      Refused question options duration .tooManyOptions
  | optionTooLong : ¬Blank question → (trim question).length ≤ 300 → 2 ≤ (visibleSegments options).length →
      (visibleSegments options).length ≤ 10 → (∃ segment ∈ visibleSegments options, 55 < (trim segment).length) →
      Refused question options duration .optionTooLong
  | invalidDuration {answers : List String} : ¬Blank question → (trim question).length ≤ 300 → ValidOptions answers →
      Encodes options answers → (¬∃ secs, Lasts duration secs ∧ 3600 ≤ secs ∧ secs ≤ 2764800) →
      Refused question options duration .invalidDuration

/-- What `/poll` makes of its arguments. -/
structure PollLaw (ctx : Ctx) (question options : String) (duration : Option String) (multiple : Option Bool) : Prop where
  /-- The poll that is created is valid, and the one the arguments describe. -/
  created_iff : ∀ p, PollCommand.poll ctx question options duration multiple = request (.sendPoll p) ↔
    ValidPoll p ∧ Describes question options duration multiple p
  /-- An error is replied exactly for the first argument that is refused. -/
  refused_iff : ∀ e, PollCommand.poll ctx question options duration multiple = PollCommand.replyErr e ↔
    Refused question options duration e
  /-- One of both happens. -/
  decided : (∃ p, PollCommand.poll ctx question options duration multiple = request (.sendPoll p)) ∨
    ∃ e, PollCommand.poll ctx question options duration multiple = PollCommand.replyErr e

/-! ### The checks, one by one -/

theorem blank_iff_trim (s : String) : Blank s ↔ trim s = "" := (trim_eq_empty_iff s).symm

/-- The question is accepted, trimmed, or refused for being empty or too long. -/
theorem validatePollQuestion_cases (question : String) :
    (¬Blank question ∧ (trim question).length ≤ 300 ∧ validatePollQuestion question = .ok (trim question)) ∨
      (Blank question ∧ validatePollQuestion question = .error .emptyQuestion) ∨
      (300 < (trim question).length ∧ validatePollQuestion question = .error .questionTooLong) := by
  have hmax : maxQuestionChars = 300 := rfl
  simp only [validatePollQuestion, hmax, blank_iff_trim]
  split_ifs with hempty hlong
  · exact Or.inr (Or.inl ⟨hempty, rfl⟩)
  · exact Or.inr (Or.inr ⟨hlong, rfl⟩)
  · exact Or.inl ⟨hempty, by omega, rfl⟩

/-- The options are accepted, or refused for their number or for the length of one. -/
theorem parsePollOptions_cases (options : String) :
    (∃ answers, ValidOptions answers ∧ Encodes options answers ∧ parsePollOptions options = .ok answers) ∨
      ((visibleSegments options).length < 2 ∧ parsePollOptions options = .error .tooFewOptions) ∨
      (10 < (visibleSegments options).length ∧ parsePollOptions options = .error .tooManyOptions) ∨
      (2 ≤ (visibleSegments options).length ∧ (visibleSegments options).length ≤ 10 ∧
        (∃ segment ∈ visibleSegments options, 55 < (trim segment).length) ∧ parsePollOptions options = .error .optionTooLong) := by
  have hlen : (foundOptions (split '|' options)).length = (visibleSegments options).length := by
    rw [foundOptions_split, List.length_map]
  cases h : parsePollOptions options with
  | ok answers =>
    obtain ⟨rfl, hv⟩ := parsePollOptions_eq_ok_iff.1 h
    exact Or.inl ⟨_, hv, encodes_foundOptions options, rfl⟩
  | error e =>
    rw [parsePollOptions_eq, hlen] at h
    split_ifs at h with hfew hmany hlong
    · obtain rfl := Except.error.inj h
      exact Or.inr (Or.inl ⟨hfew, rfl⟩)
    · obtain rfl := Except.error.inj h
      exact Or.inr (Or.inr (Or.inl ⟨hmany, rfl⟩))
    · obtain rfl := Except.error.inj h
      rw [foundOptions_split] at hlong
      exact Or.inr (Or.inr (Or.inr ⟨by omega, by omega, by simpa using hlong, rfl⟩))

/-- The duration is accepted when it is within the limits. -/
theorem parsePollDuration_eq_ok_iff {duration : Option String} {secs : Nat} :
    parsePollDuration duration = .ok secs ↔ Lasts duration secs ∧ 3600 ≤ secs ∧ secs ≤ 2764800 := by
  cases duration with
  | none =>
    have hdefault : defaultDurationSecs = 86400 := rfl
    simp only [parsePollDuration, hdefault, Except.ok.injEq, Lasts]
    omega
  | some s =>
    have hpoll := parsePollDuration_eq s
    cases h : readToken s with
    | none =>
      rw [hpoll, h]
      refine iff_of_false (by simp) fun hin => ?_
      obtain ⟨⟨n, k, ht, rfl⟩, -, hle⟩ := hin
      have hsize : u64Size = 18446744073709551616 := rfl
      have hread := ht.le_of_readToken h
      have hmul := ht.le_mul
      omega
    | some token =>
      obtain ⟨n, k⟩ := token
      obtain ⟨htoken, -⟩ := readToken_eq_some_iff.1 h
      rw [hpoll, h]
      dsimp only [Lasts]
      have hmod := Nat.mod_le (n * k) 3600
      have hlt := Nat.mod_lt (n * k) (show 0 < 3600 by decide)
      constructor
      · intro hok
        split_ifs at hok with hin
        obtain rfl := Except.ok.inj hok
        exact ⟨⟨n, k, htoken, rfl⟩, by omega, by omega⟩
      · intro hin
        obtain ⟨⟨n', k', ht', rfl⟩, hlow, hhigh⟩ := hin
        obtain ⟨rfl, rfl⟩ := htoken.unique ht'
        rw [if_pos (by omega)]

theorem parsePollDuration_cases (duration : Option String) :
    (∃ secs, Lasts duration secs ∧ 3600 ≤ secs ∧ secs ≤ 2764800 ∧ parsePollDuration duration = .ok secs) ∨
      ((¬∃ secs, Lasts duration secs ∧ 3600 ≤ secs ∧ secs ≤ 2764800) ∧
        parsePollDuration duration = .error .invalidDuration) := by
  cases h : parsePollDuration duration with
  | ok secs =>
    obtain ⟨hl, hlow, hhigh⟩ := parsePollDuration_eq_ok_iff.1 h
    exact Or.inl ⟨secs, hl, hlow, hhigh, rfl⟩
  | error e =>
    refine Or.inr ⟨fun hin => ?_, ?_⟩
    · obtain ⟨secs, hin⟩ := hin
      rw [parsePollDuration_eq_ok_iff.2 hin] at h
      cases h
    · cases duration with
      | none => cases h
      | some s =>
        rw [parsePollDuration_eq] at h
        split at h
        · rw [← h]
        · split_ifs at h
          rw [← h]

/-- A number of seconds within the limits that a token says is a whole number of hours. -/
theorem Lasts.hours {duration : Option String} {secs : Nat} (h : Lasts duration secs) (hlow : 3600 ≤ secs) (hhigh : secs ≤ 2764800) :
    ∃ hours, 1 ≤ hours ∧ hours ≤ 768 ∧ secs = hours * 3600 := by
  have hwhole : secs % 3600 = 0 := by
    cases duration with
    | none =>
      obtain rfl : secs = 86400 := h
      rfl
    | some s =>
      obtain ⟨n, k, -, rfl⟩ := h
      omega
  exact ⟨secs / 3600, by omega, by omega, by omega⟩

/-! ### The command -/

/-- Each error has a text of its own. -/
theorem PollError.display_injective : Function.Injective PollError.display := by
  intro e e' h
  cases e <;> cases e' <;> first | rfl | exact absurd h (by decide)

theorem replyErr_inj {e e' : PollError} (h : PollCommand.replyErr e = PollCommand.replyErr e') : e = e' := by
  unfold PollCommand.replyErr send request Prog.perform at h
  injection h with h
  injection h with h
  injection h with h
  injection h with h
  exact PollError.display_injective h

theorem sendPoll_inj {p p' : CreatePoll} (h : request (.sendPoll p) = request (.sendPoll p')) : p = p' := by
  injection h with h
  injection h

theorem sendPoll_ne_replyErr {p : CreatePoll} {e : PollError} : request (.sendPoll p) ≠ PollCommand.replyErr e := by
  intro h
  unfold PollCommand.replyErr send request Prog.perform at h
  injection h with h
  cases h

section Poll

variable (ctx : Ctx) {question options : String} {duration : Option String} (multiple : Option Bool)

/-- A question that is accepted is not refused for its length. -/
theorem length_trim_of_blank (h : Blank question) : (trim question).length = 0 := by
  rw [(blank_iff_trim question).1 h]
  rfl

theorem validatePollQuestion_of_ok (hb : ¬Blank question) (hlen : (trim question).length ≤ 300) :
    validatePollQuestion question = .ok (trim question) := by
  rcases validatePollQuestion_cases question with ⟨-, -, h⟩ | ⟨hblank, -⟩ | ⟨hlong, -⟩
  · exact h
  · exact absurd hblank hb
  · omega

/-- An argument that is refused is reported. -/
theorem poll_of_refused {e : PollError} (h : Refused question options duration e) :
    PollCommand.poll ctx question options duration multiple = PollCommand.replyErr e := by
  unfold PollCommand.poll
  cases h with
  | emptyQuestion hb =>
    have hlen := length_trim_of_blank hb
    rcases validatePollQuestion_cases question with ⟨hn, -⟩ | ⟨-, hq⟩ | ⟨hlong, -⟩
    · exact absurd hb hn
    · rw [hq]
    · omega
  | questionTooLong hlong =>
    rcases validatePollQuestion_cases question with ⟨-, hle, -⟩ | ⟨hb, -⟩ | ⟨-, hq⟩
    · omega
    · have hlen := length_trim_of_blank hb
      omega
    · rw [hq]
  | tooFewOptions hb hlen hfew =>
    rw [validatePollQuestion_of_ok hb hlen]
    rcases parsePollOptions_cases options with ⟨answers, -, -, ho⟩ | ⟨-, ho⟩ | ⟨hmany, -⟩ | ⟨htwo, -⟩
    · have hvisible : answers.length = (visibleSegments options).length := by
        rw [← (parsePollOptions_eq_ok_iff.1 ho).1, foundOptions_split, List.length_map]
      have htwo := (parsePollOptions_eq_ok_iff.1 ho).2.at_least
      omega
    · simp only [ho]
    · omega
    · omega
  | tooManyOptions hb hlen hmany =>
    rw [validatePollQuestion_of_ok hb hlen]
    rcases parsePollOptions_cases options with ⟨answers, -, -, ho⟩ | ⟨hfew, -⟩ | ⟨-, ho⟩ | ⟨-, hten, -⟩
    · have hvisible : answers.length = (visibleSegments options).length := by
        rw [← (parsePollOptions_eq_ok_iff.1 ho).1, foundOptions_split, List.length_map]
      have hten := (parsePollOptions_eq_ok_iff.1 ho).2.at_most
      omega
    · omega
    · simp only [ho]
    · omega
  | optionTooLong hb hlen htwo hten hlong =>
    rw [validatePollQuestion_of_ok hb hlen]
    rcases parsePollOptions_cases options with ⟨answers, hv, -, ho⟩ | ⟨hfew, -⟩ | ⟨hmany, -⟩ | ⟨-, -, -, ho⟩
    · obtain ⟨segment, hsegment, hlt⟩ := hlong
      have hmem : trim segment ∈ answers := by
        rw [← (parsePollOptions_eq_ok_iff.1 ho).1, foundOptions_split]
        exact List.mem_map_of_mem hsegment
      have hshort := hv.short _ hmem
      omega
    · omega
    · omega
    · simp only [ho]
  | @invalidDuration answers hb hlen hv hen hd =>
    rw [validatePollQuestion_of_ok hb hlen]
    have ho : parsePollOptions options = .ok answers := parsePollOptions_eq_ok_iff.2 ⟨hv.found hen, hv⟩
    simp only [ho]
    rcases parsePollDuration_cases duration with ⟨secs, hl, hlow, hhigh, -⟩ | ⟨-, hp⟩
    · exact absurd ⟨secs, hl, hlow, hhigh⟩ hd
    · simp only [hp]

/-- A valid poll that the arguments describe is created. -/
theorem poll_of_describes {p : CreatePoll} (hv : ValidPoll p) (hd : Describes question options duration multiple p) :
    PollCommand.poll ctx question options duration multiple = request (.sendPoll p) := by
  have hb : ¬Blank question := by
    rw [blank_iff_trim, hd.question]
    exact hv.asks
  have hlen : (trim question).length ≤ 300 := by
    rw [hd.question]
    exact hv.short
  have ho : parsePollOptions options = .ok p.answers := parsePollOptions_eq_ok_iff.2 ⟨hv.answers.found hd.answers, hv.answers⟩
  have hdur : parsePollDuration duration = .ok p.duration := by
    obtain ⟨hours, hlow, hhigh, heq⟩ := hv.duration
    exact parsePollDuration_eq_ok_iff.2 ⟨hd.duration, by omega, by omega⟩
  unfold PollCommand.poll
  simp only [validatePollQuestion_of_ok hb hlen, ho, hdur]
  rw [hd.question, hd.multiple]

/-- The arguments describe a valid poll, or one of them is refused. -/
theorem describes_or_refused (question options : String) (duration : Option String) :
    (∃ p, ValidPoll p ∧ Describes question options duration multiple p) ∨ ∃ e, Refused question options duration e := by
  rcases validatePollQuestion_cases question with ⟨hb, hlen, -⟩ | ⟨hb, -⟩ | ⟨hlong, -⟩
  · rcases parsePollOptions_cases options with ⟨answers, hv, hen, -⟩ | ⟨hfew, -⟩ | ⟨hmany, -⟩ | ⟨htwo, hten, hlong, -⟩
    · rcases parsePollDuration_cases duration with ⟨secs, hl, hlow, hhigh, -⟩ | ⟨hd, -⟩
      · left
        refine ⟨⟨trim question, answers, secs, multiple.getD false⟩, ⟨?_, trim_trim question, hlen, hv, hl.hours hlow hhigh⟩,
          ⟨rfl, hen, hl, rfl⟩⟩
        exact fun he => hb ((blank_iff_trim question).2 he)
      · exact Or.inr ⟨_, .invalidDuration hb hlen hv hen hd⟩
    · exact Or.inr ⟨_, .tooFewOptions hb hlen hfew⟩
    · exact Or.inr ⟨_, .tooManyOptions hb hlen hmany⟩
    · exact Or.inr ⟨_, .optionTooLong hb hlen htwo hten hlong⟩
  · exact Or.inr ⟨_, .emptyQuestion hb⟩
  · exact Or.inr ⟨_, .questionTooLong hlong⟩

end Poll

/-- For all arguments: `/poll` creates exactly the valid poll that they describe, and else reports the first that is refused. -/
theorem poll_law (ctx : Ctx) (question options : String) (duration : Option String) (multiple : Option Bool) :
    PollLaw ctx question options duration multiple := by
  rcases describes_or_refused multiple question options duration with ⟨p, hv, hd⟩ | ⟨e, hr⟩
  · have hpoll := poll_of_describes ctx multiple hv hd
    refine ⟨fun p' => ⟨fun h => ?_, fun h => poll_of_describes ctx multiple h.1 h.2⟩, fun e' => ⟨fun h => ?_, fun h => ?_⟩,
      Or.inl ⟨p, hpoll⟩⟩
    · obtain rfl := sendPoll_inj (hpoll.symm.trans h)
      exact ⟨hv, hd⟩
    · exact absurd (hpoll.symm.trans h) sendPoll_ne_replyErr
    · exact poll_of_refused ctx multiple h
  · have hpoll := poll_of_refused ctx multiple hr
    refine ⟨fun p' => ⟨fun h => ?_, fun h => poll_of_describes ctx multiple h.1 h.2⟩,
      fun e' => ⟨fun h => ?_, fun h => poll_of_refused ctx multiple h⟩, Or.inr ⟨e, hpoll⟩⟩
    · exact absurd (h.symm.trans hpoll) sendPoll_ne_replyErr
    · obtain rfl := replyErr_inj (hpoll.symm.trans h)
      exact hr

/-! ### Typing a poll -/

/-- A number of hours, as a token. -/
def hoursToken (hours : Nat) : String := toString hours ++ "h"

/-- The decimal notation of a number is a numeral of its value. -/
theorem numeral_toDigits (n : Nat) : Numeral (Nat.toDigits 10 n) n := by
  refine .plain ⟨Nat.toDigits_ne_nil, fun c hc => Nat.isDigit_of_mem_toDigits (by decide) (by decide) hc, ?_⟩
  rw [← decimalValue_eq_ofDigits, decimalValue, ← Nat.ofDigitChars_eq_foldl, Nat.ofDigitChars_ten_toDigits]

theorem isWhitespace_of_isDigit {c : Char} (h : c.isDigit = true) : isWhitespace c = false := by
  have hrange : 48 ≤ c.toNat ∧ c.toNat ≤ 57 := by
    simpa [Char.isDigit, UInt32.le_iff_toNat_le] using h
  simp only [isWhitespace, Bool.or_eq_false_iff, Bool.and_eq_false_iff, decide_eq_false_iff_not, beq_eq_false_iff_ne]
  omega

/-- The token of a number of hours says it. -/
theorem token_hoursToken (hours : Nat) : Token (hoursToken hours) hours 3600 := by
  have hlist : (hoursToken hours).toList = Nat.toDigits 10 hours ++ ['h'] := by
    rw [hoursToken, String.toList_append, Nat.toString_eq_ofList_toDigits, String.toList_ofList]
    rfl
  have htrim : trim (hoursToken hours) = hoursToken hours := by
    refine trim_eq_self fun c hc => ?_
    rw [hlist, List.mem_append, List.mem_singleton] at hc
    rcases hc with hc | rfl
    · exact isWhitespace_of_isDigit (Nat.isDigit_of_mem_toDigits (by decide) (by decide) hc)
    · decide
  exact ⟨_, 'h', by rw [htrim, hlist], numeral_toDigits hours, .hour⟩

/-- A valid poll that is typed in full is created as it is. -/
theorem poll_round_trip (ctx : Ctx) {p : CreatePoll} (hp : ValidPoll p) :
    PollCommand.poll ctx p.question (joinWith " | " p.answers) (some (hoursToken (p.duration / 3600))) (some p.allowMultiselect) =
      request (.sendPoll p) := by
  obtain ⟨hours, -, -, heq⟩ := hp.duration
  have hhours : p.duration / 3600 = hours := by omega
  refine poll_of_describes ctx _ hp ⟨hp.trimmed, encodes_joinWith hp.answers.ne_nil, ?_, rfl⟩
  rw [hhours]
  exact ⟨hours, 3600, token_hoursToken hours, by omega⟩

theorem poll_round_trip_lunch : PollCommand.poll ⟨none, 21, ⟨2, "ann", none, false⟩, none⟩ "Lunch?"
    (joinWith " | " ["Soup", "Salad"]) (some (hoursToken (7200 / 3600))) (some false) =
      request (.sendPoll ⟨"Lunch?", ["Soup", "Salad"], 7200, false⟩) :=
  poll_round_trip _ (p := ⟨"Lunch?", ["Soup", "Salad"], 7200, false⟩)
    { asks := by decide
      trimmed := by with_unfolding_all rfl
      short := by decide
      answers :=
        { at_least := by decide
          at_most := by decide
          nonempty := by decide
          trimmed := List.forall_mem_cons.2 ⟨by with_unfolding_all rfl,
            List.forall_mem_singleton.2 (by with_unfolding_all rfl)⟩
          no_separator := by decide
          short := by decide }
      duration := ⟨2, by decide, by decide, rfl⟩ }

end ModerationBot
