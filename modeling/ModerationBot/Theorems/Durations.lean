import ModerationBot.Lemmas.Duration

namespace ModerationBot

/-! ## The language of timeouts -/

/-- Which strings are timeouts, which are too long, and that every other one is invalid. -/
structure TimeoutLanguage (s : String) : Prop where
  ok_iff : ∀ d, parseTimeoutDuration s = .ok d ↔ ∃ n k, Token s n k ∧ 1 ≤ n ∧ n * k ≤ 2419200 ∧ d = n * k
  too_long_iff : parseTimeoutDuration s = .error .durationTooLong ↔
    ∃ n k, Token s n k ∧ 1 ≤ n ∧ n < 18446744073709551616 ∧ 2419200 < n * k
  invalid_iff : parseTimeoutDuration s = .error .invalidDuration ↔
    ¬∃ n k, Token s n k ∧ 1 ≤ n ∧ n < 18446744073709551616

/-- Every string is a timeout, too long or invalid, as its token says. -/
theorem timeout_language (s : String) : TimeoutLanguage s := by
  have hsize : u64Size = 18446744073709551616 := rfl
  have hparse := parseTimeoutDuration_eq s
  cases h : readToken s with
  | none =>
    simp only [h] at hparse
    refine ⟨fun d => iff_of_false (by simp [hparse]) fun hd => ?_, iff_of_false (by simp [hparse]) fun hd => ?_,
      iff_of_true hparse fun hd => ?_⟩
    · obtain ⟨n, k, ht, -, hle, -⟩ := hd
      have hread := ht.le_of_readToken h
      have hmul := ht.le_mul
      omega
    · obtain ⟨n, k, ht, -, hlt, -⟩ := hd
      have hread := ht.le_of_readToken h
      omega
    · obtain ⟨n, k, ht, -, hlt⟩ := hd
      have hread := ht.le_of_readToken h
      omega
  | some token =>
    obtain ⟨n, k⟩ := token
    obtain ⟨ht, hlt⟩ := readToken_eq_some_iff.1 h
    rw [hsize] at hlt
    simp only [h] at hparse
    refine ⟨fun d => ?_, ?_, ?_⟩
    · rw [exists_token_iff ht, hparse]
      split_ifs with hzero hle
      · exact iff_of_false (by simp) (by omega)
      · rw [Except.ok.injEq]
        constructor
        · intro hd
          exact ⟨by omega, hle, hd.symm⟩
        · intro hd
          exact hd.2.2.symm
      · exact iff_of_false (by simp) (by omega)
    · rw [exists_token_iff ht, hparse]
      split_ifs with hzero hle
      · exact iff_of_false (by simp) (by omega)
      · exact iff_of_false (by simp) (by omega)
      · exact iff_of_true rfl (by omega)
    · rw [exists_token_iff ht, hparse]
      split_ifs with hzero hle
      · exact iff_of_true rfl (by omega)
      · exact iff_of_false (by simp) (by omega)
      · exact iff_of_false (by simp) (by omega)

/-! ## The two parsers -/

/-- How the poll parser follows the timeout parser. -/
structure PollFollowsTimeout (s : String) : Prop where
  of_ok : ∀ t, parseTimeoutDuration s = .ok t →
    parsePollDuration (some s) = if 3600 ≤ t then .ok (t - t % 3600) else .error .invalidDuration
  of_invalid : parseTimeoutDuration s = .error .invalidDuration → parsePollDuration (some s) = .error .invalidDuration
  of_too_long : parseTimeoutDuration s = .error .durationTooLong → ∃ n k, Token s n k ∧
    parsePollDuration (some s) = if n * k < 2764800 + 3600 then .ok (n * k - n * k % 3600) else .error .invalidDuration
  /-- What is accepted is a whole number of hours, and no more than the token says. -/
  accepted : ∀ t, parsePollDuration (some s) = .ok t →
    (∃ hours, 1 ≤ hours ∧ hours ≤ 768 ∧ t = hours * 3600) ∧ ∃ n k, Token s n k ∧ t ≤ n * k

/-- On every string the poll parser follows the timeout parser. -/
theorem poll_follows_timeout (s : String) : PollFollowsTimeout s := by
  have htimeout := parseTimeoutDuration_eq s
  have hpoll := parsePollDuration_eq s
  cases h : readToken s with
  | none =>
    simp only [h] at htimeout hpoll
    refine ⟨fun t ht => ?_, fun _ => hpoll, fun ht => ?_, fun t ht => ?_⟩
    · rw [htimeout] at ht
      cases ht
    · rw [htimeout] at ht
      cases ht
    · rw [hpoll] at ht
      cases ht
  | some token =>
    obtain ⟨n, k⟩ := token
    obtain ⟨htoken, -⟩ := readToken_eq_some_iff.1 h
    simp only [h] at htimeout hpoll
    refine ⟨fun t ht => ?_, fun ht => ?_, fun ht => ⟨n, k, htoken, ?_⟩, fun t ht => ⟨?_, n, k, htoken, ?_⟩⟩
    · rw [htimeout] at ht
      split_ifs at ht with hzero hle
      obtain rfl := Except.ok.inj ht
      rw [hpoll]
      by_cases hhour : 3600 ≤ n * k
      · rw [if_pos hhour, if_pos ⟨hhour, by omega⟩]
      · rw [if_neg hhour, if_neg fun hin => hhour hin.1]
    · rw [htimeout] at ht
      split_ifs at ht with hzero hle
      · rw [hpoll, hzero, Nat.zero_mul]
        rfl
      · cases ht
    · rw [htimeout] at ht
      split_ifs at ht with hzero hle
      · cases ht
      · rw [hpoll]
        by_cases hlt : n * k < 2764800 + 3600
        · rw [if_pos hlt, if_pos ⟨by omega, hlt⟩]
        · rw [if_neg hlt, if_neg fun hin => hlt hin.2]
    · rw [hpoll] at ht
      split_ifs at ht with hin
      obtain rfl := Except.ok.inj ht
      exact ⟨n * k / 3600, by omega, by omega, by omega⟩
    · rw [hpoll] at ht
      split_ifs at ht with hin
      obtain rfl := Except.ok.inj ht
      exact Nat.sub_le _ _

end ModerationBot
