import Mathlib.Data.Nat.Digits.Defs
import ModerationBot.Commands.Poll

/-!
# Duration tokens

The language of the duration tokens, said without the parsers: a magnitude numeral directly followed by a unit. Both parsers read a
token the same way and differ in what they make of its magnitude and its unit.
-/

namespace ModerationBot

/-- The value of a digit. -/
def digitValue (c : Char) : Nat := c.toNat - '0'.toNat

/-- One or more ASCII digits whose place value is `n`. -/
def Digits (s : List Char) (n : Nat) : Prop :=
  s ≠ [] ∧ (∀ c ∈ s, c.isDigit = true) ∧ n = Nat.ofDigits 10 (s.reverse.map digitValue)

/-- A numeral of value `n`: digits, after a `+` or without one. -/
inductive Numeral : List Char → Nat → Prop
  | plain {digits : List Char} {n : Nat} : Digits digits n → Numeral digits n
  | plus {digits : List Char} {n : Nat} : Digits digits n → Numeral ('+' :: digits) n

/-- The units and their seconds. -/
inductive IsUnit : Char → Nat → Prop
  | second : IsUnit 's' 1
  | minute : IsUnit 'm' 60
  | hour : IsUnit 'h' 3600
  | day : IsUnit 'd' 86400

/-- Up to outer whitespace, the string is a numeral of value `n` and a unit of `k` seconds. -/
def Token (s : String) (n k : Nat) : Prop :=
  ∃ numeral unit, (trim s).toList = numeral ++ [unit] ∧ Numeral numeral n ∧ IsUnit unit k

/-! ## Reading a numeral -/

/-- The value that is read digit by digit is the place value. -/
theorem decimalValue_eq_ofDigits (digits : List Char) : decimalValue digits = Nat.ofDigits 10 (digits.reverse.map digitValue) := by
  induction digits using List.reverseRecOn with
  | nil => rfl
  | append_singleton digits c ih =>
    rw [List.reverse_concat, List.map_cons, Nat.ofDigits_cons, ← ih, decimalValue, List.foldl_concat, ← decimalValue, digitValue]
    omega

/-- The digits after a `+` are read as the digits without it. -/
theorem numeral_plus_iff {rest : List Char} {n : Nat} : Numeral ('+' :: rest) n ↔ Digits rest n := by
  constructor
  · intro h
    cases h with
    | plain h => exact absurd (h.2.1 '+' List.mem_cons_self) (by decide)
    | plus h => exact h
  · exact Numeral.plus

/-- Without a `+` in front, a numeral is its digits. -/
theorem numeral_iff_of_ne {s : List Char} {n : Nat} (h : ∀ rest, s ≠ '+' :: rest) : Numeral s n ↔ Digits s n := by
  constructor
  · intro hn
    cases hn with
    | plain hn => exact hn
    | plus hn => exact absurd rfl (h _)
  · exact Numeral.plain

/-- Reading a `u64` accepts the numerals of value below `2 ^ 64`. -/
theorem parseU64_eq_some_iff {s : List Char} {n : Nat} : parseU64 s = some n ↔ Numeral s n ∧ n < u64Size := by
  have hread : ∀ digits : List Char, (if digits ≠ [] ∧ digits.all Char.isDigit = true then
      if decimalValue digits < u64Size then some (decimalValue digits) else none else none) = some n ↔
        Digits digits n ∧ n < u64Size := by
    intro digits
    rw [Digits, ← decimalValue_eq_ofDigits, ← List.all_eq_true, ← and_assoc]
    by_cases hd : digits ≠ [] ∧ digits.all Char.isDigit = true
    · rw [if_pos hd, Option.ite_none_right_eq_some, Option.some.injEq, and_iff_right hd]
      constructor
      · rintro ⟨hlt, rfl⟩
        exact ⟨rfl, hlt⟩
      · rintro ⟨rfl, hlt⟩
        exact ⟨hlt, rfl⟩
    · rw [if_neg hd]
      exact iff_of_false (by simp) fun h => hd h.1.1
  by_cases h : ∃ rest, s = '+' :: rest
  · obtain ⟨rest, rfl⟩ := h
    rw [numeral_plus_iff]
    exact hread rest
  · rw [not_exists] at h
    rw [numeral_iff_of_ne h, ← hread, parseU64]
    exact h

/-- A numeral has one value. -/
theorem Numeral.unique {s : List Char} {n n' : Nat} (h : Numeral s n) (h' : Numeral s n') : n = n' := by
  cases h with
  | plus h => rw [h.2.2, (numeral_plus_iff.1 h').2.2]
  | plain h =>
    cases h' with
    | plain h' => rw [h.2.2, h'.2.2]
    | plus h' => exact absurd (h.2.1 '+' List.mem_cons_self) (by decide)

/-! ## Reading a token -/

/-- A string is at most one token. -/
theorem Token.unique {s : String} {n n' k k' : Nat} (h : Token s n k) (h' : Token s n' k') : n = n' ∧ k = k' := by
  obtain ⟨numeral, unit, htext, hnumeral, hunit⟩ := h
  obtain ⟨numeral', unit', htext', hnumeral', hunit'⟩ := h'
  obtain ⟨rfl, hu⟩ := List.append_inj' (htext.symm.trans htext') rfl
  obtain rfl := (List.cons.inj hu).1
  refine ⟨hnumeral.unique hnumeral', ?_⟩
  cases hunit <;> cases hunit' <;> rfl

theorem secondsPerUnit_eq_some_iff {unit : Char} {k : Nat} : secondsPerUnit unit = some k ↔ IsUnit unit k := by
  constructor
  · intro h
    unfold secondsPerUnit at h
    split at h <;> cases h <;> constructor
  · intro h
    cases h <;> rfl

/-- The second parser has the same units. -/
theorem pollSecondsPerUnit_eq (unit : Char) : pollSecondsPerUnit unit = secondsPerUnit unit := rfl

/-- A token that a string is said to be is the one it is. -/
theorem exists_token_iff {s : String} {n k : Nat} (h : Token s n k) {P : Nat → Nat → Prop} :
    (∃ n' k', Token s n' k' ∧ P n' k') ↔ P n k := by
  constructor
  · rintro ⟨n', k', h', hp⟩
    obtain ⟨rfl, rfl⟩ := h.unique h'
    exact hp
  · intro hp
    exact ⟨n, k, h, hp⟩

/-- The magnitude of a token is at most its seconds. -/
theorem Token.le_mul {s : String} {n k : Nat} (h : Token s n k) : n ≤ n * k := by
  obtain ⟨_, _, _, _, hunit⟩ := h
  cases hunit <;> omega

/-- What both parsers read of a string before they weigh it: the magnitude and the seconds of the unit. -/
def readToken (s : String) : Option (Nat × Nat) := do
  let unit ← (trim s).toList.getLast?
  let seconds ← secondsPerUnit unit
  let magnitude ← parseU64 (trim s).toList.dropLast
  pure (magnitude, seconds)

/-- What is read are the tokens of a magnitude below `2 ^ 64`. -/
theorem readToken_eq_some_iff {s : String} {n k : Nat} : readToken s = some (n, k) ↔ Token s n k ∧ n < u64Size := by
  simp only [readToken, Option.bind_eq_bind, Option.bind_eq_some_iff, Option.pure_def, Option.some.injEq, Prod.mk.injEq,
    secondsPerUnit_eq_some_iff, parseU64_eq_some_iff]
  constructor
  · rintro ⟨unit, hlast, seconds, hunit, magnitude, ⟨hnumeral, hlt⟩, rfl, rfl⟩
    obtain ⟨numeral, htext⟩ := List.getLast?_eq_some_iff.1 hlast
    rw [htext, List.dropLast_concat] at hnumeral
    exact ⟨⟨numeral, unit, htext, hnumeral, hunit⟩, hlt⟩
  · rintro ⟨⟨numeral, unit, htext, hnumeral, hunit⟩, hlt⟩
    rw [htext]
    exact ⟨unit, List.getLast?_concat, k, hunit, n, ⟨by rwa [List.dropLast_concat], hlt⟩, rfl, rfl⟩

/-- When nothing is read, the magnitude of a token is too large to be read. -/
theorem Token.le_of_readToken {s : String} {n k : Nat} (h : Token s n k) (hr : readToken s = none) : u64Size ≤ n := by
  by_contra hlt
  rw [readToken_eq_some_iff.2 ⟨h, by omega⟩] at hr
  cases hr

/-- What the timeout parser makes of what is read. -/
theorem parseTimeoutDuration_eq (s : String) : parseTimeoutDuration s =
    match readToken s with
    | none => .error .invalidDuration
    | some (n, k) =>
      if n = 0 then .error .invalidDuration else if n * k ≤ 2419200 then .ok (n * k) else .error .durationTooLong := by
  simp only [parseTimeoutDuration, readToken, Option.bind_eq_bind]
  cases (trim s).toList.getLast? with
  | none => rfl
  | some unit =>
    simp only [Option.bind_some]
    cases secondsPerUnit unit with
    | none => rfl
    | some k =>
      simp only [Option.bind_some]
      cases parseU64 (trim s).toList.dropLast with
      | none => rfl
      | some n =>
        have hmax : maxTimeoutSecs = 2419200 := rfl
        have hsize : 2419200 < u64Size := by decide
        simp only [Option.bind_some, Option.pure_def, checkedMul, hmax]
        by_cases hlt : n * k < u64Size
        · rw [if_pos hlt]
          by_cases hle : n * k ≤ 2419200
          · simp only [if_pos hle, gt_iff_lt, if_neg (Nat.not_lt.2 hle)]
          · simp only [if_neg hle, gt_iff_lt, if_pos (Nat.not_le.1 hle)]
        · rw [if_neg hlt]
          have hle : ¬n * k ≤ 2419200 := by omega
          simp only [if_neg hle]

/-- What the poll parser makes of what is read. -/
theorem parsePollDuration_eq (s : String) : parsePollDuration (some s) =
    match readToken s with
    | none => .error .invalidDuration
    | some (n, k) =>
      if 3600 ≤ n * k ∧ n * k < 2764800 + 3600 then .ok (n * k - n * k % 3600) else .error .invalidDuration := by
  simp only [parsePollDuration, readToken, Option.bind_eq_bind, pollSecondsPerUnit_eq]
  cases (trim s).toList.getLast? with
  | none => rfl
  | some unit =>
    simp only [Option.bind_some]
    cases secondsPerUnit unit with
    | none => rfl
    | some k =>
      simp only [Option.bind_some]
      cases parseU64 (trim s).toList.dropLast with
      | none => rfl
      | some n =>
        have hmin : minDurationSecs = 3600 := rfl
        have hmax : maxDurationSecs = 2764800 := rfl
        have hsize : 2764800 + 3600 < u64Size := by decide
        simp only [Option.bind_some, Option.pure_def, checkedMul, hmin, hmax]
        generalize n * k = total
        have hwhole : total / 3600 * 3600 = total - total % 3600 := by omega
        by_cases hlt : total < u64Size
        · rw [if_pos hlt]
          by_cases hin : 3600 ≤ total ∧ total < 2764800 + 3600
          · have hin' : 3600 ≤ total / 3600 * 3600 ∧ total / 3600 * 3600 ≤ 2764800 := by omega
            simp only [if_pos hin, if_pos hin']
            rw [hwhole]
          · have hin' : ¬(3600 ≤ total / 3600 * 3600 ∧ total / 3600 * 3600 ≤ 2764800) := by omega
            simp only [if_neg hin, if_neg hin']
        · rw [if_neg hlt]
          have hin : ¬(3600 ≤ total ∧ total < 2764800 + 3600) := by omega
          simp only [if_neg hin]

/-- A timeout is positive and within its limit. -/
theorem parseTimeoutDuration_bounds {s : String} {secs : Nat} (h : parseTimeoutDuration s = .ok secs) :
    1 ≤ secs ∧ secs ≤ 2419200 := by
  rw [parseTimeoutDuration_eq] at h
  cases hread : readToken s with
  | none => simp [hread] at h
  | some token =>
    obtain ⟨n, k⟩ := token
    have hle := (readToken_eq_some_iff.1 hread).1.le_mul
    simp only [hread] at h
    split_ifs at h with hzero hmax
    obtain rfl := Except.ok.inj h
    omega

end ModerationBot
