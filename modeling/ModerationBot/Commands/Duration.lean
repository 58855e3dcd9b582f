import ModerationBot.Error
import ModerationBot.Text

/-!
# Timeout durations

The duration tokens of `src/commands/moderation.rs`. Seconds are `Nat`; where the source computes in `u64`, the bound is checked.
-/

namespace ModerationBot

/-- The number of values of a `u64`. -/
def u64Size : Nat := UInt64.size

/-- The value of a string of decimal digits. -/
def decimalValue (digits : List Char) : Nat :=
  digits.foldl (fun n c => 10 * n + (c.toNat - '0'.toNat)) 0

/-- `str::parse::<u64>`: an optional `+`, then one or more ASCII digits, the value below `2 ^ 64`. -/
def parseU64 (s : List Char) : Option Nat :=
  let digits := match s with
    | '+' :: rest => rest
    | _ => s
  if digits ≠ [] ∧ digits.all Char.isDigit = true then
    if decimalValue digits < u64Size then some (decimalValue digits) else none
  else none

/-- `u64::checked_mul`. -/
def checkedMul (a b : Nat) : Option Nat := if a * b < u64Size then some (a * b) else none

/-- The seconds of a unit suffix. -/
def secondsPerUnit : Char → Option Nat
  | 's' => some 1
  | 'm' => some 60
  | 'h' => some 3600
  | 'd' => some 86400
  | _ => none

/-- Discord's inclusive maximum timeout: 28 days. -/
def maxTimeoutSecs : Nat := 28 * 86400

/-- Parse a timeout token such as `30s` or `7d` into seconds. -/
def parseTimeoutDuration (input : String) : Except ModError Nat :=
  let trimmed := (trim input).toList
  match trimmed.getLast? with
  | none => .error .invalidDuration
  | some unit =>
    match secondsPerUnit unit with
    | none => .error .invalidDuration
    | some seconds =>
      match parseU64 trimmed.dropLast with
      | none => .error .invalidDuration
      | some magnitude =>
        if magnitude = 0 then .error .invalidDuration
        else
          match checkedMul magnitude seconds with
          | none => .error .durationTooLong
          | some totalSecs => if totalSecs > maxTimeoutSecs then .error .durationTooLong else .ok totalSecs

end ModerationBot
