import ModerationBot.Commands.Duration
import ModerationBot.Handler

/-!
# The poll command

`src/commands/poll.rs`: the checks of the question, the options and the duration of `/poll`, and the handler that consults them. The
duration has the grammar of a timeout, in a parser of its own.
-/

namespace ModerationBot

/-! ## Discord's limits, in characters and in seconds -/

def maxQuestionChars : Nat := 300

def maxOptionChars : Nat := 55

def minOptions : Nat := 2

def maxOptions : Nat := 10

/-- What separates the options. -/
def optionSeparator : Char := '|'

def minDurationSecs : Nat := 3600

def maxDurationSecs : Nat := 32 * 86400

/-- The duration when none is given. -/
def defaultDurationSecs : Nat := 24 * 3600

/-! ## The checks -/

/-- The trimmed question, unless it is empty or too long. -/
def validatePollQuestion (input : String) : Except PollError String :=
  let trimmed := trim input
  if trimmed = "" then .error .emptyQuestion
  else if trimmed.length > maxQuestionChars then .error .questionTooLong
  else .ok trimmed

/-- The options between the separators, each trimmed, blank ones dropped. -/
def parsePollOptions (input : String) : Except PollError (List String) :=
  let options := ((split optionSeparator input).map trim).filter (fun s => s != "")
  if options.length < minOptions then .error .tooFewOptions
  else if options.length > maxOptions then .error .tooManyOptions
  else if options.any (fun o => decide (o.length > maxOptionChars)) = true then .error .optionTooLong
  else .ok options

/-- The seconds of a unit suffix. -/
def pollSecondsPerUnit : Char → Option Nat
  | 's' => some 1
  | 'm' => some 60
  | 'h' => some 3600
  | 'd' => some 86400
  | _ => none

/-- The seconds of an optional duration token, cut to whole hours. -/
def parsePollDuration : Option String → Except PollError Nat
  | none => .ok defaultDurationSecs
  | some raw =>
    let trimmed := (trim raw).toList
    match trimmed.getLast? with
    | none => .error .invalidDuration
    | some unit =>
      match pollSecondsPerUnit unit with
      | none => .error .invalidDuration
      | some seconds =>
        match parseU64 trimmed.dropLast with
        | none => .error .invalidDuration
        | some magnitude =>
          match checkedMul magnitude seconds with
          | none => .error .invalidDuration
          | some totalSecs =>
            let wholeHoursSecs := totalSecs / 3600 * 3600
            if minDurationSecs ≤ wholeHoursSecs ∧ wholeHoursSecs ≤ maxDurationSecs then .ok wholeHoursSecs
            else .error .invalidDuration

/-! ## The handler -/

namespace PollCommand

/-- Reply with the text of a `PollError`, to the invoker only. -/
def replyErr (err : PollError) : Handler Unit := send { content := err.display, ephemeral := true }

/-- Create a native poll; the first argument that is refused is reported. -/
def poll (_ctx : Ctx) (question options : String) (duration : Option String) (multiple : Option Bool) : Handler Unit :=
  match validatePollQuestion question with
  | .error e => replyErr e
  | .ok question =>
    match parsePollOptions options with
    | .error e => replyErr e
    | .ok answers =>
      match parsePollDuration duration with
      | .error e => replyErr e
      | .ok duration => request (.sendPoll ⟨question, answers, duration, multiple.getD false⟩)

end PollCommand

end ModerationBot
