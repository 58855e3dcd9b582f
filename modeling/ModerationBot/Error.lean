/-!
# The errors of the bot and their texts

`src/error.rs`: the canonical user-facing errors. Their texts are what the commands reply.
-/

namespace ModerationBot

/-- Why a moderation command is refused. -/
inductive ModError where
  | invalidPurgeCount
  | invalidDuration
  | durationTooLong
  | cannotTargetSelf
  | cannotTargetBot
  | cannotTargetOwner
  | insufficientHierarchy
  | invalidBanDeleteDays
  deriving DecidableEq, Repr

/-- The text of a `ModError`. -/
def ModError.display : ModError → String
  | .invalidPurgeCount => "Purge count must be between 1 and 100 messages"
  | .invalidDuration => "Invalid duration: use a format like 10m, 2h, or 7d"
  | .durationTooLong => "Timeout duration is too long: the maximum is 28 days"
  | .cannotTargetSelf => "You cannot target yourself with this action"
  | .cannotTargetBot => "You cannot target the bot with this action"
  | .cannotTargetOwner => "You cannot moderate the guild owner"
  | .insufficientHierarchy => "Your highest role is not high enough in the hierarchy to moderate this member"
  | .invalidBanDeleteDays => "Ban message-deletion days must be between 0 and 7"

/-- Why the arguments of a poll are refused. -/
inductive PollError where
  | emptyQuestion
  | questionTooLong
  | tooFewOptions
  | tooManyOptions
  | optionTooLong
  | invalidDuration
  deriving DecidableEq, Repr

/-- The text of a `PollError`. -/
def PollError.display : PollError → String
  | .emptyQuestion => "Poll question must not be empty"
  | .questionTooLong => "Poll question must be at most 300 characters"
  | .tooFewOptions => "A poll needs at least 2 options (separate them with |)"
  | .tooManyOptions => "A poll can have at most 10 options"
  | .optionTooLong => "Each poll option must be at most 55 characters"
  | .invalidDuration => "Invalid poll duration: use a format like 6h or 2d (1 hour to 32 days)"

/-- Why a voice command has no channel to join. -/
inductive VcError where
  | noTargetChannel
  deriving DecidableEq, Repr

/-- The text of a `VcError`. -/
def VcError.display : VcError → String
  | .noTargetChannel => "You're not in a voice channel — join one or pass the `channel` option"

/-- Why a proxy operation fails in a way the user can mend. -/
inductive ProxyError where
  | noRouteForRemote
  | channelAlreadyLinked
  | webhookLimitReached
  deriving DecidableEq, Repr

/-- The text of a `ProxyError`. -/
def ProxyError.display : ProxyError → String
  | .noRouteForRemote => "No Discord channel is linked to that remote chat — link one with `/proxy link` first"
  | .channelAlreadyLinked =>
    "That channel — or that remote chat — is already linked. Unlink it first with `/proxy unlink`"
  | .webhookLimitReached => "This channel has reached Discord's webhook limit (15) — remove one and try again"

/-- The boxed error of the framework: a `ProxyError`, a database error with its SQLSTATE code, or any other with its text. -/
inductive Error where
  | proxy (e : ProxyError)
  | database (code : Option String)
  | other (text : String)
  deriving DecidableEq, Repr

end ModerationBot
