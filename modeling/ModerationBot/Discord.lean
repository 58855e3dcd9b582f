import Mathlib.Data.List.Basic

/-!
# What the bot exchanges with Discord

The data of serenity and poise that the handlers read or build, with the fields they use. Ids are snowflakes, `u64`.
-/

namespace ModerationBot

/-- A Discord account. -/
structure User where
  id : UInt64
  name : String
  globalName : Option String
  bot : Bool
  deriving DecidableEq, Repr

/-- A member of a guild: an account with its roles there. -/
structure Member where
  guildId : UInt64
  user : User
  roles : List UInt64
  deriving DecidableEq, Repr

/-- A role given to a command as an argument. -/
structure Role where
  id : UInt64
  name : String
  deriving DecidableEq, Repr

/-- A guild of the cache: its owner and the positions of the roles it knows. -/
structure Guild where
  ownerId : UInt64
  roles : UInt64 → Option Nat

/-- A webhook of a channel. -/
structure Webhook where
  id : UInt64
  channelId : UInt64
  name : Option String
  token : Option String
  deriving DecidableEq, Repr

/-- A message as the gateway reports it. -/
structure Message where
  channelId : UInt64
  author : User
  webhookId : Option UInt64
  content : String
  deriving DecidableEq, Repr

/-- Which mentions of a message may ping. `new` is the empty set: none. -/
structure CreateAllowedMentions where
  parse : List String
  users : List UInt64
  roles : List UInt64
  deriving DecidableEq, Repr

/-- `CreateAllowedMentions::new()`: mention nothing. -/
def CreateAllowedMentions.new : CreateAllowedMentions := ⟨[], [], []⟩

/-- The body of a webhook execute; a field not set is left to Discord. -/
structure ExecuteWebhook where
  content : Option String := none
  username : Option String := none
  avatarUrl : Option String := none
  allowedMentions : Option CreateAllowedMentions := none
  deriving DecidableEq, Repr

/-- A reply to a command; without allowed mentions the default of the framework applies. -/
structure CreateReply where
  content : String
  ephemeral : Bool := false
  allowedMentions : Option CreateAllowedMentions := none
  deriving DecidableEq, Repr

/-- A native poll: its question, its answers, how long it runs in seconds, and whether a voter may pick several answers. -/
structure CreatePoll where
  question : String
  answers : List String
  duration : Nat
  allowMultiselect : Bool
  deriving DecidableEq, Repr

/-- The context of a command: where it was invoked, by whom, and the member the interaction carries for the invoker. -/
structure Ctx where
  guildId : Option UInt64
  channelId : UInt64
  author : User
  authorMember : Option Member
  deriving DecidableEq, Repr

end ModerationBot
