import ModerationBot.Commands.Registry
import ModerationBot.Deliveries
import ModerationBot.Events
import ModerationBot.Library.Shared

/-!
# The whole bot

Every invocation of a command, every gateway event and every inbound delivery, in progress at once over one world. Each issues its next
request when its turn comes; a request is served, refused, or takes effect while its answer is lost; and between the turns Discord and
its users change whatever is theirs. The two tables are the bot's own.
-/

namespace ModerationBot

/-- The channels among the arguments of a command. -/
def Command.channels : Command → List UInt64
  | .proxyLink channel _ => [channel]
  | .proxyUnlink channel => [channel]
  | .join channel => channel.toList
  | _ => []

/-- The members among the arguments of a command. -/
def Command.members : Command → List Member
  | .kick member _ => [member]
  | .ban member _ _ => [member]
  | .mute member _ => [member]
  | .unmute member => [member]
  | _ => []

/-- An invocation that is started: what the attribute demands is met, and what Discord resolves is of the guild of the invocation. -/
structure Invocation (guildOf : UInt64 → UInt64) where
  ctx : Ctx
  permissions : List Permission
  owner : Bool
  command : Command
  met : command.attributes.Met ctx permissions owner
  place : ∀ g, ctx.guildId = some g → guildOf ctx.channelId = g
  channels : ∀ c ∈ command.channels, ctx.guildId = some (guildOf c)
  members : ∀ m ∈ command.members, ctx.guildId = some m.guildId

/-- What the bot does something for. -/
inductive Origin (guildOf : UInt64 → UInt64) where
  | command (inv : Invocation guildOf)
  | event (event : FullEvent)
  | delivery (d : Delivery)

/-- What it does. -/
def Origin.program {guildOf : UInt64 → UInt64} : Origin guildOf → Handler Unit
  | command inv => inv.command.invoke inv.ctx
  | event e => core (eventHandler e)
  | delivery d => core (deliverInbound d.platform d.remoteChatId d.msg)

/-- A fault of the medium. It is no error of the bot's own making, and the database reports a violated key only for a violated key. -/
structure Outage where
  error : Error
  not_proxy : ∀ e, error ≠ .proxy e
  not_violation : error ≠ uniqueViolation

/-- A change by other hands, which leaves the tables alone. -/
structure Foreign where
  apply : BotWorld → BotWorld
  routes : ∀ w, (apply w).routes = w.routes
  allowlist : ∀ w, (apply w).allowlist = w.allowlist

/-- The world as the core reaches it. -/
def coreMedium : Medium Outage Error Request Response World := ⟨serve, Outage.error⟩

/-- The world as the bot reaches it. -/
def botMedium : Medium Outage Error BotRequest BotResponse BotWorld := ⟨serveBot, Outage.error⟩

/-- The event of a core request, as the core saw it. -/
def readCore : Event Outage BotRequest BotWorld → Option (Event Outage Request World)
  | ⟨w, .core q, fate⟩ => some ⟨w.toWorld, q, fate⟩
  | _ => none

/-- A history of the core. -/
abbrev Past : Type := List (Event Outage Request World)

/-- The core requests in a history. -/
def corePast (h : List (Event Outage BotRequest BotWorld)) : Past := h.filterMap readCore

/-- The requests of the whole bot, each with the number of the program that issued it. -/
abbrev Chronicle : Type := List (Nat × Event Outage BotRequest BotWorld)

/-- What the bot is made of. -/
def botSetup (guildOf : UInt64 → UInt64) :
    Setup (Origin guildOf) Foreign Outage Error BotRequest BotResponse BotWorld Unit where
  medium := botMedium
  program := Origin.program
  change c := c.apply

/-- The bot at work. -/
abbrev System (guildOf : UInt64 → UInt64) : Type := Pool (Origin guildOf) Outage Error BotRequest BotResponse BotWorld Unit

/-- What happens to the bot next. -/
abbrev Happening (guildOf : UInt64 → UInt64) : Type := Turn (Origin guildOf) Foreign Outage

/-- The bot after a run from a world. -/
def System.run (guildOf : UInt64 → UInt64) (w : BotWorld) (happenings : List (Happening guildOf)) : System guildOf :=
  Pool.run (botSetup guildOf) w happenings

end ModerationBot
