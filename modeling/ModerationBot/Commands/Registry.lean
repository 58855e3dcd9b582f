import ModerationBot.Commands.Moderation
import ModerationBot.Commands.Poll
import ModerationBot.Commands.Proxy
import ModerationBot.Commands.Voice

/-!
# The commands of the bot

`src/commands/mod.rs`: every command that is registered, with its handler and what its attribute demands of an invocation. The framework
starts an invocation only if the demands are met; it runs the check of the command first, and the handler only if the check passed.
-/

namespace ModerationBot

/-- The permissions of Discord that the commands demand. -/
inductive Permission where
  | manageMessages
  | kickMembers
  | banMembers
  | moderateMembers
  | manageGuild
  | manageWebhooks
  deriving DecidableEq, Repr

/-- A command with its arguments. -/
inductive Command where
  | purge (count : Int64)
  | kick (member : Member) (reason : Option String)
  | ban (member : Member) (deleteMessageDays : Option Int64) (reason : Option String)
  | unban (user : User)
  | mute (member : Member) (duration : String)
  | unmute (member : Member)
  | allow (user : Option User) (role : Option Role)
  | disallow (user : Option User) (role : Option Role)
  | allowlist (iter : IterOrder)
  | poll (question options : String) (duration : Option String) (multiple : Option Bool)
  | join (channel : Option UInt64)
  | leave
  | proxyLink (channel : UInt64) (remoteChatId : String)
  | proxyUnlink (channel : UInt64)
  | proxyList
  | proxyTest (remoteChatId author text : String) (avatarUrl : Option String)

/-- What the attribute of a command says. -/
structure Attributes where
  requiredPermission : Option Permission := none
  guildOnly : Bool := true
  ownersOnly : Bool := false
  check : Bool := false
  deriving DecidableEq, Repr

namespace Command

/-- The attribute of each command; `check` is `moderation_access_check`. -/
def attributes : Command → Attributes
  | purge _ => { requiredPermission := some .manageMessages, check := true }
  | kick _ _ => { requiredPermission := some .kickMembers, check := true }
  | ban _ _ _ => { requiredPermission := some .banMembers, check := true }
  | unban _ => { requiredPermission := some .banMembers, check := true }
  | mute _ _ => { requiredPermission := some .moderateMembers, check := true }
  | unmute _ => { requiredPermission := some .moderateMembers, check := true }
  | allow _ _ => { requiredPermission := some .manageGuild }
  | disallow _ _ => { requiredPermission := some .manageGuild }
  | allowlist _ => { requiredPermission := some .manageGuild }
  | poll _ _ _ _ => { guildOnly := false }
  | join _ => {}
  | leave => {}
  | proxyLink _ _ => { requiredPermission := some .manageWebhooks }
  | proxyUnlink _ => { requiredPermission := some .manageWebhooks }
  | proxyList => { requiredPermission := some .manageWebhooks }
  | proxyTest _ _ _ _ => { ownersOnly := true }

/-- The handler of each command. -/
def handler (ctx : Ctx) : Command → Handler Unit
  | purge count => core (ModerationBot.purge ctx count)
  | kick member reason => core (ModerationBot.kick ctx member reason)
  | ban member days reason => core (ModerationBot.ban ctx member days reason)
  | unban user => core (ModerationBot.unban ctx user)
  | mute member duration => core (ModerationBot.mute ctx member duration)
  | unmute member => core (ModerationBot.unmute ctx member)
  | allow user role => core (ModerationBot.allow ctx user role)
  | disallow user role => core (ModerationBot.disallow ctx user role)
  | allowlist iter => core (showAllowlist iter ctx)
  | poll question options duration multiple => PollCommand.poll ctx question options duration multiple
  | join channel => VoiceCommand.join ctx channel
  | leave => VoiceCommand.leave ctx
  | proxyLink channel remoteChatId => core (ProxyCommand.link ctx channel remoteChatId)
  | proxyUnlink channel => core (ProxyCommand.unlink ctx channel)
  | proxyList => core (ProxyCommand.list ctx)
  | proxyTest remoteChatId author text avatarUrl => core (ProxyCommand.proxyTest remoteChatId author text avatarUrl)

/-- The check that precedes the handler. -/
def access (ctx : Ctx) (command : Command) : Handler Bool :=
  if command.attributes.check then core (moderationAccessCheck ctx) else pure true

/-- An invocation as the framework runs it. -/
def invoke (ctx : Ctx) (command : Command) : Handler Unit := do
  if ← command.access ctx then command.handler ctx else pure ()

end Command

/-- What the attribute demands of the invoker and of the place of an invocation. -/
structure Attributes.Met (a : Attributes) (ctx : Ctx) (permissions : List Permission) (owner : Bool) : Prop where
  permission : ∀ p, a.requiredPermission = some p → p ∈ permissions
  guild : a.guildOnly = true → ctx.guildId.isSome = true
  owner : a.ownersOnly = true → owner = true

end ModerationBot
