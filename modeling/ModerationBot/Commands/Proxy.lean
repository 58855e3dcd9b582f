import ModerationBot.Proxy.Webhook

/-!
# The proxy commands

`src/commands/proxy.rs`: the management of routes, and the injection of a synthetic inbound message.
-/

namespace ModerationBot

/-- Reply with the text of a `ProxyError`, or pass any other error on. -/
def replyOrPropagate (e : Error) (ephemeral : Bool) : Bot Unit :=
  match e with
  | .proxy pe => ask (.send { content := pe.display, ephemeral })
  | e => throw e

namespace ProxyCommand

/-- Link a channel to a remote Telegram chat. -/
def link (ctx : Ctx) (channel : UInt64) (remoteChatId : String) : Bot Unit := do
  let guildId ← ctx.guild
  let remote := trim remoteChatId
  match ← (Routes.link guildId channel .telegram remote ctx.author.id).attempt with
  | .ok () =>
    ask (.send {
      content := "✅ Linked <#" ++ toString channel ++ "> ⇄ " ++ Platform.telegram.label ++ " chat `" ++ remote ++ "`."
      allowedMentions := some .new })
  | .error e => replyOrPropagate e false

/-- Unlink a channel from its Telegram route. -/
def unlink (ctx : Ctx) (channel : UInt64) : Bot Unit := do
  let guildId ← ctx.guild
  let removed ← Routes.unlink guildId channel .telegram
  if removed > 0 then say ("🗑️ Unlinked <#" ++ toString channel ++ ">.")
  else say "That channel isn't linked to a Telegram route."

/-- One line of the listing. -/
def line (r : ProxyRoute) : String :=
  "• <#" ++ toString r.discordChannel ++ "> ⇄ " ++ r.platform.label ++ " `" ++ r.remoteChatId ++ "`"

/-- Show the routes of the guild. -/
def list (ctx : Ctx) : Bot Unit := do
  let guildId ← ctx.guild
  let routes ← Routes.list guildId
  if routes = [] then say "No proxy routes. Add one with `/proxy link`."
  else
    ask (.send {
      content := "**Proxy routes**\n" ++ joinWith "\n" (routes.map line)
      allowedMentions := some .new })

/-- Inject a synthetic inbound message. -/
def proxyTest (remoteChatId author text : String) (avatarUrl : Option String) : Bot Unit := do
  match ← (deliverInbound .telegram (trim remoteChatId) ⟨author, avatarUrl, text⟩).attempt with
  | .ok () => ask (.send { content := "Injected synthetic inbound message.", ephemeral := true })
  | .error e => replyOrPropagate e true

end ProxyCommand

end ModerationBot
