import ModerationBot.Proxy.Routes
import ModerationBot.Proxy.Sanitize
import ModerationBot.Proxy.Username

/-!
# The inbound relay

`src/proxy/webhook.rs`: a remote message is relayed into its linked channel through the channel's managed webhook.
-/

namespace ModerationBot

/-- The name of the webhook the bot manages in each proxied channel. -/
def managedWebhookName : String := "boyfucker-proxy"

/-- Discord's cap on the webhooks of a channel. -/
def maxChannelWebhooks : Nat := 15

/-- A webhook the bot can use: it has the managed name and a token. -/
def Webhook.managed (h : Webhook) : Bool := h.name == some managedWebhookName && h.token.isSome

/-- Find the managed webhook of a channel, creating it if absent. -/
def getOrCreateWebhook (channel : UInt64) : Bot Webhook := do
  let hooks : List Webhook ← ask (.webhooks channel)
  match hooks.find? Webhook.managed with
  | some existing => pure existing
  | none =>
    if hooks.length ≥ maxChannelWebhooks then throw (.proxy .webhookLimitReached)
    else ask (.createWebhook channel managedWebhookName)

/-- The body of the webhook execute for a remote message with prepared content. -/
def relayBuilder (content : String) (msg : RemoteMessage) : ExecuteWebhook where
  content := some content
  username := some (deriveWebhookUsername msg.author)
  allowedMentions := some .new
  avatarUrl := msg.avatarUrl

/-- Relay a remote message into a channel as its original author. -/
def relayInbound (channel : UInt64) (msg : RemoteMessage) : Bot Unit :=
  match prepareRelayContent msg.content with
  | none => pure ()
  | some content => do
    let webhook ← getOrCreateWebhook channel
    ask (.executeWebhook webhook false (relayBuilder content msg))

/-- Resolve a remote chat to its linked channel and relay. -/
def deliverInbound (platform : Platform) (remoteChatId : String) (msg : RemoteMessage) : Bot Unit := do
  match ← Routes.fetchByRemote platform remoteChatId with
  | none => throw (.proxy .noRouteForRemote)
  | some channel => relayInbound channel msg

end ModerationBot
