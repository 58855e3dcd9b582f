import ModerationBot.Proxy.Routes
import ModerationBot.Proxy.Transform

/-!
# Gateway events

`src/events/mod.rs`: a message in a linked channel is handed to the egress, if it passes the gate.
-/

namespace ModerationBot

/-- The events the handler tells apart. -/
inductive FullEvent where
  | ready
  | message (newMessage : Message)
  | other

/-- Relay a Discord message outbound to its linked remote chat, if it qualifies. -/
def handleOutbound (msg : Message) : Bot Unit := do
  let botId : UInt64 ← ask .currentUser
  if shouldRelay msg.webhookId msg.author.id botId msg.content then
    match ← Routes.fetchByChannel msg.channelId with
    | none => pure ()
    | some (platform, remoteChatId) =>
      let author := msg.author.globalName.getD msg.author.name
      ask (.egress ⟨platform, remoteChatId, author, msg.content⟩)
  else pure ()

/-- The gateway event hook. -/
def eventHandler : FullEvent → Bot Unit
  | .ready => pure ()
  | .message newMessage => handleOutbound newMessage
  | .other => pure ()

end ModerationBot
