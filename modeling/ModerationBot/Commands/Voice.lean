import ModerationBot.Handler

/-!
# The voice commands

`src/commands/voice.rs`: the bot joins a voice channel, and leaves it.
-/

namespace ModerationBot

/-- The channel to join: the one chosen, or else the one the invoker is in. -/
def resolveJoinTarget (explicitChannel invokerVoiceChannel : Option UInt64) : Except VcError UInt64 :=
  match explicitChannel.or invokerVoiceChannel with
  | some channel => .ok channel
  | none => .error .noTargetChannel

namespace VoiceCommand

/-- Join a voice channel. -/
def join (ctx : Ctx) (channel : Option UInt64) : Handler Unit := do
  let guildId ← core ctx.guild
  let cached : Option (Option UInt64) ← request (.voiceChannel guildId ctx.author.id)
  match cached with
  | none => throw (.other "guild is not available in the cache")
  | some invokerVc =>
    match resolveJoinTarget channel invokerVc with
    | .error e => send { content := e.display, ephemeral := true }
    | .ok target =>
      let manager : Bool ← request .voiceManager
      if manager then
        let result : Except JoinError Unit ← request (.joinGateway guildId target)
        match result with
        | .ok () => send { content := "Joined <#" ++ toString target ++ ">." }
        | .error e => send { content := "Couldn't join that channel: " ++ e.text }
      else throw (.other "voice manager was not initialised")

/-- Leave the voice channel the bot is in. -/
def leave (ctx : Ctx) : Handler Unit := do
  let guildId ← core ctx.guild
  let manager : Bool ← request .voiceManager
  if manager then
    let result : Except JoinError Unit ← request (.removeCall guildId)
    match result with
    | .ok () => send { content := "Left the voice channel." }
    | .error e =>
      if e.noCall then send { content := "I'm not in a voice channel.", ephemeral := true }
      else send { content := "Couldn't leave: " ++ e.text }
  else throw (.other "voice manager was not initialised")

end VoiceCommand

end ModerationBot
