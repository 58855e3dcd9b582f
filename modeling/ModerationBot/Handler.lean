import ModerationBot.Library.Translate
import ModerationBot.World

/-!
# Requests beyond the core

What the poll and voice commands ask besides the requests of `World.lean`: a native poll, the voice states of the cache, and the voice
manager, of which nothing is assumed: its answers are part of the state, and anything may change them.
-/

namespace ModerationBot

/-- Why the voice manager failed: whether there is no call to leave, and the text of the error. -/
structure JoinError where
  noCall : Bool
  text : String
  deriving DecidableEq, Repr

/-- What a command may ask of the world. -/
inductive BotRequest where
  | core (q : Request)
  | sendPoll (poll : CreatePoll)
  | voiceChannel (guildId userId : UInt64)
  | voiceManager
  | joinGateway (guildId channel : UInt64)
  | removeCall (guildId : UInt64)
  deriving DecidableEq

/-- The type of the answer to a request. `voiceChannel` answers nothing when the guild is not in the cache. -/
abbrev BotResponse : BotRequest → Type
  | .core q => Response q
  | .sendPoll _ => Unit
  | .voiceChannel _ _ => Option (Option UInt64)
  | .voiceManager => Bool
  | .joinGateway _ _ => Except JoinError Unit
  | .removeCall _ => Except JoinError Unit

/-- A handler over all requests. -/
abbrev Handler (α : Type) : Type := Prog Error BotRequest BotResponse α

/-- The core requests among all. -/
def coreRequests : Translation Request Response BotRequest BotResponse where
  request := .core
  answer _ r := r

/-- A handler of the core, over all requests. -/
def core {α : Type} (p : Bot α) : Handler α := p.translate coreRequests

/-- Issue a request and await its answer; an error ends the handler. -/
abbrev request (q : BotRequest) : Handler (BotResponse q) := Prog.perform q

/-- `ctx.send`: reply. -/
def send (reply : CreateReply) : Handler Unit := request (.core (.send reply))

/-- The state behind all requests: that of the core, the voice channels of the users, and what the voice manager answers now. -/
structure BotWorld extends World where
  voiceStates : UInt64 → UInt64 → Option UInt64
  manager : Bool
  joined : UInt64 → UInt64 → Except JoinError Unit
  removed : UInt64 → Except JoinError Unit

/-- A world in which nothing has happened yet, without a voice manager. -/
def BotWorld.initial (bot : User) (mint : Nat → UInt64 × String) : BotWorld where
  toWorld := .initial bot mint
  voiceStates _ _ := none
  manager := false
  joined _ _ := .error ⟨false, ""⟩
  removed _ := .error ⟨true, ""⟩

/-- What each request answers and does. -/
def serveBot : Service Error BotRequest BotResponse BotWorld
  | w, .core q => ((serve w.toWorld q).1, { w with toWorld := (serve w.toWorld q).2 })
  | w, .sendPoll _ => (.ok (), w)
  | w, .voiceChannel g u => (.ok ((w.guilds g).map fun _ => w.voiceStates g u), w)
  | w, .voiceManager => (.ok w.manager, w)
  | w, .joinGateway g c => (.ok (w.joined g c), w)
  | w, .removeCall g => (.ok (w.removed g), w)

end ModerationBot
