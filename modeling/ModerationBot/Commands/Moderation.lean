import ModerationBot.Access
import ModerationBot.Commands.Duration

/-!
# The moderation commands

`src/commands/moderation.rs`: the pure validators and the decision, then the handlers that consult them.
-/

namespace ModerationBot

/-! ## Validation and decision -/

/-- The resolved facts of a moderation attempt. -/
structure ModCheck where
  actorId : UInt64
  targetId : UInt64
  botId : UInt64
  actorIsOwner : Bool
  targetIsOwner : Bool
  actorTopRole : Int
  targetTopRole : Int
  deriving DecidableEq, Repr

/-- A purge count in `1..=100`, as `u8`. -/
def validatePurgeCount (count : Int64) : Except ModError UInt8 :=
  if 1 ≤ count ∧ count ≤ 100 then .ok count.toUInt64.toUInt8 else .error .invalidPurgeCount

/-- A ban message-delete window in `0..=7` days, in seconds as `u32`. -/
def validateBanDeleteDays (days : Int64) : Except ModError UInt32 :=
  if 0 ≤ days ∧ days ≤ 7 then .ok (days.toUInt64.toUInt32 * 86400) else .error .invalidBanDeleteDays

/-- The decision over resolved facts; the first rule that applies wins. -/
def checkModerationAllowed (check : ModCheck) : Except ModError Unit :=
  if check.targetId = check.actorId then .error .cannotTargetSelf
  else if check.targetId = check.botId then .error .cannotTargetBot
  else if check.targetIsOwner = true then .error .cannotTargetOwner
  else if check.actorIsOwner = true then .ok ()
  else if check.actorTopRole > check.targetTopRole then .ok ()
  else .error .insufficientHierarchy

/-! ## Handlers -/

/-- Reply with the text of a `ModError`. -/
def replyErr (err : ModError) : Bot Unit := say err.display

/-- The UNIX time in seconds, as `i64`. -/
def nowUnixSecs : Bot Int64 := do
  let secs : UInt64 ← ask .now
  pure secs.toInt64

/-- The position of the highest role a guild knows among `roles`, 0 without one. -/
def Guild.highest (guild : Guild) (roles : List UInt64) : Int :=
  ((roles.filterMap guild.roles).map (fun position => (position : Int))).max?.getD 0

/-- Resolve the facts of a moderation attempt and decide. -/
def authorize (ctx : Ctx) (target : Member) : Bot (Except ModError Unit) := do
  let guildId ← ctx.guild
  let actorId := ctx.author.id
  let botId : UInt64 ← ask .currentUser
  let actorMember : Member ← ask (.member guildId actorId)
  let cached : Option Guild ← ask (.cachedGuild guildId)
  match cached with
  | none => throw (.other "guild is not available in the cache")
  | some guild =>
    pure (checkModerationAllowed {
      actorId := actorId
      targetId := target.user.id
      botId := botId
      actorIsOwner := actorId == guild.ownerId
      targetIsOwner := target.user.id == guild.ownerId
      actorTopRole := guild.highest actorMember.roles
      targetTopRole := guild.highest target.roles })

/-- Delete the messages that were fetched: none, one, or several in bulk. -/
def purgeIds (ctx : Ctx) : List UInt64 → Bot Unit
  | [] => say "No messages to delete."
  | [id] => do
    ask (.deleteMessage ctx.channelId id)
    say "Deleted 1 message."
  | ids => do
    ask (.deleteMessages ctx.channelId ids)
    say ("Deleted " ++ toString ids.length ++ " messages.")

/-- Bulk-delete recent messages of the channel. -/
def purge (ctx : Ctx) (count : Int64) : Bot Unit :=
  match validatePurgeCount count with
  | .error e => replyErr e
  | .ok limit => do
    let ids : List UInt64 ← ask (.messages ctx.channelId limit)
    purgeIds ctx ids

/-- The reason given, or the default. -/
def reasonOr (reason : Option String) : String := reason.getD "No reason provided"

/-- Kick a member. -/
def kick (ctx : Ctx) (member : Member) (reason : Option String) : Bot Unit := do
  match ← authorize ctx member with
  | .error e => replyErr e
  | .ok () =>
    ask (.kick member.guildId member.user.id (reasonOr reason))
    say ("Kicked " ++ member.user.name ++ " (" ++ reasonOr reason ++ ").")

/-- What a ban does after the decision. -/
def banDecided (ctx : Ctx) (member : Member) (days : Int64) (reason : Option String) : Except ModError Unit → Bot Unit
  | .error e => replyErr e
  | .ok () => do
    let guildId ← ctx.guild
    ask (.ban guildId member.user.id days.toUInt64.toUInt8 (reasonOr reason))
    say ("Banned " ++ member.user.name ++ " (" ++ reasonOr reason ++ ").")

/-- Ban a member, optionally deleting recent messages. -/
def ban (ctx : Ctx) (member : Member) (deleteMessageDays : Option Int64) (reason : Option String) : Bot Unit :=
  let days := deleteMessageDays.getD 0
  match validateBanDeleteDays days with
  | .error e => replyErr e
  | .ok _ => do
    let decision ← authorize ctx member
    banDecided ctx member days reason decision

/-- Unban a user. -/
def unban (ctx : Ctx) (user : User) : Bot Unit := do
  let guildId ← ctx.guild
  ask (.unban guildId user.id)
  say ("Unbanned " ++ user.name ++ ".")

/-- What a timeout does after the decision. -/
def muteDecided (member : Member) (secs : Nat) : Except ModError Unit → Bot Unit
  | .error e => replyErr e
  | .ok () => do
    let now ← nowUnixSecs
    let until_ := now + (UInt64.ofNat secs).toInt64
    let timestamp : Int64 ← ask (.fromUnixTimestamp until_)
    ask (.disableCommunicationUntil member.guildId member.user.id timestamp)
    say ("Muted " ++ member.user.name ++ " until <t:" ++ toString until_ ++ ":f>.")

/-- Time a member out. -/
def mute (ctx : Ctx) (member : Member) (duration : String) : Bot Unit :=
  match parseTimeoutDuration duration with
  | .error e => replyErr e
  | .ok secs => do
    let decision ← authorize ctx member
    muteDecided member secs decision

/-- Clear the timeout of a member. -/
def unmute (_ctx : Ctx) (member : Member) : Bot Unit := do
  ask (.enableCommunication member.guildId member.user.id)
  say ("Unmuted " ++ member.user.name ++ ".")

end ModerationBot
