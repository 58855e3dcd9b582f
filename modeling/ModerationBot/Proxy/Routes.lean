import ModerationBot.World

/-!
# The route store

`src/proxy/routes.rs`: the statements over `proxy_routes`. Ids are stored as `i64` and read back as `u64`.
-/

namespace ModerationBot

/-- A route as `/proxy list` shows it. -/
structure ProxyRoute where
  discordChannel : UInt64
  platform : Platform
  remoteChatId : String
  deriving DecidableEq, Repr

/-- SQLSTATE of a unique violation. -/
def uniqueViolation : Error := .database (some "23505")

namespace Routes

/-- Link a channel to a remote chat; a violated key is reported as `ChannelAlreadyLinked`. -/
def link (guildId discordChannel : UInt64) (platform : Platform) (remoteChatId : String) (createdBy : UInt64) :
    Bot Unit := do
  let result ← (ask (.insertRoute
    ⟨guildId.toInt64, discordChannel.toInt64, platform.asI16, remoteChatId, createdBy.toInt64⟩)).attempt
  match result with
  | .ok _ => pure ()
  | .error e => if e = uniqueViolation then throw (.proxy .channelAlreadyLinked) else throw e

/-- Unlink a channel for a platform; the number of rows removed. -/
def unlink (guildId discordChannel : UInt64) (platform : Platform) : Bot Nat :=
  ask (.deleteRoute guildId.toInt64 discordChannel.toInt64 platform.asI16)

/-- The routes of a guild; rows with an unknown platform are skipped. -/
def list (guildId : UInt64) : Bot (List ProxyRoute) := do
  let rows : List (Int64 × Int16 × String) ← ask (.selectRoutes guildId.toInt64)
  pure (rows.filterMap fun (channel, platformRaw, remoteChatId) =>
    (Platform.fromI16 platformRaw).map fun platform => ⟨channel.toUInt64, platform, remoteChatId⟩)

/-- The channel an inbound message of a remote chat goes to. -/
def fetchByRemote (platform : Platform) (remoteChatId : String) : Bot (Option UInt64) := do
  let row : Option Int64 ← ask (.selectChannel platform.asI16 remoteChatId)
  pure (row.map Int64.toUInt64)

/-- The remote chat a channel is linked to. -/
def fetchByChannel (discordChannel : UInt64) : Bot (Option (Platform × String)) := do
  let row : Option (Int16 × String) ← ask (.selectRemote discordChannel.toInt64)
  pure (row.bind fun (platformRaw, remoteChatId) =>
    (Platform.fromI16 platformRaw).map fun platform => (platform, remoteChatId))

end Routes

end ModerationBot
