import Mathlib.Logic.Function.Basic
import ModerationBot.Library.Prog
import ModerationBot.Library.Table
import ModerationBot.Discord
import ModerationBot.Error
import ModerationBot.Proxy.Basic

/-!
# The world the bot runs in

The requests the handlers issue (SQL statements, Discord calls, cache and clock reads, the outbound seam), the state behind them,
and what each request does to it. The tables are those of `migrations/`: their keys are the constraints the database enforces.
A statement is atomic. Every request is answered; `Prog.Exec serve` adds that any may fail.
-/

namespace ModerationBot

/-! ## The tables -/

/-- A row of `proxy_routes`. -/
structure RouteRow where
  guildId : Int64
  discordChannel : Int64
  platform : Int16
  remoteChatId : String
  createdBy : Int64
  deriving DecidableEq, Repr

/-- Two routes are in conflict when they agree on the primary key or on the unique index `proxy_routes_remote`. -/
def RouteRow.Conflict (a b : RouteRow) : Prop :=
  (a.guildId = b.guildId ∧ a.discordChannel = b.discordChannel ∧ a.platform = b.platform) ∨
    (a.platform = b.platform ∧ a.remoteChatId = b.remoteChatId)

instance : DecidableRel RouteRow.Conflict := fun _ _ => inferInstanceAs (Decidable (_ ∨ _))

/-- The table `proxy_routes`. -/
abbrev RouteTable : Type := Table RouteRow.Conflict

/-- A row of `allowlist_entries`. -/
structure AllowlistRow where
  guildId : Int64
  kind : Int16
  entityId : Int64
  addedBy : Int64
  deriving DecidableEq, Repr

/-- Two entries are in conflict when they agree on the primary key. -/
def AllowlistRow.Conflict (a b : AllowlistRow) : Prop :=
  a.guildId = b.guildId ∧ a.kind = b.kind ∧ a.entityId = b.entityId

instance : DecidableRel AllowlistRow.Conflict := fun _ _ => inferInstanceAs (Decidable (_ ∧ _))

/-- The table `allowlist_entries`. -/
abbrev AllowlistTable : Type := Table AllowlistRow.Conflict

/-! ## Requests -/

/-- What a handler may ask of the world: each may be awaited and may fail. -/
inductive Request where
  | insertRoute (row : RouteRow)
  | deleteRoute (guildId discordChannel : Int64) (platform : Int16)
  | selectRoutes (guildId : Int64)
  | selectChannel (platform : Int16) (remoteChatId : String)
  | selectRemote (discordChannel : Int64)
  | selectAllowed (guildId : Int64)
  | insertAllowed (row : AllowlistRow)
  | deleteAllowed (guildId : Int64) (kind : Int16) (entityId : Int64)
  | webhooks (channel : UInt64)
  | createWebhook (channel : UInt64) (name : String)
  | executeWebhook (webhook : Webhook) (wait : Bool) (builder : ExecuteWebhook)
  | member (guildId userId : UInt64)
  | messages (channel : UInt64) (limit : UInt8)
  | deleteMessage (channel id : UInt64)
  | deleteMessages (channel : UInt64) (ids : List UInt64)
  | kick (guildId userId : UInt64) (reason : String)
  | ban (guildId userId : UInt64) (days : UInt8) (reason : String)
  | unban (guildId userId : UInt64)
  | disableCommunicationUntil (guildId userId : UInt64) (timestamp : Int64)
  | enableCommunication (guildId userId : UInt64)
  | send (reply : CreateReply)
  | currentUser
  | cachedGuild (guildId : UInt64)
  | now
  | fromUnixTimestamp (secs : Int64)
  | egress (msg : RelayMessage)
  deriving DecidableEq

/-- The type of the answer to a request. -/
abbrev Response : Request → Type
  | .insertRoute _ => Unit
  | .deleteRoute _ _ _ => Nat
  | .selectRoutes _ => List (Int64 × Int16 × String)
  | .selectChannel _ _ => Option Int64
  | .selectRemote _ => Option (Int16 × String)
  | .selectAllowed _ => List (Int16 × Int64)
  | .insertAllowed _ => Unit
  | .deleteAllowed _ _ _ => Nat
  | .webhooks _ => List Webhook
  | .createWebhook _ _ => Webhook
  | .executeWebhook _ _ _ => Unit
  | .member _ _ => Member
  | .messages _ _ => List UInt64
  | .deleteMessage _ _ => Unit
  | .deleteMessages _ _ => Unit
  | .kick _ _ _ => Unit
  | .ban _ _ _ _ => Unit
  | .unban _ _ => Unit
  | .disableCommunicationUntil _ _ _ => Unit
  | .enableCommunication _ _ => Unit
  | .send _ => Unit
  | .currentUser => UInt64
  | .cachedGuild _ => Option Guild
  | .now => UInt64
  | .fromUnixTimestamp _ => Int64
  | .egress _ => Unit

/-- The requests that change something in Discord. -/
def Request.mutates : Request → Bool
  | .createWebhook _ _ => true
  | .executeWebhook _ _ _ => true
  | .deleteMessage _ _ => true
  | .deleteMessages _ _ => true
  | .kick _ _ _ => true
  | .ban _ _ _ _ => true
  | .unban _ _ => true
  | .disableCommunicationUntil _ _ _ => true
  | .enableCommunication _ _ => true
  | .send _ => true
  | _ => false

/-- A handler: a program over these requests. -/
abbrev Bot (α : Type) : Type := Prog Error Request Response α

/-- Issue a request and await its answer; an error ends the handler. -/
abbrev ask (q : Request) : Bot (Response q) := Prog.perform q

/-! ## State -/

/-- A message of Discord whose event is still to be processed: its number, whether a relayed webhook execute made it, and the
message. -/
structure Posted where
  serial : Nat
  relayed : Bool
  message : Message
  deriving DecidableEq, Repr

/-- The state behind the requests. `mint n` is the id and token Discord gives to the `n`-th webhook created; `history` holds the messages
of each channel, newest first; `refusesReason` is what the Discord client does not take as the reason of a ban. -/
structure World where
  routes : RouteTable
  allowlist : AllowlistTable
  hooks : UInt64 → List Webhook
  mint : Nat → UInt64 × String
  created : Nat
  bot : User
  guilds : UInt64 → Option Guild
  members : UInt64 → UInt64 → Option Member
  history : UInt64 → List UInt64
  clock : UInt64
  refusesReason : String → Bool
  inFlight : List Posted
  serial : Nat
  sent : List RelayMessage

/-- A world in which nothing has happened yet. -/
def World.initial (bot : User) (mint : Nat → UInt64 × String) : World where
  routes := .empty
  allowlist := .empty
  hooks _ := []
  mint := mint
  created := 0
  bot := bot
  guilds _ := none
  members _ _ := none
  history _ := []
  clock := 0
  -- The client takes at most 512 bytes.
  refusesReason reason := decide (512 < reason.utf8ByteSize)
  inFlight := []
  serial := 0
  sent := []

/-- The webhook Discord creates next in a channel. -/
def World.freshHook (w : World) (channel : UInt64) (name : String) : Webhook :=
  ⟨(w.mint w.created).1, channel, some name, some (w.mint w.created).2⟩

/-- The world after Discord created it. -/
def World.addHook (w : World) (channel : UInt64) (name : String) : World :=
  { w with
    hooks := Function.update w.hooks channel (w.hooks channel ++ [w.freshHook channel name])
    created := w.created + 1 }

/-- A message is posted: its event is in flight. -/
def World.post (w : World) (relayed : Bool) (message : Message) : World :=
  { w with inFlight := w.inFlight ++ [⟨w.serial, relayed, message⟩], serial := w.serial + 1 }

/-- The message a webhook execute posts: Discord stamps it with the webhook's id and shows it as the webhook's account. -/
def Webhook.message (h : Webhook) (b : ExecuteWebhook) : Message where
  channelId := h.channelId
  author := ⟨h.id, b.username.getD (h.name.getD ""), none, true⟩
  webhookId := some h.id
  content := b.content.getD ""

/-- A member leaves a guild. -/
def World.removeMember (w : World) (guildId userId : UInt64) : World :=
  { w with members := Function.update w.members guildId (Function.update (w.members guildId) userId none) }

/-- Messages of a channel are deleted. -/
def World.deleteMessages (w : World) (channel : UInt64) (ids : List UInt64) : World :=
  { w with history := Function.update w.history channel ((w.history channel).filter (fun id => !ids.contains id)) }

/-- What each request answers and does. -/
def serve : Service Error Request Response World
  | w, .insertRoute row =>
    match w.routes.insert row with
    | some routes => (.ok (), { w with routes })
    | none => (.error (.database (some "23505")), w)
  | w, .deleteRoute g c p =>
    let hit := fun r : RouteRow => r.guildId == g && r.discordChannel == c && r.platform == p
    (.ok (w.routes.select hit).length, { w with routes := w.routes.delete hit })
  | w, .selectRoutes g =>
    let rows := (w.routes.select (fun r => r.guildId == g)).mergeSort (fun a b => decide (a.discordChannel ≤ b.discordChannel))
    (.ok (rows.map (fun r => (r.discordChannel, r.platform, r.remoteChatId))), w)
  | w, .selectChannel p c =>
    (.ok ((w.routes.select (fun r => r.platform == p && r.remoteChatId == c)).head?.map (·.discordChannel)), w)
  | w, .selectRemote c =>
    let rows := (w.routes.select (fun r => r.discordChannel == c)).mergeSort (fun a b => decide (a.platform ≤ b.platform))
    (.ok (rows.head?.map (fun r => (r.platform, r.remoteChatId))), w)
  | w, .selectAllowed g =>
    (.ok ((w.allowlist.select (fun r => r.guildId == g)).map (fun r => (r.kind, r.entityId))), w)
  | w, .insertAllowed row => (.ok (), { w with allowlist := (w.allowlist.insert row).getD w.allowlist })
  | w, .deleteAllowed g k e =>
    let hit := fun r : AllowlistRow => r.guildId == g && r.kind == k && r.entityId == e
    (.ok (w.allowlist.select hit).length, { w with allowlist := w.allowlist.delete hit })
  | w, .webhooks c => (.ok (w.hooks c), w)
  | w, .createWebhook c name => (.ok (w.freshHook c name), w.addHook c name)
  | w, .executeWebhook h _ b => (.ok (), w.post true (h.message b))
  | w, .member g u =>
    match w.members g u with
    | some m => (.ok m, w)
    | none => (.error (.other "Unknown Member"), w)
  | w, .messages c limit => (.ok ((w.history c).take limit.toNat), w)
  | w, .deleteMessage c id => (.ok (), w.deleteMessages c [id])
  | w, .deleteMessages c ids => (.ok (), w.deleteMessages c ids)
  | w, .kick g u _ => (.ok (), w.removeMember g u)
  | w, .ban g u _ reason =>
    -- The client errs before it sends anything.
    if w.refusesReason reason = true then (.error (.other "Input exceeded a limit"), w) else (.ok (), w.removeMember g u)
  | w, .unban _ _ => (.ok (), w)
  | w, .disableCommunicationUntil _ _ _ => (.ok (), w)
  | w, .enableCommunication _ _ => (.ok (), w)
  | w, .send _ => (.ok (), w)
  | w, .currentUser => (.ok w.bot.id, w)
  | w, .cachedGuild g => (.ok (w.guilds g), w)
  | w, .now => (.ok w.clock, w)
  | w, .fromUnixTimestamp secs => (.ok secs, w)
  | w, .egress msg => (.ok (), { w with sent := w.sent ++ [msg] })

/-! ### The answers, request by request -/

section Answers

variable (w : World)

@[simp] theorem serve_insertRoute (row : RouteRow) : serve w (.insertRoute row) =
    match w.routes.insert row with
    | some routes => (.ok (), { w with routes })
    | none => (.error (.database (some "23505")), w) := rfl

@[simp] theorem serve_deleteRoute (g c : Int64) (p : Int16) : serve w (.deleteRoute g c p) =
    (.ok (w.routes.select (fun r => r.guildId == g && r.discordChannel == c && r.platform == p)).length,
      { w with routes := w.routes.delete (fun r => r.guildId == g && r.discordChannel == c && r.platform == p) }) := rfl

@[simp] theorem serve_selectRoutes (g : Int64) : serve w (.selectRoutes g) =
    (.ok (((w.routes.select (fun r => r.guildId == g)).mergeSort
      (fun a b => decide (a.discordChannel ≤ b.discordChannel))).map
        (fun r => (r.discordChannel, r.platform, r.remoteChatId))), w) := rfl

@[simp] theorem serve_selectChannel (p : Int16) (c : String) : serve w (.selectChannel p c) =
    (.ok ((w.routes.select (fun r => r.platform == p && r.remoteChatId == c)).head?.map (·.discordChannel)), w) := rfl

@[simp] theorem serve_selectRemote (c : Int64) : serve w (.selectRemote c) =
    (.ok (((w.routes.select (fun r => r.discordChannel == c)).mergeSort
      (fun a b => decide (a.platform ≤ b.platform))).head?.map (fun r => (r.platform, r.remoteChatId))), w) := rfl

@[simp] theorem serve_selectAllowed (g : Int64) : serve w (.selectAllowed g) =
    (.ok ((w.allowlist.select (fun r => r.guildId == g)).map (fun r => (r.kind, r.entityId))), w) := rfl

@[simp] theorem serve_insertAllowed (row : AllowlistRow) : serve w (.insertAllowed row) =
    (.ok (), { w with allowlist := (w.allowlist.insert row).getD w.allowlist }) := rfl

@[simp] theorem serve_deleteAllowed (g : Int64) (k : Int16) (e : Int64) : serve w (.deleteAllowed g k e) =
    (.ok (w.allowlist.select (fun r => r.guildId == g && r.kind == k && r.entityId == e)).length,
      { w with allowlist := w.allowlist.delete (fun r => r.guildId == g && r.kind == k && r.entityId == e) }) := rfl

@[simp] theorem serve_webhooks (c : UInt64) : serve w (.webhooks c) = (.ok (w.hooks c), w) := rfl

@[simp] theorem serve_createWebhook (c : UInt64) (name : String) :
    serve w (.createWebhook c name) = (.ok (w.freshHook c name), w.addHook c name) := rfl

@[simp] theorem serve_executeWebhook (h : Webhook) (wait : Bool) (b : ExecuteWebhook) :
    serve w (.executeWebhook h wait b) = (.ok (), w.post true (h.message b)) := rfl

@[simp] theorem serve_member (g u : UInt64) : serve w (.member g u) =
    match w.members g u with
    | some m => (.ok m, w)
    | none => (.error (.other "Unknown Member"), w) := rfl

@[simp] theorem serve_kick (g u : UInt64) (r : String) : serve w (.kick g u r) = (.ok (), w.removeMember g u) := rfl

@[simp] theorem serve_ban (g u : UInt64) (d : UInt8) (r : String) : serve w (.ban g u d r) =
    if w.refusesReason r = true then (.error (.other "Input exceeded a limit"), w) else (.ok (), w.removeMember g u) := rfl

@[simp] theorem serve_disableCommunicationUntil (g u : UInt64) (t : Int64) :
    serve w (.disableCommunicationUntil g u t) = (.ok (), w) := rfl

@[simp] theorem serve_enableCommunication (g u : UInt64) : serve w (.enableCommunication g u) = (.ok (), w) := rfl

@[simp] theorem serve_send (reply : CreateReply) : serve w (.send reply) = (.ok (), w) := rfl

@[simp] theorem serve_currentUser : serve w .currentUser = (.ok w.bot.id, w) := rfl

@[simp] theorem serve_cachedGuild (g : UInt64) : serve w (.cachedGuild g) = (.ok (w.guilds g), w) := rfl

@[simp] theorem serve_now : serve w .now = (.ok w.clock, w) := rfl

@[simp] theorem serve_fromUnixTimestamp (secs : Int64) : serve w (.fromUnixTimestamp secs) = (.ok secs, w) := rfl

@[simp] theorem serve_egress (msg : RelayMessage) :
    serve w (.egress msg) = (.ok (), { w with sent := w.sent ++ [msg] }) := rfl

end Answers

/-! ## Requests shared by the commands -/

/-- `ctx.say`: reply with a text. -/
def say (content : String) : Bot Unit := ask (.send { content })

/-- The guild a command was invoked in. -/
def Ctx.guild (ctx : Ctx) : Bot UInt64 :=
  match ctx.guildId with
  | some g => pure g
  | none => throw (.other "this command can only be used in a guild")

end ModerationBot
