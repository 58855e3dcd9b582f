import ModerationBot.Commands.Registry
import ModerationBot.Lemmas.Allowlist
import ModerationBot.Lemmas.Bridge
import ModerationBot.Lemmas.Moderation

/-!
# What each handler may issue

One lemma a handler: what its requests satisfy, whatever they are answered, given that the requests it is written to issue satisfy it.
-/

namespace ModerationBot

open Prog

variable {P : Request → Prop} {α : Type} {ctx : Ctx}

theorem only_guild_bind {f : UInt64 → Bot α} (h : ∀ g, ctx.guildId = some g → (f g).Only P) : (ctx.guild >>= f).Only P := by
  unfold Ctx.guild
  cases hg : ctx.guildId with
  | none => trivial
  | some g => exact h g hg

theorem only_say {text : String} (h : ∀ reply, P (.send reply)) : (say text).Only P := (only_perform _ _).2 (h _)

/-- A program that ends with a reply after a request. -/
theorem only_ask_say {q : Request} {text : Response q → String} (hq : P q) (h : ∀ reply, P (.send reply)) :
    (do let a ← ask q; say (text a)).Only P :=
  ((only_perform _ _).2 hq).bind fun _ => only_say h

theorem only_purge {count : Int64} (hread : ∀ limit, P (.messages ctx.channelId limit))
    (hone : ∀ id, P (.deleteMessage ctx.channelId id)) (hbulk : ∀ ids, P (.deleteMessages ctx.channelId ids))
    (hsend : ∀ reply, P (.send reply)) : (purge ctx count).Only P := by
  unfold purge
  split
  · exact only_say hsend
  · refine ((only_perform _ _).2 (hread _)).bind fun ids => ?_
    match ids with
    | [] => exact only_say hsend
    | [id] => exact only_ask_say (hone id) hsend
    | a :: b :: ids => exact only_ask_say (hbulk _) hsend

/-- An action on a member: the facts are read, and it is refused or done. -/
theorem only_authorize_bind {target : Member} {f : Except ModError Unit → Bot α} (hbot : P .currentUser)
    (hmember : ∀ g, P (.member g ctx.author.id)) (hguild : ∀ g, P (.cachedGuild g)) (hf : ∀ d, (f d).Only P) :
    (authorize ctx target >>= f).Only P := by
  unfold authorize
  rw [bind_assoc]
  refine only_guild_bind fun g _ => ?_
  simp only [bind_assoc]
  refine ((only_perform _ _).2 hbot).bind fun botId => ((only_perform _ _).2 (hmember g)).bind fun actor =>
    ((only_perform _ _).2 (hguild g)).bind fun cached => ?_
  cases cached with
  | none => trivial
  | some guild => exact hf _

theorem only_kick {member : Member} {reason : Option String} (hbot : P .currentUser) (hmember : ∀ g, P (.member g ctx.author.id))
    (hguild : ∀ g, P (.cachedGuild g)) (heffect : P (.kick member.guildId member.user.id (reasonOr reason)))
    (hsend : ∀ reply, P (.send reply)) : (kick ctx member reason).Only P := by
  refine only_authorize_bind hbot hmember hguild fun d => ?_
  cases d with
  | error e => exact only_say hsend
  | ok u => exact only_ask_say heffect hsend

theorem only_ban {member : Member} {days : Option Int64} {reason : Option String} (hbot : P .currentUser)
    (hmember : ∀ g, P (.member g ctx.author.id)) (hguild : ∀ g, P (.cachedGuild g))
    (heffect : ∀ g secs, validateBanDeleteDays (days.getD 0) = .ok secs →
      P (.ban g member.user.id (days.getD 0).toUInt64.toUInt8 (reasonOr reason)))
    (hsend : ∀ reply, P (.send reply)) : (ban ctx member days reason).Only P := by
  unfold ban
  dsimp only
  split
  · exact only_say hsend
  · rename_i secs hdays
    refine only_authorize_bind hbot hmember hguild fun d => ?_
    cases d with
    | error e => exact only_say hsend
    | ok u => exact only_guild_bind fun g _ => only_ask_say (heffect g secs hdays) hsend

theorem only_mute {member : Member} {duration : String} (hbot : P .currentUser) (hmember : ∀ g, P (.member g ctx.author.id))
    (hguild : ∀ g, P (.cachedGuild g)) (hnow : P .now) (hstamp : ∀ secs, P (.fromUnixTimestamp secs))
    (heffect : ∀ t, P (.disableCommunicationUntil member.guildId member.user.id t)) (hsend : ∀ reply, P (.send reply)) :
    (mute ctx member duration).Only P := by
  unfold mute
  split
  · exact only_say hsend
  · refine only_authorize_bind hbot hmember hguild fun d => ?_
    cases d with
    | error e => exact only_say hsend
    | ok u =>
      rw [muteDecided_ok]
      exact ((only_perform _ _).2 hnow).bind fun clock => ((only_perform _ _).2 (hstamp _)).bind fun t => only_ask_say (heffect t) hsend

theorem only_unban {user : User} (heffect : ∀ g, ctx.guildId = some g → P (.unban g user.id))
    (hsend : ∀ reply, P (.send reply)) : (unban ctx user).Only P :=
  only_guild_bind fun g hg => only_ask_say (heffect g hg) hsend

theorem only_unmute {member : Member} (heffect : P (.enableCommunication member.guildId member.user.id))
    (hsend : ∀ reply, P (.send reply)) : (unmute ctx member).Only P :=
  only_ask_say heffect hsend

/-- A reply that depends on whether there is something to report. -/
theorem only_summary {c : Prop} [Decidable c] {nothing something : String} (hsend : ∀ reply, P (.send reply)) :
    (if c then say nothing else say something).Only P := by
  split <;> exact only_say hsend

/-! ### The edits of the allowlist -/

/-- Edit the entry of an argument, if the argument is given; its label, if there is something to report. -/
def editGiven (edit : Entity → Bot Nat) : Option (Entity × String) → Bot (List String)
  | none => pure []
  | some (e, label) => do
    let n ← edit e
    pure (if n > 0 then [label] else [])

/-- What `/allow` and `/disallow` have in common: the entries of the user and of the role are edited, and a reply reports it. -/
def editAllowlist (ctx : Ctx) (edit : UInt64 → Entity → Bot Nat) (reply : List String → String) (user : Option User)
    (role : Option Role) : Bot Unit := do
  let g ← ctx.guild
  let users ← editGiven (edit g) (user.map fun u => (.user u.id, u.label))
  let roles ← editGiven (edit g) (role.map fun r => (.role r.id, r.label))
  say (reply (users ++ roles))

theorem say_addedReply (added : List String) : say (addedReply added) =
    if added = [] then say "Specify a user and/or a role to allow."
    else say ("✅ Added to the moderation allowlist: " ++ joinWith ", " added ++ ".") := apply_ite say _ _ _

theorem say_removedReply (removed : List String) : say (removedReply removed) =
    if removed = [] then say "Nothing removed — specify a user and/or role currently on the allowlist."
    else say ("🗑️ Removed from the moderation allowlist: " ++ joinWith ", " removed ++ ".") := apply_ite say _ _ _

theorem allow_eq (ctx : Ctx) (user : Option User) (role : Option Role) : allow ctx user role =
    editAllowlist ctx (fun g e => do addEntry g e.kind e.id ctx.author.id; pure 1) addedReply user role := by
  unfold allow editAllowlist
  refine congrArg (ctx.guild >>= ·) (funext fun g => ?_)
  cases user <;> cases role <;>
    simp only [editGiven, Option.map_none, Option.map_some, Prog.bind_assoc, Prog.pure_bind, say_addedReply] <;> rfl

theorem disallow_eq (ctx : Ctx) (user : Option User) (role : Option Role) : disallow ctx user role =
    editAllowlist ctx (fun g e => removeEntry g e.kind e.id) removedReply user role := by
  unfold disallow editAllowlist
  refine congrArg (ctx.guild >>= ·) (funext fun g => ?_)
  cases user <;> cases role <;>
    simp only [editGiven, Option.map_none, Option.map_some, Prog.bind_assoc, Prog.pure_bind, say_removedReply] <;> rfl

theorem only_editAllowlist {edit : UInt64 → Entity → Bot Nat} {reply : List String → String} {user : Option User}
    {role : Option Role} (hsend : ∀ reply, P (.send reply))
    (hedit : ∀ g, ctx.guildId = some g → ∀ e ∈ named user role, (edit g e).Only P) :
    (editAllowlist ctx edit reply user role).Only P := by
  have hgiven : ∀ g, ctx.guildId = some g → ∀ o : Option (Entity × String), (∀ x ∈ o, x.1 ∈ named user role) →
      (editGiven (edit g) o).Only P := by
    intro g hg o ho
    cases o with
    | none => trivial
    | some x => exact (hedit g hg x.1 (ho x rfl)).bind fun _ => trivial
  refine only_guild_bind fun g hg => (hgiven g hg _ ?_).bind fun _ => (hgiven g hg _ ?_).bind fun _ => only_say hsend
  · intro x hx
    obtain ⟨u, rfl, rfl⟩ := Option.map_eq_some_iff.1 hx
    simp [named]
  · intro x hx
    obtain ⟨r, rfl, rfl⟩ := Option.map_eq_some_iff.1 hx
    simp [named]

theorem only_allow {user : Option User} {role : Option Role} (hsend : ∀ reply, P (.send reply))
    (heffect : ∀ g, ctx.guildId = some g → ∀ e ∈ named user role,
      P (.insertAllowed (AllowlistTable.entryRow g e ctx.author.id))) :
    (allow ctx user role).Only P := by
  rw [allow_eq]
  exact only_editAllowlist hsend fun g hg e he => ((only_perform _ _).2 (heffect g hg e he)).bind fun _ => trivial

theorem only_disallow {user : Option User} {role : Option Role} (hsend : ∀ reply, P (.send reply))
    (heffect : ∀ g, ctx.guildId = some g → ∀ e ∈ named user role, P (.deleteAllowed g.toInt64 e.kind e.id.toInt64)) :
    (disallow ctx user role).Only P := by
  rw [disallow_eq]
  exact only_editAllowlist hsend fun g hg e he => (only_perform _ _).2 (heffect g hg e he)

theorem only_showAllowlist {iter : IterOrder} (hread : ∀ g, P (.selectAllowed g)) (hsend : ∀ reply, P (.send reply)) :
    (showAllowlist iter ctx).Only P := by
  refine only_guild_bind fun g hg => Only.bind ?_ fun sets => only_summary hsend
  exact ((only_perform _ _).2 (hread _)).bind fun _ => trivial

/-- The row a link of the invocation inserts. -/
def Ctx.route (ctx : Ctx) (g channel : UInt64) (remoteChatId : String) : RouteRow :=
  ⟨g.toInt64, channel.toInt64, Platform.telegram.asI16, trim remoteChatId, ctx.author.id.toInt64⟩

theorem only_replyOrPropagate {e : Error} {ephemeral : Bool} (hsend : ∀ reply, P (.send reply)) :
    (replyOrPropagate e ephemeral).Only P := by
  cases e with
  | proxy pe => exact (only_perform _ _).2 (hsend _)
  | database code => trivial
  | other text => trivial

theorem only_proxyLink {channel : UInt64} {remoteChatId : String}
    (heffect : ∀ g, ctx.guildId = some g → P (.insertRoute (ctx.route g channel remoteChatId)))
    (hsend : ∀ reply, P (.send reply)) : (ProxyCommand.link ctx channel remoteChatId).Only P := by
  refine only_guild_bind fun g hg => Only.bind (Only.attempt ?_) fun r => ?_
  · refine Only.bind (Only.attempt ((only_perform _ _).2 (heffect g hg))) fun r => ?_
    cases r with
    | ok u => trivial
    | error e =>
      dsimp only
      split <;> trivial
  · cases r with
    | ok u => exact (only_perform _ _).2 (hsend _)
    | error e => exact only_replyOrPropagate hsend

theorem only_proxyUnlink {channel : UInt64}
    (heffect : ∀ g, ctx.guildId = some g → P (.deleteRoute g.toInt64 channel.toInt64 Platform.telegram.asI16))
    (hsend : ∀ reply, P (.send reply)) : (ProxyCommand.unlink ctx channel).Only P := by
  refine only_guild_bind fun g hg => ((only_perform _ _).2 (heffect g hg)).bind fun n => only_summary hsend

theorem only_proxyList (hread : ∀ g, P (.selectRoutes g)) (hsend : ∀ reply, P (.send reply)) :
    (ProxyCommand.list ctx).Only P := by
  refine only_guild_bind fun g hg => Only.bind ?_ fun routes => ?_
  · exact ((only_perform _ _).2 (hread _)).bind fun _ => trivial
  · split
    · exact only_say hsend
    · exact (only_perform _ _).2 (hsend _)

theorem only_proxyTest {remoteChatId author text : String} {avatarUrl : Option String}
    (hinbound : ∀ q : Request, q.inbound = true → P q) (hsend : ∀ reply, P (.send reply)) :
    (ProxyCommand.proxyTest remoteChatId author text avatarUrl).Only P := by
  refine Only.bind (Only.attempt ((only_deliverInbound _ _ _).mono hinbound)) fun r => ?_
  cases r with
  | ok u => exact (only_perform _ _).2 (hsend _)
  | error e => exact only_replyOrPropagate hsend

/-! ### Events, and the commands beyond the core -/

theorem only_eventHandler {e : FullEvent} (hbot : P .currentUser) (hread : ∀ c, P (.selectRemote c))
    (hsend : ∀ m, P (.egress m)) : (eventHandler e).Only P := by
  cases e with
  | ready => trivial
  | other => trivial
  | message m =>
    refine Only.bind ((only_perform _ _).2 hbot) fun botId => ?_
    split
    · refine Only.bind (((only_perform _ _).2 (hread _)).bind fun _ => trivial) fun route => ?_
      cases route with
      | none => trivial
      | some route => exact (only_perform _ _).2 (hsend _)
    · trivial

section

variable {P : BotRequest → Prop}

theorem only_core {p : Bot α} (h : p.Only fun q => P (.core q)) : (core p).Only P := by
  induction p with
  | done r => trivial
  | call q k ih => exact ⟨h.1, fun r => ih _ (h.2 _)⟩

theorem only_core_guild_bind {f : UInt64 → Handler α} (h : ∀ g, ctx.guildId = some g → (f g).Only P) :
    (core ctx.guild >>= f).Only P := by
  unfold Ctx.guild
  cases hg : ctx.guildId with
  | none => trivial
  | some g => exact h g hg

theorem only_poll {question options : String} {duration : Option String} {multiple : Option Bool}
    (hpoll : ∀ poll, P (.sendPoll poll)) (hsend : ∀ reply, P (.core (.send reply))) :
    (PollCommand.poll ctx question options duration multiple).Only P := by
  unfold PollCommand.poll
  split
  · exact (only_perform _ _).2 (hsend _)
  · split
    · exact (only_perform _ _).2 (hsend _)
    · split
      · exact (only_perform _ _).2 (hsend _)
      · exact (only_perform _ _).2 (hpoll _)

theorem only_join {channel : Option UInt64} (hread : ∀ g, P (.voiceChannel g ctx.author.id)) (hmanager : P .voiceManager)
    (heffect : ∀ g c, ctx.guildId = some g → P (.joinGateway g c)) (hsend : ∀ reply, P (.core (.send reply))) :
    (VoiceCommand.join ctx channel).Only P := by
  refine only_core_guild_bind fun g hg => ((only_perform _ _).2 (hread g)).bind fun cached => ?_
  cases cached with
  | none => trivial
  | some invokerVc =>
    dsimp only
    split
    · exact (only_perform _ _).2 (hsend _)
    · refine ((only_perform _ _).2 hmanager).bind fun manager => ?_
      split
      · refine ((only_perform _ _).2 (heffect g _ hg)).bind fun result => ?_
        cases result <;> exact (only_perform _ _).2 (hsend _)
      · trivial

theorem only_leave (hmanager : P .voiceManager) (heffect : ∀ g, ctx.guildId = some g → P (.removeCall g))
    (hsend : ∀ reply, P (.core (.send reply))) : (VoiceCommand.leave ctx).Only P := by
  refine only_core_guild_bind fun g hg => ((only_perform _ _).2 hmanager).bind fun manager => ?_
  split
  · refine ((only_perform _ _).2 (heffect g hg)).bind fun result => ?_
    cases result with
    | ok u => exact (only_perform _ _).2 (hsend _)
    | error e =>
      dsimp only
      split <;> exact (only_perform _ _).2 (hsend _)
  · trivial

end

end ModerationBot
