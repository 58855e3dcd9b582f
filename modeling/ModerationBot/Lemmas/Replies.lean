import ModerationBot.Commands.Proxy
import ModerationBot.Lemmas.Allowlist
import ModerationBot.Lemmas.Moderation

/-!
# What the commands reply

The replies of the commands that echo names, free text or stored values. Each reply is one of the fixed texts (`Canned`), or the
one reply of the command that echoes (`Echoes`), which is issued in some execution whenever its condition holds.
-/

namespace ModerationBot

/-- The commands whose replies echo something. -/
inductive ReplyCommand where
  | kick (member : Member) (reason : Option String)
  | ban (member : Member) (deleteMessageDays : Option Int64) (reason : Option String)
  | allow (user : Option User) (role : Option Role)
  | disallow (user : Option User) (role : Option Role)
  | showAllowlist (iter : IterOrder)
  | proxyLink (channel : UInt64) (remoteChatId : String)
  | proxyList

/-- The handler of a command. -/
def ReplyCommand.handler (ctx : Ctx) : ReplyCommand → Bot Unit
  | .kick member reason => ModerationBot.kick ctx member reason
  | .ban member days reason => ModerationBot.ban ctx member days reason
  | .allow user role => ModerationBot.allow ctx user role
  | .disallow user role => ModerationBot.disallow ctx user role
  | .showAllowlist iter => ModerationBot.showAllowlist iter ctx
  | .proxyLink channel remoteChatId => ProxyCommand.link ctx channel remoteChatId
  | .proxyList => ProxyCommand.list ctx

/-- Some execution of the command, whatever fails, sends the reply. -/
def MayReply (w : World) (ctx : Ctx) (command : ReplyCommand) (reply : CreateReply) : Prop :=
  Prog.MayIssue serve (command.handler ctx) w (.send reply)

/-- The texts that echo nothing. -/
inductive Canned : String → Prop
  | modError (e : ModError) : Canned e.display
  | proxyError (e : ProxyError) : Canned e.display
  | nothingToAllow : Canned "Specify a user and/or a role to allow."
  | nothingRemoved : Canned "Nothing removed — specify a user and/or role currently on the allowlist."
  | emptyAllowlist : Canned "The moderation allowlist is empty. Add entries with `/allow`."
  | noRoutes : Canned "No proxy routes. Add one with `/proxy link`."

/-- The row `/proxy link` inserts. -/
def linkRow (ctx : Ctx) (g channel : UInt64) (remoteChatId : String) : RouteRow :=
  ⟨g.toInt64, channel.toInt64, Platform.telegram.asI16, trim remoteChatId, ctx.author.id.toInt64⟩

/-- The confirmation of a kick or a ban. -/
def actedReply (verb : String) (member : Member) (reason : Option String) : String :=
  verb ++ " " ++ member.user.name ++ " (" ++ reasonOr reason ++ ")."

/-- The listing of the allowlist of a guild. -/
def allowlistReply (iter : IterOrder) (sets : AllowedSets) : String :=
  if sets.users = ∅ ∧ sets.roles = ∅ then "The moderation allowlist is empty. Add entries with `/allow`."
  else "**Moderation allowlist**\nUsers: " ++ formatIds iter sets.users ++ "\nRoles: " ++ formatIds iter sets.roles

/-- The reply of an accepted `/proxy link`. -/
def linkedReply (channel : UInt64) (remoteChatId : String) : CreateReply where
  content := "✅ Linked <#" ++ toString channel ++ "> ⇄ " ++ Platform.telegram.label ++ " chat `" ++
    trim remoteChatId ++ "`."
  allowedMentions := some .new

/-- The reply of `/proxy list`. -/
def routesReply (routes : List ProxyRoute) : CreateReply :=
  if routes = [] then { content := "No proxy routes. Add one with `/proxy link`." }
  else {
    content := "**Proxy routes**\n" ++ joinWith "\n" (routes.map ProxyCommand.line)
    allowedMentions := some .new }

/-- The replies that echo, with their conditions. -/
def ReplyCommand.Echoes (w : World) (ctx : Ctx) (reply : CreateReply) : ReplyCommand → Prop
  | .kick member reason => Permitted w ctx member ∧ reply = { content := actedReply "Kicked" member reason }
  | .ban member days reason => (0 ≤ days.getD 0 ∧ days.getD 0 ≤ 7) ∧ Permitted w ctx member ∧
      w.refusesReason (reasonOr reason) = false ∧ reply = { content := actedReply "Banned" member reason }
  | .allow user role => ctx.guildId ≠ none ∧ labels (fun _ => true) user role ≠ [] ∧
      reply = { content := addedReply (labels (fun _ => true) user role) }
  | .disallow user role => ∃ g, ctx.guildId = some g ∧
      labels (fun e => decide (w.allowlist.Holds g e)) user role ≠ [] ∧
        reply = { content := removedReply (labels (fun e => decide (w.allowlist.Holds g e)) user role) }
  | .showAllowlist iter => ∃ g, ctx.guildId = some g ∧
      ¬((w.allowlist.fetched g).users = ∅ ∧ (w.allowlist.fetched g).roles = ∅) ∧
        reply = { content := allowlistReply iter (w.allowlist.fetched g) }
  | .proxyLink channel remoteChatId => ∃ g, ctx.guildId = some g ∧
      (∀ row ∈ w.routes.rows, ¬row.Conflict (linkRow ctx g channel remoteChatId)) ∧
        reply = linkedReply channel remoteChatId
  | .proxyList => ∃ g, ctx.guildId = some g ∧ w.routes.listed g ≠ [] ∧ reply = routesReply (w.routes.listed g)

/-! ## The replies of each command -/

section Replies

variable {w : World} {ctx : Ctx} {reply : CreateReply}

theorem mayIssue_say_iff {text : String} :
    Prog.MayIssue serve (say text) w (.send reply) ↔ reply = { content := text } := by
  rw [say, ask, Prog.mayIssue_perform_iff, Request.send.injEq]

/-! ### Kick and ban -/

/-- A refusal replies with the text of its error; what else a moderation command replies, it replies as permitted. -/
theorem mayIssue_authorize {target : Member} {f : Except ModError Unit → Bot Unit} (hf : ∀ e, f (.error e) = replyErr e)
    (h : Prog.MayIssue serve (authorize ctx target >>= f) w (.send reply)) :
    Canned reply.content ∨ Permitted w ctx target ∧ Prog.MayIssue serve (f (.ok ())) w (.send reply) := by
  have honly : (authorize ctx target).Only (fun q => q ≠ .send reply) := by
    refine (only_authorize ctx target).mono fun q hq hs => ?_
    rw [hs] at hq
    cases hq
  obtain ⟨d, l, w', hd, h⟩ := (Prog.mayIssue_bind_iff honly).1 h
  obtain ⟨g, guild, actor, hg, ha, hguild, rfl, rfl⟩ := exec_authorize hd
  cases hok : checkModerationAllowed (w'.facts guild ctx.author.id actor target) with
  | ok _ =>
    rw [hok] at h
    exact Or.inr ⟨⟨g, guild, actor, hg, ha, hguild, hok⟩, h⟩
  | error e =>
    rw [hok, hf, replyErr, mayIssue_say_iff] at h
    rw [h]
    exact Or.inl (Canned.modError e)

/-- What a moderation command may reply as permitted, it may reply. -/
theorem Permitted.mayIssue {target : Member} (hp : Permitted w ctx target) {f : Except ModError Unit → Bot Unit}
    (h : Prog.MayIssue serve (f (.ok ())) w (.send reply)) :
    Prog.MayIssue serve (authorize ctx target >>= f) w (.send reply) := by
  obtain ⟨g, guild, actor, hg, ha, hguild, hok⟩ := hp
  have hrun := Prog.exec_run serve (authorize ctx target) w
  rw [run_authorize hg ha hguild, hok] at hrun
  obtain ⟨l, r, w', hexec, hmem⟩ := h
  exact ⟨_, _, _, Prog.exec_bind_iff.2 (Or.inr ⟨_, _, _, _, hrun, hexec, rfl⟩), List.mem_append_right _ hmem⟩

/-- What is permitted is permitted in a guild. -/
theorem Permitted.guild {target : Member} (hp : Permitted w ctx target) : ∃ g, ctx.guildId = some g := by
  obtain ⟨g, _, _, hg, -⟩ := hp
  exact ⟨g, hg⟩

/-- After the kick, the kick is confirmed. -/
theorem mayIssue_kicked_iff {g u : UInt64} {reason text : String} :
    Prog.MayIssue serve (ask (.kick g u reason) >>= fun _ => say text) w (.send reply) ↔ reply = { content := text } := by
  rw [Prog.mayIssue_perform_bind_iff (by simp)]
  simp [mayIssue_say_iff]

/-- After a ban for a reason that the client takes, the ban is confirmed. -/
theorem mayIssue_banned_iff {g u : UInt64} {days : UInt8} {reason text : String} :
    Prog.MayIssue serve (ask (.ban g u days reason) >>= fun _ => say text) w (.send reply) ↔
      w.refusesReason reason = false ∧ reply = { content := text } := by
  rw [Prog.mayIssue_perform_bind_iff (by simp), serve_ban]
  cases w.refusesReason reason with
  | false => simp [mayIssue_say_iff]
  | true => simp

/-- `/kick` refuses, or it confirms what is permitted. -/
theorem mayReply_kick {member : Member} {reason : Option String} (h : MayReply w ctx (.kick member reason) reply) :
    Canned reply.content ∨ (ReplyCommand.kick member reason).Echoes w ctx reply := by
  refine (mayIssue_authorize (fun _ => rfl) h).imp_right ?_
  intro h
  obtain ⟨hp, h⟩ := h
  exact ⟨hp, mayIssue_kicked_iff.1 h⟩

/-- A permitted `/kick` may confirm. -/
theorem mayReply_of_echoes_kick {member : Member} {reason : Option String}
    (h : (ReplyCommand.kick member reason).Echoes w ctx reply) : MayReply w ctx (.kick member reason) reply := by
  obtain ⟨hp, hr⟩ := h
  exact hp.mayIssue (mayIssue_kicked_iff.2 hr)

/-- `/ban` refuses, or it confirms what is permitted. -/
theorem mayReply_ban {member : Member} {days : Option Int64} {reason : Option String}
    (h : MayReply w ctx (.ban member days reason) reply) :
    Canned reply.content ∨ (ReplyCommand.ban member days reason).Echoes w ctx reply := by
  simp only [MayReply, ReplyCommand.handler, ban, validateBanDeleteDays] at h
  by_cases hd : 0 ≤ days.getD 0 ∧ days.getD 0 ≤ 7
  · rw [if_pos hd] at h
    refine (mayIssue_authorize (fun _ => rfl) h).imp_right ?_
    intro h
    obtain ⟨hp, h⟩ := h
    obtain ⟨g, hg⟩ := hp.guild
    simp only [banDecided, Ctx.guild, hg, Prog.pure_bind] at h
    exact ⟨hd, hp, mayIssue_banned_iff.1 h⟩
  · rw [if_neg hd] at h
    left
    rw [mayIssue_say_iff.1 h]
    exact Canned.modError .invalidBanDeleteDays

/-- A permitted `/ban` may confirm. -/
theorem mayReply_of_echoes_ban {member : Member} {days : Option Int64} {reason : Option String}
    (h : (ReplyCommand.ban member days reason).Echoes w ctx reply) : MayReply w ctx (.ban member days reason) reply := by
  obtain ⟨hd, hp, hr⟩ := h
  obtain ⟨g, hg⟩ := hp.guild
  simp only [MayReply, ReplyCommand.handler, ban, validateBanDeleteDays]
  rw [if_pos hd]
  refine hp.mayIssue ?_
  simp only [banDecided, Ctx.guild, hg, Prog.pure_bind]
  exact mayIssue_banned_iff.2 hr

/-! ### The allowlist -/

theorem failFast_guild (ctx : Ctx) : ctx.guild.FailFast := by
  unfold Ctx.guild
  cases ctx.guildId <;> trivial

theorem failFast_say (text : String) : (say text).FailFast := by simp [say]

/-- The last reply of `/disallow`. -/
theorem failFast_summary (labels : List String) (nothing something : String) :
    (if labels = [] then say nothing else say something).FailFast :=
  (failFast_say nothing).ite (failFast_say something)

theorem failFast_allow (ctx : Ctx) (user : Option User) (role : Option Role) : (allow ctx user role).FailFast := by
  unfold allow
  refine (failFast_guild ctx).bind fun g => ?_
  have hadd : ∀ k e by_, (addEntry g k e by_).FailFast := fun _ _ _ => Prog.failFast_perform _
  cases user with
  | none =>
    cases role with
    | none => exact failFast_say _
    | some r => exact (hadd _ _ _).bind fun _ => failFast_say _
  | some u =>
    cases role with
    | none => exact (hadd _ _ _).bind fun _ => failFast_say _
    | some r => exact (hadd _ _ _).bind fun _ => (hadd _ _ _).bind fun _ => failFast_say _

theorem failFast_disallow (ctx : Ctx) (user : Option User) (role : Option Role) : (disallow ctx user role).FailFast := by
  unfold disallow
  refine (failFast_guild ctx).bind fun g => ?_
  have hremove : ∀ k e, (removeEntry g k e).FailFast := fun _ _ => Prog.failFast_perform _
  cases user with
  | none =>
    cases role with
    | none => exact failFast_say _
    | some r => exact (hremove _ _).bind fun n => failFast_summary ([] ++ if n > 0 then [r.label] else []) _ _
  | some u =>
    cases role with
    | none => exact (hremove _ _).bind fun n => failFast_summary ((if n > 0 then [u.label] else []) ++ []) _ _
    | some r =>
      exact (hremove _ _).bind fun n => (hremove _ _).bind fun m =>
        failFast_summary ((if n > 0 then [u.label] else []) ++ if m > 0 then [r.label] else []) _ _

theorem failFast_showAllowlist (iter : IterOrder) (ctx : Ctx) : (showAllowlist iter ctx).FailFast := by
  unfold showAllowlist
  refine (failFast_guild ctx).bind fun g => Prog.FailFast.bind ?_ fun allowed => (failFast_say _).ite (failFast_say _)
  exact Prog.FailFast.bind (Prog.failFast_perform _) fun _ => Prog.failFast_pure _

theorem failFast_proxyList (ctx : Ctx) : (ProxyCommand.list ctx).FailFast := by
  unfold ProxyCommand.list
  refine (failFast_guild ctx).bind fun g => Prog.FailFast.bind ?_ fun routes =>
    (failFast_say _).ite (Prog.failFast_perform _)
  exact Prog.FailFast.bind (Prog.failFast_perform _) fun _ => Prog.failFast_pure _

/-- A program that needs a guild issues nothing outside of one. -/
theorem issued_guild_bind {α : Type} (hg : ctx.guildId = none) (f : UInt64 → Bot α) :
    ((ctx.guild >>= f).run serve w).issued = [] := by
  simp [Ctx.guild, hg, Prog.run_bind, Outcome.andThen]

/-- `/allow` replies in a guild, with the labels it was given. -/
theorem mayReply_allow_iff {user : Option User} {role : Option Role} :
    MayReply w ctx (.allow user role) reply ↔
      ctx.guildId ≠ none ∧ reply = { content := addedReply (labels (fun _ => true) user role) } := by
  rw [MayReply, ReplyCommand.handler, (failFast_allow ctx user role).mayIssue_iff]
  cases hg : ctx.guildId with
  | none =>
    have hissued : ((allow ctx user role).run serve w).issued = [] := issued_guild_bind hg _
    simp [hissued]
  | some g => simp [run_allow hg]

/-- `/disallow` replies in a guild, with the labels of the entries the allowlist had. -/
theorem mayReply_disallow_iff {user : Option User} {role : Option Role} :
    MayReply w ctx (.disallow user role) reply ↔
      ∃ g, ctx.guildId = some g ∧
        reply = { content := removedReply (labels (fun e => decide (w.allowlist.Holds g e)) user role) } := by
  rw [MayReply, ReplyCommand.handler, (failFast_disallow ctx user role).mayIssue_iff]
  cases hg : ctx.guildId with
  | none =>
    have hissued : ((disallow ctx user role).run serve w).issued = [] := issued_guild_bind hg _
    simp [hissued]
  | some g =>
    have hon : ∀ e, decide (w.allowlist.Holds g e) = true ↔ w.allowlist.Holds g e := fun e => decide_eq_true_iff
    simp [run_disallow hg user role hon]

/-- `/allowlist` replies in a guild, with its listing. -/
theorem mayReply_showAllowlist_iff {iter : IterOrder} :
    MayReply w ctx (.showAllowlist iter) reply ↔
      ∃ g, ctx.guildId = some g ∧ reply = { content := allowlistReply iter (w.allowlist.fetched g) } := by
  rw [MayReply, ReplyCommand.handler, (failFast_showAllowlist iter ctx).mayIssue_iff]
  cases hg : ctx.guildId with
  | none =>
    have hissued : ((showAllowlist iter ctx).run serve w).issued = [] := issued_guild_bind hg _
    simp [hissued]
  | some g =>
    by_cases he : (w.allowlist.fetched g).users = ∅ ∧ (w.allowlist.fetched g).roles = ∅ <;>
      simp [showAllowlist, Ctx.guild, hg, Prog.run_bind, Outcome.andThen, say, allowlistReply, he]

/-! ### The routes -/

/-- `/proxy list` replies in a guild, with the routes of the guild. -/
theorem mayReply_proxyList_iff :
    MayReply w ctx .proxyList reply ↔ ∃ g, ctx.guildId = some g ∧ reply = routesReply (w.routes.listed g) := by
  rw [MayReply, ReplyCommand.handler, (failFast_proxyList ctx).mayIssue_iff]
  cases hg : ctx.guildId with
  | none =>
    have hissued : ((ProxyCommand.list ctx).run serve w).issued = [] := issued_guild_bind hg _
    simp [hissued]
  | some g =>
    by_cases he : w.routes.listed g = [] <;>
      simp [ProxyCommand.list, Ctx.guild, hg, Prog.run_bind, Outcome.andThen, say, routesReply, he]

/-- What was linked without an error is in conflict with no row. -/
theorem exec_link_ok {g c createdBy : UInt64} {p : Platform} {r : String} {l : List Request} {w' : World}
    (h : Prog.Exec serve (Routes.link g c p r createdBy) w l (.ok ()) w') :
    ∀ row ∈ w.routes.rows, ¬row.Conflict ⟨g.toInt64, c.toInt64, p.asI16, r, createdBy.toInt64⟩ := by
  intro row hrow hc
  have hnone := Table.insert_eq_none_iff.2 ⟨row, hrow, hc⟩
  unfold Routes.link at h
  obtain ⟨res, l₁, l₂, w₁, hask, hrest, -⟩ := Prog.exec_bind_ok_iff.1 h
  obtain ⟨r₀, hr₀, hins⟩ := Prog.exec_attempt_iff.1 hask
  cases res with
  | error e =>
    dsimp only at hrest
    split at hrest
    · cases (Prog.exec_throw_iff.1 hrest).2.1
    · cases (Prog.exec_throw_iff.1 hrest).2.1
  | ok u =>
    cases hr₀
    obtain ⟨-, hserved, -⟩ := Prog.exec_perform_ok_iff.1 hins
    simp [hnone] at hserved

/-- A link sends no reply. -/
theorem only_link (g c : UInt64) (p : Platform) (r : String) (createdBy : UInt64) :
    (Routes.link g c p r createdBy).Only (fun q => q ≠ .send reply) := by
  unfold Routes.link
  refine Prog.Only.bind (Prog.Only.attempt (by simp)) fun result => ?_
  cases result with
  | ok _ => trivial
  | error e =>
    dsimp only
    split
    · trivial
    · trivial

/-- `/proxy link` reports an error, or it confirms a link in conflict with none. -/
theorem mayReply_proxyLink {channel : UInt64} {remoteChatId : String}
    (h : MayReply w ctx (.proxyLink channel remoteChatId) reply) :
    Canned reply.content ∨ (ReplyCommand.proxyLink channel remoteChatId).Echoes w ctx reply := by
  simp only [MayReply, ReplyCommand.handler, ProxyCommand.link, Ctx.guild] at h
  cases hg : ctx.guildId with
  | none =>
    rw [hg] at h
    exact absurd h Prog.not_mayIssue_done
  | some g =>
    simp only [hg, Prog.pure_bind] at h
    obtain ⟨r, l, w', hlink, h⟩ := (Prog.mayIssue_bind_iff (only_link _ _ _ _ _).attempt).1 h
    obtain ⟨r₀, hr₀, hexec⟩ := Prog.exec_attempt_iff.1 hlink
    cases hr₀
    cases r with
    | ok u =>
      right
      exact ⟨g, hg, exec_link_ok hexec, Request.send.inj (Prog.mayIssue_perform_iff.1 h)⟩
    | error e =>
      left
      cases e with
      | proxy pe =>
        rw [Request.send.inj (Prog.mayIssue_perform_iff.1 h)]
        exact Canned.proxyError pe
      | database code => exact absurd h Prog.not_mayIssue_done
      | other text => exact absurd h Prog.not_mayIssue_done

/-- A `/proxy link` in conflict with none may confirm. -/
theorem mayReply_of_echoes_proxyLink {channel : UInt64} {remoteChatId : String}
    (h : (ReplyCommand.proxyLink channel remoteChatId).Echoes w ctx reply) :
    MayReply w ctx (.proxyLink channel remoteChatId) reply := by
  obtain ⟨g, hg, hfree, rfl⟩ := h
  obtain ⟨t, ht⟩ := Table.exists_insert hfree
  have hrun := Prog.exec_run serve (Routes.link g channel .telegram (trim remoteChatId) ctx.author.id) w
  rw [linkRow] at ht
  simp only [Routes.run_link, ht] at hrun
  simp only [MayReply, ReplyCommand.handler, ProxyCommand.link, Ctx.guild, hg, Prog.pure_bind]
  rw [Prog.mayIssue_bind_iff (only_link _ _ _ _ _).attempt]
  exact ⟨_, _, _, Prog.exec_attempt_iff.2 ⟨_, rfl, hrun⟩, Prog.mayIssue_perform_iff.2 rfl⟩

/-! ### All of them -/

/-- A reply echoes nothing, or it is the one that does. -/
theorem MayReply.canned_or_echoes {command : ReplyCommand} (h : MayReply w ctx command reply) :
    Canned reply.content ∨ command.Echoes w ctx reply := by
  cases command with
  | kick member reason => exact mayReply_kick h
  | ban member days reason => exact mayReply_ban h
  | allow user role =>
    obtain ⟨hg, rfl⟩ := mayReply_allow_iff.1 h
    by_cases hl : labels (fun _ => true) user role = []
    · rw [hl]
      exact Or.inl Canned.nothingToAllow
    · exact Or.inr ⟨hg, hl, rfl⟩
  | disallow user role =>
    obtain ⟨g, hg, rfl⟩ := mayReply_disallow_iff.1 h
    by_cases hl : labels (fun e => decide (w.allowlist.Holds g e)) user role = []
    · rw [hl]
      exact Or.inl Canned.nothingRemoved
    · exact Or.inr ⟨g, hg, hl, rfl⟩
  | showAllowlist iter =>
    obtain ⟨g, hg, rfl⟩ := mayReply_showAllowlist_iff.1 h
    by_cases he : (w.allowlist.fetched g).users = ∅ ∧ (w.allowlist.fetched g).roles = ∅
    · rw [allowlistReply, if_pos he]
      exact Or.inl Canned.emptyAllowlist
    · exact Or.inr ⟨g, hg, he, rfl⟩
  | proxyLink channel remoteChatId => exact mayReply_proxyLink h
  | proxyList =>
    obtain ⟨g, hg, rfl⟩ := mayReply_proxyList_iff.1 h
    by_cases he : w.routes.listed g = []
    · rw [routesReply, if_pos he]
      exact Or.inl Canned.noRoutes
    · exact Or.inr ⟨g, hg, he, rfl⟩

/-- The reply that echoes is sent in some execution. -/
theorem ReplyCommand.Echoes.mayReply {command : ReplyCommand} (h : command.Echoes w ctx reply) :
    MayReply w ctx command reply := by
  cases command with
  | kick member reason => exact mayReply_of_echoes_kick h
  | ban member days reason => exact mayReply_of_echoes_ban h
  | allow user role => exact mayReply_allow_iff.2 ⟨h.1, h.2.2⟩
  | disallow user role =>
    obtain ⟨g, hg, -, hr⟩ := h
    exact mayReply_disallow_iff.2 ⟨g, hg, hr⟩
  | showAllowlist iter =>
    obtain ⟨g, hg, -, hr⟩ := h
    exact mayReply_showAllowlist_iff.2 ⟨g, hg, hr⟩
  | proxyLink channel remoteChatId => exact mayReply_of_echoes_proxyLink h
  | proxyList =>
    obtain ⟨g, hg, -, hr⟩ := h
    exact mayReply_proxyList_iff.2 ⟨g, hg, hr⟩

/-- A law that the canned texts keep is kept by every reply of a command exactly when the reply that echoes keeps it. -/
theorem forall_mayReply_iff {Good : CreateReply → Prop} (hcanned : ∀ reply, Canned reply.content → Good reply)
    (command : ReplyCommand) :
    (∀ reply, MayReply w ctx command reply → Good reply) ↔ ∀ reply, command.Echoes w ctx reply → Good reply := by
  constructor
  · intro h reply he
    exact h reply he.mayReply
  · intro h reply hm
    rcases hm.canned_or_echoes with hc | he
    · exact hcanned reply hc
    · exact h reply he

/-- A law of the reply sent under a condition. -/
theorem forall_sent_iff {A : Prop} {sent : CreateReply} {Good : CreateReply → Prop} :
    (∀ reply, A ∧ reply = sent → Good reply) ↔ (A → Good sent) := by
  constructor
  · exact fun h hA => h sent ⟨hA, rfl⟩
  · rintro h reply ⟨hA, rfl⟩
    exact h hA

/-- A law of the reply sent in a guild under a condition. -/
theorem forall_sent_guild_iff {A : UInt64 → Prop} {sent : UInt64 → CreateReply} {Good : CreateReply → Prop} :
    (∀ reply, (∃ g, ctx.guildId = some g ∧ A g ∧ reply = sent g) → Good reply) ↔
      ∀ g, ctx.guildId = some g → A g → Good (sent g) := by
  constructor
  · exact fun h g hg hA => h (sent g) ⟨g, hg, hA, rfl⟩
  · rintro h reply ⟨g, hg, hA, rfl⟩
    exact h g hg hA

end Replies

end ModerationBot
