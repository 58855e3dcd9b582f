import ModerationBot.Lemmas.Bridge
import ModerationBot.Lemmas.Handlers
import ModerationBot.Lemmas.System
import ModerationBot.Theorems.Polls

namespace ModerationBot

open Prog

variable {guildOf : UInt64 → UInt64}

/-! ## Who may cause an effect -/

/-- What is done is done for a command, whose invoker has a permission. -/
def Origin.By (o : Origin guildOf) (p : Permission) (R : Invocation guildOf → Prop) : Prop :=
  ∃ inv, o = .command inv ∧ p ∈ inv.permissions ∧ R inv

/-- The invocation may act on a member: its check passed, and the authorization of the action on the member succeeded. -/
def Invocation.MayAct (inv : Invocation guildOf) (target : Member) (past : Past) : Prop :=
  inv.ctx.guildId = some target.guildId ∧ Passed inv.ctx past ∧ Cleared inv.ctx target past

theorem Invocation.MayAct.mono {inv : Invocation guildOf} {target : Member} {past past' : Past} (h : inv.MayAct target past)
    (hp : past <+: past') : inv.MayAct target past' :=
  ⟨h.1, h.2.1.mono hp, h.2.2.mono hp⟩

/-- The invocation may read so many messages of a channel: its check passed, it purges the channel, and the number is its argument. -/
def Invocation.Purges (inv : Invocation guildOf) (channel : UInt64) (limit : UInt8) (past : Past) : Prop :=
  (∃ count, inv.command = .purge count ∧ (limit.toNat : Int) = count.toInt ∧ 1 ≤ limit.toNat ∧ limit.toNat ≤ 100) ∧
    channel = inv.ctx.channelId ∧ Passed inv.ctx past

theorem Invocation.Purges.mono {inv : Invocation guildOf} {channel : UInt64} {limit : UInt8} {past past' : Past}
    (h : inv.Purges channel limit past) (hp : past <+: past') : inv.Purges channel limit past' :=
  ⟨h.1, h.2.1, h.2.2.mono hp⟩

/-- The invocation may delete messages of a channel: they are those that it read there. -/
def Invocation.Clears (inv : Invocation guildOf) (channel : UInt64) (ids : List UInt64) (past : Past) : Prop :=
  ∃ limit, inv.Purges channel limit past ∧ Saw past (.messages channel limit) fun w => (w.history channel).take limit.toNat = ids

theorem Invocation.Clears.mono {inv : Invocation guildOf} {channel : UInt64} {ids : List UInt64} {past past' : Past}
    (h : inv.Clears channel ids past) (hp : past <+: past') : inv.Clears channel ids past' := by
  obtain ⟨limit, hpurges, hread⟩ := h
  exact ⟨limit, hpurges.mono hp, hread.mono hp⟩

/-- What a request of the core is done for, after which requests: the command whose effect it is, with the values that the arguments of
the invocation and its reads determine, by an invoker with the permission, and whatever the check and the authorization had to find out.
Reading anything but messages is free, a reply is for some command, and what the bridge relays is a matter of its own. -/
def Authorized (o : Origin guildOf) (past : Past) : Request → Prop
  | .insertRoute row => o.By .manageWebhooks fun inv => ∃ channel r g, inv.command = .proxyLink channel r ∧
      inv.ctx.guildId = some g ∧ guildOf channel = g ∧ row = inv.ctx.route g channel r
  | .deleteRoute guildId c p => o.By .manageWebhooks fun inv => ∃ channel g, inv.command = .proxyUnlink channel ∧
      inv.ctx.guildId = some g ∧ guildOf channel = g ∧ guildId = g.toInt64 ∧ c = channel.toInt64 ∧ p = Platform.telegram.asI16
  | .insertAllowed row => o.By .manageGuild fun inv => ∃ user role g, inv.command = .allow user role ∧
      inv.ctx.guildId = some g ∧ ∃ e ∈ named user role, row = AllowlistTable.entryRow g e inv.ctx.author.id
  | .deleteAllowed guildId kind entityId => o.By .manageGuild fun inv => ∃ user role g, inv.command = .disallow user role ∧
      inv.ctx.guildId = some g ∧ guildId = g.toInt64 ∧ ∃ e ∈ named user role, kind = e.kind ∧ entityId = e.id.toInt64
  | .messages channel limit => o.By .manageMessages fun inv => inv.Purges channel limit past
  | .deleteMessage channel id => o.By .manageMessages fun inv => inv.Clears channel [id] past
  | .deleteMessages channel ids => o.By .manageMessages fun inv => 2 ≤ ids.length ∧ inv.Clears channel ids past
  | .kick g u reason => o.By .kickMembers fun inv => ∃ member r, inv.command = .kick member r ∧ g = member.guildId ∧
      u = member.user.id ∧ reason = reasonOr r ∧ inv.MayAct member past
  | .ban g u days reason => o.By .banMembers fun inv => ∃ member d r, inv.command = .ban member d r ∧ g = member.guildId ∧
      u = member.user.id ∧ (days.toNat : Int) = (d.getD 0).toInt ∧ days.toNat ≤ 7 ∧ reason = reasonOr r ∧ inv.MayAct member past
  | .unban g u => o.By .banMembers fun inv => ∃ user, inv.command = .unban user ∧ inv.ctx.guildId = some g ∧ u = user.id ∧
      Passed inv.ctx past
  | .disableCommunicationUntil g u t => o.By .moderateMembers fun inv => ∃ member duration secs,
      inv.command = .mute member duration ∧ g = member.guildId ∧ u = member.user.id ∧ parseTimeoutDuration duration = .ok secs ∧
        inv.MayAct member past ∧ ∃ clock, Saw past .now (fun w => w.clock = clock) ∧
          t = clock.toInt64 + (UInt64.ofNat secs).toInt64
  | .enableCommunication g u => o.By .moderateMembers fun inv => ∃ member, inv.command = .unmute member ∧
      inv.ctx.guildId = some g ∧ g = member.guildId ∧ u = member.user.id ∧ Passed inv.ctx past
  | .send _ => ∃ inv, o = .command inv
  | _ => True

/-- Who may cause a request of the bot, after a history. -/
def AuthorizedCall (o : Origin guildOf) (h : List (Event Outage BotRequest BotWorld)) : BotRequest → Prop
  | .core q => Authorized o (corePast h) q
  | .sendPoll p => ∃ inv question options duration multiple, o = .command inv ∧
      inv.command = .poll question options duration multiple ∧ ValidPoll p ∧ Describes question options duration multiple p
  | .joinGateway g c => ∃ inv, o = .command inv ∧ inv.ctx.guildId = some g ∧ ∃ channel, inv.command = .join channel ∧
      (channel = some c ∨ channel = none ∧ ∃ ev ∈ h, ev.request = .voiceChannel g inv.ctx.author.id ∧ ev.fate = .served ∧
        ev.before.voiceStates g inv.ctx.author.id = some c)
  | .removeCall g => ∃ inv, o = .command inv ∧ inv.ctx.guildId = some g ∧ inv.command = .leave
  | _ => True

/-! ### The commands, one by one -/

section Commands

variable {inv : Invocation guildOf} {past : Past}

/-- A command whose requests are authorized however long its history has become. -/
theorem along_authorized {p : Bot Unit} {h : List (Event Outage BotRequest BotWorld)}
    (hp : p.Along coreMedium (Authorized (.command inv)) (fun _ _ => True) (corePast h)) :
    (core p).Along botMedium (AuthorizedCall (.command inv)) (fun _ _ => True) h :=
  along_core hp (fun _ _ hq => hq) fun _ _ _ => trivial

theorem authorized_say (text : String) : (say text).Along coreMedium (Authorized (.command inv)) (fun _ _ => True) past :=
  Along.of_only (only_say fun _ _ _ => ⟨inv, rfl⟩)

/-- A command that ends with a reply after an effect. -/
theorem authorized_ask_say {q : Request} {text : Response q → String}
    (hq : ∀ past', past <+: past' → Authorized (.command inv) past' q) :
    (do let a ← ask q; say (text a)).Along coreMedium (Authorized (.command inv)) (fun _ _ => True) past :=
  Along.of_only (only_ask_say hq fun _ _ _ => ⟨inv, rfl⟩)

/-- A command that acts on a member: it replies when the action is refused, and may act once it is allowed. -/
theorem along_act {target : Member} (htarget : inv.ctx.guildId = some target.guildId) (hpass : Passed inv.ctx past)
    {f : Except ModError Unit → Bot Unit} (hrefused : ∀ e, f (.error e) = replyErr e)
    (hallowed : ∀ h', inv.MayAct target h' →
      (f (.ok ())).Along coreMedium (Authorized (.command inv)) (fun _ _ => True) h') :
    (authorize inv.ctx target >>= f).Along coreMedium (Authorized (.command inv)) (fun _ _ => True) past := by
  refine along_authorize_bind (fun _ => trivial) (fun _ _ _ => trivial) (fun _ _ _ => trivial) (fun _ _ => trivial) ?_
  intro h' d hh hd
  cases d with
  | error e =>
    rw [hrefused]
    exact authorized_say _
  | ok u => exact hallowed h' ⟨htarget, hpass.mono hh, hd.cleared⟩

/-- `/purge` reads as many messages as it was told, and deletes those it read. -/
theorem authorized_purge {count : Int64} (hc : inv.command = .purge count) (hp : .manageMessages ∈ inv.permissions)
    (hpass : Passed inv.ctx past) : (purge inv.ctx count).Along coreMedium (Authorized (.command inv)) (fun _ _ => True) past := by
  unfold purge
  split
  · exact authorized_say _
  · rename_i limit hlimit
    obtain ⟨hrange, rfl⟩ := validatePurgeCount_eq_ok_iff.1 hlimit
    have hcast := @toNat_toUInt8 count (by omega) (by omega)
    have hpurges : inv.Purges inv.ctx.channelId count.toUInt64.toUInt8 past :=
      ⟨⟨count, hc, hcast, by omega, by omega⟩, rfl, hpass⟩
    refine along_perform_bind.2 ⟨⟨inv, rfl, hp, hpurges⟩, fun w ids hids => ?_, fun _ _ _ _ => trivial⟩
    have hclears : inv.Clears inv.ctx.channelId ids (past ++ [⟨w, .messages inv.ctx.channelId count.toUInt64.toUInt8, .served⟩]) :=
      ⟨_, hpurges.mono (List.prefix_append _ _), Saw.last (Except.ok.inj hids)⟩
    unfold purgeIds
    split
    · exact authorized_say _
    · exact authorized_ask_say fun past' hh => ⟨inv, rfl, hp, hclears.mono hh⟩
    · rename_i hempty hsingle
      refine authorized_ask_say fun past' hh => ⟨inv, rfl, hp, ?_, hclears.mono hh⟩
      match ids with
      | [] => exact absurd rfl hempty
      | [id] => exact absurd rfl (hsingle id)
      | a :: b :: ids => simp

/-- `/mute` ends the timeout as many seconds after the time it read as it was told. -/
theorem authorized_mute {member : Member} {duration : String} (hc : inv.command = .mute member duration)
    (hp : .moderateMembers ∈ inv.permissions) (htarget : inv.ctx.guildId = some member.guildId) (hpass : Passed inv.ctx past) :
    (mute inv.ctx member duration).Along coreMedium (Authorized (.command inv)) (fun _ _ => True) past := by
  unfold mute
  split
  · exact authorized_say _
  · rename_i secs hsecs
    refine along_act htarget hpass (fun e => rfl) fun h' hact => ?_
    rw [muteDecided_ok]
    refine along_perform_bind.2 ⟨trivial, fun w clock hclock => ?_, fun _ _ _ _ => trivial⟩
    obtain rfl := Except.ok.inj hclock
    refine along_perform_bind.2 ⟨trivial, fun w' t ht => ?_, fun _ _ _ _ => trivial⟩
    obtain rfl := Except.ok.inj ht
    have hread : Saw (h' ++ [⟨w, .now, .served⟩]) .now fun v => v.clock = w.clock := Saw.last rfl
    refine authorized_ask_say fun past' hh => ?_
    have hh' := (List.prefix_append _ _).trans hh
    have hact' := hact.mono ((List.prefix_append _ _).trans hh')
    exact ⟨inv, rfl, hp, member, duration, secs, hc, rfl, rfl, hsecs, hact', w.clock, hread.mono hh', rfl⟩

/-- `/poll` creates the poll its arguments describe. -/
theorem authorized_poll {question options : String} {duration : Option String} {multiple : Option Bool}
    (hc : inv.command = .poll question options duration multiple) (h : List (Event Outage BotRequest BotWorld)) :
    (PollCommand.poll inv.ctx question options duration multiple).Along botMedium (AuthorizedCall (.command inv))
      (fun _ _ => True) h := by
  rcases describes_or_refused multiple question options duration with ⟨p, hv, hd⟩ | ⟨e, hr⟩
  · rw [poll_of_describes inv.ctx multiple hv hd]
    exact along_perform.2 ⟨⟨inv, question, options, duration, multiple, rfl, hc, hv, hd⟩, fun _ _ => trivial⟩
  · rw [poll_of_refused inv.ctx multiple hr]
    exact along_perform.2 ⟨⟨inv, rfl⟩, fun _ _ => trivial⟩

/-- `/join` joins the channel chosen, or the one the invoker was seen in. -/
theorem authorized_join {channel : Option UInt64} (hc : inv.command = .join channel)
    (h : List (Event Outage BotRequest BotWorld)) :
    (VoiceCommand.join inv.ctx channel).Along botMedium (AuthorizedCall (.command inv)) (fun _ _ => True) h := by
  refine along_core_guild_bind trivial fun g hg => along_perform_bind.2 ⟨trivial, fun w cached hcached => ?_, fun _ _ _ _ => trivial⟩
  cases cached with
  | none => trivial
  | some invokerVc =>
    have hvc := voiceChannel_of_served hcached
    have hsaid : ∀ text ephemeral h', (send { content := text, ephemeral }).Along botMedium (AuthorizedCall (.command inv))
        (fun _ _ => True) h' := fun text ephemeral h' => along_perform.2 ⟨⟨inv, rfl⟩, fun _ _ => trivial⟩
    dsimp only
    cases ht : resolveJoinTarget channel invokerVc with
    | error e => exact hsaid _ _ _
    | ok target =>
      refine along_perform_bind.2 ⟨trivial, fun w' manager _ => ?_, fun _ _ _ _ => trivial⟩
      split
      · refine along_perform_bind.2 ⟨⟨inv, rfl, hg, channel, hc, ?_⟩, fun w'' result _ => ?_, fun _ _ _ _ => trivial⟩
        · unfold resolveJoinTarget at ht
          cases channel with
          | some c =>
            cases ht
            exact Or.inl rfl
          | none =>
            cases invokerVc with
            | none => cases ht
            | some c =>
              cases ht
              exact Or.inr ⟨rfl, ⟨w, .voiceChannel g inv.ctx.author.id, .served⟩, by simp, rfl, rfl, hvc⟩
        · cases result <;> exact hsaid _ _ _
      · trivial

/-- Every request of the handler of a command is authorized, once the check of the command passed. -/
theorem authorized_handler (inv : Invocation guildOf) {h : List (Event Outage BotRequest BotWorld)}
    (hcheck : inv.command.attributes.check = true → Passed inv.ctx (corePast h)) :
    (inv.command.handler inv.ctx).Along botMedium (AuthorizedCall (.command inv)) (fun _ _ => True) h := by
  have hperm := inv.met.permission
  have hchannels := inv.channels
  have hmembers := inv.members
  have hsend : ∀ reply, ∀ h', corePast h <+: h' → Authorized (.command inv) h' (.send reply) := fun _ _ _ => ⟨inv, rfl⟩
  have hsend' : ∀ reply, ∀ h', h <+: h' → AuthorizedCall (.command inv) h' (.core (.send reply)) := fun _ _ _ => ⟨inv, rfl⟩
  cases hc : inv.command with
  | purge count =>
    rw [hc] at hcheck hperm
    exact along_authorized (authorized_purge hc (hperm _ rfl) (hcheck rfl))
  | kick member reason =>
    rw [hc] at hcheck hperm hmembers
    have hp := hperm _ rfl
    refine along_authorized (along_act (hmembers member (by simp [Command.members])) (hcheck rfl) (fun e => rfl) fun h' hact => ?_)
    exact authorized_ask_say fun past' hh => ⟨inv, rfl, hp, member, reason, hc, rfl, rfl, rfl, hact.mono hh⟩
  | ban member days reason =>
    rw [hc] at hcheck hperm hmembers
    have hp := hperm _ rfl
    have htarget := hmembers member (by simp [Command.members])
    refine along_authorized ?_
    unfold ModerationBot.ban
    dsimp only
    split
    · exact authorized_say _
    · rename_i secs hdays
      obtain ⟨hrange, -⟩ := validateBanDeleteDays_eq_ok_iff.1 hdays
      have hcast := @toNat_toUInt8 (days.getD 0) (by omega) (by omega)
      refine along_act htarget (hcheck rfl) (fun e => rfl) fun h' hact => ?_
      refine along_guild_bind trivial fun g hg => authorized_ask_say fun past' hh => ⟨inv, rfl, hp, ?_⟩
      obtain rfl := Option.some.inj (htarget.symm.trans hg)
      exact ⟨member, days, reason, hc, rfl, rfl, hcast, by omega, rfl, hact.mono hh⟩
  | unban user =>
    rw [hc] at hcheck hperm
    have hp := hperm _ rfl
    refine along_authorized (Along.of_only (only_unban (fun g hg h' hh => ?_) hsend))
    exact ⟨inv, rfl, hp, user, hc, hg, rfl, (hcheck rfl).mono hh⟩
  | mute member duration =>
    rw [hc] at hcheck hperm hmembers
    have htarget := hmembers member (by simp [Command.members])
    exact along_authorized (authorized_mute hc (hperm _ rfl) htarget (hcheck rfl))
  | unmute member =>
    rw [hc] at hcheck hperm hmembers
    have hp := hperm _ rfl
    have htarget := hmembers member (by simp [Command.members])
    refine along_authorized (Along.of_only (@only_unmute _ inv.ctx _ (fun h' hh => ?_) hsend))
    exact ⟨inv, rfl, hp, member, hc, htarget, rfl, rfl, (hcheck rfl).mono hh⟩
  | allow user role =>
    rw [hc] at hperm
    refine along_authorized (Along.of_only (only_allow hsend fun g hg e he h' _ => ?_))
    exact ⟨inv, rfl, hperm _ rfl, user, role, g, hc, hg, e, he, rfl⟩
  | disallow user role =>
    rw [hc] at hperm
    refine along_authorized (Along.of_only (only_disallow hsend fun g hg e he h' _ => ?_))
    exact ⟨inv, rfl, hperm _ rfl, user, role, g, hc, hg, rfl, e, he, rfl, rfl⟩
  | allowlist iter => exact along_authorized (Along.of_only (only_showAllowlist (fun _ _ _ => trivial) hsend))
  | poll question options duration multiple => exact authorized_poll hc h
  | join channel => exact authorized_join hc h
  | leave => exact Along.of_only (only_leave (fun _ _ => trivial) (fun g hg h' _ => ⟨inv, rfl, hg, hc⟩) hsend')
  | proxyLink channel remoteChatId =>
    rw [hc] at hperm hchannels
    have hplace := hchannels channel (by simp [Command.channels])
    refine along_authorized (Along.of_only (only_proxyLink (fun g hg h' _ => ?_) hsend))
    exact ⟨inv, rfl, hperm _ rfl, channel, remoteChatId, g, hc, hg, Option.some.inj (hplace.symm.trans hg), rfl⟩
  | proxyUnlink channel =>
    rw [hc] at hperm hchannels
    have hplace := hchannels channel (by simp [Command.channels])
    refine along_authorized (Along.of_only (only_proxyUnlink (fun g hg h' _ => ?_) hsend))
    exact ⟨inv, rfl, hperm _ rfl, channel, g, hc, hg, Option.some.inj (hplace.symm.trans hg), rfl, rfl, rfl⟩
  | proxyList => exact along_authorized (Along.of_only (only_proxyList (fun _ _ _ => trivial) hsend))
  | proxyTest remoteChatId author text avatarUrl =>
    refine along_authorized (Along.of_only (only_proxyTest (fun q hq h' _ => ?_) hsend))
    cases q <;> trivial

end Commands

/-! ### The whole bot -/

/-- Every request of the bot is authorized, whatever it is for. -/
theorem authorized_program (o : Origin guildOf) : o.program.Along botMedium (AuthorizedCall o) (fun _ _ => True) [] := by
  cases o with
  | command inv =>
    change (inv.command.invoke inv.ctx).Along _ _ _ _
    cases hcheck : inv.command.attributes.check with
    | false =>
      rw [invoke_of_free hcheck]
      exact authorized_handler inv fun hchecked => absurd hchecked (by simp [hcheck])
    | true =>
      obtain ⟨g, hg⟩ := inv.guild_of_check hcheck
      refine along_invoke hcheck hg trivial (fun _ _ _ => trivial) (fun w _ => ?_) fun w hw => ?_
      · exact ⟨⟨inv, rfl⟩, fun _ _ => trivial⟩
      · exact authorized_handler inv fun _ => passed_concat hg hw []
  | event e =>
    have hp : (eventHandler e).Along coreMedium (Authorized (.event e : Origin guildOf)) (fun _ _ => True) [] :=
      Along.of_only (only_eventHandler (fun _ _ => trivial) (fun _ _ _ => trivial) fun _ _ _ => trivial)
    exact along_core hp (fun _ _ hq => hq) fun _ _ _ => trivial
  | delivery d =>
    have hp : (deliverInbound d.platform d.remoteChatId d.msg).Along coreMedium (Authorized (.delivery d : Origin guildOf))
        (fun _ _ => True) [] :=
      Along.of_only ((only_deliverInbound _ _ _).mono fun q hq h' _ => by cases q <;> trivial)
    exact along_core hp (fun _ _ hq => hq) fun _ _ _ => trivial

/-- Whatever is in progress at once, whatever fails and whatever Discord does meanwhile: a request the bot issues is authorized by what
it is done for, given the requests issued for it before. -/
theorem effects_authorized (w : BotWorld) (happenings : List (Happening guildOf)) {before : Chronicle}
    {i : Nat} {ev : Event Outage BotRequest BotWorld}
    (hev : before ++ [(i, ev)] <+: (System.run guildOf w happenings).history) :
    ∃ job, (System.run guildOf w happenings).jobs[i]? = some job ∧ AuthorizedCall job.origin (eventsOf i before) ev.request :=
  Pool.issued authorized_program w happenings hev

/-! ### A kick, while another member tries to kick back -/

namespace FirstKick

/-- A member with the role 5. -/
def moderator : Member := ⟨10, ⟨20, "moderator", none, false⟩, [5]⟩

/-- A member without roles. -/
def offender : Member := ⟨10, ⟨30, "offender", none, false⟩, []⟩

/-- The moderator is on the allowlist of the guild 10, which is in the cache. -/
def world : BotWorld :=
  { BotWorld.initial ⟨1, "bot", none, true⟩ fun n => (UInt64.ofNat n, "token") with
    allowlist := ⟨[⟨10, 0, 20, 2⟩], by decide⟩
    guilds := fun g => if g = 10 then some ⟨2, fun r => if r = 5 then some 3 else none⟩ else none
    members := fun _ u => if u = 20 then some moderator else if u = 30 then some offender else none }

/-- An invocation of `/kick` in the guild, by a member that has the permission. -/
def kicking (invoker target : Member) (h : target.guildId = 10) : Invocation fun _ => 10 where
  ctx := ⟨some 10, 21, invoker.user, some invoker⟩
  permissions := [.kickMembers]
  owner := false
  command := .kick target none
  met := ⟨fun _ hp => by cases hp; exact List.mem_singleton_self _, fun _ => rfl, nofun⟩
  place _ hg := Option.some.inj hg
  channels _ hc := absurd hc List.not_mem_nil
  members m hm := by rw [List.mem_singleton.1 hm, h]

/-- The offender is denied by the check, and the moderator passes it, before the facts of the kick are read. -/
def happenings : List (Happening fun _ => 10) :=
  [.start (.command (kicking moderator offender rfl)), .start (.command (kicking offender moderator rfl)),
    .issue 0 .served, .issue 1 .served, .issue 0 .served, .issue 1 .served, .issue 0 .served, .issue 0 .served, .issue 0 .served]

/-- What is issued before the kick. -/
def before : Chronicle :=
  [(0, ⟨world, .core (.selectAllowed 10), .served⟩), (1, ⟨world, .core (.selectAllowed 10), .served⟩),
    (0, ⟨world, .core .currentUser, .served⟩), (1, ⟨world, .core (.send denial), .served⟩),
    (0, ⟨world, .core (.member 10 20), .served⟩), (0, ⟨world, .core (.cachedGuild 10), .served⟩)]

end FirstKick

open FirstKick in
theorem effects_authorized_firstKick : ∃ job, (System.run (fun _ => 10) world happenings).jobs[0]? = some job ∧
    AuthorizedCall job.origin (eventsOf 0 before) (.core (.kick 10 30 "No reason provided")) :=
  effects_authorized world happenings (show before ++ [(0, (⟨world, .core (.kick 10 30 "No reason provided"), .served⟩ :
    Event Outage BotRequest BotWorld))] <+: _ from ⟨[], rfl⟩)

end ModerationBot
