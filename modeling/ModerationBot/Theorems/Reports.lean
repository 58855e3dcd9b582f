import ModerationBot.Lemmas.System
import ModerationBot.Library.Reporting
import ModerationBot.Theorems.ModerationCalls

namespace ModerationBot

open Prog

variable {guildOf : UInt64 → UInt64}

/-! ## What the replies tell -/

/-- What a moderation command did, as its reply tells it. -/
inductive Tells (ctx : Ctx) : Command → Event Outage Request World → CreateReply → Prop
  | deletedOne {w : World} {count : Int64} {id : UInt64} :
    Tells ctx (.purge count) ⟨w, .deleteMessage ctx.channelId id, .served⟩ { content := "Deleted 1 message." }
  | deleted {w : World} {count : Int64} {ids : List UInt64} : Tells ctx (.purge count) ⟨w, .deleteMessages ctx.channelId ids, .served⟩
    { content := "Deleted " ++ toString ids.length ++ " messages." }
  | kicked {w : World} {member : Member} {reason : Option String} :
    Tells ctx (.kick member reason) ⟨w, .kick member.guildId member.user.id (reasonOr reason), .served⟩
      { content := "Kicked " ++ member.user.name ++ " (" ++ reasonOr reason ++ ")." }
  | banned {w : World} {g : UInt64} {member : Member} {days : Option Int64} {reason : Option String} (hg : ctx.guildId = some g)
    (htaken : w.refusesReason (reasonOr reason) = false) : Tells ctx (.ban member days reason)
      ⟨w, .ban g member.user.id (days.getD 0).toUInt64.toUInt8 (reasonOr reason), .served⟩
      { content := "Banned " ++ member.user.name ++ " (" ++ reasonOr reason ++ ")." }
  | unbanned {w : World} {g : UInt64} {user : User} (hg : ctx.guildId = some g) :
    Tells ctx (.unban user) ⟨w, .unban g user.id, .served⟩ { content := "Unbanned " ++ user.name ++ "." }
  | muted {w : World} {member : Member} {duration : String} {secs : Int64} :
    Tells ctx (.mute member duration) ⟨w, .disableCommunicationUntil member.guildId member.user.id secs, .served⟩
      { content := "Muted " ++ member.user.name ++ " until <t:" ++ toString secs ++ ":f>." }
  | unmuted {w : World} {member : Member} : Tells ctx (.unmute member)
    ⟨w, .enableCommunication member.guildId member.user.id, .served⟩ { content := "Unmuted " ++ member.user.name ++ "." }

/-- Why a moderation command did nothing, as its reply tells it. -/
inductive Declines (ctx : Ctx) : Command → Past → CreateReply → Prop
  | denied {command : Command} {past : Past} {g : UInt64} (hg : ctx.guildId = some g)
    (h : Saw past (.selectAllowed g.toInt64) fun w => ¬w.allowlist.Admits g ctx) : Declines ctx command past denial
  | count {count : Int64} {past : Past} {e : ModError} (h : validatePurgeCount count = .error e) :
    Declines ctx (.purge count) past { content := e.display }
  | nothing {count : Int64} {past : Past} {limit : UInt8} (hlimit : validatePurgeCount count = .ok limit)
    (h : Saw past (.messages ctx.channelId limit) fun w => (w.history ctx.channelId).take limit.toNat = []) :
    Declines ctx (.purge count) past { content := "No messages to delete." }
  | days {member : Member} {days : Option Int64} {reason : Option String} {past : Past} {e : ModError}
    (h : validateBanDeleteDays (days.getD 0) = .error e) : Declines ctx (.ban member days reason) past { content := e.display }
  | duration {member : Member} {duration : String} {past : Past} {e : ModError} (h : parseTimeoutDuration duration = .error e) :
    Declines ctx (.mute member duration) past { content := e.display }
  | decided {command : Command} {target : Member} {past : Past} {e : ModError} (ht : target ∈ command.members)
    (h : Decided ctx target (.error e) past) : Declines ctx command past { content := e.display }

/-- What a moderation command is to report. -/
def moderationReports (ctx : Ctx) (command : Command) : Reporting Outage Request World CreateReply where
  report := .send
  injective _ _ := Request.send.inj
  acts := Request.mutates
  tells := Tells ctx command
  declines := Declines ctx command

section Moderation

variable {ctx : Ctx} {command : Command} {past : Past}

/-- What a command says is right when it declines rightly. -/
theorem reports_declined {text : String} (hidle : (moderationReports ctx command).Idle past)
    (h : Declines ctx command past { content := text }) : (moderationReports ctx command).Reports coreMedium (say text) past :=
  Reporting.reports_report (R := moderationReports ctx command) (.declined hidle h)

/-- A command acts and says what it did. -/
theorem reports_act {q : Request} {text : String} (hidle : (moderationReports ctx command).Idle past)
    (hq : ∀ reply, q ≠ .send reply) (h : ∀ w a, (serve w q).1 = .ok a → Tells ctx command ⟨w, q, .served⟩ { content := text }) :
    (moderationReports ctx command).Reports coreMedium (do let _ ← ask q; say text) past :=
  Reporting.reports_perform_bind hq fun w a ha =>
    Reporting.reports_report (R := moderationReports ctx command) (.told hidle (h w a ha))

/-- A ban that is answered well had a reason that the client takes. -/
theorem taken_of_served {w : World} {g u : UInt64} {days : UInt8} {reason : String} {a : Unit}
    (h : (serve w (.ban g u days reason)).1 = .ok a) : w.refusesReason reason = false := by
  rw [serve_ban] at h
  split at h
  · cases h
  · rename_i htaken
    exact Bool.eq_false_iff.2 htaken

/-- A command that acts on a member says why it may not, or goes on. -/
theorem reports_authorize_bind {target : Member} (hidle : (moderationReports ctx command).Idle past) (ht : target ∈ command.members)
    {f : Except ModError Unit → Bot Unit} (hrefused : ∀ e, f (.error e) = replyErr e)
    (hallowed : ∀ past', (moderationReports ctx command).Idle past' →
      (moderationReports ctx command).Reports coreMedium (f (.ok ())) past') :
    (moderationReports ctx command).Reports coreMedium (authorize ctx target >>= f) past := by
  refine Reporting.reports_bind hidle (along_authorize (fun _ _ => nofun) (fun _ _ _ _ => nofun) fun _ _ _ _ => nofun)
    (only_authorize ctx target) fun past' d _ hidle' hd => ?_
  cases d with
  | error e =>
    rw [hrefused]
    exact reports_declined hidle' (.decided ht (hd _ rfl))
  | ok u => exact hallowed past' hidle'

/-- A command goes on in its guild. -/
theorem reports_guild_bind {f : UInt64 → Bot Unit}
    (hf : ∀ g, ctx.guildId = some g → (moderationReports ctx command).Reports coreMedium (f g) past) :
    (moderationReports ctx command).Reports coreMedium (ctx.guild >>= f) past :=
  along_guild_bind Reporting.closed_error hf

theorem reports_purge {count : Int64} (hidle : (moderationReports ctx (.purge count)).Idle past) :
    (moderationReports ctx (.purge count)).Reports coreMedium (purge ctx count) past := by
  unfold purge
  cases hcount : validatePurgeCount count with
  | error e => exact reports_declined hidle (.count hcount)
  | ok limit =>
    refine Reporting.reports_perform_bind (fun _ => nofun) fun w ids hids => ?_
    have hidle' : (moderationReports ctx (.purge count)).Idle (past ++ [⟨w, .messages ctx.channelId limit, .served⟩]) :=
      hidle.concat rfl
    match ids, hids with
    | [], hids => exact reports_declined hidle' (.nothing hcount (Saw.last (Except.ok.inj hids)))
    | [id], _ => exact reports_act hidle' (fun _ => nofun) fun _ _ _ => .deletedOne
    | a :: b :: ids, _ => exact reports_act hidle' (fun _ => nofun) fun _ _ _ => .deleted

theorem reports_kick {member : Member} {reason : Option String} (hidle : (moderationReports ctx (.kick member reason)).Idle past) :
    (moderationReports ctx (.kick member reason)).Reports coreMedium (kick ctx member reason) past :=
  reports_authorize_bind hidle (List.mem_singleton_self member) (fun _ => rfl) fun _ hidle' =>
    reports_act hidle' (fun _ => nofun) fun _ _ _ => .kicked

theorem reports_ban {member : Member} {days : Option Int64} {reason : Option String}
    (hidle : (moderationReports ctx (.ban member days reason)).Idle past) :
    (moderationReports ctx (.ban member days reason)).Reports coreMedium (ban ctx member days reason) past := by
  unfold ban
  dsimp only
  split
  · rename_i e hdays
    exact reports_declined hidle (.days hdays)
  · exact reports_authorize_bind hidle (List.mem_singleton_self member) (fun _ => rfl) fun _ hidle' =>
      reports_guild_bind fun g hg => reports_act hidle' (fun _ => nofun) fun _ _ ha => .banned hg (taken_of_served ha)

theorem reports_unban {user : User} (hidle : (moderationReports ctx (.unban user)).Idle past) :
    (moderationReports ctx (.unban user)).Reports coreMedium (unban ctx user) past :=
  reports_guild_bind fun _ hg => reports_act hidle (fun _ => nofun) fun _ _ _ => .unbanned hg

theorem reports_mute {member : Member} {duration : String} (hidle : (moderationReports ctx (.mute member duration)).Idle past) :
    (moderationReports ctx (.mute member duration)).Reports coreMedium (mute ctx member duration) past := by
  unfold mute
  split
  · rename_i e hduration
    exact reports_declined hidle (.duration hduration)
  · rename_i secs hduration
    refine reports_authorize_bind hidle (List.mem_singleton_self member) (fun _ => rfl) fun past' hidle' => ?_
    rw [muteDecided_ok]
    refine Reporting.reports_perform_bind (fun _ => nofun) fun w clock _ => ?_
    refine Reporting.reports_perform_bind (fun _ => nofun) fun w' t ht => ?_
    obtain rfl := Except.ok.inj ht
    exact reports_act ((hidle'.concat rfl).concat rfl) (fun _ => nofun) fun _ _ _ => .muted

theorem reports_unmute {member : Member} (hidle : (moderationReports ctx (.unmute member)).Idle past) :
    (moderationReports ctx (.unmute member)).Reports coreMedium (unmute ctx member) past :=
  reports_act hidle (fun _ => nofun) fun _ _ _ => .unmuted

/-- A program of the bot that reports as a moderation command is to. -/
def Reported (inv : Invocation guildOf) (p : Handler Unit) (h : List (Event Outage BotRequest BotWorld)) : Prop :=
  p.Along botMedium (fun h q => ∀ q', q = .core q' → (moderationReports inv.ctx inv.command).Given (corePast h) q')
    (fun h r => (moderationReports inv.ctx inv.command).Closed (corePast h) r) h

theorem reported_core {inv : Invocation guildOf} {p : Bot Unit} {h : List (Event Outage BotRequest BotWorld)}
    (hp : (moderationReports inv.ctx inv.command).Reports coreMedium p (corePast h)) : Reported inv (core p) h :=
  along_core hp (fun _ _ hq _ heq => BotRequest.core.inj heq ▸ hq) fun _ _ hr => hr

theorem reported_handler {inv : Invocation guildOf} (hcheck : inv.command.attributes.check = true)
    {h : List (Event Outage BotRequest BotWorld)} (hidle : (moderationReports inv.ctx inv.command).Idle (corePast h)) :
    Reported inv (inv.command.handler inv.ctx) h := by
  have hcore : ∀ {p : Bot Unit}, (moderationReports inv.ctx inv.command).Reports coreMedium p (corePast h) →
      Reported inv (core p) h := reported_core
  revert hidle hcore
  cases hc : inv.command <;> intro hidle hcore
  case purge => exact hcore (reports_purge hidle)
  case kick => exact hcore (reports_kick hidle)
  case ban => exact hcore (reports_ban hidle)
  case unban => exact hcore (reports_unban hidle)
  case mute => exact hcore (reports_mute hidle)
  case unmute => exact hcore (reports_unmute hidle)
  all_goals
    rw [hc] at hcheck
    cases hcheck

/-- A checked command says that its invoker is not on the allowlist, or goes on to its handler. -/
theorem reported_invoke {inv : Invocation guildOf} (hcheck : inv.command.attributes.check = true) :
    Reported inv (inv.command.invoke inv.ctx) [] := by
  obtain ⟨g, hg⟩ := inv.guild_of_check hcheck
  have hidle : ∀ w : BotWorld, (moderationReports inv.ctx inv.command).Idle
      (corePast ([] ++ [⟨w, .core (.selectAllowed g.toInt64), .served⟩])) := fun w =>
    Reporting.idle_nil.concat (R := moderationReports inv.ctx inv.command) (s := w.toWorld) (q := .selectAllowed g.toInt64) rfl
  refine along_invoke hcheck hg (fun _ heq _ => ?_) (fun _ _ _ => Reporting.closed_error) ?_ ?_
  · obtain rfl := BotRequest.core.inj heq
    nofun
  · intro w hw
    have hright : (moderationReports inv.ctx inv.command).Right
        (corePast ([] ++ [⟨w, .core (.selectAllowed g.toInt64), .served⟩])) denial :=
      .declined (hidle w) (.denied hg (@Saw.last [] w.toWorld _ _ hw))
    rw [send, ← core_ask]
    exact reported_core (Reporting.reports_report hright)
  · exact fun w _ => reported_handler hcheck (hidle w)

end Moderation

/-- A request that does something. -/
def BotRequest.acts : BotRequest → Bool
  | .core q => q.mutates
  | .sendPoll _ => true
  | .joinGateway _ _ => true
  | .removeCall _ => true
  | _ => false

/-- What a voice command did, or what the voice manager had against it, as its reply tells it. -/
inductive VoiceTells (ctx : Ctx) : Command → Event Outage BotRequest BotWorld → CreateReply → Prop
  | joined {w : BotWorld} {g target : UInt64} {channel : Option UInt64} (hg : ctx.guildId = some g)
    (hjoin : w.joined g target = .ok ()) : VoiceTells ctx (.join channel) ⟨w, .joinGateway g target, .served⟩
      { content := "Joined <#" ++ toString target ++ ">." }
  | notJoined {w : BotWorld} {g target : UInt64} {channel : Option UInt64} {e : JoinError} (hg : ctx.guildId = some g)
    (hjoin : w.joined g target = .error e) : VoiceTells ctx (.join channel) ⟨w, .joinGateway g target, .served⟩
      { content := "Couldn't join that channel: " ++ e.text }
  | left {w : BotWorld} {g : UInt64} (hg : ctx.guildId = some g) (hleave : w.removed g = .ok ()) :
    VoiceTells ctx .leave ⟨w, .removeCall g, .served⟩ { content := "Left the voice channel." }
  | nowhere {w : BotWorld} {g : UInt64} {e : JoinError} (hg : ctx.guildId = some g) (hleave : w.removed g = .error e)
    (he : e.noCall = true) : VoiceTells ctx .leave ⟨w, .removeCall g, .served⟩
      { content := "I'm not in a voice channel.", ephemeral := true }
  | notLeft {w : BotWorld} {g : UInt64} {e : JoinError} (hg : ctx.guildId = some g) (hleave : w.removed g = .error e)
    (he : e.noCall = false) : VoiceTells ctx .leave ⟨w, .removeCall g, .served⟩ { content := "Couldn't leave: " ++ e.text }

/-- Why a voice command did nothing: no channel was chosen, and the invoker was seen in none. -/
def VoiceDeclines (ctx : Ctx) (command : Command) (h : List (Event Outage BotRequest BotWorld)) (reply : CreateReply) : Prop :=
  command = .join none ∧ reply = { content := VcError.noTargetChannel.display, ephemeral := true } ∧
    ∃ g, ctx.guildId = some g ∧ ∃ ev ∈ h, ev.request = .voiceChannel g ctx.author.id ∧ ev.fate = .served ∧
      ev.before.voiceStates g ctx.author.id = none

/-- What a voice command is to report. -/
def voiceReports (ctx : Ctx) (command : Command) : Reporting Outage BotRequest BotWorld CreateReply where
  report reply := .core (.send reply)
  injective _ _ h := Request.send.inj (BotRequest.core.inj h)
  acts := BotRequest.acts
  tells := VoiceTells ctx command
  declines := VoiceDeclines ctx command

section Voice

variable {ctx : Ctx} {command : Command} {h : List (Event Outage BotRequest BotWorld)}

theorem reports_send {reply : CreateReply} (hr : (voiceReports ctx command).Right h reply) :
    (voiceReports ctx command).Reports botMedium (send reply) h :=
  Reporting.reports_report (R := voiceReports ctx command) hr

theorem reports_join (channel : Option UInt64) :
    (voiceReports ctx (.join channel)).Reports botMedium (VoiceCommand.join ctx channel) [] := by
  refine along_core_guild_bind Reporting.closed_error fun g hg => ?_
  refine Reporting.reports_perform_bind (fun _ => nofun) fun w cached hcached => ?_
  have hidle : (voiceReports ctx (.join channel)).Idle ([] ++ [⟨w, .voiceChannel g ctx.author.id, .served⟩]) :=
    Reporting.idle_nil.concat rfl
  cases cached with
  | none => exact Reporting.reports_throw
  | some invokerVc =>
    dsimp only
    cases ht : resolveJoinTarget channel invokerVc with
    | error e =>
      have hvc := voiceChannel_of_served hcached
      refine reports_send (.declined hidle ?_)
      cases channel with
      | some c => cases ht
      | none =>
        cases invokerVc with
        | some c => cases ht
        | none =>
          cases ht
          exact ⟨rfl, rfl, g, hg, ⟨w, .voiceChannel g ctx.author.id, .served⟩, by simp, rfl, rfl, hvc⟩
    | ok target =>
      refine Reporting.reports_perform_bind (fun _ => nofun) fun w' manager _ => ?_
      have hidle' : (voiceReports ctx (.join channel)).Idle ([] ++ [_] ++ [⟨w', .voiceManager, .served⟩]) := hidle.concat rfl
      split
      · refine Reporting.reports_perform_bind (fun _ => nofun) fun w'' result hresult => ?_
        have hjoin := Except.ok.inj hresult
        cases result with
        | ok u => exact reports_send (.told hidle' (.joined hg hjoin))
        | error e => exact reports_send (.told hidle' (.notJoined hg hjoin))
      · exact Reporting.reports_throw

theorem reports_leave : (voiceReports ctx .leave).Reports botMedium (VoiceCommand.leave ctx) [] := by
  refine along_core_guild_bind Reporting.closed_error fun g hg => ?_
  refine Reporting.reports_perform_bind (fun _ => nofun) fun w manager _ => ?_
  have hidle : (voiceReports ctx .leave).Idle ([] ++ [⟨w, .voiceManager, .served⟩]) := Reporting.idle_nil.concat rfl
  split
  · refine Reporting.reports_perform_bind (fun _ => nofun) fun w' result hresult => ?_
    have hleave := Except.ok.inj hresult
    cases result with
    | ok u => exact reports_send (.told hidle (.left hg hleave))
    | error e =>
      dsimp only
      split
      · rename_i he
        exact reports_send (.told hidle (.nowhere hg hleave he))
      · rename_i he
        exact reports_send (.told hidle (.notLeft hg hleave (Bool.eq_false_iff.2 he)))
  · exact Reporting.reports_throw

end Voice

/-! ### The whole bot -/

/-- The voice commands. -/
def Command.voice : Command → Bool
  | .join _ => true
  | .leave => true
  | _ => false

/-- What the reports of a program are right by, after a history. -/
def TruthfulCall (o : Origin guildOf) (h : List (Event Outage BotRequest BotWorld)) (q : BotRequest) : Prop :=
  ∀ inv, o = .command inv →
    (inv.command.attributes.check = true → ∀ q', q = .core q' → (moderationReports inv.ctx inv.command).Given (corePast h) q') ∧
      (inv.command.voice = true → (voiceReports inv.ctx inv.command).Given h q)

/-- What a program that ends well has ended with. -/
def TruthfulEnd (o : Origin guildOf) (h : List (Event Outage BotRequest BotWorld)) (r : Except Error Unit) : Prop :=
  ∀ inv, o = .command inv →
    (inv.command.attributes.check = true → (moderationReports inv.ctx inv.command).Closed (corePast h) r) ∧
      (inv.command.voice = true → (voiceReports inv.ctx inv.command).Closed h r)

theorem voice_invoke {inv : Invocation guildOf} (hvoice : inv.command.voice = true) :
    (voiceReports inv.ctx inv.command).Reports botMedium (inv.command.invoke inv.ctx) [] := by
  cases hc : inv.command with
  | join channel =>
    rw [invoke_of_free rfl]
    exact reports_join channel
  | leave =>
    rw [invoke_of_free rfl]
    exact reports_leave
  | _ =>
    rw [hc] at hvoice
    cases hvoice

theorem truthful_program (o : Origin guildOf) : o.program.Along botMedium (TruthfulCall o) (TruthfulEnd o) [] := by
  cases o with
  | command inv =>
    have hmoderation := along_imp fun hcheck : inv.command.attributes.check = true => reported_invoke hcheck
    have hvoice := along_imp fun hvoice : inv.command.voice = true => voice_invoke hvoice
    refine (hmoderation.and hvoice).mono (fun h q _ hq inv' heq => ?_) fun h r _ hr inv' heq => ?_
    · obtain rfl := Origin.command.inj heq
      exact hq
    · obtain rfl := Origin.command.inj heq
      exact hr
  | event e => exact (along_of_forall fun _ _ _ _ => nofun).mono (fun _ _ _ hq => hq) fun _ _ _ _ _ => nofun
  | delivery d => exact (along_of_forall fun _ _ _ _ => nofun).mono (fun _ _ _ hq => hq) fun _ _ _ _ _ => nofun

/-- Every reply of a moderation or voice command of a run is right, and a command that ends well ends with it. -/
structure Truthful (s : System guildOf) : Prop where
  /-- A moderation command replies what it did just now, the one thing it does, or why it did nothing. -/
  moderation : ∀ before i w reply fate inv r, before ++ [(i, ⟨w, .core (.send reply), fate⟩)] <+: s.history →
    s.jobs[i]? = some ⟨.command inv, r⟩ → inv.command.attributes.check = true →
      (moderationReports inv.ctx inv.command).Right (corePast (eventsOf i before)) reply
  /-- So does a voice command. -/
  voice : ∀ before i w reply fate inv r, before ++ [(i, ⟨w, .core (.send reply), fate⟩)] <+: s.history →
    s.jobs[i]? = some ⟨.command inv, r⟩ → inv.command.voice = true →
      (voiceReports inv.ctx inv.command).Right (eventsOf i before) reply
  /-- A moderation command that ends well has ended with such a reply, and it was served. -/
  moderated : ∀ i inv, s.jobs[i]? = some ⟨.command inv, .done (.ok ())⟩ → inv.command.attributes.check = true →
    ∃ l w reply, corePast (eventsOf i s.history) = l ++ [⟨w, .send reply, .served⟩] ∧
      (moderationReports inv.ctx inv.command).Right l reply
  /-- So has a voice command. -/
  voiced : ∀ i inv, s.jobs[i]? = some ⟨.command inv, .done (.ok ())⟩ → inv.command.voice = true →
    ∃ l w reply, eventsOf i s.history = l ++ [⟨w, .core (.send reply), .served⟩] ∧
      (voiceReports inv.ctx inv.command).Right l reply

/-- Whatever is in progress at once, whatever fails and whatever Discord does meanwhile, the replies of the moderation and voice commands
tell the truth. -/
theorem truthful (w : BotWorld) (happenings : List (Happening guildOf)) : Truthful (System.run guildOf w happenings) := by
  refine ⟨?_, ?_, ?_, ?_⟩
  · intro before i w' reply fate inv r hev hjob hcheck
    obtain ⟨job, hjob', htold⟩ := Pool.issued truthful_program w happenings hev
    obtain rfl := Option.some.inj (hjob.symm.trans hjob')
    exact (htold inv rfl).1 hcheck _ rfl reply rfl
  · intro before i w' reply fate inv r hev hjob hvoice
    obtain ⟨job, hjob', htold⟩ := Pool.issued truthful_program w happenings hev
    obtain rfl := Option.some.inj (hjob.symm.trans hjob')
    exact (htold inv rfl).2 hvoice reply rfl
  · intro i inv hjob hcheck
    have hclosed : TruthfulEnd (.command inv) (eventsOf i (System.run guildOf w happenings).history) (.ok ()) :=
      Pool.ended truthful_program w happenings hjob
    exact (hclosed inv rfl).1 hcheck () rfl
  · intro i inv hjob hvoice
    have hclosed : TruthfulEnd (.command inv) (eventsOf i (System.run guildOf w happenings).history) (.ok ()) :=
      Pool.ended truthful_program w happenings hjob
    exact (hclosed inv rfl).2 hvoice () rfl

end ModerationBot
