import ModerationBot.Lemmas.Handlers
import ModerationBot.Lemmas.System
import ModerationBot.Library.Within

namespace ModerationBot

open Prog

variable {guildOf : UInt64 → UInt64}

/-! ## How long everything takes -/

section Core

variable {α : Type} {ctx : Ctx} {n : Nat}

theorem within_guild_bind {f : UInt64 → Bot α} (hf : ∀ g, (f g).Within n) : (ctx.guild >>= f).Within n := by
  unfold Ctx.guild
  cases ctx.guildId with
  | none => exact within_done _ _
  | some g => exact hf g

theorem within_say (text : String) (n : Nat) : (say text).Within (n + 1) := within_perform _ _

theorem within_ask_say {q : Request} {text : Response q → String} : (do let a ← ask q; say (text a)).Within 2 :=
  within_perform_bind fun _ => within_say _ 0

/-- The authorization reads three facts. -/
theorem within_authorize_bind {target : Member} {f : Except ModError Unit → Bot α} (hf : ∀ d, (f d).Within n) :
    (authorize ctx target >>= f).Within (n + 3) := by
  unfold authorize
  rw [bind_assoc]
  refine within_guild_bind fun g => ?_
  simp only [bind_assoc]
  refine within_perform_bind fun botId => within_perform_bind fun actor => within_perform_bind fun cached => ?_
  cases cached with
  | none => exact within_done _ _
  | some guild => exact hf _

theorem within_purge (count : Int64) : (purge ctx count).Within 3 := by
  unfold purge
  split
  · exact within_say _ 2
  · refine within_perform_bind fun ids => ?_
    match ids with
    | [] => exact within_say _ 1
    | [id] => exact within_ask_say
    | a :: b :: ids => exact within_ask_say

theorem within_kick (member : Member) (reason : Option String) : (kick ctx member reason).Within 5 := by
  refine within_authorize_bind fun d => ?_
  cases d with
  | error e => exact within_say _ 1
  | ok u => exact within_ask_say

theorem within_ban (member : Member) (days : Option Int64) (reason : Option String) : (ban ctx member days reason).Within 5 := by
  unfold ban
  dsimp only
  split
  · exact within_say _ 4
  · refine within_authorize_bind fun d => ?_
    cases d with
    | error e => exact within_say _ 1
    | ok u => exact within_guild_bind fun g => within_ask_say

theorem within_unban (user : User) : (unban ctx user).Within 2 := within_guild_bind fun _ => within_ask_say

theorem within_mute (member : Member) (duration : String) : (mute ctx member duration).Within 7 := by
  unfold mute
  split
  · exact within_say _ 6
  · refine within_authorize_bind (n := 4) fun d => ?_
    cases d with
    | error e => exact within_say _ 3
    | ok u =>
      rw [muteDecided_ok]
      exact within_perform_bind fun now => within_perform_bind fun t => within_ask_say

theorem within_unmute (member : Member) : (unmute ctx member).Within 2 := within_ask_say

theorem within_editGiven {edit : Entity → Bot Nat} (hedit : ∀ e, (edit e).Within 1) (o : Option (Entity × String)) :
    (editGiven edit o).Within 1 := by
  cases o with
  | none => exact within_done _ _
  | some x => exact (hedit x.1).bind fun _ => within_done _ 0

theorem within_editAllowlist {edit : UInt64 → Entity → Bot Nat} (hedit : ∀ g e, (edit g e).Within 1)
    (reply : List String → String) (user : Option User) (role : Option Role) : (editAllowlist ctx edit reply user role).Within 3 :=
  within_guild_bind fun g => (within_editGiven (hedit g) _).bind fun _ => (within_editGiven (hedit g) _).bind fun _ => within_say _ 0

theorem within_allow (user : Option User) (role : Option Role) : (allow ctx user role).Within 3 := by
  rw [allow_eq]
  exact within_editAllowlist (fun g e => within_perform_bind fun _ => within_done _ 0) _ _ _

theorem within_disallow (user : Option User) (role : Option Role) : (disallow ctx user role).Within 3 := by
  rw [disallow_eq]
  exact within_editAllowlist (fun g e => within_perform _ 0) _ _ _

theorem within_showAllowlist (iter : IterOrder) : (showAllowlist iter ctx).Within 2 := by
  have hfetch : ∀ g, (fetchAllowed g).Within 1 := fun g => within_perform_bind fun _ => within_done _ 0
  refine within_guild_bind fun g => (hfetch g).bind fun sets => ?_
  split <;> exact within_say _ 0

theorem within_replyOrPropagate (e : Error) (ephemeral : Bool) : (replyOrPropagate e ephemeral).Within 1 := by
  cases e with
  | proxy pe => exact within_perform _ 0
  | _ => exact within_done _ _

theorem within_proxyLink (channel : UInt64) (remoteChatId : String) : (ProxyCommand.link ctx channel remoteChatId).Within 2 := by
  have hlink : ∀ g r, (Routes.link g channel .telegram r ctx.author.id).Within 1 := by
    intro g r
    refine (within_perform _ 0).attempt.bind (n := 0) fun result => ?_
    cases result with
    | ok u => exact within_done _ _
    | error e =>
      dsimp only
      split <;> exact within_done _ _
  refine within_guild_bind fun g => (hlink g _).attempt.bind fun result => ?_
  cases result with
  | ok u => exact within_perform _ 0
  | error e => exact within_replyOrPropagate e _

theorem within_proxyUnlink (channel : UInt64) : (ProxyCommand.unlink ctx channel).Within 2 := by
  refine within_guild_bind fun g => (within_perform _ 0).bind fun removed => ?_
  split <;> exact within_say _ 0

theorem within_proxyList : (ProxyCommand.list ctx).Within 2 := by
  have hlist : ∀ g, (Routes.list g).Within 1 := fun g => within_perform_bind fun _ => within_done _ 0
  refine within_guild_bind fun g => (hlist g).bind fun routes => ?_
  split
  · exact within_say _ 0
  · exact within_perform _ 0

theorem within_deliverInbound (p : Platform) (r : String) (msg : RemoteMessage) : (deliverInbound p r msg).Within 4 := by
  have hfetch : (Routes.fetchByRemote p r).Within 1 := within_perform_bind fun _ => within_done _ 0
  have hhook : ∀ c, (getOrCreateWebhook c).Within 2 := by
    intro c
    refine within_perform_bind fun hooks => ?_
    split
    · exact within_done _ _
    · split
      · exact within_done _ _
      · exact within_perform _ 0
  refine hfetch.bind (n := 3) fun channel => ?_
  cases channel with
  | none => exact within_done _ _
  | some c =>
    dsimp only
    unfold relayInbound
    split
    · exact within_done _ _
    · exact (hhook c).bind fun _ => within_perform _ 0

theorem within_proxyTest (remoteChatId author text : String) (avatarUrl : Option String) :
    (ProxyCommand.proxyTest remoteChatId author text avatarUrl).Within 5 := by
  refine (within_deliverInbound _ _ _).attempt.bind fun result => ?_
  cases result with
  | ok u => exact within_perform _ 0
  | error e => exact within_replyOrPropagate e _

theorem within_eventHandler (e : FullEvent) : (eventHandler e).Within 3 := by
  cases e with
  | message m =>
    have hfetch : (Routes.fetchByChannel m.channelId).Within 1 := within_perform_bind fun _ => within_done _ 0
    refine within_perform_bind (n := 2) fun botId => ?_
    split
    · refine hfetch.bind fun chat => ?_
      cases chat with
      | none => exact within_done _ _
      | some chat => exact within_perform _ 0
    · exact within_done _ _
  | _ => exact within_done _ _

end Core

/-! ### The whole bot -/

section Handlers

variable {ctx : Ctx} {n : Nat}

theorem within_core {p : Bot Unit} (hp : p.Within n) : (core p).Within n := hp.translate coreRequests

theorem within_core_guild_bind {f : UInt64 → Handler Unit} (hf : ∀ g, (f g).Within n) : (core ctx.guild >>= f).Within n := by
  unfold Ctx.guild
  cases ctx.guildId with
  | none => exact within_done _ _
  | some g => exact hf g

theorem within_poll (question options : String) (duration : Option String) (multiple : Option Bool) :
    (PollCommand.poll ctx question options duration multiple).Within 1 := by
  unfold PollCommand.poll
  split
  · exact within_perform _ 0
  · split
    · exact within_perform _ 0
    · split
      · exact within_perform _ 0
      · exact within_perform _ 0

theorem within_join (channel : Option UInt64) : (VoiceCommand.join ctx channel).Within 4 := by
  refine within_core_guild_bind fun g => within_perform_bind fun cached => ?_
  cases cached with
  | none => exact within_done _ _
  | some invokerVc =>
    dsimp only
    split
    · exact within_perform _ 2
    · refine within_perform_bind fun manager => ?_
      split
      · refine within_perform_bind fun result => ?_
        cases result <;> exact within_perform _ 0
      · exact within_done _ _

theorem within_leave : (VoiceCommand.leave ctx).Within 3 := by
  refine within_core_guild_bind fun g => within_perform_bind fun manager => ?_
  split
  · refine within_perform_bind fun result => ?_
    cases result with
    | ok u => exact within_perform _ 0
    | error e =>
      dsimp only
      split <;> exact within_perform _ 0
  · exact within_done _ _

/-- A handler takes at most seven requests. -/
theorem within_handler (command : Command) : (command.handler ctx).Within 7 := by
  cases command with
  | purge count => exact (within_core (within_purge count)).mono (by decide)
  | kick member reason => exact (within_core (within_kick member reason)).mono (by decide)
  | ban member days reason => exact (within_core (within_ban member days reason)).mono (by decide)
  | unban user => exact (within_core (within_unban user)).mono (by decide)
  | mute member duration => exact within_core (within_mute member duration)
  | unmute member => exact (within_core (@within_unmute ctx member)).mono (by decide)
  | allow user role => exact (within_core (within_allow user role)).mono (by decide)
  | disallow user role => exact (within_core (within_disallow user role)).mono (by decide)
  | allowlist iter => exact (within_core (within_showAllowlist iter)).mono (by decide)
  | poll question options duration multiple => exact (@within_poll ctx question options duration multiple).mono (by decide)
  | join channel => exact (within_join channel).mono (by decide)
  | leave => exact within_leave.mono (by decide)
  | proxyLink channel remoteChatId => exact (within_core (within_proxyLink channel remoteChatId)).mono (by decide)
  | proxyUnlink channel => exact (within_core (within_proxyUnlink channel)).mono (by decide)
  | proxyList => exact (within_core within_proxyList).mono (by decide)
  | proxyTest remoteChatId author text avatarUrl =>
    exact (within_core (within_proxyTest remoteChatId author text avatarUrl)).mono (by decide)

/-- A checked command reads the allowlist, and then refuses or goes on to its handler. -/
theorem within_invoke (command : Command) : (command.invoke ctx).Within 8 := by
  cases hcheck : command.attributes.check with
  | false =>
    rw [invoke_of_free hcheck]
    exact (within_handler command).mono (by decide)
  | true =>
    have hrefuse : ∀ text, (core (do say text; pure false) >>= fun b => if b = true then command.handler ctx else pure ()).Within 7 := by
      intro text
      rw [say, core_ask_bind, bind_assoc]
      exact within_perform_bind (n := 6) fun _ => within_done _ _
    unfold Command.invoke Command.access
    rw [hcheck, if_pos rfl]
    unfold moderationAccessCheck
    split
    · exact (hrefuse _).mono (by decide)
    · rename_i g hg
      dsimp only [fetchAllowed]
      rw [bind_assoc]
      change Within (core (ask (.selectAllowed g.toInt64) >>= _) >>= _) 8
      rw [core_ask_bind, bind_assoc]
      refine within_perform_bind fun rows => ?_
      change Within (core (if isAllowed ctx.author.id ctx.roleIds _ _ = true then _ else _) >>= _) 7
      split
      · exact within_handler command
      · exact hrefuse _

end Handlers

/-- How many requests everything may take. -/
def Origin.limit : Origin guildOf → Nat
  | command _ => 8
  | event _ => 3
  | delivery _ => 4

theorem within_program (o : Origin guildOf) : o.program.Within o.limit := by
  cases o with
  | command inv => exact within_invoke inv.command
  | event e => exact within_core (within_eventHandler e)
  | delivery d => exact within_core (within_deliverInbound _ _ _)

/-- What is left of a job, executed as if it were alone; of a program of the core, also over the world of the core. -/
structure Undisturbed (fates : List (Fate Outage)) (s s' : System guildOf) (i : Nat)
    (job : Job (Origin guildOf) Error BotRequest BotResponse Unit) (l : List BotRequest) (r : Except Error Unit) : Prop
    extends Pool.Executes (botSetup guildOf) fates s s' i job l r where
  core : ∀ p, job.rest = core p → ∃ l₀, l = l₀.map .core ∧ p.Exec serve s.state.toWorld l₀ r s'.state.toWorld

theorem undisturbed_of_executes {fates : List (Fate Outage)} {s s' : System guildOf} {i : Nat}
    {job : Job (Origin guildOf) Error BotRequest BotResponse Unit} {l : List BotRequest} {r : Except Error Unit}
    (h : Pool.Executes (botSetup guildOf) fates s s' i job l r) : Undisturbed fates s s' i job l r := by
  refine ⟨h, fun p hp => ?_⟩
  have hexec := h.exec
  rw [hp] at hexec
  refine Exec.of_translate (fun w q => ?_) (fun _ _ => rfl) hexec
  change Except.map (fun a => a) (serve w.toWorld q).1 = (serve w.toWorld q).1
  cases (serve w.toWorld q).1 <;> rfl

/-- Nothing in a run goes on forever: it issues no more requests than its limit, and it has ended when its turn came that often. -/
structure Prompt (w : BotWorld) (happenings : List (Happening guildOf)) : Prop where
  bounded : ∀ i job, (System.run guildOf w happenings).jobs[i]? = some job →
    (eventsOf i (System.run guildOf w happenings).history).length ≤ job.origin.limit
  /-- The turns of one thing are counted after it was started, whatever happens between them. -/
  ends : ∀ i job more, (System.run guildOf w happenings).jobs[i]? = some job → job.origin.limit ≤ more.countP (Turn.isOf i) →
    ∃ r, (System.run guildOf w (happenings ++ more)).jobs[i]? = some ⟨job.origin, .done r⟩
  /-- Where its turns come in a row and no answer is lost, what is left of it is executed as if it were alone. -/
  undisturbed : ∀ i job fates, (System.run guildOf w happenings).jobs[i]? = some job → job.origin.limit ≤ fates.length →
    (∀ f, .lost f ∉ fates) → ∃ l r, Undisturbed fates (System.run guildOf w happenings)
      (System.run guildOf w (happenings ++ fates.map (Turn.issue i))) i job l r

/-- Whatever is in progress at once, whatever fails and whatever Discord does meanwhile, everything the bot does ends in time. -/
theorem prompt (w : BotWorld) (happenings : List (Happening guildOf)) : Prompt w happenings := by
  have hleft : ∀ i job, (System.run guildOf w happenings).jobs[i]? = some job →
      ∃ m, job.rest.Within m ∧ (eventsOf i (System.run guildOf w happenings).history).length + m = job.origin.limit :=
    fun i job hjob => ((Pool.sound_run w happenings).reaches i job hjob).within (within_program job.origin)
  have hmore : ∀ more, System.run guildOf w (happenings ++ more) =
      more.foldl (Pool.step (botSetup guildOf)) (System.run guildOf w happenings) := by
    intro more
    rw [System.run, Pool.run, List.foldl_append]
    rfl
  refine ⟨fun i job hjob => ?_, fun i job more hjob hturns => ?_, fun i job fates hjob hlen hfates => ?_⟩ <;>
    obtain ⟨m, hm, hleft⟩ := hleft i job hjob
  · omega
  · rw [hmore]
    exact Pool.ended_of_turns hjob hm (by omega)
  · rw [hmore]
    obtain ⟨l, r, h⟩ := Pool.exists_executes (P := botSetup guildOf) hjob hm (by omega) hfates
    exact ⟨l, r, undisturbed_of_executes h⟩

end ModerationBot
