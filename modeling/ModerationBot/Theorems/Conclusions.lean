import ModerationBot.Lemmas.Scripts

namespace ModerationBot

open Prog

variable {guildOf : UInt64 → UInt64}

/-! ## How everything ends -/

/-- What concludes what the bot does: the reply of a command, and the one message of an event or a delivery. -/
def Origin.concludes : Origin guildOf → BotRequest → Bool
  | command _ => BotRequest.replies
  | event _ => BotRequest.posts
  | delivery _ => BotRequest.posts

/-- How it ends without that, when no request fails: a command whose guild is not in the cache or that finds no voice manager ends with
an error; an event is passed over; and a delivery has nothing to show, no route or no room for a webhook. -/
def Origin.Settles : Origin guildOf → Except Error Unit → Prop
  | command _ => Raises
  | event _ => fun r => r = .ok ()
  | delivery d => Undelivered d.msg

/-- The handler of a command concludes with its reply. -/
theorem script_handler (inv : Invocation guildOf) :
    (inv.command.handler inv.ctx).Script Error.Fatal BotRequest.replies true Raises := by
  have hguild : inv.command.attributes.guildOnly = true → ∃ g, inv.ctx.guildId = some g := fun h =>
    Option.isSome_iff_exists.1 (inv.met.guild h)
  have hcore : ∀ {p : Bot Unit}, p.Script Error.Fatal Request.replies true Raises →
      (core p).Script Error.Fatal BotRequest.replies true Raises := fun hp => script_core (fun _ => rfl) hp
  cases hc : inv.command with
  | poll question options duration multiple => exact script_poll inv.ctx question options duration multiple
  | proxyTest remoteChatId author text avatarUrl => exact hcore (script_proxyTest remoteChatId author text avatarUrl)
  | purge count => exact hcore (script_purge inv.ctx count)
  | unmute member => exact hcore (script_unmute inv.ctx member)
  | kick member reason =>
    obtain ⟨g, hg⟩ := hguild (by rw [hc]; rfl)
    exact hcore (script_kick hg member reason)
  | ban member days reason =>
    obtain ⟨g, hg⟩ := hguild (by rw [hc]; rfl)
    exact hcore (script_ban hg member days reason)
  | unban user =>
    obtain ⟨g, hg⟩ := hguild (by rw [hc]; rfl)
    exact hcore (script_unban hg user)
  | mute member duration =>
    obtain ⟨g, hg⟩ := hguild (by rw [hc]; rfl)
    exact hcore (script_mute hg member duration)
  | allow user role =>
    obtain ⟨g, hg⟩ := hguild (by rw [hc]; rfl)
    exact hcore (script_allow hg user role)
  | disallow user role =>
    obtain ⟨g, hg⟩ := hguild (by rw [hc]; rfl)
    exact hcore (script_disallow hg user role)
  | allowlist iter =>
    obtain ⟨g, hg⟩ := hguild (by rw [hc]; rfl)
    exact hcore (script_showAllowlist hg iter)
  | join channel =>
    obtain ⟨g, hg⟩ := hguild (by rw [hc]; rfl)
    exact script_join hg channel
  | leave =>
    obtain ⟨g, hg⟩ := hguild (by rw [hc]; rfl)
    exact script_leave hg
  | proxyLink channel remoteChatId =>
    obtain ⟨g, hg⟩ := hguild (by rw [hc]; rfl)
    exact hcore (script_proxyLink hg channel remoteChatId)
  | proxyUnlink channel =>
    obtain ⟨g, hg⟩ := hguild (by rw [hc]; rfl)
    exact hcore (script_proxyUnlink hg channel)
  | proxyList =>
    obtain ⟨g, hg⟩ := hguild (by rw [hc]; rfl)
    exact hcore (script_proxyList hg)

/-- A checked command goes on to its handler, or it concludes with the refusal. -/
theorem script_invoke (inv : Invocation guildOf) :
    (inv.command.invoke inv.ctx).Script Error.Fatal BotRequest.replies true Raises := by
  cases hcheck : inv.command.attributes.check with
  | false =>
    rw [invoke_of_free hcheck]
    exact script_handler inv
  | true =>
    obtain ⟨g, hg⟩ := inv.guild_of_check hcheck
    unfold Command.invoke Command.access
    rw [hcheck, if_pos rfl]
    unfold moderationAccessCheck fetchAllowed
    rw [hg]
    dsimp only
    rw [bind_assoc]
    change Script _ _ _ _ (core (ask (.selectAllowed g.toInt64) >>= _) >>= _)
    rw [core_ask_bind, bind_assoc]
    refine script_perform_bind rfl fun rows => ?_
    change Script _ _ _ _ (core (if isAllowed inv.ctx.author.id inv.ctx.roleIds _ _ = true then _ else _) >>= _)
    split
    · exact script_handler inv
    · rw [say, core_ask_bind, bind_assoc]
      exact script_final_bind rfl fun _ => rfl

/-- Everything the bot does is a script. -/
theorem script_program (o : Origin guildOf) : o.program.Script Error.Fatal o.concludes true o.Settles := by
  cases o with
  | command inv => exact script_invoke inv
  | event e => exact script_core (fun _ => rfl) (script_eventHandler e)
  | delivery d => exact script_core (fun _ => rfl) (script_delivery d.platform d.remoteChatId d.msg)

/-- How everything in a run goes and ends. -/
structure Conclusive (s : System guildOf) : Prop where
  /-- Nothing is issued after a request that was not served, nor after the reply of a command or the message of an event or delivery. -/
  stops : ∀ before i ev job, before ++ [(i, ev)] <+: s.history → s.jobs[i]? = some job →
    Open job.origin.concludes (eventsOf i before)
  /-- A command that ends well has replied once, in its last request, and all its requests were served. -/
  replied : ∀ i inv, s.jobs[i]? = some ⟨.command inv, .done (.ok ())⟩ → ∃ l w q, eventsOf i s.history = l ++ [⟨w, q, .served⟩] ∧
    q.replies = true ∧ Open BotRequest.replies l
  /-- A delivery that ends well has posted its message once, in its last request, or there was nothing to show. -/
  posted : ∀ i d, s.jobs[i]? = some ⟨.delivery d, .done (.ok ())⟩ → prepareRelayContent d.msg.content = none ∨
    ∃ l w q, eventsOf i s.history = l ++ [⟨w, q, .served⟩] ∧ q.posts = true ∧ Open BotRequest.posts l
  /-- What ends with an error ends with the error of its last request, or with an error of its own; then it has concluded nothing. -/
  failed : ∀ i o e, s.jobs[i]? = some ⟨o, .done (.error e)⟩ →
    (∃ l w q fate, eventsOf i s.history = l ++ [⟨w, q, fate⟩] ∧ botMedium.answer w q fate = .error e ∧ Open o.concludes l) ∨
      o.Settles (.error e) ∧ Open o.concludes (eventsOf i s.history)

/-- Whatever is in progress at once, whatever fails and whatever Discord does meanwhile, everything stops at the first failure, concludes
at most once, and tells truly how it ended. -/
theorem conclusive (w : BotWorld) (happenings : List (Happening guildOf)) : Conclusive (System.run guildOf w happenings) := by
  have hscript : ∀ o : Origin guildOf, o.program.Along botMedium (fun h _ => Open o.concludes h)
      (fun h r => Ends botMedium o.concludes o.Settles h r) [] := fun o =>
    (script_program o).along Outage.fatal fun _ hev => absurd hev List.not_mem_nil
  refine ⟨?_, ?_, ?_, ?_⟩
  · intro before i ev job hev hjob
    obtain ⟨job', hjob', hopen⟩ := Pool.issued hscript w happenings hev
    obtain rfl := Option.some.inj (hjob.symm.trans hjob')
    exact hopen
  · intro i inv hjob
    generalize hh : eventsOf i (System.run guildOf w happenings).history = h
    have hends : Ends botMedium BotRequest.replies Raises h (.ok ()) := hh ▸ Pool.ended hscript w happenings hjob
    cases hends with
    | quiet hopen hraises =>
      obtain ⟨e, he, -⟩ := hraises
      cases he
    | concluded b hopen hq hserved => exact ⟨_, _, _, rfl, hq, hopen⟩
  · intro i d hjob
    generalize hh : eventsOf i (System.run guildOf w happenings).history = h
    have hends : Ends botMedium BotRequest.posts (Undelivered d.msg) h (.ok ()) := hh ▸ Pool.ended hscript w happenings hjob
    cases hends with
    | quiet hopen hundelivered =>
      rcases hundelivered with ⟨-, hnone⟩ | hr | hr
      · exact Or.inl hnone
      · cases hr
      · cases hr
    | concluded b hopen hq hserved => exact Or.inr ⟨_, _, _, rfl, hq, hopen⟩
  · intro i o e hjob
    generalize hh : eventsOf i (System.run guildOf w happenings).history = h
    have hends : Ends botMedium o.concludes o.Settles h (.error e) := hh ▸ Pool.ended hscript w happenings hjob
    cases hends with
    | quiet hopen hsettles => exact Or.inr ⟨hsettles, hopen⟩
    | failed hopen ha => exact Or.inl ⟨_, _, _, _, rfl, ha, hopen⟩

end ModerationBot
