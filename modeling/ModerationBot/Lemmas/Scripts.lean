import ModerationBot.Lemmas.Handlers
import ModerationBot.Lemmas.System
import ModerationBot.Library.Script

/-!
# The handlers as scripts

Every handler is a script: a command concludes with its one reply, and the bridge with the one message it hands over. What each may end
with of itself is its condition `D`; an error that no handler knows ends it.
-/

namespace ModerationBot

open Prog

/-- An error that no handler knows: it is no `ProxyError`, and no violated key. -/
def Error.Fatal (e : Error) : Prop := (∀ pe, e ≠ .proxy pe) ∧ e ≠ uniqueViolation

theorem Outage.fatal (o : Outage) : o.error.Fatal := ⟨o.not_proxy, o.not_violation⟩

/-- The reply of a command. -/
def Request.replies : Request → Bool
  | .send _ => true
  | _ => false

/-- The reply of a command: a message, or the poll itself. -/
def BotRequest.replies : BotRequest → Bool
  | .core q => q.replies
  | .sendPoll _ => true
  | _ => false

/-- A request that hands a message over, of all requests. -/
def BotRequest.posts : BotRequest → Bool
  | .core q => q.posts
  | _ => false

/-- The errors that a command invoked in a guild ends with of itself. -/
def Error.Raised (e : Error) : Prop :=
  e = .other "guild is not available in the cache" ∨ e = .other "voice manager was not initialised"

/-- A command ends of itself only with such an error. -/
def Raises (r : Except Error Unit) : Prop := ∃ e, r = .error e ∧ e.Raised

/-! ### The commands of the core -/

section Core

variable {α : Type} {final : Request → Bool} {may : Bool} {D : Except Error α → Prop} {ctx : Ctx} {g : UInt64}

theorem script_guild_bind {f : UInt64 → Bot α} (hg : ctx.guildId = some g) (h : (f g).Script Error.Fatal final may D) :
    (ctx.guild >>= f).Script Error.Fatal final may D := by
  unfold Ctx.guild
  rw [hg]
  exact h

theorem script_say {text : String} {D : Except Error Unit → Prop} : (say text).Script Error.Fatal Request.replies true D :=
  script_final rfl

/-- A command that replies after a request. -/
theorem script_ask_say {q : Request} {text : Response q → String} (hq : q.replies = false) {D : Except Error Unit → Prop} :
    (do let a ← ask q; say (text a)).Script Error.Fatal Request.replies true D :=
  script_perform_bind hq fun _ => script_say

/-- A command that is authorized first. -/
theorem script_authorize_bind {target : Member} {f : Except ModError Unit → Bot Unit} (hg : ctx.guildId = some g)
    (hf : ∀ d, (f d).Script Error.Fatal Request.replies true Raises) :
    (authorize ctx target >>= f).Script Error.Fatal Request.replies true Raises := by
  unfold authorize
  rw [bind_assoc]
  refine script_guild_bind hg ?_
  simp only [bind_assoc]
  refine script_perform_bind rfl fun botId => script_perform_bind rfl fun actor => script_perform_bind rfl fun cached => ?_
  cases cached with
  | none => exact script_throw ⟨_, rfl, Or.inl rfl⟩
  | some guild => exact hf _

theorem script_purge (ctx : Ctx) (count : Int64) : (purge ctx count).Script Error.Fatal Request.replies true Raises := by
  unfold purge
  split
  · exact script_say
  · refine script_perform_bind rfl fun ids => ?_
    match ids with
    | [] => exact script_say
    | [id] => exact script_ask_say rfl
    | a :: b :: ids => exact script_ask_say rfl

theorem script_kick (hg : ctx.guildId = some g) (member : Member) (reason : Option String) :
    (kick ctx member reason).Script Error.Fatal Request.replies true Raises := by
  refine script_authorize_bind hg fun d => ?_
  cases d with
  | error e => exact script_say
  | ok u => exact script_ask_say rfl

theorem script_ban (hg : ctx.guildId = some g) (member : Member) (days : Option Int64) (reason : Option String) :
    (ban ctx member days reason).Script Error.Fatal Request.replies true Raises := by
  unfold ban
  dsimp only
  split
  · exact script_say
  · refine script_authorize_bind hg fun d => ?_
    cases d with
    | error e => exact script_say
    | ok u => exact script_guild_bind hg (script_ask_say rfl)

theorem script_unban (hg : ctx.guildId = some g) (user : User) :
    (unban ctx user).Script Error.Fatal Request.replies true Raises :=
  script_guild_bind hg (script_ask_say rfl)

theorem script_mute (hg : ctx.guildId = some g) (member : Member) (duration : String) :
    (mute ctx member duration).Script Error.Fatal Request.replies true Raises := by
  unfold mute
  split
  · exact script_say
  · refine script_authorize_bind hg fun d => ?_
    cases d with
    | error e => exact script_say
    | ok u =>
      rw [muteDecided_ok]
      exact script_perform_bind rfl fun now => script_perform_bind rfl fun t => script_ask_say rfl

theorem script_unmute (ctx : Ctx) (member : Member) : (unmute ctx member).Script Error.Fatal Request.replies true Raises :=
  script_ask_say rfl

theorem script_editGiven {edit : Entity → Bot Nat} {o : Option (Entity × String)}
    (hedit : ∀ e, (edit e).Script Error.Fatal Request.replies false fun r => ∃ n, r = .ok n) :
    (editGiven edit o).Script Error.Fatal Request.replies false fun r => ∃ l, r = .ok l := by
  cases o with
  | none => exact script_pure ⟨_, rfl⟩
  | some x =>
    refine (hedit x.1).bind (fun n _ => script_pure ⟨_, rfl⟩) fun e h => ?_
    obtain ⟨n, hn⟩ := h
    cases hn

theorem script_editAllowlist (hg : ctx.guildId = some g) {edit : UInt64 → Entity → Bot Nat} {reply : List String → String}
    {user : Option User} {role : Option Role}
    (hedit : ∀ e, (edit g e).Script Error.Fatal Request.replies false fun r => ∃ n, r = .ok n) :
    (editAllowlist ctx edit reply user role).Script Error.Fatal Request.replies true Raises := by
  have herror : ∀ e : Error, (∃ l : List String, (.error e : Except Error (List String)) = .ok l) → Raises (.error e) := by
    intro e h
    obtain ⟨l, hl⟩ := h
    cases hl
  refine script_guild_bind hg ((script_editGiven hedit).bind (fun users _ => ?_) herror)
  exact (script_editGiven hedit).bind (fun roles _ => script_say) herror

theorem script_allow (hg : ctx.guildId = some g) (user : Option User) (role : Option Role) :
    (allow ctx user role).Script Error.Fatal Request.replies true Raises := by
  rw [allow_eq]
  exact script_editAllowlist hg fun e => script_perform_bind rfl fun _ => script_pure ⟨1, rfl⟩

theorem script_disallow (hg : ctx.guildId = some g) (user : Option User) (role : Option Role) :
    (disallow ctx user role).Script Error.Fatal Request.replies true Raises := by
  rw [disallow_eq]
  exact script_editAllowlist hg fun e => script_perform rfl

theorem script_showAllowlist (hg : ctx.guildId = some g) (iter : IterOrder) :
    (showAllowlist iter ctx).Script Error.Fatal Request.replies true Raises := by
  refine script_guild_bind hg ?_
  unfold fetchAllowed
  rw [bind_assoc]
  refine script_perform_bind rfl fun rows => ?_
  rw [pure_bind]
  split <;> exact script_say

/-- An error that the user can mend is replied, and any other is passed on. -/
theorem replyOrPropagate_cases (e : Error) (ephemeral : Bool) : replyOrPropagate e ephemeral = throw e ∨
    ¬e.Fatal ∧ (replyOrPropagate e ephemeral).Script Error.Fatal Request.replies true Raises := by
  cases e with
  | proxy pe => exact Or.inr ⟨fun h => h.1 pe rfl, script_final rfl⟩
  | database code => exact Or.inl rfl
  | other text => exact Or.inl rfl

/-- A link ends of itself well, or with the error that the user can mend. -/
theorem script_link (g c : UInt64) (p : Platform) (r : String) (createdBy : UInt64) :
    (Routes.link g c p r createdBy).Script Error.Fatal Request.replies false fun r =>
      r = .ok () ∨ r = .error (.proxy .channelAlreadyLinked) := by
  unfold Routes.link
  refine (script_perform rfl).attempt_bind ?_ fun e => ?_
  · rintro r ⟨a, rfl⟩
    exact script_pure (Or.inl rfl)
  · dsimp only
    by_cases he : e = uniqueViolation
    · rw [if_pos he]
      exact Or.inr ⟨fun h => h.2 he, script_throw (Or.inr rfl)⟩
    · rw [if_neg he]
      exact Or.inl rfl

theorem script_proxyLink (hg : ctx.guildId = some g) (channel : UInt64) (remoteChatId : String) :
    (ProxyCommand.link ctx channel remoteChatId).Script Error.Fatal Request.replies true Raises := by
  refine script_guild_bind hg ((script_link _ _ _ _ _).attempt_bind ?_ fun e => replyOrPropagate_cases e false)
  rintro r (rfl | rfl)
  · exact script_final rfl
  · exact script_final rfl

theorem script_proxyUnlink (hg : ctx.guildId = some g) (channel : UInt64) :
    (ProxyCommand.unlink ctx channel).Script Error.Fatal Request.replies true Raises := by
  refine script_guild_bind hg (script_perform_bind rfl fun n => ?_)
  split <;> exact script_say

theorem script_proxyList (hg : ctx.guildId = some g) : (ProxyCommand.list ctx).Script Error.Fatal Request.replies true Raises := by
  refine script_guild_bind hg ?_
  unfold Routes.list
  rw [bind_assoc]
  refine script_perform_bind rfl fun rows => ?_
  rw [pure_bind]
  split
  · exact script_say
  · exact script_final rfl

end Core

/-! ### The bridge -/

section Bridge

/-- A delivery ends of itself when nothing is left to show, when its chat is not linked, or when there is no room for a webhook. -/
def Undelivered (msg : RemoteMessage) (r : Except Error Unit) : Prop :=
  r = .ok () ∧ prepareRelayContent msg.content = none ∨ r = .error (.proxy .noRouteForRemote) ∨
    r = .error (.proxy .webhookLimitReached)

/-- A delivery is a script, for any requests that include no request of its lookups among the final ones. -/
theorem script_deliverInbound {final : Request → Bool} {may : Bool} (hread : ∀ p r, final (.selectChannel p r) = false)
    (hhooks : ∀ c, final (.webhooks c) = false) (hcreate : ∀ c name, final (.createWebhook c name) = false)
    {p : Platform} {r : String} {msg : RemoteMessage} {D : Except Error Unit → Prop} (hD : ∀ r, Undelivered msg r → D r)
    (hpost : ∀ hook b, (ask (.executeWebhook hook false b)).Script Error.Fatal final may D) :
    (deliverInbound p r msg).Script Error.Fatal final may D := by
  unfold deliverInbound Routes.fetchByRemote
  rw [bind_assoc]
  refine script_perform_bind (hread _ _) fun row => ?_
  rw [pure_bind]
  split
  · exact script_throw (hD _ (Or.inr (Or.inl rfl)))
  · unfold relayInbound
    split
    · rename_i hnone
      exact script_pure (hD _ (Or.inl ⟨rfl, hnone⟩))
    · unfold getOrCreateWebhook
      rw [bind_assoc]
      refine script_perform_bind (hhooks _) fun hooks => ?_
      split
      · exact hpost _ _
      · split
        · exact script_throw (hD _ (Or.inr (Or.inr rfl)))
        · exact script_perform_bind (hcreate _ _) fun hook => hpost _ _

theorem script_delivery (p : Platform) (r : String) (msg : RemoteMessage) :
    (deliverInbound p r msg).Script Error.Fatal Request.posts true (Undelivered msg) :=
  script_deliverInbound (fun _ _ => rfl) (fun _ => rfl) (fun _ _ => rfl) (fun _ h => h) fun _ _ => script_final rfl

theorem script_proxyTest (remoteChatId author text : String) (avatarUrl : Option String) :
    (ProxyCommand.proxyTest remoteChatId author text avatarUrl).Script Error.Fatal Request.replies true Raises := by
  have hquiet : (deliverInbound .telegram (trim remoteChatId) ⟨author, avatarUrl, text⟩).Script Error.Fatal Request.replies false
      fun r => r = .ok () ∨ ∃ pe, r = .error (.proxy pe) := by
    refine script_deliverInbound (fun _ _ => rfl) (fun _ => rfl) (fun _ _ => rfl) ?_ fun _ _ => ?_
    · rintro r (⟨rfl, -⟩ | rfl | rfl)
      · exact Or.inl rfl
      · exact Or.inr ⟨_, rfl⟩
      · exact Or.inr ⟨_, rfl⟩
    · refine (script_perform rfl).mono ?_
      rintro r ⟨a, rfl⟩
      exact Or.inl rfl
  refine hquiet.attempt_bind ?_ fun e => replyOrPropagate_cases e true
  rintro r (rfl | ⟨pe, rfl⟩)
  · exact script_final rfl
  · exact script_final rfl

/-- A message of Discord is passed over without an error. -/
theorem script_eventHandler (e : FullEvent) :
    (eventHandler e).Script Error.Fatal Request.posts true fun r => r = .ok () := by
  cases e with
  | ready => exact script_pure rfl
  | other => exact script_pure rfl
  | message m =>
    refine script_perform_bind rfl fun botId => ?_
    split
    · unfold Routes.fetchByChannel
      rw [bind_assoc]
      refine script_perform_bind rfl fun row => ?_
      rw [pure_bind]
      split
      · exact script_pure rfl
      · exact script_final rfl
    · exact script_pure rfl

end Bridge

/-! ### The commands beyond the core -/

section Handlers

variable {α : Type} {ctx : Ctx} {g : UInt64}

theorem script_core {final : Request → Bool} {final' : BotRequest → Bool} (hf : ∀ q, final' (.core q) = final q) {may : Bool}
    {D : Except Error α → Prop} {p : Bot α} (hp : p.Script Error.Fatal final may D) : (core p).Script Error.Fatal final' may D :=
  hp.translate hf

theorem script_core_guild_bind {may : Bool} {D : Except Error α → Prop} {f : UInt64 → Handler α} (hg : ctx.guildId = some g)
    (h : (f g).Script Error.Fatal BotRequest.replies may D) : (core ctx.guild >>= f).Script Error.Fatal BotRequest.replies may D := by
  unfold Ctx.guild
  rw [hg]
  exact h

theorem script_poll (ctx : Ctx) (question options : String) (duration : Option String) (multiple : Option Bool) :
    (PollCommand.poll ctx question options duration multiple).Script Error.Fatal BotRequest.replies true Raises := by
  unfold PollCommand.poll
  split
  · exact script_final rfl
  · split
    · exact script_final rfl
    · split
      · exact script_final rfl
      · exact script_final rfl

theorem script_join (hg : ctx.guildId = some g) (channel : Option UInt64) :
    (VoiceCommand.join ctx channel).Script Error.Fatal BotRequest.replies true Raises := by
  refine script_core_guild_bind hg (script_perform_bind rfl fun cached => ?_)
  cases cached with
  | none => exact script_throw ⟨_, rfl, Or.inl rfl⟩
  | some invokerVc =>
    dsimp only
    split
    · exact script_final rfl
    · refine script_perform_bind rfl fun manager => ?_
      split
      · refine script_perform_bind rfl fun result => ?_
        cases result <;> exact script_final rfl
      · exact script_throw ⟨_, rfl, Or.inr rfl⟩

theorem script_leave (hg : ctx.guildId = some g) : (VoiceCommand.leave ctx).Script Error.Fatal BotRequest.replies true Raises := by
  refine script_core_guild_bind hg (script_perform_bind rfl fun manager => ?_)
  split
  · refine script_perform_bind rfl fun result => ?_
    cases result with
    | ok u => exact script_final rfl
    | error e =>
      dsimp only
      split <;> exact script_final rfl
  · exact script_throw ⟨_, rfl, Or.inr rfl⟩

end Handlers

end ModerationBot
