import ModerationBot.Lemmas.Allowlist
import ModerationBot.Lemmas.Moderation
import ModerationBot.System

/-!
# The parts of the bot, under interference

What the logic of `Prog.Along` gives for the parts the handlers share: the core within the bot, the guild of an invocation, the check
that precedes a handler and the authorization within it. Each of the two leaves in the history the facts on which it decided.
-/

namespace ModerationBot

open Prog

/-! ## The core within the bot -/

/-- The core is run over the bot's requests. -/
def coreOver : coreRequests.Over coreMedium botMedium where
  view := BotWorld.toWorld
  read := readCore
  read_request _ _ _ := rfl
  answers s q fate := by
    cases fate with
    | served =>
      change Except.map (fun r => r) (serve s.toWorld q).1 = (serve s.toWorld q).1
      cases (serve s.toWorld q).1 <;> rfl
    | refused f => rfl
    | lost f => rfl

/-- What holds along a program of the core holds along it within the bot. -/
theorem along_core {α : Type} {Φ : Past → Request → Prop} {Ψ : Past → Except Error α → Prop}
    {Φ' : List (Event Outage BotRequest BotWorld) → BotRequest → Prop}
    {Ψ' : List (Event Outage BotRequest BotWorld) → Except Error α → Prop} {p : Bot α} {h : List (Event Outage BotRequest BotWorld)}
    (hp : p.Along coreMedium Φ Ψ (corePast h)) (hΦ : ∀ h q, Φ (corePast h) q → Φ' h (.core q))
    (hΨ : ∀ h r, Ψ (corePast h) r → Ψ' h r) : (core p).Along botMedium Φ' Ψ' h :=
  coreOver.along hΦ hΨ hp

theorem corePast_concat (h : List (Event Outage BotRequest BotWorld)) (w : BotWorld) (q : Request) (fate : Fate Outage) :
    corePast (h ++ [⟨w, .core q, fate⟩]) = corePast h ++ [⟨w.toWorld, q, fate⟩] := coreOver.events_concat h w q fate

/-- A request that hands a message over. -/
def Request.posts : Request → Bool
  | .executeWebhook _ _ _ => true
  | .egress _ => true
  | _ => false

/-- An earlier request was served, by a world of which something holds. -/
def Saw (past : Past) (q : Request) (R : World → Prop) : Prop :=
  ∃ ev ∈ past, ev.request = q ∧ ev.fate = .served ∧ R ev.before

theorem Saw.mono {past past' : Past} {q : Request} {R : World → Prop} (h : Saw past q R) (hp : past <+: past') :
    Saw past' q R := by
  obtain ⟨ev, hev, hq⟩ := h
  exact ⟨ev, hp.subset hev, hq⟩

theorem Saw.last {past : Past} {w : World} {q : Request} {R : World → Prop} (h : R w) :
    Saw (past ++ [⟨w, q, .served⟩]) q R :=
  ⟨_, List.mem_append_right _ (List.mem_singleton.2 rfl), rfl, rfl, h⟩

/-- A program issued a request, which was served, when something held of the history of the bot so far. -/
def Moment (before : Chronicle) (i : Nat) (q : Request) (R : Chronicle → Prop) : Prop :=
  ∃ l w, l ++ [(i, ⟨w, .core q, .served⟩)] <+: before ∧ R l

/-- What a program saw, it saw in a moment of the bot. -/
theorem Saw.moment {i : Nat} {before : Chronicle} {q : Request} {R : World → Prop} {R' : Chronicle → Prop}
    (h : Saw (corePast (eventsOf i before)) q R)
    (hR : ∀ l w, l ++ [(i, ⟨w, .core q, .served⟩)] <+: before → R w.toWorld → R' l) : Moment before i q R' := by
  obtain ⟨ev, hev, rfl, hfate, hw⟩ := h
  obtain ⟨⟨w, q', fate⟩, hmem, hread⟩ := List.mem_filterMap.1 hev
  cases q' with
  | core q =>
    obtain rfl := Option.some.inj hread
    obtain ⟨l, hl⟩ := exists_prefix_of_mem_eventsOf hmem
    obtain rfl : fate = .served := hfate
    exact ⟨l, w, hl, hR l w hl hw⟩
  | _ => cases hread

/-- The check read an allowlist that admits the invoker. -/
def Passed (ctx : Ctx) (past : Past) : Prop :=
  ∃ g, ctx.guildId = some g ∧ Saw past (.selectAllowed g.toInt64) (fun w => w.allowlist.Admits g ctx)

theorem Passed.mono {ctx : Ctx} {past past' : Past} (h : Passed ctx past) (hp : past <+: past') : Passed ctx past' := by
  obtain ⟨g, hg, hs⟩ := h
  exact ⟨g, hg, hs.mono hp⟩

/-- The check passes on an allowlist that admits the invoker. -/
theorem passed_concat {ctx : Ctx} {g : UInt64} {w : BotWorld} (hg : ctx.guildId = some g) (hw : w.allowlist.Admits g ctx)
    (h : List (Event Outage BotRequest BotWorld)) :
    Passed ctx (corePast (h ++ [⟨w, .core (.selectAllowed g.toInt64), .served⟩])) := by
  rw [corePast_concat]
  exact ⟨g, hg, Saw.last hw⟩

/-- The facts that were read, put together in one world, permit the action on the target. -/
def Cleared (ctx : Ctx) (target : Member) (past : Past) : Prop :=
  ∃ w g, ctx.guildId = some g ∧ Permitted w ctx target ∧
    Saw past .currentUser (fun v => v.bot.id = w.bot.id) ∧
    Saw past (.member g ctx.author.id) (fun v => v.members g ctx.author.id = w.members g ctx.author.id) ∧
    Saw past (.cachedGuild g) (fun v => v.guilds g = w.guilds g)

theorem Cleared.mono {ctx : Ctx} {target : Member} {past past' : Past} (h : Cleared ctx target past) (hp : past <+: past') :
    Cleared ctx target past' := by
  obtain ⟨w, g, hg, hw, h1, h2, h3⟩ := h
  exact ⟨w, g, hg, hw, h1.mono hp, h2.mono hp, h3.mono hp⟩

/-- The facts that were read, put together in one world, lead to a decision on the action. -/
def Decided (ctx : Ctx) (target : Member) (d : Except ModError Unit) (past : Past) : Prop :=
  ∃ (w : World) (g : UInt64) (guild : Guild) (actor : Member), ctx.guildId = some g ∧
    w.members g ctx.author.id = some actor ∧ w.guilds g = some guild ∧
    checkModerationAllowed (w.facts guild ctx.author.id actor target) = d ∧
    Saw past .currentUser (fun v => v.bot.id = w.bot.id) ∧
    Saw past (.member g ctx.author.id) (fun v => v.members g ctx.author.id = w.members g ctx.author.id) ∧
    Saw past (.cachedGuild g) (fun v => v.guilds g = w.guilds g)

/-- The decision to allow the action is a permission. -/
theorem Decided.cleared {ctx : Ctx} {target : Member} {past : Past} (h : Decided ctx target (.ok ()) past) :
    Cleared ctx target past := by
  obtain ⟨w, g, guild, actor, hg, ha, hc, hd, hsaw⟩ := h
  exact ⟨w, g, hg, ⟨g, guild, actor, hg, ha, hc, hd⟩, hsaw⟩

/-! ## The parts -/

section Parts

variable {α : Type} {Φ : Past → Request → Prop} {Ψ : Past → Except Error α → Prop} {h : Past} {ctx : Ctx}

/-- A command goes on in its guild; outside a guild it ends. -/
theorem along_guild_bind {f : UInt64 → Bot α}
    (hnone : Ψ h (.error (.other "this command can only be used in a guild")))
    (hsome : ∀ g, ctx.guildId = some g → (f g).Along coreMedium Φ Ψ h) : (ctx.guild >>= f).Along coreMedium Φ Ψ h := by
  unfold Ctx.guild
  cases hg : ctx.guildId with
  | none => exact hnone
  | some g => exact hsome g hg

theorem along_core_guild_bind {Φ : List (Event Outage BotRequest BotWorld) → BotRequest → Prop}
    {Ψ : List (Event Outage BotRequest BotWorld) → Except Error α → Prop} {h : List (Event Outage BotRequest BotWorld)}
    {f : UInt64 → Handler α} (hnone : Ψ h (.error (.other "this command can only be used in a guild")))
    (hsome : ∀ g, ctx.guildId = some g → (f g).Along botMedium Φ Ψ h) : (core ctx.guild >>= f).Along botMedium Φ Ψ h := by
  unfold Ctx.guild
  cases hg : ctx.guildId with
  | none => exact hnone
  | some g => exact hsome g hg

/-- A member that was served is the member of the guild. -/
theorem member_of_served {w : World} {g u : UInt64} {m : Member} (h : (serve w (.member g u)).1 = .ok m) :
    w.members g u = some m := by
  rw [serve_member] at h
  cases hm : w.members g u with
  | none => simp [hm] at h
  | some m' => simpa [hm] using h

/-- The voice channel that was served is the one the user was in. -/
theorem voiceChannel_of_served {w : BotWorld} {g u : UInt64} {channel : Option UInt64}
    (h : (serveBot w (.voiceChannel g u)).1 = .ok (some channel)) : w.voiceStates g u = channel := by
  obtain ⟨_, -, hchannel⟩ := Option.map_eq_some_iff.1 (Except.ok.inj h)
  exact hchannel

/-- The authorization leaves the facts it decided on. -/
theorem along_authorize {target : Member} (hbot : ∀ h, Φ h .currentUser)
    (hmember : ∀ h g, ctx.guildId = some g → Φ h (.member g ctx.author.id))
    (hguild : ∀ h g, ctx.guildId = some g → Φ h (.cachedGuild g)) :
    (authorize ctx target).Along coreMedium Φ (fun h' r => ∀ d, r = .ok d → Decided ctx target d h') h := by
  unfold authorize
  refine along_guild_bind (fun _ => nofun) fun g hg => ?_
  refine along_perform_bind.2 ⟨hbot _, fun w₁ botId hbotId => ?_, fun _ _ _ _ _ => nofun⟩
  refine along_perform_bind.2 ⟨hmember _ _ hg, fun w₂ actor hactor => ?_, fun _ _ _ _ _ => nofun⟩
  refine along_perform_bind.2 ⟨hguild _ _ hg, fun w₃ cached hcached => ?_, fun _ _ _ _ _ => nofun⟩
  cases cached with
  | none => exact fun _ => nofun
  | some guild =>
    have hactor := member_of_served hactor
    cases hbotId
    -- The world whose parts are those that were read.
    let w : World := { w₁ with members := w₂.members, guilds := w₃.guilds }
    intro d hd
    exact ⟨w, g, guild, actor, hg, hactor, Except.ok.inj hcached, Except.ok.inj hd,
      Saw.mono (Saw.mono (Saw.last (w := w₁) rfl) (List.prefix_append _ _)) (List.prefix_append _ _),
      Saw.mono (Saw.last (w := w₂) rfl) (List.prefix_append _ _), Saw.last (w := w₃) rfl⟩

/-- What follows the authorization goes on from its decision, which the facts it read explain. -/
theorem along_authorize_bind {target : Member} {f : Except ModError Unit → Bot α} (hbot : ∀ h, Φ h .currentUser)
    (hmember : ∀ h g, ctx.guildId = some g → Φ h (.member g ctx.author.id))
    (hguild : ∀ h g, ctx.guildId = some g → Φ h (.cachedGuild g)) (herror : ∀ h e, Ψ h (.error e))
    (hf : ∀ h' d, h <+: h' → Decided ctx target d h' → (f d).Along coreMedium Φ Ψ h') :
    (authorize ctx target >>= f).Along coreMedium Φ Ψ h :=
  (along_authorize hbot hmember hguild).bind (fun h' e _ _ => herror h' e) fun h' d hh hd => hf h' d hh (hd d rfl)

end Parts

/-! ## An invocation -/

theorem core_ask (q : Request) : core (ask q) = request (.core q) := by
  refine congrArg (Prog.call (BotRequest.core q)) (funext fun r => ?_)
  cases r <;> rfl

/-- A request of the core, within the bot. -/
theorem core_ask_bind {α : Type} (q : Request) (f : Response q → Bot α) :
    core (ask q >>= f) = request (.core q) >>= fun a => core (f a) := by
  refine congrArg (Prog.call (BotRequest.core q)) (funext fun r => ?_)
  cases r <;> rfl

section Invoke

variable {Φ : List (Event Outage BotRequest BotWorld) → BotRequest → Prop}
  {Ψ : List (Event Outage BotRequest BotWorld) → Except Error Unit → Prop} {ctx : Ctx} {command : Command}
  {h : List (Event Outage BotRequest BotWorld)}

/-- A refused invocation ends with the reply that refuses it. -/
theorem along_refuse {text : String} {f : Bool → Handler Unit} (hf : f false = pure ())
    (hsend : (send { content := text }).Along botMedium Φ Ψ h) :
    (core (do say text; pure false) >>= f).Along botMedium Φ Ψ h := by
  rw [say, core_ask_bind, bind_assoc]
  refine along_perform_bind.2 ⟨hsend.1, fun w a ha => ?_, fun w fate e he => ?_⟩
  · change (f false).Along botMedium Φ Ψ _
    rw [hf]
    have := hsend.2 w .served
    rwa [Medium.answer_served, show (botMedium.service w (.core (.send { content := text }))).1 = .ok a from ha] at this
  · have := hsend.2 w fate
    rwa [he] at this

/-- A command without a check is its handler. -/
theorem invoke_of_free (h : command.attributes.check = false) : command.invoke ctx = command.handler ctx := by
  unfold Command.invoke Command.access
  rw [h]
  rfl

/-- A checked command is invoked in a guild. -/
theorem Invocation.guild_of_check {guildOf : UInt64 → UInt64} {inv : Invocation guildOf}
    (h : inv.command.attributes.check = true) : ∃ g, inv.ctx.guildId = some g := by
  refine Option.isSome_iff_exists.1 (inv.met.guild ?_)
  cases hc : inv.command <;> rw [hc] at h <;> first | rfl | cases h

/-- What the check replies to an invoker that is not on the allowlist. -/
def denial : CreateReply where
  content := "⛔ You are not on this server's moderation allowlist. An admin can add you with `/allow`."

/-- A checked command reads the allowlist of its guild. It goes on to its handler if the allowlist admits the invoker, and to a refusal
if not. -/
theorem along_invoke (hcheck : command.attributes.check = true) {g : UInt64} (hg : ctx.guildId = some g)
    (hread : Φ h (.core (.selectAllowed g.toInt64)))
    (herror : ∀ w fate e, Ψ (h ++ [⟨w, .core (.selectAllowed g.toInt64), fate⟩]) (.error e))
    (hdenied : ∀ w : BotWorld, ¬w.allowlist.Admits g ctx →
      (send denial).Along botMedium Φ Ψ (h ++ [⟨w, .core (.selectAllowed g.toInt64), .served⟩]))
    (hadmitted : ∀ w : BotWorld, w.allowlist.Admits g ctx →
      (command.handler ctx).Along botMedium Φ Ψ (h ++ [⟨w, .core (.selectAllowed g.toInt64), .served⟩])) :
    (command.invoke ctx).Along botMedium Φ Ψ h := by
  unfold Command.invoke Command.access
  rw [hcheck, if_pos rfl]
  unfold moderationAccessCheck
  rw [hg]
  dsimp only [fetchAllowed]
  rw [bind_assoc]
  change Along botMedium Φ Ψ (core (ask (.selectAllowed g.toInt64) >>= _) >>= _) h
  rw [core_ask_bind, bind_assoc]
  refine along_perform_bind.2 ⟨hread, fun w rows hrows => ?_, fun w fate e _ => herror w fate e⟩
  have hfetched : rows.foldl AllowedSets.read ⟨∅, ∅⟩ = w.allowlist.fetched g := by
    cases hrows
    rfl
  change Along botMedium Φ Ψ (core (if isAllowed ctx.author.id ctx.roleIds _ _ = true then _ else _) >>= _) _
  rw [hfetched]
  split
  · rename_i hallowed
    exact hadmitted w (isAllowed_fetched_iff.1 hallowed)
  · rename_i hallowed
    exact along_refuse rfl (hdenied w (mt isAllowed_fetched_iff.2 hallowed))

end Invoke

end ModerationBot
