import ModerationBot.Lemmas.Handlers
import ModerationBot.Lemmas.System
import ModerationBot.Lemmas.Webhook

namespace ModerationBot

open Prog

variable {guildOf : UInt64 → UInt64}

/-! ## What the bridge relays -/

/-- What is done is done for a remote message: a delivery of it, or the owner of the bot injects it. -/
inductive Origin.Relays : Origin guildOf → Platform → String → RemoteMessage → Prop
  | delivery (p : Platform) (r : String) (msg : RemoteMessage) : Relays (.delivery ⟨p, r, msg⟩) p r msg
  | injection {inv : Invocation guildOf} (r : String) (msg : RemoteMessage) : inv.owner = true →
      inv.command = .proxyTest r msg.author msg.content msg.avatarUrl → Relays (.command inv) .telegram (trim r) msg

/-- The channel was the one the remote chat was linked to, when it was looked up. -/
def Routed (past : Past) (p : Platform) (r : String) (c : UInt64) : Prop :=
  Saw past (.selectChannel p.asI16 r) fun w => w.routes.byRemote (p, r) = some c

/-- The webhook was a managed one of the channel when they were listed, or was then created there. -/
def Managed (past : Past) (c : UInt64) (hook : Webhook) : Prop :=
  Saw past (.webhooks c) (fun w => hook ∈ w.hooks c ∧ hook.managed = true) ∨
    Saw past (.createWebhook c managedWebhookName) fun w => hook = w.freshHook c managedWebhookName

/-- What a request of the bridge is for, after which requests: the message goes where its chat or channel was linked, as it is to be
relayed, and once. A webhook is created only where none was managed and there was room, and once. -/
def Bridged (o : Origin guildOf) (past : Past) : Request → Prop
  | .createWebhook c name => (∀ ev ∈ past, ev.request.creates = false) ∧ ∃ p r msg, o.Relays p r msg ∧ Routed past p r c ∧
      name = managedWebhookName ∧
        Saw past (.webhooks c) fun w => w.managedHook c = none ∧ (w.hooks c).length < maxChannelWebhooks
  | .executeWebhook hook wait b => (∀ ev ∈ past, ev.request.posts = false) ∧ ∃ p r msg c content, o.Relays p r msg ∧
      Routed past p r c ∧ Managed past c hook ∧ prepareRelayContent msg.content = some content ∧ wait = false ∧
        b = relayBuilder content msg
  | .egress msg => (∀ ev ∈ past, ev.request.posts = false) ∧ ∃ m chat, o = .event (.message m) ∧ msg = relayMessage m chat ∧
      Saw past .currentUser (fun w => Qualifies w.bot.id m) ∧
        Saw past (.selectRemote m.channelId.toInt64) fun w => w.routes.byChannel m.channelId = some chat
  | _ => True

/-- Why a delivery ended so, after which requests: its message was posted or has nothing to show, its chat was not linked, or none of
the webhooks was managed and there was no room for one. -/
def Delivered (p : Platform) (r : String) (msg : RemoteMessage) (past : Past) : Except Error Unit → Prop
  | .ok () => prepareRelayContent msg.content = none ∨ ∃ ev ∈ past, ev.request.posts = true ∧ ev.fate = .served
  | .error (.proxy .noRouteForRemote) => Saw past (.selectChannel p.asI16 r) fun w => w.routes.byRemote (p, r) = none
  | .error (.proxy .webhookLimitReached) => ∃ c, Routed past p r c ∧
      Saw past (.webhooks c) fun w => w.managedHook c = none ∧ maxChannelWebhooks ≤ (w.hooks c).length
  | .error _ => True

/-- A message of Discord was processed well, after which requests: it left, it does not qualify, or its channel was not linked. -/
def Handled (m : Message) (past : Past) : Except Error Unit → Prop
  | .ok () => (∃ ev ∈ past, ev.request.posts = true ∧ ev.fate = .served) ∨
      Saw past .currentUser (fun w => ¬Qualifies w.bot.id m) ∨
        Saw past (.selectRemote m.channelId.toInt64) fun w => w.routes.byChannel m.channelId = none
  | .error _ => True

/-- An error that answers a request is none of those a delivery ends with of itself. -/
theorem delivered_of_answer {p : Platform} {r : String} {msg : RemoteMessage} {past : Past} {e : Error} (he : ∀ pe, e ≠ .proxy pe) :
    Delivered p r msg past (.error e) := by
  cases e with
  | proxy pe => exact absurd rfl (he pe)
  | _ => trivial

/-- No request is answered with a `ProxyError`. -/
theorem answer_not_proxy {w : World} {q : Request} {fate : Fate Outage} {e : Error} (h : coreMedium.answer w q fate = .error e)
    (pe : ProxyError) : e ≠ .proxy pe := by
  cases fate with
  | refused o =>
    obtain rfl := Except.error.inj h
    exact o.not_proxy pe
  | lost o =>
    obtain rfl := Except.error.inj h
    exact o.not_proxy pe
  | served =>
    have hserved : (serve w q).1 = .error e := h
    rintro rfl
    cases q with
    | insertRoute row =>
      rw [serve_insertRoute] at hserved
      cases hi : w.routes.insert row <;> rw [hi] at hserved <;> cases hserved
    | member g u =>
      rw [serve_member] at hserved
      cases hm : w.members g u <;> rw [hm] at hserved <;> cases hserved
    | ban g u days reason =>
      rw [serve_ban] at hserved
      split at hserved <;> cases hserved
    | _ => cases hserved

section Parts

variable {o : Origin guildOf} {h : Past}

/-- A history to which a request was added that is none of a kind. -/
theorem none_concat {kind : Request → Bool} (hh : ∀ ev ∈ h, kind ev.request = false) {w : World} {q : Request} {fate : Fate Outage}
    (hq : kind q = false) : ∀ ev ∈ h ++ [⟨w, q, fate⟩], kind ev.request = false := by
  intro ev hev
  rcases List.mem_append.1 hev with hev | hev
  · exact hh ev hev
  · rw [List.mem_singleton.1 hev]
    exact hq

/-- The webhook of a channel: one that is managed, or one that is created if there is room. -/
theorem along_getOrCreateWebhook_bind {p : Platform} {r : String} {msg : RemoteMessage} (ho : o.Relays p r msg) {c : UInt64}
    (hr : Routed h p r c) (hcreates : ∀ ev ∈ h, ev.request.creates = false) (hh : ∀ ev ∈ h, ev.request.posts = false)
    {f : Webhook → Bot Unit}
    (hf : ∀ h' hook, Routed h' p r c → (∀ ev ∈ h', ev.request.posts = false) → Managed h' c hook →
      (f hook).Along coreMedium (Bridged o) (Delivered p r msg) h') :
    (getOrCreateWebhook c >>= f).Along coreMedium (Bridged o) (Delivered p r msg) h := by
  unfold getOrCreateWebhook
  rw [bind_assoc]
  refine along_perform_bind.2 ⟨trivial, fun w hooks hhooks => ?_, fun _ _ _ he => delivered_of_answer (answer_not_proxy he)⟩
  obtain rfl := Except.ok.inj hhooks
  have hr' := Saw.mono hr (List.prefix_append h [⟨w, .webhooks c, .served⟩])
  have hh' := @none_concat h Request.posts hh w (.webhooks c) .served rfl
  have hcreates' := @none_concat h Request.creates hcreates w (.webhooks c) .served rfl
  split
  · rename_i hook hfind
    exact hf _ hook hr' hh' (Or.inl (Saw.last ⟨List.mem_of_find?_eq_some hfind, List.find?_some hfind⟩))
  · rename_i hnone
    split
    · rename_i hfull
      exact ⟨c, hr', Saw.last ⟨hnone, hfull⟩⟩
    · rename_i hroom
      refine along_perform_bind.2 ⟨⟨hcreates', p, r, msg, ho, hr', rfl, Saw.last ⟨hnone, Nat.lt_of_not_le hroom⟩⟩,
        fun w' hook hhook => ?_, fun _ _ _ he => delivered_of_answer (answer_not_proxy he)⟩
      obtain rfl := Except.ok.inj hhook
      exact hf _ _ (Saw.mono hr' (List.prefix_append _ _)) (none_concat hh' rfl) (Or.inr (Saw.last rfl))

/-- A post that is answered was served. -/
theorem posted_of_ok {w : World} {q : Request} {fate : Fate Outage} {a : Response q} (hq : q.posts = true)
    (ha : coreMedium.answer w q fate = .ok a) : ∃ ev ∈ h ++ [⟨w, q, fate⟩], ev.request.posts = true ∧ ev.fate = .served :=
  ⟨_, List.mem_append_right _ (List.mem_singleton.2 rfl), hq, (Medium.answer_eq_ok_iff.1 ha).1⟩

/-- A delivery relays its message where its chat is linked. -/
theorem along_deliverInbound {p : Platform} {r : String} {msg : RemoteMessage} (ho : o.Relays p r msg)
    (hcreates : ∀ ev ∈ h, ev.request.creates = false) (hh : ∀ ev ∈ h, ev.request.posts = false) :
    (deliverInbound p r msg).Along coreMedium (Bridged o) (Delivered p r msg) h := by
  unfold deliverInbound Routes.fetchByRemote
  rw [bind_assoc]
  refine along_perform_bind.2 ⟨trivial, fun w row hrow => ?_, fun _ _ _ he => delivered_of_answer (answer_not_proxy he)⟩
  have hlinked : w.routes.byRemote (p, r) = row.map Int64.toUInt64 := by
    rw [← Except.ok.inj hrow, Option.map_map]
    rfl
  rw [pure_bind, ← hlinked]
  cases hc : w.routes.byRemote (p, r) with
  | none =>
    have hunlinked : Saw (h ++ [⟨w, .selectChannel p.asI16 r, .served⟩]) (.selectChannel p.asI16 r)
        (fun w => w.routes.byRemote (p, r) = none) := Saw.last hc
    exact hunlinked
  | some c =>
    dsimp only
    unfold relayInbound
    split
    · rename_i hnone
      exact Or.inl hnone
    · rename_i content hcontent
      refine along_getOrCreateWebhook_bind ho (Saw.last hc) (none_concat hcreates rfl) (none_concat hh rfl)
        fun h' hook hr hh' hhook => ?_
      refine along_perform.2 ⟨⟨hh', p, r, msg, c, content, ho, hr, hhook, hcontent, rfl, rfl⟩, fun w' fate => ?_⟩
      cases ha : coreMedium.answer w' (.executeWebhook hook false (relayBuilder content msg)) fate with
      | ok u => exact Or.inr (posted_of_ok rfl ha)
      | error e => exact delivered_of_answer (answer_not_proxy ha)

/-- A message of Discord leaves as it is to be relayed. -/
theorem along_handleOutbound {m : Message} (ho : o = .event (.message m)) (hh : ∀ ev ∈ h, ev.request.posts = false) :
    (handleOutbound m).Along coreMedium (Bridged o) (Handled m) h := by
  unfold handleOutbound
  refine along_perform_bind.2 ⟨trivial, fun w botId hbotId => ?_, fun _ _ _ _ => trivial⟩
  obtain rfl := Except.ok.inj hbotId
  split
  · rename_i hgate
    unfold Routes.fetchByChannel
    rw [bind_assoc]
    refine along_perform_bind.2 ⟨trivial, fun w' row hrow => ?_, fun _ _ _ _ => trivial⟩
    have hlinked : w'.routes.byChannel m.channelId = row.bind fun stored =>
        (Platform.fromI16 stored.1).map fun platform => (platform, stored.2) := by
      rw [← Except.ok.inj hrow, Option.bind_map]
      rfl
    rw [pure_bind, ← hlinked]
    cases hc : w'.routes.byChannel m.channelId with
    | none => exact Or.inr (Or.inr (Saw.last hc))
    | some chat =>
      refine along_perform.2 ⟨⟨none_concat (none_concat hh rfl) rfl, m, chat, ho, rfl, ?_, Saw.last hc⟩, fun v fate => ?_⟩
      · exact Saw.mono (Saw.last ((shouldRelay_iff _ _ _ _).1 hgate)) (List.prefix_append _ _)
      · cases ha : coreMedium.answer v (.egress ⟨chat.1, chat.2, m.author.globalName.getD m.author.name, m.content⟩) fate with
        | ok u => exact Or.inl (posted_of_ok rfl ha)
        | error e => trivial
  · rename_i hgate
    exact Or.inr (Or.inl (Saw.last (mt (shouldRelay_iff _ _ _ _).2 hgate)))

end Parts

/-- What a request of the bot is for, after a history. -/
def BridgedCall (o : Origin guildOf) (h : List (Event Outage BotRequest BotWorld)) : BotRequest → Prop
  | .core q => Bridged o (corePast h) q
  | _ => True

/-- How what the bot does for the bridge may end. -/
def Origin.Explains (o : Origin guildOf) (h : List (Event Outage BotRequest BotWorld)) (r : Except Error Unit) : Prop :=
  match o with
  | .command _ => True
  | .event (.message m) => Handled m (corePast h) r
  | .event _ => True
  | .delivery d => Delivered d.platform d.remoteChatId d.msg (corePast h) r

/-- A command of the core that relays nothing. -/
theorem along_bridged {o : Origin guildOf} {p : Bot Unit} {h : List (Event Outage BotRequest BotWorld)}
    (hp : p.Only fun q => ∀ past, Bridged o past q) : (core p).Along botMedium (BridgedCall o) (fun _ _ => True) h :=
  Along.of_only (only_core (hp.mono fun _ hq h' _ => hq (corePast h')))

/-- What the handler of a command relays is what it injects, and nothing else. -/
theorem bridged_handler (inv : Invocation guildOf) {h : List (Event Outage BotRequest BotWorld)}
    (hcreates : ∀ ev ∈ corePast h, ev.request.creates = false) (hh : ∀ ev ∈ corePast h, ev.request.posts = false) :
    (inv.command.handler inv.ctx).Along botMedium (BridgedCall (.command inv)) (fun _ _ => True) h := by
  have howner := inv.met.owner
  cases hc : inv.command with
  | purge count =>
    exact along_bridged (only_purge (fun _ _ => trivial) (fun _ _ => trivial) (fun _ _ => trivial) fun _ _ => trivial)
  | kick member reason =>
    exact along_bridged (only_kick (fun _ => trivial) (fun _ _ => trivial) (fun _ _ => trivial) (fun _ => trivial) fun _ _ => trivial)
  | ban member days reason =>
    exact along_bridged (only_ban (fun _ => trivial) (fun _ _ => trivial) (fun _ _ => trivial) (fun _ _ _ _ => trivial)
      fun _ _ => trivial)
  | unban user => exact along_bridged (only_unban (fun _ _ _ => trivial) fun _ _ => trivial)
  | mute member duration =>
    exact along_bridged (only_mute (fun _ => trivial) (fun _ _ => trivial) (fun _ _ => trivial) (fun _ => trivial) (fun _ _ => trivial)
      (fun _ _ => trivial) fun _ _ => trivial)
  | unmute member => exact along_bridged (@only_unmute _ inv.ctx _ (fun _ => trivial) fun _ _ => trivial)
  | allow user role => exact along_bridged (only_allow (fun _ _ => trivial) fun _ _ _ _ _ => trivial)
  | disallow user role => exact along_bridged (only_disallow (fun _ _ => trivial) fun _ _ _ _ _ => trivial)
  | allowlist iter => exact along_bridged (only_showAllowlist (fun _ _ => trivial) fun _ _ => trivial)
  | poll question options duration multiple =>
    exact Along.of_only (@only_poll inv.ctx _ _ _ _ _ (fun _ _ _ => trivial) fun _ _ _ => trivial)
  | join channel =>
    exact Along.of_only (only_join (fun _ _ _ => trivial) (fun _ _ => trivial) (fun _ _ _ _ _ => trivial) fun _ _ _ => trivial)
  | leave => exact Along.of_only (only_leave (fun _ _ => trivial) (fun _ _ _ _ => trivial) fun _ _ _ => trivial)
  | proxyLink channel remoteChatId => exact along_bridged (only_proxyLink (fun _ _ _ => trivial) fun _ _ => trivial)
  | proxyUnlink channel => exact along_bridged (only_proxyUnlink (fun _ _ _ => trivial) fun _ _ => trivial)
  | proxyList => exact along_bridged (only_proxyList (fun _ _ => trivial) fun _ _ => trivial)
  | proxyTest remoteChatId author text avatarUrl =>
    rw [hc] at howner
    have ho : (Origin.command inv).Relays .telegram (trim remoteChatId) ⟨author, avatarUrl, text⟩ := .injection _ _ (howner rfl) hc
    have hp : (ProxyCommand.proxyTest remoteChatId author text avatarUrl).Along coreMedium (Bridged (.command inv))
        (fun _ _ => True) (corePast h) := by
      refine (along_deliverInbound ho hcreates hh).attempt_bind fun h' r _ _ => Along.of_only ?_
      cases r with
      | ok u => exact (only_perform _ _).2 fun _ _ => trivial
      | error e => exact only_replyOrPropagate fun _ _ _ => trivial
    exact along_core hp (fun _ _ hq => hq) fun _ _ _ => trivial

/-- Every request of the bridge is for a message it relays, whatever the bot does besides. -/
theorem bridged_program (o : Origin guildOf) : o.program.Along botMedium (BridgedCall o) o.Explains [] := by
  cases o with
  | command inv =>
    have hnone : ∀ kind : Request → Bool, ∀ ev ∈ corePast [], kind ev.request = false := fun _ _ hev => absurd hev List.not_mem_nil
    change (inv.command.invoke inv.ctx).Along _ _ _ _
    cases hcheck : inv.command.attributes.check with
    | false =>
      rw [invoke_of_free hcheck]
      exact bridged_handler inv (hnone _) (hnone _)
    | true =>
      obtain ⟨g, hg⟩ := inv.guild_of_check hcheck
      refine along_invoke hcheck hg trivial (fun _ _ _ => trivial) (fun w _ => ?_) fun w hw => ?_
      · exact ⟨trivial, fun _ _ => trivial⟩
      · refine bridged_handler inv ?_ ?_
        · rw [corePast_concat]
          exact none_concat (hnone _) rfl
        · rw [corePast_concat]
          exact none_concat (hnone _) rfl
  | event e =>
    cases e with
    | ready => trivial
    | other => trivial
    | message m =>
      exact along_core (along_handleOutbound rfl fun _ hev => absurd hev List.not_mem_nil) (fun _ _ hq => hq) fun _ _ hr => hr
  | delivery d =>
    exact along_core (along_deliverInbound (.delivery _ _ _) (fun _ hev => absurd hev List.not_mem_nil)
      fun _ hev => absurd hev List.not_mem_nil) (fun _ _ hq => hq) fun _ _ hr => hr

/-- Whatever is in progress at once: a request of the bridge is for a message it relays, given the requests issued for it before. -/
theorem relays_bridged (w : BotWorld) (happenings : List (Happening guildOf)) {before : Chronicle}
    {i : Nat} {ev : Event Outage BotRequest BotWorld}
    (hev : before ++ [(i, ev)] <+: (System.run guildOf w happenings).history) :
    ∃ job, (System.run guildOf w happenings).jobs[i]? = some job ∧ BridgedCall job.origin (eventsOf i before) ev.request :=
  Pool.issued bridged_program w happenings hev

namespace FirstMessage

/-- A world in which a chat is linked to a channel without webhooks. -/
def world : BotWorld :=
  { BotWorld.initial ⟨1, "bot", none, true⟩ fun n => (UInt64.ofNat n, "token") with
    routes := ⟨[⟨10, 20, 0, "-100", 2⟩], by decide⟩ }

/-- A message of the chat. -/
def delivery : Delivery := ⟨.telegram, "-100", ⟨"bob", none, "hi"⟩⟩

/-- It is delivered: its channel is looked up and the webhooks are listed, one is created, and the message is posted through it. -/
def happenings : List (Happening fun _ => 10) :=
  [.start (.delivery delivery), .issue 0 .served, .issue 0 .served, .issue 0 .served, .issue 0 .served]

/-- What was issued before it was posted. -/
def before : Chronicle :=
  [(0, ⟨world, .core (.selectChannel 0 "-100"), .served⟩), (0, ⟨world, .core (.webhooks 20), .served⟩),
    (0, ⟨world, .core (.createWebhook 20 managedWebhookName), .served⟩)]

/-- The post. -/
def post : Event Outage BotRequest BotWorld :=
  ⟨{ world with toWorld := world.addHook 20 managedWebhookName },
    .core (.executeWebhook (world.freshHook 20 managedWebhookName) false (relayBuilder "hi" delivery.msg)), .served⟩

end FirstMessage

open FirstMessage in
theorem relays_bridged_firstMessage : ∃ job, (System.run (fun _ => 10) world happenings).jobs[0]? = some job ∧
    BridgedCall job.origin (eventsOf 0 before) post.request :=
  relays_bridged world happenings (show before ++ [(0, post)] <+: _ from ⟨[], by with_unfolding_all rfl⟩)

end ModerationBot
