import ModerationBot.Lemmas.Webhook

namespace ModerationBot

/-! ## The inbound relay, end to end -/

/-- The ways a delivery can go. -/
inductive DeliveryCase where
  | noRoute
  | blank
  | limitReached
  | relayed
  deriving DecidableEq

/-- The requests of an execution that change something in Discord, in order. -/
def mutations {α : Type} (o : Outcome Error Request World α) : List Request := o.issued.filter Request.mutates

/-- The webhook execute of a relayed message on a webhook: the content, the derived username, the avatar of the sender when it
has one, and the empty set of allowed mentions. -/
def relayExecute (h : Webhook) (content : String) (msg : RemoteMessage) : Request :=
  .executeWebhook h false {
    content := some content
    username := some (deriveWebhookUsername msg.author)
    avatarUrl := msg.avatarUrl
    allowedMentions := some { parse := [], users := [], roles := [] } }

/-- A webhook is usable when it has the managed name and a token. -/
def Usable (h : Webhook) : Prop := h.name = some managedWebhookName ∧ h.token.isSome = true

/-- The first usable webhook of a list. -/
def FirstUsable (hooks : List Webhook) (h : Webhook) : Prop :=
  Usable h ∧ ∃ before after, hooks = before ++ h :: after ∧ ∀ h' ∈ before, ¬Usable h'

/-- A row of the route table links a remote chat to a channel. -/
def World.Routed (w : World) (p : Platform) (r : String) (c : UInt64) : Prop := ∃ row ∈ w.routes.rows, RouteTable.Stores row (p, r) c

/-- What a delivery meets and does in each case: the route of the remote chat, the content left to send, the webhooks of the
channel, and the result and the Discord mutations of `deliverInbound`. -/
def Delivers (w : World) (p : Platform) (r : String) (msg : RemoteMessage) (k : DeliveryCase) : Prop :=
  let o := (deliverInbound p r msg).run serve w
  match k with
  | .noRoute => (∀ c, ¬w.Routed p r c) ∧ o.result = .error (.proxy .noRouteForRemote) ∧ mutations o = []
  | .blank => (∃ c, w.Routed p r c) ∧ prepareRelayContent msg.content = none ∧ o.result = .ok () ∧ mutations o = []
  | .limitReached =>
    ∃ c content, w.Routed p r c ∧ prepareRelayContent msg.content = some content ∧
      (∀ h ∈ w.hooks c, ¬Usable h) ∧ 15 ≤ (w.hooks c).length ∧ o.result = .error (.proxy .webhookLimitReached) ∧ mutations o = []
  | .relayed =>
    ∃ c content h, w.Routed p r c ∧ prepareRelayContent msg.content = some content ∧ o.result = .ok () ∧
      h ∈ o.state.hooks c ∧
      (FirstUsable (w.hooks c) h ∧ mutations o = [relayExecute h content msg] ∨
        (∀ h' ∈ w.hooks c, ¬Usable h') ∧ (w.hooks c).length < 15 ∧ h ∉ w.hooks c ∧
          mutations o = [.createWebhook c managedWebhookName, relayExecute h content msg])

theorem managed_iff {h : Webhook} : h.managed = true ↔ Usable h := by
  rw [Webhook.managed, Bool.and_eq_true, beq_iff_eq, Usable]

/-- No webhook of the channel is usable when none is found. -/
theorem World.managedHook_eq_none_iff_not_usable {w : World} {c : UInt64} : w.managedHook c = none ↔ ∀ h ∈ w.hooks c, ¬Usable h := by
  simp only [World.managedHook_eq_none_iff, ← Bool.not_eq_true, managed_iff]

/-- The webhook that is found is the first usable one. -/
theorem World.managedHook_eq_some_iff_firstUsable {w : World} {c : UInt64} {h : Webhook} :
    w.managedHook c = some h ↔ FirstUsable (w.hooks c) h := by
  simp only [World.managedHook, List.find?_eq_some_iff_append, managed_iff, FirstUsable, Bool.not_eq_true', ← Bool.not_eq_true]

/-- The lookup finds the channel of the row. -/
theorem routed_iff {w : World} {p : Platform} {r : String} {c : UInt64} : w.Routed p r c ↔ w.routes.byRemote (p, r) = some c :=
  RouteTable.byRemote_eq_some_iff.symm

/-- The four cases of a delivery. -/
theorem exists_delivers (w : World) (p : Platform) (r : String) (msg : RemoteMessage) : ∃ k, Delivers w p r msg k := by
  cases hr : w.routes.byRemote (p, r) with
  | none =>
    refine ⟨.noRoute, fun c hc => ?_, ?_⟩
    · rw [routed_iff, hr] at hc
      cases hc
    · simp [run_deliverInbound_noRoute msg hr, mutations, Request.mutates]
  | some c =>
    have hrouted : w.Routed p r c := routed_iff.2 hr
    cases hp : prepareRelayContent msg.content with
    | none =>
      refine ⟨.blank, ⟨c, hrouted⟩, hp, ?_⟩
      simp [run_deliverInbound msg hr, run_relayInbound_blank hp, mutations, Request.mutates]
    | some content =>
      cases hh : w.managedHook c with
      | some h =>
        have hfirst := World.managedHook_eq_some_iff_firstUsable.1 hh
        have hmem : h ∈ w.hooks c := List.mem_of_find?_eq_some hh
        refine ⟨.relayed, c, content, h, hrouted, hp, ?_, ?_, Or.inl ⟨hfirst, ?_⟩⟩ <;>
          simp [run_deliverInbound msg hr, run_relayInbound hp, run_getOrCreateWebhook_existing hh, Outcome.andThen, World.post,
            hmem, mutations, Request.mutates, relayExecute, relayBuilder, CreateAllowedMentions.new]
      | none =>
        have hunusable := World.managedHook_eq_none_iff_not_usable.1 hh
        by_cases hl : maxChannelWebhooks ≤ (w.hooks c).length
        · refine ⟨.limitReached, c, content, hrouted, hp, hunusable, hl, ?_⟩
          simp [run_deliverInbound msg hr, run_relayInbound hp, run_getOrCreateWebhook_limit hh hl, Outcome.andThen,
            mutations, Request.mutates]
        · rw [Nat.not_le] at hl
          have hfresh : w.freshHook c managedWebhookName ∉ w.hooks c := fun hmem =>
            hunusable _ hmem (managed_iff.1 (w.freshHook_managed c))
          have hl' : (w.hooks c).length < 15 := hl
          refine ⟨.relayed, c, content, w.freshHook c managedWebhookName, hrouted, hp, ?_, ?_,
            Or.inr ⟨hunusable, hl', hfresh, ?_⟩⟩ <;>
          simp [run_deliverInbound msg hr, run_relayInbound hp, run_getOrCreateWebhook_fresh hh hl, Outcome.andThen,
            World.post, mutations, Request.mutates, relayExecute, relayBuilder, CreateAllowedMentions.new]

/-- The result of a delivery in each case. -/
def DeliveryCase.result : DeliveryCase → Except Error Unit
  | .noRoute => .error (.proxy .noRouteForRemote)
  | .blank => .ok ()
  | .limitReached => .error (.proxy .webhookLimitReached)
  | .relayed => .ok ()

/-- A delivery has the result of its case, and it is blank only without content. -/
theorem Delivers.facts {w : World} {p : Platform} {r : String} {msg : RemoteMessage} {k : DeliveryCase}
    (h : Delivers w p r msg k) :
    ((deliverInbound p r msg).run serve w).result = k.result ∧ (k = .blank → prepareRelayContent msg.content = none) ∧
      (k = .relayed → prepareRelayContent msg.content ≠ none) := by
  cases k with
  | noRoute => exact ⟨h.2.1, by simp, by simp⟩
  | blank => exact ⟨h.2.2.1, fun _ => h.2.1, by simp⟩
  | limitReached =>
    obtain ⟨c, content, -, -, -, -, hres, -⟩ := h
    exact ⟨hres, by simp, by simp⟩
  | relayed =>
    obtain ⟨c, content, h, -, hp, hres, -⟩ := h
    exact ⟨hres, by simp, by simp [hp]⟩

/-- The cases exclude one another: they differ in the result, or in whether there is content. -/
theorem Delivers.unique {w : World} {p : Platform} {r : String} {msg : RemoteMessage} {k k' : DeliveryCase}
    (h : Delivers w p r msg k) (h' : Delivers w p r msg k') : k = k' := by
  obtain ⟨hres, hblank, hrelayed⟩ := h.facts
  obtain ⟨hres', hblank', hrelayed'⟩ := h'.facts
  have heq : k.result = k'.result := hres.symm.trans hres'
  cases k <;> cases k' <;> simp_all [DeliveryCase.result]

/-- The creations of an execution are among its mutations. -/
theorem filter_creates_mutations {α : Type} (o : Outcome Error Request World α) :
    (mutations o).filter Request.creates = o.issued.filter Request.creates := by
  rw [mutations, List.filter_filter]
  congr 1
  funext q
  cases q <;> rfl

/-- A delivery creates at most one webhook. -/
theorem Delivers.creates_le_one {w : World} {p : Platform} {r : String} {msg : RemoteMessage} {k : DeliveryCase}
    (h : Delivers w p r msg k) :
    (((deliverInbound p r msg).run serve w).issued.filter Request.creates).length ≤ 1 := by
  rw [← filter_creates_mutations]
  cases k with
  | noRoute => simp [h.2.2]
  | blank => simp [h.2.2.2]
  | limitReached =>
    obtain ⟨c, content, -, -, -, -, -, hm⟩ := h
    simp [hm]
  | relayed =>
    obtain ⟨c, content, h, -, -, -, -, ⟨-, hm⟩ | ⟨-, -, -, hm⟩⟩ := h
    · rw [hm]
      exact Nat.zero_le 1
    · rw [hm]
      exact Nat.le_refl 1

/-- Inbound relay: with every request answered, exactly one of the four cases holds of a delivery, and it creates at most one
webhook. -/
theorem deliverInbound_exactly_one (w : World) (p : Platform) (r : String) (msg : RemoteMessage) :
    (∃! k, Delivers w p r msg k) ∧
      (((deliverInbound p r msg).run serve w).issued.filter Request.creates).length ≤ 1 := by
  obtain ⟨k, hk⟩ := exists_delivers w p r msg
  exact ⟨⟨k, hk, fun k' hk' => hk'.unique hk⟩, hk.creates_le_one⟩

end ModerationBot
