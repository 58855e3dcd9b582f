import ModerationBot.Lemmas.Routes
import ModerationBot.Proxy.Webhook

/-!
# The inbound relay, run

What the functions of the inbound relay issue and leave when every request is answered.
-/

namespace ModerationBot

/-- The webhook the bot uses in a channel: the first managed one. -/
def World.managedHook (w : World) (c : UInt64) : Option Webhook := (w.hooks c).find? Webhook.managed

theorem World.managedHook_eq_none_iff {w : World} {c : UInt64} :
    w.managedHook c = none ↔ ∀ h ∈ w.hooks c, h.managed = false := by
  simp [managedHook]

/-- The requests that create a webhook. -/
def Request.creates : Request → Bool
  | .createWebhook _ _ => true
  | _ => false

@[simp] theorem World.hooks_addHook (w : World) (c : UInt64) (name : String) :
    (w.addHook c name).hooks c = w.hooks c ++ [w.freshHook c name] := by
  simp [addHook]

theorem World.freshHook_managed (w : World) (c : UInt64) : (w.freshHook c managedWebhookName).managed = true := by
  simp [Webhook.managed, freshHook]

/-- A webhook that is created last is found when there was none. -/
theorem World.managedHook_addHook (w : World) (c : UInt64) :
    (w.addHook c managedWebhookName).managedHook c =
      some ((w.managedHook c).getD (w.freshHook c managedWebhookName)) := by
  rw [managedHook, managedHook, hooks_addHook, List.find?_append]
  cases hf : (w.hooks c).find? Webhook.managed with
  | some h => rfl
  | none => simp [w.freshHook_managed c]

theorem run_getOrCreateWebhook_existing {w : World} {c : UInt64} {h : Webhook} (hh : w.managedHook c = some h) :
    (getOrCreateWebhook c).run serve w = ⟨.ok h, [.webhooks c], w⟩ := by
  rw [World.managedHook] at hh
  simp [getOrCreateWebhook, Prog.run_bind, Outcome.andThen, hh]

theorem run_getOrCreateWebhook_limit {w : World} {c : UInt64} (hh : w.managedHook c = none)
    (hl : maxChannelWebhooks ≤ (w.hooks c).length) :
    (getOrCreateWebhook c).run serve w = ⟨.error (.proxy .webhookLimitReached), [.webhooks c], w⟩ := by
  rw [World.managedHook] at hh
  simp only [getOrCreateWebhook, Prog.run_bind, Prog.run_perform, Outcome.andThen, serve_webhooks, hh, ge_iff_le, if_pos hl,
    Prog.run_throw, List.append_nil]

theorem run_getOrCreateWebhook_fresh {w : World} {c : UInt64} (hh : w.managedHook c = none)
    (hl : (w.hooks c).length < maxChannelWebhooks) :
    (getOrCreateWebhook c).run serve w = ⟨.ok (w.freshHook c managedWebhookName),
      [.webhooks c, .createWebhook c managedWebhookName], w.addHook c managedWebhookName⟩ := by
  rw [World.managedHook] at hh
  simp only [getOrCreateWebhook, Prog.run_bind, Prog.run_perform, Outcome.andThen, serve_webhooks, serve_createWebhook, hh, ge_iff_le,
    if_neg (Nat.not_le.2 hl), List.singleton_append]

/-- A blank message is skipped. -/
theorem run_relayInbound_blank {w : World} {c : UInt64} {msg : RemoteMessage} (hp : prepareRelayContent msg.content = none) :
    (relayInbound c msg).run serve w = ⟨.ok (), [], w⟩ := by
  simp only [relayInbound, hp, Prog.run_pure]

/-- Any other message is relayed on the webhook that was found or created, if there is one. -/
theorem run_relayInbound {w : World} {c : UInt64} {msg : RemoteMessage} {content : String}
    (hp : prepareRelayContent msg.content = some content) :
    (relayInbound c msg).run serve w = ((getOrCreateWebhook c).run serve w).andThen
      (fun h w' => ⟨.ok (), [.executeWebhook h false (relayBuilder content msg)],
        w'.post true (h.message (relayBuilder content msg))⟩) := by
  simp only [relayInbound, hp, Prog.run_bind, Prog.run_perform, serve_executeWebhook]

/-- A remote chat without a route is reported. -/
theorem run_deliverInbound_noRoute {w : World} {p : Platform} {r : String} (msg : RemoteMessage)
    (hr : w.routes.byRemote (p, r) = none) :
    (deliverInbound p r msg).run serve w =
      ⟨.error (.proxy .noRouteForRemote), [.selectChannel p.asI16 r], w⟩ := by
  simp [deliverInbound, Prog.run_bind, Outcome.andThen, hr]

/-- A remote chat with a route is relayed into its channel. -/
theorem run_deliverInbound {w : World} {p : Platform} {r : String} {c : UInt64} (msg : RemoteMessage)
    (hr : w.routes.byRemote (p, r) = some c) :
    (deliverInbound p r msg).run serve w =
      ⟨((relayInbound c msg).run serve w).result,
        .selectChannel p.asI16 r :: ((relayInbound c msg).run serve w).issued,
        ((relayInbound c msg).run serve w).state⟩ := by
  simp [deliverInbound, Prog.run_bind, Outcome.andThen, hr]

end ModerationBot
