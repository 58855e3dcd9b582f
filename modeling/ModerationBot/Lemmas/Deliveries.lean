import ModerationBot.Deliveries
import ModerationBot.Lemmas.Webhook
import ModerationBot.Library.FindOrCreate

/-!
# Deliveries into one channel find or create

Deliveries into one channel are parties of the find-or-create protocol, whose value is the managed webhook of the channel: each
request of a delivery is a step of its party, or leaves the protocol where it is (`Simulates`).
-/

namespace ModerationBot

open FindOrCreate (Stage State)

/-- What is left of a delivery once its webhook is at hand. -/
def executeRelay (content : String) (msg : RemoteMessage) (h : Webhook) : Bot Unit :=
  ask (.executeWebhook h false (relayBuilder content msg))

/-- A delivery that resolves a remote chat goes on from what the table has for it. -/
theorem advance_fetchByRemote_bind (p : Platform) (r : String) (f : Option UInt64 → Bot Unit) (w : World) :
    (Routes.fetchByRemote p r >>= f).advance serve none w = (f (w.routes.byRemote (p, r)), w) := by
  have hserve : (serve w (.selectChannel p.asI16 r)).1 = .ok
      ((w.routes.select (fun x => x.platform == p.asI16 && x.remoteChatId == r)).head?.map (·.discordChannel)) := rfl
  unfold Routes.fetchByRemote
  rw [Prog.bind_assoc, ask, Prog.advance_perform_bind hserve, Prog.pure_bind, Option.map_map]
  rfl

/-- A delivery that lists the webhooks goes on with the managed one, or creates it while there is room. -/
theorem advance_getOrCreateWebhook_bind {c : UInt64} {w : World} (f : Webhook → Bot Unit)
    (hroom : w.managedHook c = none → (w.hooks c).length < maxChannelWebhooks) :
    (getOrCreateWebhook c >>= f).advance serve none w =
      (match w.managedHook c with
        | some h => f h
        | none => ask (.createWebhook c managedWebhookName) >>= f, w) := by
  have hserve : (serve w (.webhooks c)).1 = .ok (w.hooks c) := rfl
  unfold getOrCreateWebhook
  rw [Prog.bind_assoc, ask, Prog.advance_perform_bind hserve, serve_webhooks]
  rw [World.managedHook] at hroom ⊢
  cases hf : (w.hooks c).find? Webhook.managed with
  | some h => rfl
  | none =>
    have hl : ¬(w.hooks c).length ≥ maxChannelWebhooks := Nat.not_le.2 (hroom hf)
    simp only [if_neg hl]

/-- A delivery into a channel, and where its party is. A message without content has nothing to find. -/
inductive Matches (c : UInt64) (d : Delivery) : Bot Unit → Stage Webhook → Prop
  | blank (hp : prepareRelayContent d.msg.content = none) :
    Matches c d (deliverInbound d.platform d.remoteChatId d.msg) .finished
  | route (content : String) (hp : prepareRelayContent d.msg.content = some content) :
    Matches c d (deliverInbound d.platform d.remoteChatId d.msg) .looking
  | list (content : String) (hp : prepareRelayContent d.msg.content = some content) :
    Matches c d (getOrCreateWebhook c >>= executeRelay content d.msg) .looking
  | create (content : String) (hp : prepareRelayContent d.msg.content = some content) :
    Matches c d (ask (.createWebhook c managedWebhookName) >>= executeRelay content d.msg) .creating
  | execute (content : String) (hp : prepareRelayContent d.msg.content = some content) (h : Webhook) :
    Matches c d (executeRelay content d.msg h) (.holding h)
  | ended (r : Except Error Unit) : Matches c d (.done r) .finished

/-- The webhook a request executes. -/
def Request.executed : Request → Option Webhook
  | .executeWebhook h _ _ => some h
  | _ => none

namespace Deliveries

variable {ι : Type}

/-- Which deliveries created a webhook. -/
def creators (s : Deliveries ι) : List ι := (s.issued.filter (fun x => x.2.creates)).map Prod.fst

/-- Which deliveries executed which webhook. -/
def executions (s : Deliveries ι) : List (ι × Webhook) :=
  s.issued.filterMap (fun x => x.2.executed.map (fun h => (x.1, h)))

/-- The deliveries are the parties of a state of the protocol. -/
structure Simulates (c : UInt64) (calls : ι → Delivery) (s : Deliveries ι) (a : State ι Webhook) : Prop where
  tasks : ∀ i, Matches c (calls i) (s.tasks i) (a.stage i)
  found : s.world.managedHook c = a.found
  room : s.world.managedHook c = none → (s.world.hooks c).length < maxChannelWebhooks
  routed : ∀ i, s.world.routes.byRemote ((calls i).platform, (calls i).remoteChatId) = some c
  created : s.creators = a.created
  used : s.executions = a.used
  executed : ∀ i, a.stage i = .finished → prepareRelayContent (calls i).msg.content ≠ none → ∃ h, (i, h) ∈ a.used

variable [DecidableEq ι] {c : UInt64} {calls : ι → Delivery} {s : Deliveries ι} {a : State ι Webhook} {i : ι}

/-- What the next request of a delivery does. -/
theorem step_of_awaits {q : Request} {p : Bot Unit} {w : World} (hq : (s.tasks i).awaits = some q)
    (hadv : (s.tasks i).advance serve none s.world = (p, w)) :
    s.step i = { world := w, tasks := Function.update s.tasks i p, issued := s.issued ++ [(i, q)] } := by
  simp only [step, hq, hadv]

omit [DecidableEq ι] in
theorem creators_append (w : World) (tasks : ι → Bot Unit) (issued : List (ι × Request)) (i : ι) (q : Request) :
    creators ⟨w, tasks, issued ++ [(i, q)]⟩ = creators ⟨w, tasks, issued⟩ ++ (if q.creates then [i] else []) := by
  cases hq : q.creates <;> simp [creators, hq]

omit [DecidableEq ι] in
theorem executions_append (w : World) (tasks : ι → Bot Unit) (issued : List (ι × Request)) (i : ι) (q : Request) :
    executions ⟨w, tasks, issued ++ [(i, q)]⟩ =
      executions ⟨w, tasks, issued⟩ ++ q.executed.toList.map (fun h => (i, h)) := by
  cases hq : q.executed <;> simp [executions, hq]

/-- The parties after one delivery moved on. -/
theorem Simulates.tasks_update (h : Simulates c calls s a) {p : Bot Unit} {x : Stage Webhook} (hp : Matches c (calls i) p x)
    (j : ι) : Matches c (calls j) (Function.update s.tasks i p j) (Function.update a.stage i x j) := by
  by_cases hj : j = i
  · subst hj
    rw [Function.update_self, Function.update_self]
    exact hp
  · rw [Function.update_of_ne hj, Function.update_of_ne hj]
    exact h.tasks j

/-- A request that only reads moves its party alone. -/
theorem Simulates.move (h : Simulates c calls s a) {q : Request} {p : Bot Unit} {x : Stage Webhook}
    (hq : (s.tasks i).awaits = some q) (hadv : (s.tasks i).advance serve none s.world = (p, s.world))
    (hc : q.creates = false) (he : q.executed = none) (hp : Matches c (calls i) p x)
    (hx : x = .finished → prepareRelayContent (calls i).msg.content = none) :
    Simulates c calls (s.step i) { a with stage := Function.update a.stage i x } := by
  rw [step_of_awaits hq hadv]
  refine ⟨h.tasks_update hp, h.found, h.room, h.routed, ?_, ?_, ?_⟩
  · rw [creators_append, hc, if_neg Bool.false_ne_true, List.append_nil]
    exact h.created
  · rw [executions_append, he, Option.toList_none, List.map_nil, List.append_nil]
    exact h.used
  · intro j hj hcontent
    rcases FindOrCreate.stage_update hj with ⟨rfl, hfin⟩ | ⟨-, hfin⟩
    · exact absurd (hx hfin) hcontent
    · exact h.executed j hfin hcontent

/-- A read that does not end the search leaves the protocol where it is. -/
theorem Simulates.stutter (h : Simulates c calls s a) {q : Request} {p : Bot Unit} (hq : (s.tasks i).awaits = some q)
    (hadv : (s.tasks i).advance serve none s.world = (p, s.world)) (hc : q.creates = false) (he : q.executed = none)
    (hp : Matches c (calls i) p (a.stage i))
    (hx : a.stage i = .finished → prepareRelayContent (calls i).msg.content = none) :
    Simulates c calls (s.step i) a := by
  have hmove := h.move hq hadv hc he hp hx
  rwa [Function.update_eq_self] at hmove

/-- The creation of the webhook. -/
theorem Simulates.create (h : Simulates c calls s a) {content : String} (hi : a.stage i = .creating)
    (hp : prepareRelayContent (calls i).msg.content = some content)
    (ht : s.tasks i = ask (.createWebhook c managedWebhookName) >>= executeRelay content (calls i).msg) :
    Simulates c calls (s.step i) (a.step (s.world.freshHook c managedWebhookName) i) := by
  have hadv : (s.tasks i).advance serve none s.world =
      (executeRelay content (calls i).msg (s.world.freshHook c managedWebhookName),
        s.world.addHook c managedWebhookName) := by rw [ht]; rfl
  have hq : (s.tasks i).awaits = some (.createWebhook c managedWebhookName) := by rw [ht]; rfl
  rw [step_of_awaits hq hadv, State.step_creating _ hi]
  refine ⟨h.tasks_update (.execute content hp _), ?_, ?_, h.routed, ?_, ?_, ?_⟩
  · rw [World.managedHook_addHook, h.found]
  · intro hn
    rw [World.managedHook_addHook] at hn
    cases hn
  · rw [creators_append]
    exact congrArg (· ++ [i]) h.created
  · have he : (Request.createWebhook c managedWebhookName).executed = none := rfl
    rw [executions_append, he, Option.toList_none, List.map_nil, List.append_nil]
    exact h.used
  · intro j hj hcontent
    rcases FindOrCreate.stage_update hj with ⟨-, hfin⟩ | ⟨-, hfin⟩
    · cases hfin
    · exact h.executed j hfin hcontent

/-- The execution of the webhook. -/
theorem Simulates.execute (h : Simulates c calls s a) {content : String} {hook : Webhook} (hi : a.stage i = .holding hook)
    (ht : s.tasks i = executeRelay content (calls i).msg hook) (fresh : Webhook) :
    Simulates c calls (s.step i) (a.step fresh i) := by
  have hadv : (s.tasks i).advance serve none s.world =
      (.done (.ok ()), s.world.post true (hook.message (relayBuilder content (calls i).msg))) := by rw [ht]; rfl
  have hq : (s.tasks i).awaits = some (.executeWebhook hook false (relayBuilder content (calls i).msg)) := by rw [ht]; rfl
  rw [step_of_awaits hq hadv, State.step_holding _ hi]
  refine ⟨h.tasks_update (.ended _), h.found, h.room, h.routed, ?_, ?_, ?_⟩
  · have hc : (Request.executeWebhook hook false (relayBuilder content (calls i).msg)).creates = false := rfl
    rw [creators_append, hc, if_neg Bool.false_ne_true, List.append_nil]
    exact h.created
  · rw [executions_append]
    exact congrArg (· ++ [(i, hook)]) h.used
  · intro j hj hcontent
    rcases FindOrCreate.stage_update hj with ⟨rfl, -⟩ | ⟨-, hfin⟩
    · exact ⟨hook, List.mem_append_right _ (List.mem_singleton.2 rfl)⟩
    · obtain ⟨hook', hmem⟩ := h.executed j hfin hcontent
      exact ⟨hook', List.mem_append_left _ hmem⟩

/-- The listing of the webhooks. -/
theorem Simulates.look (h : Simulates c calls s a) {content : String} (hi : a.stage i = .looking)
    (hp : prepareRelayContent (calls i).msg.content = some content)
    (ht : s.tasks i = getOrCreateWebhook c >>= executeRelay content (calls i).msg) (fresh : Webhook) :
    Simulates c calls (s.step i) (a.step fresh i) := by
  have hq : (s.tasks i).awaits = some (.webhooks c) := by rw [ht]; rfl
  have hadv := advance_getOrCreateWebhook_bind (executeRelay content (calls i).msg) h.room
  rw [← ht] at hadv
  cases hf : s.world.managedHook c with
  | some hook =>
    rw [State.step_looking_some fresh hi (h.found.symm.trans hf)]
    rw [hf] at hadv
    exact h.move hq hadv rfl rfl (.execute content hp hook) (fun hx => by cases hx)
  | none =>
    rw [State.step_looking_none fresh hi (h.found.symm.trans hf)]
    rw [hf] at hadv
    exact h.move hq hadv rfl rfl (.create content hp) (fun hx => by cases hx)

omit [DecidableEq ι] in
/-- The lookup of the route. -/
theorem Simulates.route (h : Simulates c calls s a)
    (ht : s.tasks i = deliverInbound (calls i).platform (calls i).remoteChatId (calls i).msg) :
    (s.tasks i).awaits = some (.selectChannel (calls i).platform.asI16 (calls i).remoteChatId) ∧
      (s.tasks i).advance serve none s.world = (relayInbound c (calls i).msg, s.world) := by
  rw [ht]
  refine ⟨rfl, ?_⟩
  unfold deliverInbound
  rw [advance_fetchByRemote_bind, h.routed i]

/-- The request of a delivery is a step of its party, which is a look only when it lists the webhooks, or leaves the protocol
where it is. -/
theorem Simulates.step (h : Simulates c calls s a) (i : ι) : ∃ a', Simulates c calls (s.step i) a' ∧
    ((a' = a ∧ (s.tasks i).awaits ≠ some (.webhooks c)) ∨
      ∃ fresh, a' = a.step fresh i ∧ (a.stage i = .looking → (s.tasks i).awaits = some (.webhooks c))) := by
  have hm := h.tasks i
  generalize ht : s.tasks i = task at hm
  generalize hx : a.stage i = stage at hm
  cases hm with
  | blank hp =>
    obtain ⟨hq, hadv⟩ := h.route ht
    simp only [relayInbound, hp] at hadv
    refine ⟨a, h.stutter hq hadv rfl rfl ?_ fun _ => hp, Or.inl ⟨rfl, ?_⟩⟩
    · rw [hx]
      exact .ended _
    · rw [← ht, hq]
      exact fun hw => by cases hw
  | route content hp =>
    obtain ⟨hq, hadv⟩ := h.route ht
    simp only [relayInbound, hp] at hadv
    refine ⟨a, h.stutter hq hadv rfl rfl ?_ fun hf => ?_, Or.inl ⟨rfl, ?_⟩⟩
    · rw [hx]
      exact .list content hp
    · rw [hx] at hf
      cases hf
    · rw [← ht, hq]
      exact fun hw => by cases hw
  | list content hp =>
    exact ⟨_, h.look hx hp ht (s.world.freshHook c managedWebhookName), Or.inr ⟨_, rfl, fun _ => rfl⟩⟩
  | create content hp =>
    exact ⟨_, h.create hx hp ht, Or.inr ⟨_, rfl, fun hl => by cases hl⟩⟩
  | execute content hp hook =>
    exact ⟨_, h.execute hx ht (s.world.freshHook c managedWebhookName), Or.inr ⟨_, rfl, fun hl => by cases hl⟩⟩
  | ended r =>
    refine ⟨a, ?_, Or.inl ⟨rfl, fun hw => by cases hw⟩⟩
    have hstep : s.step i = s := by simp only [Deliveries.step, ht, Prog.awaits_done]
    rw [hstep]
    exact h

end Deliveries

end ModerationBot
