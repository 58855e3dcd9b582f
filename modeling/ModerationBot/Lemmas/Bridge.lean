import Mathlib.Data.List.Perm.Basic
import ModerationBot.Lemmas.Outbound

/-!
# The invariant of the bridge

What each action of the bridge changes, and the invariant its runs keep: every event was posted once and is at one place, the
events of relayed messages carry a webhook id, every handler is at one of its points, and what was sent is the image of what was
processed.
-/

namespace ModerationBot

/-! ## The requests of a delivery -/

/-- The requests of an inbound delivery. -/
def Request.inbound : Request → Bool
  | .selectChannel _ _ => true
  | .webhooks _ => true
  | .createWebhook _ _ => true
  | .executeWebhook _ _ _ => true
  | _ => false

theorem only_getOrCreateWebhook (c : UInt64) : (getOrCreateWebhook c).Only (fun q => q.inbound = true) := by
  unfold getOrCreateWebhook
  refine Prog.Only.bind ((Prog.only_perform _ _).2 rfl) fun hooks => ?_
  cases hooks.find? Webhook.managed with
  | some h => exact Prog.only_pure _ _
  | none =>
    by_cases hl : hooks.length ≥ maxChannelWebhooks
    · simp only [if_pos hl, Prog.only_throw]
    · simp only [if_neg hl, Prog.only_perform, Request.inbound]

theorem only_deliverInbound (p : Platform) (r : String) (msg : RemoteMessage) :
    (deliverInbound p r msg).Only (fun q => q.inbound = true) := by
  unfold deliverInbound Routes.fetchByRemote
  refine Prog.Only.bind (Prog.Only.bind ((Prog.only_perform _ _).2 rfl) fun _ => Prog.only_pure _ _) fun channel => ?_
  cases channel with
  | none => exact Prog.only_throw _ _
  | some c =>
    unfold relayInbound
    cases prepareRelayContent msg.content with
    | none => exact Prog.only_pure _ _
    | some content => exact (only_getOrCreateWebhook c).bind fun h => (Prog.only_perform _ _).2 rfl

/-- What a delivery may change that the outbound direction reads: it posts one message, which carries a webhook id. -/
structure World.Relays (w w' : World) : Prop where
  bot : w'.bot = w.bot
  routes : w'.routes = w.routes
  sent : w'.sent = w.sent
  posts : (w'.inFlight = w.inFlight ∧ w'.serial = w.serial) ∨
    ∃ e : Posted, w'.inFlight = w.inFlight ++ [e] ∧ e.serial = w.serial ∧ w'.serial = w.serial + 1 ∧
      e.message.webhookId ≠ none

theorem World.Relays.refl (w : World) : w.Relays w := ⟨rfl, rfl, rfl, Or.inl ⟨rfl, rfl⟩⟩

/-- A request of a delivery posts at most one message, which carries the id of the webhook executed. -/
theorem relays_serve (w : World) {q : Request} (hq : q.inbound = true) : w.Relays (serve w q).2 := by
  cases q with
  | selectChannel p c => exact World.Relays.refl w
  | webhooks c => exact World.Relays.refl w
  | createWebhook c name => exact ⟨rfl, rfl, rfl, Or.inl ⟨rfl, rfl⟩⟩
  | executeWebhook h wait b => exact ⟨rfl, rfl, rfl, Or.inr ⟨_, rfl, rfl, rfl, Option.some_ne_none _⟩⟩
  | _ => exact absurd hq Bool.false_ne_true

/-! ## The events of a bridge -/

/-- Events whose numbers are apart and below a bound, where those of relayed messages carry a webhook id. -/
structure EventsOk (serial : Nat) (events : List Posted) : Prop where
  nodup : (events.map Posted.serial).Nodup
  bounded : ∀ e ∈ events, e.serial < serial
  stamped : ∀ e ∈ events, e.relayed = true → e.message.webhookId ≠ none

theorem EventsOk.perm {serial : Nat} {events events' : List Posted} (h : EventsOk serial events)
    (hp : events'.Perm events) : EventsOk serial events' where
  nodup := (hp.map _).nodup_iff.2 h.nodup
  bounded e he := h.bounded e (hp.subset he)
  stamped e he := h.stamped e (hp.subset he)

/-- The next event posted is apart from all before it. -/
theorem EventsOk.cons {serial : Nat} {events : List Posted} (h : EventsOk serial events) {e : Posted}
    (hs : e.serial = serial) (hw : e.relayed = true → e.message.webhookId ≠ none) :
    EventsOk (serial + 1) (e :: events) where
  nodup := by
    rw [List.map_cons, List.nodup_cons]
    refine ⟨fun hmem => ?_, h.nodup⟩
    obtain ⟨e', he', hse⟩ := List.mem_map.1 hmem
    have := h.bounded e' he'
    omega
  bounded e' he' := by
    rcases List.mem_cons.1 he' with rfl | he'
    · omega
    · have := h.bounded e' he'
      omega
  stamped e' he' := by
    rcases List.mem_cons.1 he' with rfl | he'
    · exact hw
    · exact h.stamped e' he'

namespace Bridge

/-- The events that were handed to the handler, as far as they were processed. -/
def records (s : Bridge) : List Processed := s.handlings.map Handling.toProcessed ++ s.processed

/-- All events posted: in flight, being processed or processed. -/
def events (s : Bridge) : List Posted := s.world.inFlight ++ s.records.map Processed.event

/-- A step of a handler changes the record of its event. -/
theorem records_handle {s : Bridge} {i : Nat} {h : Handling} (hi : s.handlings[i]? = some h) :
    ∃ others, s.records.Perm (h.toProcessed :: others) ∧
      (s.step (.handle i)).records.Perm ((h.next s.world).toProcessed :: others) := by
  obtain ⟨hlt, hget⟩ := List.getElem?_eq_some_iff.1 hi
  refine ⟨(s.handlings.eraseIdx i).map Handling.toProcessed ++ s.processed, ?_, ?_⟩
  · have hperm := (List.getElem_cons_eraseIdx_perm hlt).symm.map Handling.toProcessed
    rw [hget, List.map_cons] at hperm
    exact hperm.append_right _
  · simp only [step, hi, records]
    by_cases hf : (h.next s.world).finished = true
    · rw [if_pos hf, if_pos hf, ← List.append_assoc]
      exact List.perm_append_singleton _ _
    · rw [if_neg hf, if_neg hf]
      exact ((List.set_perm_cons_eraseIdx hlt _).map Handling.toProcessed).append_right _

/-- The invariant of the bridge. -/
structure Inv (botId : UInt64) (s : Bridge) : Prop where
  bot : s.world.bot.id = botId
  known : s.world.routes.KnownPlatforms
  deliveries : ∀ d ∈ s.deliveries, d.Only (fun q => q.inbound = true)
  stages : ∀ h ∈ s.handlings, h.Stage botId
  tables : ∀ p ∈ s.records, ∀ t, p.lookup = some t → t.KnownPlatforms
  looked : ∀ p ∈ s.processed, Qualifies botId p.event.message → p.lookup ≠ none
  sends : s.sends = s.processed.filterMap (fun p => (p.image botId).map (fun msg => (p.event, msg)))
  sent : s.world.sent = s.sends.map Prod.snd
  events : EventsOk s.world.serial s.events

theorem inv_start (w : World) : Inv w.bot.id (start w) where
  bot := rfl
  known _ hrow := absurd hrow List.not_mem_nil
  deliveries _ hd := absurd hd List.not_mem_nil
  stages _ hh := absurd hh List.not_mem_nil
  tables _ hp := absurd hp List.not_mem_nil
  looked _ hp := absurd hp List.not_mem_nil
  sends := rfl
  sent := rfl
  events := ⟨List.nodup_nil, fun _ he => absurd he List.not_mem_nil, fun _ he => absurd he List.not_mem_nil⟩

variable {botId : UInt64} {s : Bridge}

/-- A change of the routes keeps the invariant if the platforms stay known. -/
theorem Inv.setRoutes (h : Inv botId s) {t : RouteTable} (ht : t.KnownPlatforms) :
    Inv botId { s with world := { s.world with routes := t } } where
  bot := h.bot
  known := ht
  deliveries := h.deliveries
  stages := h.stages
  tables := h.tables
  looked := h.looked
  sends := h.sends
  sent := h.sent
  events := h.events

theorem Inv.link (h : Inv botId s) (g c : UInt64) (p : Platform) (r : String) (createdBy : UInt64) :
    Inv botId (s.step (.link g c p r createdBy)) := by
  simp only [step, Routes.run_link]
  cases hi : s.world.routes.insert ⟨g.toInt64, c.toInt64, p.asI16, r, createdBy.toInt64⟩ with
  | none => exact h
  | some t =>
    refine h.setRoutes fun row hrow => ?_
    rw [Table.rows_of_insert hi, List.mem_append, List.mem_singleton] at hrow
    rcases hrow with hrow | rfl
    · exact h.known row hrow
    · exact ⟨p, rfl⟩

theorem Inv.unlink (h : Inv botId s) (g c : UInt64) (p : Platform) : Inv botId (s.step (.unlink g c p)) :=
  h.setRoutes fun row hrow => h.known row (Table.mem_delete_iff.1 hrow).1

/-- A step of the world in which at most one relayed message is posted keeps the invariant. -/
theorem Inv.relays (h : Inv botId s) {w' : World} (hw : s.world.Relays w') {deliveries : List (Bot Unit)}
    (hd : ∀ d ∈ deliveries, d.Only (fun q => q.inbound = true)) :
    Inv botId { s with world := w', deliveries } where
  bot := by rw [hw.bot]; exact h.bot
  known := by rw [hw.routes]; exact h.known
  deliveries := hd
  stages := h.stages
  tables := h.tables
  looked := h.looked
  sends := h.sends
  sent := by rw [hw.sent]; exact h.sent
  events := by
    rcases hw.posts with ⟨hf, hs⟩ | ⟨e, hf, he, hs, hid⟩
    · simp only [Bridge.events, hf, hs]
      exact h.events
    · simp only [Bridge.events, hf, hs, List.append_assoc, List.singleton_append]
      exact (h.events.cons he fun _ => hid).perm List.perm_middle

theorem Inv.relay (h : Inv botId s) (i : Nat) (fault : Option Error) : Inv botId (s.step (.relay i fault)) := by
  simp only [step]
  cases hi : s.deliveries[i]? with
  | none => exact h
  | some d =>
    have hd := h.deliveries d (List.mem_of_getElem? hi)
    refine h.relays (hd.advance_state (World.Relays.refl _) (fun q hq => relays_serve _ hq) fault) fun d' hd' => ?_
    rcases List.mem_or_eq_of_mem_set hd' with hd' | rfl
    · exact h.deliveries d' hd'
    · exact hd.advance serve fault s.world

theorem Inv.deliver (h : Inv botId s) (p : Platform) (r : String) (msg : RemoteMessage) :
    Inv botId (s.step (.deliver p r msg)) := by
  refine h.relays (World.Relays.refl _) fun d hd => ?_
  rcases List.mem_append.1 hd with hd | hd
  · exact h.deliveries d hd
  · rw [List.mem_singleton.1 hd]
    exact only_deliverInbound p r msg

theorem Inv.post (h : Inv botId s) (message : Message) : Inv botId (s.step (.post message)) where
  bot := h.bot
  known := h.known
  deliveries := h.deliveries
  stages := h.stages
  tables := h.tables
  looked := h.looked
  sends := h.sends
  sent := h.sent
  events := by
    simp only [step, World.post, Bridge.events, List.append_assoc, List.singleton_append]
    have hnew : EventsOk (s.world.serial + 1) (⟨s.world.serial, false, message⟩ :: s.events) :=
      h.events.cons rfl fun hr => absurd hr Bool.false_ne_true
    exact hnew.perm List.perm_middle

theorem Inv.dispatch (h : Inv botId s) (i : Nat) : Inv botId (s.step (.dispatch i)) := by
  simp only [step]
  cases hi : s.world.inFlight[i]? with
  | none => exact h
  | some e =>
    obtain ⟨hlt, hget⟩ := List.getElem?_eq_some_iff.1 hi
    have hrecords : ((s.handlings ++ [(⟨⟨e, none⟩, eventHandler (.message e.message)⟩ : Handling)]).map
        Handling.toProcessed ++ s.processed).Perm (⟨e, none⟩ :: s.records) := by
      rw [List.map_append, List.append_assoc]
      exact List.perm_middle
    refine ⟨h.bot, h.known, h.deliveries, ?_, ?_, h.looked, h.sends, h.sent, ?_⟩
    · intro x hx
      rcases List.mem_append.1 hx with hx | hx
      · exact h.stages x hx
      · rw [List.mem_singleton.1 hx]
        exact Handling.Stage.gate rfl rfl
    · intro p hp t ht
      rcases List.mem_cons.1 (hrecords.subset hp) with rfl | hp
      · cases ht
      · exact h.tables p hp t ht
    · have hflight := List.getElem_cons_eraseIdx_perm hlt
      rw [hget] at hflight
      refine h.events.perm (((hrecords.map Processed.event).append_left _).trans ?_)
      rw [List.map_cons]
      exact List.perm_middle.trans (hflight.append_right _)

/-- The records of the bridge after a step of a handler. -/
theorem Inv.tables_handle (h : Inv botId s) {i : Nat} {x : Handling} (hi : s.handlings[i]? = some x) :
    ∀ p ∈ (s.step (.handle i)).records, ∀ t, p.lookup = some t → t.KnownPlatforms := by
  obtain ⟨others, hold, hnew⟩ := records_handle hi
  intro p hp t ht
  rcases List.mem_cons.1 (hnew.subset hp) with rfl | hp
  · simp only [Handling.next, Handling.lookupIn] at ht
    split at ht
    · cases ht
      exact h.known
    · exact h.tables x.toProcessed (hold.symm.subset List.mem_cons_self) t ht
  · exact h.tables p (hold.symm.subset (List.mem_cons_of_mem _ hp)) t ht

/-- The events of the bridge after a step of a handler. -/
theorem events_handle {i : Nat} {x : Handling} (hi : s.handlings[i]? = some x)
    (hf : (s.step (.handle i)).world.inFlight = s.world.inFlight) : (s.step (.handle i)).events.Perm s.events := by
  obtain ⟨others, hold, hnew⟩ := records_handle hi
  rw [Bridge.events, Bridge.events, hf]
  exact (((hnew.map Processed.event).trans (hold.map Processed.event).symm)).append_left _

theorem Inv.handle (h : Inv botId s) (i : Nat) : Inv botId (s.step (.handle i)) := by
  cases hi : s.handlings[i]? with
  | none => simpa only [Bridge.step, hi] using h
  | some x =>
    have htables := h.tables_handle hi
    have hevents := events_handle (s := s) hi
    have hstage := h.stages x (List.mem_of_getElem? hi)
    rw [← h.bot] at hstage
    obtain ⟨hworld, ⟨hf, hsend, hnext⟩ | ⟨hf, hsend, hlooked⟩⟩ := hstage.next
    · have hstep : s.step (.handle i) = { s with handlings := s.handlings.set i (x.next s.world) } := by
        simp [Bridge.step, hi, hworld, hf, hsend]
      rw [hstep] at htables hevents ⊢
      refine ⟨h.bot, h.known, h.deliveries, ?_, htables, h.looked, h.sends, h.sent, h.events.perm (hevents rfl)⟩
      intro x' hx'
      rcases List.mem_or_eq_of_mem_set hx' with hx' | rfl
      · exact h.stages x' hx'
      · rw [← h.bot]
        exact hnext
    · have hstep : s.step (.handle i) = { s with
          world := { s.world with sent := s.world.sent ++ x.sending.map Prod.snd }
          handlings := s.handlings.eraseIdx i
          processed := s.processed ++ [(x.next s.world).toProcessed]
          sends := s.sends ++ x.sending } := by
        simp [Bridge.step, hi, hworld, hf]
      rw [hstep] at htables hevents ⊢
      rw [h.bot] at hsend hlooked
      refine ⟨h.bot, h.known, h.deliveries, ?_, htables, ?_, ?_, ?_, h.events.perm (hevents rfl)⟩
      · exact fun x' hx' => h.stages x' (List.mem_of_mem_eraseIdx hx')
      · intro p hp
        rcases List.mem_append.1 hp with hp | hp
        · exact h.looked p hp
        · rw [List.mem_singleton.1 hp]
          exact hlooked
      · rw [List.filterMap_append, ← h.sends, hsend]
        cases himage : ((x.next s.world).toProcessed).image botId <;> simp [himage]
      · simp [h.sent]

/-- Every action keeps the invariant. -/
theorem Inv.step (h : Inv botId s) (a : Action) : Inv botId (s.step a) := by
  cases a with
  | link g c p r createdBy => exact h.link g c p r createdBy
  | unlink g c p => exact h.unlink g c p
  | deliver p r msg => exact h.deliver p r msg
  | relay i fault => exact h.relay i fault
  | post message => exact h.post message
  | dispatch i => exact h.dispatch i
  | handle i => exact h.handle i

/-- The invariant holds after every run. -/
theorem inv_run (w : World) (actions : List Action) : Inv w.bot.id (run w actions) := by
  unfold run
  have hstart := inv_start w
  generalize start w = s at hstart
  induction actions generalizing s with
  | nil => exact hstart
  | cons a actions ih => exact ih _ (hstart.step a)

end Bridge

end ModerationBot
