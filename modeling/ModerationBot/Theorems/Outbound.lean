import ModerationBot.Lemmas.Bridge

namespace ModerationBot

/-! ## The outbound relay over every run of the bridge -/

/-- The laws of the outbound relay in a state of the bridge. -/
structure OutboundLawful (botId : UInt64) (s : Bridge) : Prop where
  /-- What was sent is the image of the processed events, in the order in which they were processed. -/
  sent : s.world.sent = s.processed.filterMap (Processed.image botId)
  /-- No event is processed twice. -/
  once : (s.processed.map (fun p => p.event.serial)).Nodup
  /-- Every event that qualifies was looked up, and it has an image exactly when its channel was linked at that moment. -/
  image_iff : ∀ p ∈ s.processed, p.image botId ≠ none ↔
    Qualifies botId p.event.message ∧ ∃ t, p.lookup = some t ∧ t.Linked p.event.message.channelId
  looked : ∀ p ∈ s.processed, Qualifies botId p.event.message → p.lookup ≠ none
  /-- The image carries the chat of a route of the channel, the global name of the author or else its name, and the content. -/
  carries : ∀ p ∈ s.processed, ∀ msg, p.image botId = some msg →
    (∃ t, p.lookup = some t ∧ ∃ row ∈ t.rows,
      RouteTable.Stores row (msg.platform, msg.remoteChatId) p.event.message.channelId) ∧
    msg.author = p.event.message.author.globalName.getD p.event.message.author.name ∧
      msg.content = p.event.message.content
  /-- The messages sent are those the handlers handed to the egress, none in the processing of a relayed message. -/
  origins : s.world.sent = s.sends.map Prod.snd
  echo_free : ∀ x ∈ s.sends, x.1.relayed = false

/-- An event has an image when it qualifies and its channel was found at the lookup. -/
theorem Processed.image_eq_some_iff {botId : UInt64} {p : Processed} {msg : RelayMessage} :
    p.image botId = some msg ↔ Qualifies botId p.event.message ∧
      ∃ t chat, p.lookup = some t ∧ t.byChannel p.event.message.channelId = some chat ∧
        relayMessage p.event.message chat = msg := by
  unfold Processed.image outbound
  rw [Option.bind_eq_some_iff]
  by_cases hq : Qualifies botId p.event.message
  · simp [hq]
  · simp [hq]

/-- What was handed to the egress was the image of a processed event. -/
theorem Bridge.Inv.mem_sends {botId : UInt64} {s : Bridge} (h : s.Inv botId) {x : Posted × RelayMessage}
    (hx : x ∈ s.sends) : ∃ p ∈ s.processed, p.event = x.1 ∧ p.image botId = some x.2 := by
  rw [h.sends] at hx
  obtain ⟨p, hp, hmap⟩ := List.mem_filterMap.1 hx
  obtain ⟨msg, hmsg, rfl⟩ := Option.map_eq_some_iff.1 hmap
  exact ⟨p, hp, rfl, hmsg⟩

/-- The laws follow from the invariant. -/
theorem Bridge.Inv.outboundLawful {botId : UInt64} {s : Bridge} (h : s.Inv botId) : OutboundLawful botId s where
  sent := by
    rw [h.sent, h.sends, List.map_filterMap]
    congr 1
    funext p
    cases p.image botId <;> rfl
  once := by
    have hall := h.events.nodup
    simp only [Bridge.events, Bridge.records, List.map_append, List.map_map] at hall
    exact (List.nodup_append.1 (List.nodup_append.1 hall).2.1).2.1
  image_iff p hp := by
    have hrecord : p ∈ s.records := List.mem_append_right _ hp
    rw [Option.ne_none_iff_exists']
    constructor
    · intro h
      obtain ⟨msg, hmsg⟩ := h
      obtain ⟨hq, t, chat, ht, hchat, -⟩ := Processed.image_eq_some_iff.1 hmsg
      refine ⟨hq, t, ht, (RouteTable.byChannel_ne_none_iff (h.tables p hrecord t ht)).1 ?_⟩
      rw [hchat]
      exact Option.some_ne_none chat
    · intro h
      obtain ⟨hq, t, ht, hlinked⟩ := h
      obtain ⟨chat, hchat⟩ :=
        Option.ne_none_iff_exists'.1 ((RouteTable.byChannel_ne_none_iff (h.tables p hrecord t ht)).2 hlinked)
      exact ⟨_, Processed.image_eq_some_iff.2 ⟨hq, t, chat, ht, hchat, rfl⟩⟩
  looked := h.looked
  carries p hp msg hmsg := by
    obtain ⟨-, t, chat, ht, hchat, rfl⟩ := Processed.image_eq_some_iff.1 hmsg
    exact ⟨⟨t, ht, RouteTable.exists_row_of_byChannel hchat⟩, rfl, rfl⟩
  origins := h.sent
  echo_free x hx := by
    obtain ⟨p, hp, hevent, himage⟩ := h.mem_sends hx
    obtain ⟨hq, -⟩ := Processed.image_eq_some_iff.1 himage
    have hmem : p.event ∈ s.events :=
      List.mem_append_right _ (List.mem_map_of_mem (List.mem_append_right _ hp))
    rw [← hevent, ← Bool.not_eq_true]
    exact fun hrelayed => h.events.stamped p.event hmem hrelayed hq.1

/-- After every run of the bridge, the outbound relay is lawful. -/
theorem outbound_lawful (w : World) (actions : List Action) : OutboundLawful w.bot.id (Bridge.run w actions) :=
  (Bridge.inv_run w actions).outboundLawful

end ModerationBot
