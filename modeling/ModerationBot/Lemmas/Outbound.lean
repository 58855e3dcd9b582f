import ModerationBot.Bridge
import ModerationBot.Lemmas.Routes

/-!
# The outbound relay of one event

What leaves for a message under a route table (`outbound`), and the three points an event handler passes: the gate, the lookup
and the send. Each request takes a handler to the next point or ends it, and what it hands to the egress is the image of its event.
-/

namespace ModerationBot

/-! ## Route tables and channels -/

/-- Every route of the table is of a known platform. -/
def RouteTable.KnownPlatforms (t : RouteTable) : Prop := ∀ row ∈ t.rows, ∃ p : Platform, row.platform = p.asI16

/-- The table has a route of the channel. -/
def RouteTable.Linked (t : RouteTable) (c : UInt64) : Prop := ∃ row ∈ t.rows, row.discordChannel = c.toInt64

/-- The remote chat found for a channel is stored with it. -/
theorem RouteTable.exists_row_of_byChannel {t : RouteTable} {c : UInt64} {chat : Platform × String}
    (h : t.byChannel c = some chat) : ∃ row ∈ t.rows, Stores row chat c := by
  obtain ⟨row, hrow, hchat⟩ := Option.bind_eq_some_iff.1 h
  have hmem := List.mem_of_mem_head? hrow
  rw [List.mem_mergeSort, Table.mem_select_iff, beq_iff_eq] at hmem
  obtain ⟨p, hp, rfl⟩ := Option.map_eq_some_iff.1 hchat
  exact ⟨row, hmem.1, hmem.2, Platform.fromI16_eq_some_iff.1 hp, rfl⟩

/-- A remote chat is found for every channel that is linked. -/
theorem RouteTable.byChannel_ne_none_iff {t : RouteTable} (ht : t.KnownPlatforms) {c : UInt64} :
    t.byChannel c ≠ none ↔ t.Linked c := by
  constructor
  · intro h
    obtain ⟨chat, hchat⟩ := Option.ne_none_iff_exists'.1 h
    obtain ⟨row, hrow, hc, -⟩ := exists_row_of_byChannel hchat
    exact ⟨row, hrow, hc⟩
  · rintro ⟨row, hrow, hc⟩ hnone
    have hmem : row ∈ (t.select (fun r => r.discordChannel == c.toInt64)).mergeSort
        (fun a b => decide (a.platform ≤ b.platform)) := by
      rw [List.mem_mergeSort, Table.mem_select_iff, beq_iff_eq]
      exact ⟨hrow, hc⟩
    unfold byChannel at hnone
    cases hl : (t.select (fun r => r.discordChannel == c.toInt64)).mergeSort
        (fun a b => decide (a.platform ≤ b.platform)) with
    | nil =>
      rw [hl] at hmem
      exact List.not_mem_nil hmem
    | cons first rest =>
      have hfirst : first ∈ (t.select (fun r => r.discordChannel == c.toInt64)).mergeSort
          (fun a b => decide (a.platform ≤ b.platform)) := by rw [hl]; exact List.mem_cons_self
      rw [List.mem_mergeSort, Table.mem_select_iff] at hfirst
      obtain ⟨p, hp⟩ := ht first hfirst.1
      rw [hl, List.head?_cons, Option.bind_some, hp, Platform.fromI16_asI16] at hnone
      cases hnone

/-! ## The outbound relay of one message -/

/-- What the gate asks of a message. -/
def Qualifies (botId : UInt64) (m : Message) : Prop :=
  m.webhookId = none ∧ m.author.id ≠ botId ∧ ∃ c ∈ m.content.toList, isWhitespace c = false

instance (botId : UInt64) : DecidablePred (Qualifies botId) := fun _ => inferInstanceAs (Decidable (_ ∧ _ ∧ _))

/-- The message as it leaves for a remote chat. -/
def relayMessage (m : Message) (chat : Platform × String) : RelayMessage where
  platform := chat.1
  remoteChatId := chat.2
  author := m.author.globalName.getD m.author.name
  content := m.content

/-- What leaves for a message under a route table: itself, to the chat its channel is linked to, if it qualifies. -/
def outbound (botId : UInt64) (t : RouteTable) (m : Message) : Option RelayMessage :=
  if Qualifies botId m then (t.byChannel m.channelId).map (relayMessage m) else none

/-- What leaves for an event, as far as it was processed. -/
def Processed.image (botId : UInt64) (p : Processed) : Option RelayMessage :=
  p.lookup.bind (fun t => outbound botId t p.event.message)

/-- What is left of the handler after the gate. -/
def afterGate (m : Message) : Bot Unit := do
  match ← Routes.fetchByChannel m.channelId with
  | none => pure ()
  | some (platform, remoteChatId) => ask (.egress (relayMessage m (platform, remoteChatId)))

/-- The gate lets a message through when it qualifies. -/
theorem advance_handleOutbound (m : Message) (w : World) :
    (handleOutbound m).advance serve none w = (if Qualifies w.bot.id m then afterGate m else pure (), w) := by
  have hserve : (serve w .currentUser).1 = .ok w.bot.id := rfl
  unfold handleOutbound
  rw [ask, Prog.advance_perform_bind hserve]
  have hgate : shouldRelay m.webhookId m.author.id w.bot.id m.content = true ↔ Qualifies w.bot.id m := shouldRelay_iff _ _ _ _
  by_cases hq : Qualifies w.bot.id m
  · rw [if_pos hq, if_pos (hgate.2 hq)]
    rfl
  · rw [if_neg hq, if_neg (mt hgate.1 hq)]
    rfl

/-- A handler that looks up a channel goes on from what the table has for it. -/
theorem advance_fetchByChannel_bind (c : UInt64) (f : Option (Platform × String) → Bot Unit) (w : World) :
    (Routes.fetchByChannel c >>= f).advance serve none w = (f (w.routes.byChannel c), w) := by
  have hserve : (serve w (.selectRemote c.toInt64)).1 = .ok
      (((w.routes.select (fun r => r.discordChannel == c.toInt64)).mergeSort
        (fun a b => decide (a.platform ≤ b.platform))).head?.map (fun r => (r.platform, r.remoteChatId))) := rfl
  unfold Routes.fetchByChannel
  rw [Prog.bind_assoc, ask, Prog.advance_perform_bind hserve, Prog.pure_bind, Option.bind_map]
  rfl

/-! ## The points of a handler -/

/-- Where the handler of an event is: at the gate, at the lookup, or about to send. -/
inductive Handling.Stage (botId : UInt64) (h : Handling) : Prop
  | gate (hl : h.lookup = none) (hr : h.rest = handleOutbound h.event.message)
  | lookup (hl : h.lookup = none) (hr : h.rest = afterGate h.event.message) (hq : Qualifies botId h.event.message)
  | send (t : RouteTable) (chat : Platform × String) (hl : h.lookup = some t)
    (hr : h.rest = ask (.egress (relayMessage h.event.message chat))) (hq : Qualifies botId h.event.message)
    (hc : t.byChannel h.event.message.channelId = some chat)

namespace Handling

@[simp] theorem next_event (h : Handling) (w : World) : (h.next w).event = h.event := rfl

variable {w : World} {h : Handling}

/-- A handler that the gate stops has ended: its message does not qualify. -/
theorem next_of_gate (hr : h.rest = handleOutbound h.event.message) :
    (h.rest.advance serve none w).2 = w ∧ h.sending = [] ∧
      h.next w = ⟨h.toProcessed, if Qualifies w.bot.id h.event.message then afterGate h.event.message else pure ()⟩ := by
  have ha : h.rest.awaits = some .currentUser := by rw [hr]; rfl
  have hadv := advance_handleOutbound h.event.message w
  rw [← hr] at hadv
  exact ⟨by rw [hadv], by rw [sending, ha], by rw [next, lookupIn, ha, hadv]⟩

/-- After the lookup the table is noted, and the handler sends if the channel is linked. -/
theorem next_of_lookup (hr : h.rest = afterGate h.event.message) :
    (h.rest.advance serve none w).2 = w ∧ h.sending = [] ∧
      h.next w = ⟨⟨h.event, some w.routes⟩, match w.routes.byChannel h.event.message.channelId with
        | none => pure ()
        | some (platform, remoteChatId) => ask (.egress (relayMessage h.event.message (platform, remoteChatId)))⟩ := by
  have ha : h.rest.awaits = some (.selectRemote h.event.message.channelId.toInt64) := by rw [hr]; rfl
  have hadv := advance_fetchByChannel_bind h.event.message.channelId (fun
    | none => pure ()
    | some (platform, remoteChatId) => ask (.egress (relayMessage h.event.message (platform, remoteChatId)))) w
  rw [← afterGate, ← hr] at hadv
  exact ⟨by rw [hadv], by rw [sending, ha], by rw [next, lookupIn, ha, hadv]⟩

/-- After the send the handler has ended. -/
theorem next_of_send {msg : RelayMessage} (hr : h.rest = ask (.egress msg)) :
    (h.rest.advance serve none w).2 = { w with sent := w.sent ++ [msg] } ∧ h.sending = [(h.event, msg)] ∧
      h.next w = ⟨h.toProcessed, pure ()⟩ := by
  have ha : h.rest.awaits = some (.egress msg) := by rw [hr]; rfl
  have hadv : h.rest.advance serve none w = (pure (), { w with sent := w.sent ++ [msg] }) := by rw [hr]; rfl
  exact ⟨by rw [hadv], by rw [sending, ha], by rw [next, lookupIn, ha, hadv]⟩

/-- The next request of a handler takes it to its next point, or ends it with its image handed to the egress. -/
theorem Stage.next (hs : h.Stage w.bot.id) :
    (h.rest.advance serve none w).2 = { w with sent := w.sent ++ h.sending.map Prod.snd } ∧
      (((h.next w).finished = false ∧ h.sending = [] ∧ (h.next w).Stage w.bot.id) ∨
        ((h.next w).finished = true ∧ h.sending = ((h.next w).image w.bot.id).toList.map (fun msg => (h.event, msg)) ∧
          (Qualifies w.bot.id h.event.message → (h.next w).lookup ≠ none))) := by
  cases hs with
  | gate hl hr =>
    obtain ⟨hworld, hsend, hnext⟩ := next_of_gate (w := w) hr
    refine ⟨by simp [hworld, hsend], ?_⟩
    rw [hsend, hnext]
    by_cases hq : Qualifies w.bot.id h.event.message
    · refine Or.inl ⟨?_, rfl, Stage.lookup hl ?_ hq⟩
      · rw [if_pos hq]
        rfl
      · rw [if_pos hq]
    · refine Or.inr ⟨?_, ?_, fun hq' => absurd hq' hq⟩
      · rw [if_neg hq]
        rfl
      · simp [Processed.image, hl]
  | lookup hl hr hq =>
    obtain ⟨hworld, hsend, hnext⟩ := next_of_lookup (w := w) hr
    refine ⟨by simp [hworld, hsend], ?_⟩
    rw [hsend, hnext]
    cases hc : w.routes.byChannel h.event.message.channelId with
    | none => exact Or.inr ⟨rfl, by simp [Processed.image, outbound, hc], fun _ => Option.some_ne_none _⟩
    | some chat => exact Or.inl ⟨rfl, rfl, Stage.send w.routes chat rfl rfl hq hc⟩
  | send t chat hl hr hq hc =>
    obtain ⟨hworld, hsend, hnext⟩ := next_of_send (w := w) hr
    refine ⟨by simp [hworld, hsend], Or.inr ?_⟩
    rw [hsend, hnext]
    exact ⟨rfl, by simp [Processed.image, hl, outbound, hq, hc], fun _ => by simp [hl]⟩

end Handling

end ModerationBot
