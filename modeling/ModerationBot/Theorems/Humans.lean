import ModerationBot.Theorems.Outbound

namespace ModerationBot

/-! ## Whose messages leave Discord -/

/-- Every message sent was handed over in the processing of a message that neither a webhook nor a bot account wrote. -/
def OnlyHumans (s : Bridge) : Prop :=
  ∀ x ∈ s.sends, x.1.message.webhookId = none ∧ x.1.message.author.bot = false

/-- The handler is about to look up the channel of a message that a bot account wrote, and the channel is linked. -/
def Handling.FindsBot (h : Handling) (w : World) : Prop :=
  h.rest.awaits = some (.selectRemote h.event.message.channelId.toInt64) ∧ h.event.message.author.bot = true ∧
    w.routes.Linked h.event.message.channelId

/-- The action is the step of such a handler. -/
def FindsBot (s : Bridge) : Action → Prop
  | .handle i => ∃ h, s.handlings[i]? = some h ∧ h.FindsBot s.world
  | _ => False

/-- No action of the run finds a linked channel for a message of a bot account. -/
def Clean : Bridge → List Action → Prop
  | _, [] => True
  | s, a :: actions => ¬FindsBot s a ∧ Clean (s.step a) actions

/-- If the event has an image, no bot account wrote it. -/
def Processed.Humane (botId : UInt64) (p : Processed) : Prop := p.image botId ≠ none → p.event.message.author.bot = false

theorem Clean.of_append {s : Bridge} {pre post : List Action} (h : Clean s (pre ++ post)) : Clean s pre := by
  induction pre generalizing s with
  | nil => trivial
  | cons a pre ih => exact ⟨h.1, ih h.2⟩

/-- An event that was not looked up yet has no image. -/
theorem Processed.humane_of_lookup {botId : UInt64} {p : Processed} (h : p.lookup = none) : p.Humane botId := by
  intro himage
  simp [image, h] at himage

/-- A step of a handler keeps its event humane, unless it finds a bot. -/
theorem Handling.Stage.humane_next {w : World} {h : Handling} (hs : h.Stage w.bot.id) (hw : w.routes.KnownPlatforms) :
    (h.next w).Humane w.bot.id ↔ h.Humane w.bot.id ∧ ¬h.FindsBot w := by
  cases hs with
  | gate hl hr =>
    obtain ⟨-, -, hnext⟩ := next_of_gate (w := w) hr
    have hfinds : ¬h.FindsBot w := by
      intro h
      obtain ⟨ha, -⟩ := h
      rw [hr] at ha
      cases ha
    rw [hnext]
    exact ⟨fun hh => ⟨hh, hfinds⟩, fun hh => hh.1⟩
  | lookup hl hr hq =>
    obtain ⟨-, -, hnext⟩ := next_of_lookup (w := w) hr
    have ha : h.rest.awaits = some (.selectRemote h.event.message.channelId.toInt64) := by rw [hr]; rfl
    have himage : (⟨h.event, some w.routes⟩ : Processed).image w.bot.id ≠ none ↔
        w.routes.Linked h.event.message.channelId := by
      rw [← RouteTable.byChannel_ne_none_iff hw]
      simp [Processed.image, outbound, hq]
    rw [hnext]
    simp only [Processed.Humane, himage, FindsBot, ha, true_and]
    constructor
    · intro hh
      refine ⟨Processed.humane_of_lookup hl, ?_⟩
      intro h
      obtain ⟨hbot, hlinked⟩ := h
      rw [hh hlinked] at hbot
      cases hbot
    · rintro ⟨-, hn⟩ hlinked
      rw [← Bool.not_eq_true]
      exact fun hbot => hn ⟨hbot, hlinked⟩
  | send t chat hl hr hq hc =>
    obtain ⟨-, -, hnext⟩ := next_of_send (w := w) hr
    have hfinds : ¬h.FindsBot w := by
      intro h
      obtain ⟨ha, -⟩ := h
      rw [hr] at ha
      cases ha
    rw [hnext]
    exact ⟨fun hh => ⟨hh, hfinds⟩, fun hh => hh.1⟩

namespace Bridge

/-- Every event that was handed to the handler is humane. -/
def Humane (botId : UInt64) (s : Bridge) : Prop := ∀ p ∈ s.records, p.Humane botId

variable {botId : UInt64} {s : Bridge}

theorem humane_iff_of_perm {p : Processed} {others : List Processed} (h : s.records.Perm (p :: others)) :
    s.Humane botId ↔ p.Humane botId ∧ ∀ q ∈ others, q.Humane botId := by
  rw [← List.forall_mem_cons]
  exact forall_congr' fun q => by rw [h.mem_iff]

/-- An action keeps a bridge humane, unless it finds a bot. -/
theorem Inv.humane_step_iff (h : s.Inv botId) (a : Action) :
    (s.step a).Humane botId ↔ s.Humane botId ∧ ¬FindsBot s a := by
  have hsame : ∀ a, (s.step a).records = s.records → ¬FindsBot s a →
      ((s.step a).Humane botId ↔ s.Humane botId ∧ ¬FindsBot s a) := by
    intro a hrecords hn
    simp only [Humane, hrecords, hn, not_false_eq_true, and_true]
  cases a with
  | link g c p r createdBy => exact hsame _ rfl not_false
  | unlink g c p => exact hsame _ rfl not_false
  | deliver p r msg => exact hsame _ rfl not_false
  | post message => exact hsame _ rfl not_false
  | relay i fault =>
    refine hsame _ ?_ not_false
    simp only [Bridge.step]
    split <;> rfl
  | dispatch i =>
    cases hi : s.world.inFlight[i]? with
    | none =>
      refine hsame _ ?_ not_false
      simp only [Bridge.step, hi]
    | some e =>
      have hrecords : (s.step (.dispatch i)).records.Perm (⟨e, none⟩ :: s.records) := by
        simp only [Bridge.step, hi, records, List.map_append, List.append_assoc]
        exact List.perm_middle
      rw [humane_iff_of_perm hrecords]
      simp only [FindsBot, not_false_eq_true, and_true]
      exact and_iff_right (Processed.humane_of_lookup rfl)
  | handle i =>
    cases hi : s.handlings[i]? with
    | none =>
      refine hsame _ ?_ ?_
      · simp only [Bridge.step, hi]
      · simp [FindsBot, hi]
    | some x =>
      obtain ⟨others, hold, hnew⟩ := records_handle hi
      have hstage := h.stages x (List.mem_of_getElem? hi)
      rw [← h.bot] at hstage
      have hx := hstage.humane_next h.known
      rw [h.bot] at hx
      rw [humane_iff_of_perm hnew, humane_iff_of_perm hold, hx]
      simp only [FindsBot, hi, Option.some.injEq, exists_eq_left', and_assoc]
      exact and_congr_right fun _ => and_comm

/-- A bridge that a run leaves humane was humane. -/
theorem Inv.humane_of_foldl (h : s.Inv botId) {actions : List Action} (hr : (actions.foldl Bridge.step s).Humane botId) :
    s.Humane botId := by
  induction actions generalizing s with
  | nil => exact hr
  | cons a actions ih => exact ((h.humane_step_iff a).1 (ih (h.step a) hr)).1

/-- A run is clean exactly when it leaves a humane bridge humane. -/
theorem Inv.clean_iff (h : s.Inv botId) (hs : s.Humane botId) (actions : List Action) :
    Clean s actions ↔ (actions.foldl Bridge.step s).Humane botId := by
  induction actions generalizing s with
  | nil => exact ⟨fun _ => hs, fun _ => trivial⟩
  | cons a actions ih =>
    rw [Clean, List.foldl_cons]
    by_cases hf : FindsBot s a
    · constructor
      · exact fun hc => absurd hf hc.1
      · exact fun hr => absurd hf ((h.humane_step_iff a).1 ((h.step a).humane_of_foldl hr)).2
    · rw [← ih (h.step a) ((h.humane_step_iff a).2 ⟨hs, hf⟩)]
      exact and_iff_right hf

/-- Of a humane bridge, only messages of humans left. -/
theorem Inv.onlyHumans (h : s.Inv botId) (hs : s.Humane botId) : OnlyHumans s := by
  intro x hx
  obtain ⟨p, hp, hevent, himage⟩ := h.mem_sends hx
  obtain ⟨hq, -⟩ := Processed.image_eq_some_iff.1 himage
  rw [← hevent]
  exact ⟨hq.1, hs p (List.mem_append_right _ hp) (by rw [himage]; exact Option.some_ne_none _)⟩

/-- Of a bridge that is not humane, a message of a bot has left, or leaves with one step of a handler. -/
theorem Inv.exists_not_onlyHumans (h : s.Inv botId) (hs : ¬s.Humane botId) :
    ∃ i, ¬OnlyHumans (s.step (.handle i)) := by
  obtain ⟨p, hp, hbot⟩ : ∃ p ∈ s.records, ¬p.Humane botId := by simpa [Humane] using hs
  obtain ⟨himage, hbot⟩ : p.image botId ≠ none ∧ p.event.message.author.bot = true := by
    simpa [Processed.Humane] using hbot
  obtain ⟨msg, hmsg⟩ := Option.ne_none_iff_exists'.1 himage
  have hsent : ∀ i, (p.event, msg) ∈ (s.step (.handle i)).sends → ¬OnlyHumans (s.step (.handle i)) := by
    intro i hmem honly
    have := (honly _ hmem).2
    rw [hbot] at this
    cases this
  rcases List.mem_append.1 hp with hp | hp
  · -- the handler of the event is about to send
    obtain ⟨x, hx, rfl⟩ := List.mem_map.1 hp
    obtain ⟨i, hi⟩ := List.getElem?_of_mem hx
    have hsending : x.sending = [(x.event, msg)] := by
      cases h.stages x hx with
      | gate hl hr => simp [Processed.image, hl] at hmsg
      | lookup hl hr hq => simp [Processed.image, hl] at hmsg
      | send t chat hl hr hq hc =>
        have himg : x.image botId = some (relayMessage x.event.message chat) := by
          simp [Processed.image, hl, outbound, hq, hc]
        rw [hmsg, Option.some.injEq] at himg
        rw [(Handling.next_of_send (w := s.world) hr).2.1, himg]
    exact ⟨i, hsent i (by simp [Bridge.step, hi, hsending])⟩
  · -- the event is processed, and what was sent stays sent
    refine ⟨0, hsent 0 ?_⟩
    have hmem : (p.event, msg) ∈ s.sends := by
      rw [h.sends]
      exact List.mem_filterMap.2 ⟨p, hp, by rw [hmsg]; rfl⟩
    simp only [Bridge.step]
    split
    · exact hmem
    · exact List.mem_append_left _ hmem

theorem humane_start (w : World) : (start w).Humane botId := fun _ hp => absurd hp List.not_mem_nil

end Bridge

/-- In every run that finds no linked channel for a message of a bot account, only messages of humans leave, in every state it
reaches; of any other run, a message of a bot account has left, or leaves with one more step of a handler. -/
theorem only_humans_of_clean (w : World) (actions : List Action) :
    (Clean (Bridge.start w) actions → ∀ pre, pre <+: actions → OnlyHumans (Bridge.run w pre)) ∧
      (¬Clean (Bridge.start w) actions → ∃ i, ¬OnlyHumans (Bridge.run w (actions ++ [.handle i]))) := by
  have hinv := Bridge.inv_start w
  have hstart : (Bridge.start w).Humane w.bot.id := Bridge.humane_start w
  constructor
  · rintro hclean pre ⟨post, rfl⟩
    exact (Bridge.inv_run w pre).onlyHumans ((hinv.clean_iff hstart pre).1 hclean.of_append)
  · intro hclean
    rw [hinv.clean_iff hstart] at hclean
    obtain ⟨i, hi⟩ := (Bridge.inv_run w actions).exists_not_onlyHumans hclean
    refine ⟨i, ?_⟩
    rw [Bridge.run, List.foldl_append]
    exact hi

/-! ### A bot account whose message leaves -/

namespace ForeignBot

/-- A foreign bot account answers in a channel with an ordinary message. -/
def message : Message := ⟨7, ⟨50, "other", none, true⟩, none, "hello"⟩

/-- The channel is linked, the message is posted, and its event is processed. -/
def actions : List Action :=
  [.link 1 7 .telegram "chat" 10, .post message, .dispatch 0, .handle 0, .handle 0, .handle 0]

/-- The message leaves for the remote chat. -/
theorem not_onlyHumans :
    ¬OnlyHumans (Bridge.run (World.initial ⟨99, "boyfucker", none, true⟩ (fun n => (.ofNat n, "token"))) actions) := by
  intro h
  have hmem : (⟨0, false, message⟩, ⟨.telegram, "chat", "other", "hello"⟩) ∈
      (Bridge.run (World.initial ⟨99, "boyfucker", none, true⟩ (fun n => (.ofNat n, "token"))) actions).sends := by
    decide +kernel
  have := (h _ hmem).2
  cases this

end ForeignBot

end ModerationBot
