import ModerationBot.Lemmas.Replies
import ModerationBot.Lemmas.Routes
import ModerationBot.Theorems.Authorization
import ModerationBot.Theorems.Bridging

namespace ModerationBot

open Prog

variable {guildOf : UInt64 → UInt64}

/-! ## The routes of the whole bot -/

/-- What the routes are, abstractly: which remote chat is matched with which channel. -/
abbrev Routing : Type := (Platform × String) ≃. UInt64

/-- The edit of the routing that a statement is. -/
def Request.routeEdit : Request → Option (PEquiv.Edit (Platform × String) UInt64)
  | .insertRoute row =>
    (Platform.fromI16 row.platform).map fun p => .link (p, row.remoteChatId) row.discordChannel.toUInt64
  | .deleteRoute _ c _ => some (.unlink c.toUInt64)
  | _ => none

/-- The table of a world is a store of the routing. -/
def World.Matches (guildOf : UInt64 → UInt64) (w : World) (f : Routing) : Prop :=
  ∃ s : RouteStore guildOf, w.routes = s.table ∧ s.routing = f

/-- The routing as the programs of the bot share it. -/
def routeObject (guildOf : UInt64 → UInt64) : Shared BotWorld BotRequest Routing (PEquiv.Edit (Platform × String) UInt64) where
  op
    | .core q => q.routeEdit
    | _ => none
  apply := PEquiv.edit
  Rep w f := w.Matches guildOf f

/-- The statements the bot issues over routes: each is for the guild of its channel. -/
def Request.Local (guildOf : UInt64 → UInt64) : Request → Prop
  | .insertRoute row => ∃ c chat createdBy, row = RouteStore.newRow guildOf c chat createdBy
  | .deleteRoute g c p => ∃ channel, ∃ platform : Platform, g = (guildOf channel).toInt64 ∧ c = channel.toInt64 ∧ p = platform.asI16
  | _ => True

/-- What an accepted request is allowed to be. -/
def BotRequest.Local (guildOf : UInt64 → UInt64) : BotRequest → Prop
  | .core q => q.Local guildOf
  | _ => True

/-- What is authorized is local. -/
theorem local_of_authorized {o : Origin guildOf} {past : Past} {q : Request} (h : Authorized o past q) : q.Local guildOf := by
  cases q with
  | insertRoute row =>
    obtain ⟨inv, -, -, channel, r, g, -, -, rfl, rfl⟩ := h
    exact ⟨channel, (.telegram, trim r), inv.ctx.author.id, rfl⟩
  | deleteRoute g c p =>
    obtain ⟨inv, -, -, channel, g', -, -, rfl, rfl, rfl, rfl⟩ := h
    exact ⟨channel, .telegram, rfl, rfl, rfl⟩
  | _ => trivial

/-- Whether a link is accepted, on a store: both sides are free. -/
theorem RouteStore.insert_isSome_iff (s : RouteStore guildOf) (c : UInt64) (chat : Platform × String) (createdBy : UInt64) :
    (s.table.insert (newRow guildOf c chat createdBy)).isSome = true ↔ s.routing chat = none ∧ s.routing.symm c = none := by
  rw [← s.link_isSome_iff c chat createdBy]
  cases hs : s.link c chat createdBy with
  | none => simp [link_eq_none hs]
  | some s' => simp [link_eq_some hs]

/-- An insertion is the link of the routing. -/
theorem matches_insertRoute {w : World} {f : Routing} (hw : w.Matches guildOf f) (c : UInt64) (chat : Platform × String)
    (createdBy : UInt64) :
    (serve w (.insertRoute (RouteStore.newRow guildOf c chat createdBy))).2.Matches guildOf (f.edit (.link chat c)) := by
  obtain ⟨s, hs, rfl⟩ := hw
  rw [serve_insertRoute, hs]
  cases hl : s.link c chat createdBy with
  | none =>
    have hfree : ¬(s.routing chat = none ∧ s.routing.symm c = none) := by
      rw [← s.link_isSome_iff c chat createdBy, hl]
      simp
    rw [RouteStore.link_eq_none hl, PEquiv.edit_link_of_matched _ hfree]
    exact ⟨s, hs, rfl⟩
  | some s' =>
    have hfree := (s.link_isSome_iff c chat createdBy).1 ⟨s', hl⟩
    rw [RouteStore.link_eq_some hl, PEquiv.edit_link _ hfree.1 hfree.2]
    exact ⟨s', rfl, RouteStore.routing_link hl hfree.1 hfree.2⟩

/-- A deletion is the unlink of the routing. -/
theorem matches_deleteRoute {w : World} {f : Routing} (hw : w.Matches guildOf f) (c : UInt64) (p : Platform) :
    (serve w (.deleteRoute (guildOf c).toInt64 c.toInt64 p.asI16)).2.Matches guildOf (f.edit (.unlink c)) := by
  obtain ⟨s, hs, rfl⟩ := hw
  refine ⟨s.unlink (guildOf c) c p, ?_, ?_⟩
  · rw [serve_deleteRoute, hs]
    rfl
  · rw [s.routing_unlink, if_pos rfl]
    rfl

/-- A request that is no statement over routes leaves the table. -/
theorem routes_serve {q : Request} (hq : q.Local guildOf) (hnone : q.routeEdit = none) (w : World) :
    (serve w q).2.routes = w.routes := by
  cases q with
  | insertRoute row =>
    obtain ⟨c, chat, createdBy, rfl⟩ := hq
    simp [Request.routeEdit, RouteStore.newRow] at hnone
  | deleteRoute g c p => cases hnone
  | member g u =>
    rw [serve_member]
    cases w.members g u <;> rfl
  | ban g u days reason =>
    rw [serve_ban]
    split <;> rfl
  | _ => rfl

/-- The world keeps the routing through every request of the bot and every change by other hands. -/
theorem faithful_routes : (routeObject guildOf).Faithful (botSetup guildOf) (BotRequest.Local guildOf) fun _ => True where
  operation w f q op hq hop hw := by
    cases q with
    | core q =>
      cases q with
      | insertRoute row =>
        obtain ⟨c, chat, createdBy, rfl⟩ := hq
        have hedit : op = .link chat c := by
          simpa [routeObject, Request.routeEdit, RouteStore.newRow, eq_comm] using hop
        subst hedit
        exact matches_insertRoute hw c chat createdBy
      | deleteRoute g c p =>
        obtain ⟨channel, platform, rfl, rfl, rfl⟩ := hq
        have hedit : op = .unlink channel := by
          simpa [routeObject, Request.routeEdit, eq_comm] using hop
        subst hedit
        exact matches_deleteRoute hw channel platform
      | _ => cases hop
    | _ => cases hop
  other w f q hq hop hw := by
    obtain ⟨s, hs, hf⟩ := hw
    refine ⟨s, ?_, hf⟩
    cases q with
    | core q => exact (routes_serve hq hop w.toWorld).trans hs
    | _ => exact hs
  change c w f _ hw := by
    obtain ⟨s, hs, hf⟩ := hw
    exact ⟨s, (c.routes w).trans hs, hf⟩

/-! ### What the commands say of the routing -/

/-- The reply of `/proxy link`, by whether the link was accepted. -/
def linkReply (accepted : Bool) (channel : UInt64) (remoteChatId : String) : CreateReply :=
  if accepted then linkedReply channel remoteChatId else { content := ProxyError.channelAlreadyLinked.display }

/-- The reply of `/proxy unlink`, by whether there was a route. -/
def unlinkReply (removed : Bool) (channel : UInt64) : CreateReply :=
  if removed then { content := "🗑️ Unlinked <#" ++ toString channel ++ ">." }
  else { content := "That channel isn't linked to a Telegram route." }

/-- The one statement of a route command. -/
def Command.statement (guildOf : UInt64 → UInt64) (ctx : Ctx) : Command → Option Request
  | .proxyLink channel r => some (.insertRoute (ctx.route (guildOf channel) channel r))
  | .proxyUnlink channel => some (.deleteRoute (guildOf channel).toInt64 channel.toInt64 Platform.telegram.asI16)
  | .proxyList => ctx.guildId.map fun g => .selectRoutes g.toInt64
  | _ => none

/-- What the reply of a route command says, if the routing is `f`: whether both sides were free, whether the channel was matched, and
which channels of the guild are matched, in the order of their stored ids. -/
def Command.Says (guildOf : UInt64 → UInt64) (ctx : Ctx) (f : Routing) (reply : CreateReply) : Command → Prop
  | .proxyLink channel r =>
    reply = linkReply (decide (f (.telegram, trim r) = none ∧ f.symm channel = none)) channel r
  | .proxyUnlink channel => reply = unlinkReply (decide (f.symm channel ≠ none)) channel
  | .proxyList => ∃ routes : List ProxyRoute, reply = routesReply routes ∧ routes.Nodup ∧
      routes.Pairwise (fun a b => a.discordChannel.toInt64 ≤ b.discordChannel.toInt64) ∧
      ∀ route, route ∈ routes ↔ ctx.guildId = some (guildOf route.discordChannel) ∧
        f (route.platform, route.remoteChatId) = some route.discordChannel
  | _ => True

/-- A reply of the command says what holds of the routing its statement met, and the command edits the routing only once. -/
def Invocation.Tells (inv : Invocation guildOf) (past : Past) : Request → Prop
  | .send reply => ∀ q ∈ inv.command.statement guildOf inv.ctx,
      Saw past q fun w => ∀ f, w.Matches guildOf f → inv.command.Says guildOf inv.ctx f reply
  | .insertRoute _ => ∀ ev ∈ past, ev.request.routeEdit = none
  | .deleteRoute _ _ _ => ∀ ev ∈ past, ev.request.routeEdit = none
  | _ => True

/-- The routes of a guild are listed in the order of their stored channels. -/
theorem RouteTable.pairwise_listed (t : RouteTable) (g : UInt64) :
    (t.listed g).Pairwise fun a b => a.discordChannel.toInt64 ≤ b.discordChannel.toInt64 := by
  have hsorted := @List.pairwise_mergeSort RouteRow (fun a b => decide (a.discordChannel ≤ b.discordChannel))
    (fun a b c hab hbc => by simp only [decide_eq_true_eq] at *; exact Int64.le_trans hab hbc)
    (fun a b => by simpa using Int64.le_total a.discordChannel b.discordChannel)
    (t.select fun r => r.guildId == g.toInt64)
  refine List.pairwise_filterMap.2 (hsorted.imp ?_)
  intro a b hab route hroute route' hroute'
  rw [← (readRow_eq_some_iff.1 hroute).1, ← (readRow_eq_some_iff.1 hroute').1]
  exact of_decide_eq_true hab

section Commands

variable {inv : Invocation guildOf} {past : Past}

/-- `/proxy list` lists the routing. -/
theorem tells_proxyList (hc : inv.command = .proxyList) :
    (ProxyCommand.list inv.ctx).Along coreMedium inv.Tells (fun _ _ => True) past := by
  unfold ProxyCommand.list Routes.list
  refine along_guild_bind trivial fun g hg => ?_
  rw [bind_assoc]
  refine along_perform_bind.2 ⟨trivial, fun w rows hrows => ?_, fun _ _ _ _ => trivial⟩
  have hlisted : rows.filterMap (fun stored =>
      (Platform.fromI16 stored.2.1).map fun platform => ProxyRoute.mk stored.1.toUInt64 platform stored.2.2) =
        w.routes.listed g := by
    rw [← Except.ok.inj hrows, List.filterMap_map]
    rfl
  rw [pure_bind, hlisted]
  have htells : inv.Tells (past ++ [⟨w, .selectRoutes g.toInt64, .served⟩]) (.send (routesReply (w.routes.listed g))) := by
    intro q hq
    rw [hc, Command.statement, hg, Option.map_some, Option.mem_some] at hq
    subst hq
    refine Saw.last fun f hf => ?_
    obtain ⟨s, hs, rfl⟩ := hf
    rw [hc]
    refine ⟨w.routes.listed g, rfl, RouteTable.nodup_listed _ _, RouteTable.pairwise_listed _ _, fun route => ?_⟩
    rw [hs, s.mem_listed_iff, hg, Option.some.injEq, eq_comm (a := g)]
  split
  · rename_i hnil
    rw [routesReply, if_pos hnil] at htells
    exact along_perform.2 ⟨htells, fun _ _ => trivial⟩
  · rename_i hne
    rw [routesReply, if_neg hne] at htells
    exact along_perform.2 ⟨htells, fun _ _ => trivial⟩

/-- `/proxy unlink` says whether the channel was matched. -/
theorem tells_proxyUnlink {channel : UInt64} (hc : inv.command = .proxyUnlink channel)
    (hpast : ∀ ev ∈ past, ev.request.routeEdit = none) :
    (ProxyCommand.unlink inv.ctx channel).Along coreMedium inv.Tells (fun _ _ => True) past := by
  unfold ProxyCommand.unlink
  refine along_guild_bind trivial fun g hg => along_perform_bind.2 ⟨hpast, fun w n hn => ?_, fun _ _ _ _ => trivial⟩
  obtain rfl : g = guildOf channel := by
    have := inv.channels channel (by simp [hc, Command.channels])
    exact Option.some.inj (hg.symm.trans this)
  have hlength : n = (w.routes.select (RouteStore.hit (guildOf channel) channel .telegram)).length := (Except.ok.inj hn).symm
  have htells : inv.Tells (past ++ [⟨w, .deleteRoute (guildOf channel).toInt64 channel.toInt64 Platform.telegram.asI16, .served⟩])
      (.send (unlinkReply (decide (n > 0)) channel)) := by
    intro q hq
    rw [hc, Command.statement, Option.mem_some] at hq
    subst hq
    refine Saw.last fun f hf => ?_
    obtain ⟨s, hs, rfl⟩ := hf
    rw [hc, Command.Says, hlength, hs, s.length_select_hit]
    refine congrArg (unlinkReply · channel) (decide_eq_decide.2 ?_)
    split
    · rename_i hmatched
      exact iff_of_true Nat.one_pos hmatched.2
    · rename_i hfree
      exact iff_of_false (Nat.lt_irrefl 0) fun hmatched => hfree ⟨rfl, hmatched⟩
  unfold unlinkReply at htells
  split
  · rename_i hpos
    rw [decide_eq_true hpos] at htells
    exact along_perform.2 ⟨htells, fun _ _ => trivial⟩
  · rename_i hzero
    rw [decide_eq_false hzero] at htells
    exact along_perform.2 ⟨htells, fun _ _ => trivial⟩

/-- How an insertion is answered: it is decided by the keys of the table, or it fails otherwise. -/
theorem answer_insertRoute (w : World) (row : RouteRow) (fate : Fate Outage) :
    (coreMedium.answer w (.insertRoute row) fate = .ok () ∧ fate = .served ∧ (w.routes.insert row).isSome = true) ∨
      (coreMedium.answer w (.insertRoute row) fate = .error uniqueViolation ∧ fate = .served ∧
        (w.routes.insert row).isSome = false) ∨
      ∃ o : Outage, coreMedium.answer w (.insertRoute row) fate = .error o.error := by
  cases fate with
  | refused o => exact Or.inr (Or.inr ⟨o, rfl⟩)
  | lost o => exact Or.inr (Or.inr ⟨o, rfl⟩)
  | served =>
    have hserved : coreMedium.answer w (.insertRoute row) .served = (serve w (.insertRoute row)).1 := rfl
    rw [hserved, serve_insertRoute]
    cases w.routes.insert row with
    | some t => exact Or.inl ⟨rfl, rfl, rfl⟩
    | none => exact Or.inr (Or.inl ⟨rfl, rfl, rfl⟩)

/-- A link that ends well, or with the error the user can mend, was decided by its one statement. -/
theorem along_link {Φ : Past → Request → Prop} (g c createdBy : UInt64) (r : String)
    (hΦ : Φ past (.insertRoute ⟨g.toInt64, c.toInt64, Platform.telegram.asI16, r, createdBy.toInt64⟩)) :
    (Routes.link g c .telegram r createdBy).Along coreMedium Φ (fun h result =>
      (∃ accepted : Bool, result = (if accepted then .ok () else .error (.proxy .channelAlreadyLinked)) ∧
        Saw h (.insertRoute ⟨g.toInt64, c.toInt64, Platform.telegram.asI16, r, createdBy.toInt64⟩) fun w =>
          (w.routes.insert ⟨g.toInt64, c.toInt64, Platform.telegram.asI16, r, createdBy.toInt64⟩).isSome = accepted) ∨
        ∃ o : Outage, result = .error o.error) past := by
  unfold Routes.link
  refine along_bind.2 (along_attempt.2 (along_perform.2 ⟨hΦ, fun w fate => ?_⟩))
  rcases answer_insertRoute w _ fate with ⟨ha, rfl, hi⟩ | ⟨ha, rfl, hi⟩ | ⟨o, ha⟩
  · rw [ha]
    exact Or.inl ⟨true, rfl, Saw.last hi⟩
  · rw [ha]
    exact Or.inl ⟨false, rfl, Saw.last hi⟩
  · rw [ha]
    change Along coreMedium Φ _ (if o.error = uniqueViolation then _ else _) _
    rw [if_neg o.not_violation]
    exact Or.inr ⟨o, rfl⟩

/-- `/proxy link` says whether both sides were free. -/
theorem tells_proxyLink {channel : UInt64} {r : String} (hc : inv.command = .proxyLink channel r)
    (hpast : ∀ ev ∈ past, ev.request.routeEdit = none) :
    (ProxyCommand.link inv.ctx channel r).Along coreMedium inv.Tells (fun _ _ => True) past := by
  unfold ProxyCommand.link
  refine along_guild_bind trivial fun g hg => ?_
  obtain rfl : g = guildOf channel := by
    have := inv.channels channel (by simp [hc, Command.channels])
    exact Option.some.inj (hg.symm.trans this)
  refine (along_link (guildOf channel) channel inv.ctx.author.id (trim r) hpast).attempt_bind fun h' result _ hresult => ?_
  rcases hresult with ⟨accepted, rfl, hsaw⟩ | ⟨o, rfl⟩
  · have htells : inv.Tells h' (.send (linkReply accepted channel r)) := by
      intro q hq
      rw [hc, Command.statement, Option.mem_some] at hq
      subst hq
      obtain ⟨ev, hev, hrequest, hfate, hinsert⟩ := hsaw
      refine ⟨ev, hev, hrequest, hfate, fun f hf => ?_⟩
      obtain ⟨s, hs, rfl⟩ := hf
      rw [hs] at hinsert
      rw [hc]
      refine congrArg (linkReply · channel r) ?_
      rw [← hinsert, Bool.eq_iff_iff, decide_eq_true_eq]
      exact s.insert_isSome_iff channel (.telegram, trim r) inv.ctx.author.id
    cases accepted with
    | true => exact along_perform.2 ⟨htells, fun _ _ => trivial⟩
    | false => exact along_perform.2 ⟨htells, fun _ _ => trivial⟩
  · dsimp only
    unfold replyOrPropagate
    split
    · rename_i e he
      exact absurd he (o.not_proxy e)
    · trivial

end Commands

/-- What a route command tells, whatever else the bot does. -/
def Told (o : Origin guildOf) (h : List (Event Outage BotRequest BotWorld)) : BotRequest → Prop
  | .core q => ∀ inv, o = .command inv → inv.command.statement guildOf inv.ctx ≠ none → inv.Tells (corePast h) q
  | _ => True

theorem told_program (o : Origin guildOf) : o.program.Along botMedium (Told o) (fun _ _ => True) [] := by
  by_cases hroute : ∃ inv, o = .command inv ∧ inv.command.statement guildOf inv.ctx ≠ none
  · obtain ⟨inv, rfl, hstatement⟩ := hroute
    have hnone : ∀ ev ∈ corePast [], ev.request.routeEdit = none := fun _ hev => absurd hev List.not_mem_nil
    have hcore : ∀ p : Bot Unit, p.Along coreMedium inv.Tells (fun _ _ => True) (corePast []) →
        (core p).Along botMedium (Told (.command inv)) (fun _ _ => True) [] := fun p hp =>
      along_core hp (fun h q hq inv' hinv _ => by
        obtain rfl := Origin.command.inj hinv
        exact hq) fun _ _ _ => trivial
    change (inv.command.invoke inv.ctx).Along _ _ _ _
    cases hc : inv.command with
    | proxyLink channel r =>
      rw [invoke_of_free rfl]
      exact hcore _ (tells_proxyLink hc hnone)
    | proxyUnlink channel =>
      rw [invoke_of_free rfl]
      exact hcore _ (tells_proxyUnlink hc hnone)
    | proxyList =>
      rw [invoke_of_free rfl]
      exact hcore _ (tells_proxyList hc)
    | _ =>
      rw [hc] at hstatement
      exact absurd rfl hstatement
  · refine along_of_forall fun h q _ => ?_
    cases q with
    | core q => exact fun inv hinv hstatement => absurd ⟨inv, hinv, hstatement⟩ hroute
    | _ => trivial

/-! ### The whole bot -/

/-- The routes of a run that began with a routing are those of the routing, edited by one statement after another. -/
structure RoutesLinear (f : Routing) (s : System guildOf) : Prop where
  /-- At the end both lookups find what the statements of the run have made of the routing. -/
  state : s.state.Matches guildOf ((routeObject guildOf).replay f s.history)
  /-- The routing is edited only by the statements of route commands, at most once for each. -/
  edits : ∀ before i ev, before ++ [(i, ev)] <+: s.history → (routeObject guildOf).op ev.request ≠ none →
    (∃ inv rest q, s.jobs[i]? = some ⟨.command inv, rest⟩ ∧ inv.command.statement guildOf inv.ctx = some q ∧
      ev.request = .core q) ∧ ∀ e ∈ before, e.1 = i → (routeObject guildOf).op e.2.request = none
  /-- A reply of a route command says what held of the routing in the moment of its statement, before the reply. -/
  replies : ∀ before i w reply fate inv rest q, before ++ [(i, ⟨w, .core (.send reply), fate⟩)] <+: s.history →
    s.jobs[i]? = some ⟨.command inv, rest⟩ → inv.command.statement guildOf inv.ctx = some q →
      Moment before i q fun l => inv.command.Says guildOf inv.ctx ((routeObject guildOf).replay f l) reply
  /-- A remote message is handed to a webhook of the channel that its chat was matched with in the moment of the lookup. -/
  inbound : ∀ before i w hook wait b fate, before ++ [(i, ⟨w, .core (.executeWebhook hook wait b), fate⟩)] <+: s.history →
    ∃ job p r msg c, s.jobs[i]? = some job ∧ job.origin.Relays p r msg ∧ Managed (corePast (eventsOf i before)) c hook ∧
      Moment before i (.selectChannel p.asI16 r) fun l => (routeObject guildOf).replay f l (p, r) = some c
  /-- A message of Discord leaves for the remote chat that its channel was matched with in the moment of the lookup. -/
  outbound : ∀ before i w msg fate, before ++ [(i, ⟨w, .core (.egress msg), fate⟩)] <+: s.history →
    ∃ rest m chat, s.jobs[i]? = some ⟨.event (.message m), rest⟩ ∧ msg = relayMessage m chat ∧
      Moment before i (.selectRemote m.channelId.toInt64) fun l =>
        ((routeObject guildOf).replay f l).symm m.channelId = some chat
  /-- A delivery finds no route only if its chat was matched with no channel in the moment of the lookup. -/
  undelivered : ∀ i d, s.jobs[i]? = some ⟨.delivery d, .done (.error (.proxy .noRouteForRemote))⟩ →
    Moment s.history i (.selectChannel d.platform.asI16 d.remoteChatId) fun l =>
      (routeObject guildOf).replay f l (d.platform, d.remoteChatId) = none
  /-- A message of Discord is passed over only if it does not qualify, or its channel was matched with no chat in the moment of the
  lookup. -/
  passed_over : ∀ i m, s.jobs[i]? = some ⟨.event (.message m), .done (.ok ())⟩ →
    (∀ e ∈ corePast (eventsOf i s.history), e.request.posts = true → e.fate ≠ .served) →
      Saw (corePast (eventsOf i s.history)) .currentUser (fun w => ¬Qualifies w.bot.id m) ∨
        Moment s.history i (.selectRemote m.channelId.toInt64) fun l =>
          ((routeObject guildOf).replay f l).symm m.channelId = none

section Run

variable {w : BotWorld} {happenings : List (Happening guildOf)} {before : Chronicle} {i : Nat}
  {ev : Event Outage BotRequest BotWorld}

/-- What is known of each request of a run. -/
theorem issued_facts (hev : before ++ [(i, ev)] <+: (System.run guildOf w happenings).history) :
    ∃ job, (System.run guildOf w happenings).jobs[i]? = some job ∧ AuthorizedCall job.origin (eventsOf i before) ev.request ∧
      BridgedCall job.origin (eventsOf i before) ev.request ∧ Told job.origin (eventsOf i before) ev.request := by
  have hall : ∀ o : Origin guildOf, o.program.Along botMedium
      (fun h q => AuthorizedCall o h q ∧ BridgedCall o h q ∧ Told o h q) (fun _ _ => True) [] := fun o =>
    ((authorized_program o).and ((bridged_program o).and (told_program o))).mono (fun _ _ _ hq => hq) fun _ _ _ _ => trivial
  exact Pool.issued hall w happenings hev

/-- Every statement of a run is for the guild of its channel. -/
theorem local_of_mem {e : Nat × Event Outage BotRequest BotWorld} (he : e ∈ (System.run guildOf w happenings).history) :
    e.2.request.Local guildOf := by
  obtain ⟨o, l, -, hauth⟩ := Pool.issued_of_mem authorized_program w happenings he
  cases hq : e.2.request with
  | core q =>
    rw [hq] at hauth
    exact local_of_authorized hauth
  | _ => trivial

/-- A statement that edits the routing is the statement of its command. -/
theorem statement_of_edit {o : Origin guildOf} {past : Past} {q : Request} (h : Authorized o past q) (hq : q.routeEdit ≠ none) :
    ∃ inv, o = .command inv ∧ inv.command.statement guildOf inv.ctx = some q := by
  cases q with
  | insertRoute row =>
    obtain ⟨inv, rfl, -, channel, r, g, hc, -, rfl, rfl⟩ := h
    exact ⟨inv, rfl, by rw [hc, Command.statement]⟩
  | deleteRoute g c p =>
    obtain ⟨inv, rfl, -, channel, g', hc, -, rfl, rfl, rfl, rfl⟩ := h
    exact ⟨inv, rfl, by rw [hc, Command.statement]⟩
  | _ => exact absurd rfl hq

/-- No program edits the routing after it edited it. -/
theorem no_edit_before {inv : Invocation guildOf} {past : Past} {q : Request} (h : inv.Tells past q) (hq : q.routeEdit ≠ none) :
    ∀ ev ∈ past, ev.request.routeEdit = none := by
  cases q with
  | insertRoute row => exact h
  | deleteRoute g c p => exact h
  | _ => exact absurd rfl hq

/-- The routes of a run, whatever is in progress at once, whatever fails and whatever Discord does meanwhile. -/
theorem routes_linear (f : Routing) (w : BotWorld) (hw : w.Matches guildOf f) (happenings : List (Happening guildOf)) :
    RoutesLinear f (System.run guildOf w happenings) := by
  obtain ⟨hstate, hevents⟩ := faithful_routes.replayed hw (fun e he => local_of_mem he) fun _ _ => trivial
  refine ⟨hstate, ?_, ?_, ?_, ?_, ?_, ?_⟩
  · intro before i ev hev hop
    obtain ⟨job, hjob, hauth, -, htold⟩ := issued_facts hev
    obtain ⟨o, rest⟩ := job
    cases hq : ev.request with
    | core q =>
      rw [hq] at hop hauth htold
      obtain ⟨inv, rfl, hstatement⟩ := statement_of_edit hauth hop
      refine ⟨⟨inv, rest, q, hjob, hstatement, rfl⟩, ?_⟩
      have honce := no_edit_before (htold inv rfl (by rw [hstatement]; simp)) hop
      rintro ⟨j, w', q', fate⟩ he rfl
      cases q' with
      | core q' =>
        refine honce ⟨w'.toWorld, q', fate⟩ (List.mem_filterMap.2 ⟨_, mem_eventsOf_iff.2 he, rfl⟩)
      | _ => rfl
    | _ =>
      rw [hq] at hop
      exact absurd rfl hop
  · intro before i w' reply fate inv rest q hev hjob hstatement
    obtain ⟨job, hjob', -, -, htold⟩ := issued_facts hev
    obtain rfl := Option.some.inj (hjob.symm.trans hjob')
    have hsaw := htold inv rfl (by rw [hstatement]; simp) q hstatement
    exact hsaw.moment fun l v hl hsays => hsays _ (hevents l i _ (hl.trans ((List.prefix_append _ _).trans hev)))
  · intro before i w' hook wait b fate hev
    obtain ⟨job, hjob, -, hbridged, -⟩ := issued_facts hev
    obtain ⟨-, p, r, msg, c, content, ho, hrouted, hmanaged, -⟩ := hbridged
    refine ⟨job, p, r, msg, c, hjob, ho, hmanaged, Saw.moment hrouted fun l v hl hlinked => ?_⟩
    obtain ⟨s, hs, hf⟩ := hevents l i _ (hl.trans ((List.prefix_append _ _).trans hev))
    rw [← hf, s.routing_apply, ← hs]
    exact hlinked
  · intro before i w' msg fate hev
    obtain ⟨⟨o, rest⟩, hjob, -, hbridged, -⟩ := issued_facts hev
    obtain ⟨-, m, chat, ho, hmsg, -, hlookup⟩ := hbridged
    obtain rfl : o = .event (.message m) := ho
    refine ⟨rest, m, chat, hjob, hmsg, Saw.moment hlookup fun l v hl hlinked => ?_⟩
    obtain ⟨s, hs, hf⟩ := hevents l i _ (hl.trans ((List.prefix_append _ _).trans hev))
    rw [← hf, s.routing_symm_apply, ← hs]
    exact hlinked
  · intro i d hjob
    have hends : Saw (corePast (eventsOf i (System.run guildOf w happenings).history)) (.selectChannel d.platform.asI16 d.remoteChatId)
        (fun v => v.routes.byRemote (d.platform, d.remoteChatId) = none) := Pool.ended bridged_program w happenings hjob
    refine hends.moment fun l v hl hunlinked => ?_
    obtain ⟨s, hs, hf⟩ := hevents l i _ hl
    rw [← hf, s.routing_apply, ← hs]
    exact hunlinked
  · intro i m hjob hunposted
    have hends : Handled m _ (.ok ()) := Pool.ended bridged_program w happenings hjob
    rcases hends with ⟨ev, hev, hposts, hserved⟩ | hgate | hunlinked
    · exact absurd hserved (hunposted ev hev hposts)
    · exact Or.inl hgate
    · refine Or.inr (hunlinked.moment fun l v hl hunlinked => ?_)
      obtain ⟨s, hs, hf⟩ := hevents l i _ hl
      rw [← hf, s.routing_symm_apply, ← hs]
      exact hunlinked

end Run

/-- The routes before the first message. -/
def FirstMessage.store : RouteStore fun _ => 10 where
  table := world.routes
  guild := by decide
  platform _ hrow := ⟨.telegram, by rw [List.mem_singleton.1 hrow]; rfl⟩

open FirstMessage in
theorem routes_linear_firstMessage : RoutesLinear store.routing (System.run (fun _ => 10) world happenings) :=
  routes_linear store.routing world ⟨store, rfl, rfl⟩ happenings

end ModerationBot
