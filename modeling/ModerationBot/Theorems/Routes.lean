import ModerationBot.Lemmas.Routes

namespace ModerationBot

/-! ## The route store over whole histories -/

/-- A call of the route store: a channel is linked from the guild it belongs to, or unlinked from some guild. -/
inductive RouteCall where
  | link (discordChannel : UInt64) (platform : Platform) (remoteChatId : String) (createdBy : UInt64)
  | unlink (guildId discordChannel : UInt64) (platform : Platform)

/-- The world after a call. -/
def RouteCall.run (guildOf : UInt64 → UInt64) (w : World) : RouteCall → World
  | .link c p r createdBy => ((Routes.link (guildOf c) c p r createdBy).run serve w).state
  | .unlink g c p => ((Routes.unlink g c p).run serve w).state

/-- The world after a sequence of calls on an empty table. -/
def RouteCall.history (guildOf : UInt64 → UInt64) (w : World) (calls : List RouteCall) : World :=
  calls.foldl (RouteCall.run guildOf) { w with routes := .empty }

/-- The laws of the route store in a world. -/
structure RoutesLawful (guildOf : UInt64 → UInt64) (w : World) : Prop where
  /-- The inbound and the outbound lookup are mutually inverse. -/
  inverse : ∀ p r c, ((Routes.fetchByRemote p r).run serve w).result = .ok (some c) ↔
    ((Routes.fetchByChannel c).run serve w).result = .ok (some (p, r))
  /-- A link is accepted exactly when neither side has a route. -/
  link_ok : ∀ c p r createdBy, ((Routes.link (guildOf c) c p r createdBy).run serve w).result = .ok () ↔
    ((Routes.fetchByChannel c).run serve w).result = .ok none ∧
      ((Routes.fetchByRemote p r).run serve w).result = .ok none
  /-- After an accepted link both lookups find it. -/
  link_found : ∀ c p r createdBy,
    let o := (Routes.link (guildOf c) c p r createdBy).run serve w
    o.result = .ok () → ((Routes.fetchByRemote p r).run serve o.state).result = .ok (some c) ∧
      ((Routes.fetchByChannel c).run serve o.state).result = .ok (some (p, r))
  /-- A link that is not accepted reports it and changes nothing. -/
  link_refused : ∀ c p r createdBy,
    let o := (Routes.link (guildOf c) c p r createdBy).run serve w
    o.result ≠ .ok () → o.result = .error (.proxy .channelAlreadyLinked) ∧ o.state = w
  /-- An unlink removes exactly the rows of the channel in the guild, and reports their number, 0 or 1. -/
  unlink_exact : ∀ g c p,
    let o := (Routes.unlink g c p).run serve w
    (∃ n ≤ 1, o.result = .ok n ∧ o.state.routes.rows.length + n = w.routes.rows.length) ∧
      ∀ row, row ∈ o.state.routes.rows ↔
        row ∈ w.routes.rows ∧ ¬(row.guildId = g.toInt64 ∧ row.discordChannel = c.toInt64)
  /-- The listing of a guild holds each route of its channels once, and no other. -/
  list_exact : ∀ g, ∃ routes, ((Routes.list g).run serve w).result = .ok routes ∧ routes.Nodup ∧
    ∀ route, route ∈ routes ↔ guildOf route.discordChannel = g ∧
      ((Routes.fetchByChannel route.discordChannel).run serve w).result =
        .ok (some (route.platform, route.remoteChatId))

/-- A call keeps the table a store. -/
theorem exists_store_run {guildOf : UInt64 → UInt64} (call : RouteCall) {w : World}
    (h : ∃ s : RouteStore guildOf, w.routes = s.table) :
    ∃ s : RouteStore guildOf, (call.run guildOf w).routes = s.table := by
  obtain ⟨s, hs⟩ := h
  cases call with
  | link c p r createdBy =>
    refine ⟨(s.link c (p, r) createdBy).getD s, ?_⟩
    rw [RouteCall.run, (Routes.run_link_store s c (p, r) createdBy hs).2]
  | unlink g c p =>
    refine ⟨s.unlink g c p, ?_⟩
    rw [RouteCall.run, (Routes.run_unlink_store s g c p hs).2]

/-- Every reachable table is a store. -/
theorem exists_store_history (guildOf : UInt64 → UInt64) (w : World) (calls : List RouteCall) :
    ∃ s : RouteStore guildOf, (RouteCall.history guildOf w calls).routes = s.table := by
  have hinit : ∃ s : RouteStore guildOf, { w with routes := .empty }.routes = s.table :=
    ⟨⟨.empty, by simp, by simp⟩, rfl⟩
  unfold RouteCall.history
  generalize { w with routes := .empty } = w' at hinit
  induction calls generalizing w' with
  | nil => exact hinit
  | cons call calls ih => exact ih _ (exists_store_run call hinit)

/-- What an accepted link leaves: a store that matches the remote chat with the channel. -/
theorem link_store_of_ok {guildOf : UInt64 → UInt64} {s : RouteStore guildOf} {w : World} (hw : w.routes = s.table)
    {c : UInt64} (chat : Platform × String) {createdBy : UInt64}
    (h : ((Routes.link (guildOf c) c chat.1 chat.2 createdBy).run serve w).result = .ok ()) :
    ∃ s', s.link c chat createdBy = some s' ∧
      ((Routes.link (guildOf c) c chat.1 chat.2 createdBy).run serve w).state.routes = s'.table := by
  obtain ⟨hres, hstate⟩ := Routes.run_link_store s c chat createdBy hw
  cases hs : s.link c chat createdBy with
  | none =>
    rw [hres, hs] at h
    cases h
  | some s' =>
    refine ⟨s', rfl, ?_⟩
    rw [hstate, hs]
    rfl

/-- A link is accepted exactly when the store links it. -/
theorem link_result_ok_iff {guildOf : UInt64 → UInt64} {s : RouteStore guildOf} {w : World} (hw : w.routes = s.table)
    (c : UInt64) (chat : Platform × String) (createdBy : UInt64) :
    ((Routes.link (guildOf c) c chat.1 chat.2 createdBy).run serve w).result = .ok () ↔
      s.routing chat = none ∧ s.routing.symm c = none := by
  rw [← s.link_isSome_iff c chat createdBy, (Routes.run_link_store s c chat createdBy hw).1]
  cases s.link c chat createdBy <;> simp

/-- The laws hold in every world whose route table is a store. -/
theorem RouteStore.lawful {guildOf : UInt64 → UInt64} (s : RouteStore guildOf) {w : World} (hw : w.routes = s.table) :
    RoutesLawful guildOf w where
  inverse p r c := by
    rw [Routes.run_fetchByRemote, Routes.run_fetchByChannel, hw]
    simp only [Except.ok.injEq]
    exact (s.routing.inv (p, r) c).symm
  link_ok c p r createdBy := by
    rw [link_result_ok_iff hw c (p, r), Routes.run_fetchByRemote, Routes.run_fetchByChannel, hw]
    simp only [Except.ok.injEq]
    exact And.comm
  link_found c p r createdBy h := by
    obtain ⟨s', hs', hroutes⟩ := link_store_of_ok hw (p, r) h
    obtain ⟨ha, hb⟩ := (link_result_ok_iff hw c (p, r) createdBy).1 h
    have hfwd : s'.routing (p, r) = some c := by
      rw [RouteStore.routing_link hs' ha hb, PEquiv.link_apply, if_pos rfl]
    simp only [Routes.run_fetchByRemote, Routes.run_fetchByChannel, hroutes, Except.ok.injEq]
    exact ⟨hfwd, (s'.routing.inv (p, r) c).2 hfwd⟩
  link_refused c p r createdBy h := by
    obtain ⟨hres, hstate⟩ := Routes.run_link_store s c (p, r) createdBy hw
    cases hs : s.link c (p, r) createdBy with
    | none =>
      rw [hs] at hres hstate
      refine ⟨hres, hstate.trans ?_⟩
      rw [Option.getD_none, ← hw]
    | some s' =>
      rw [hs] at hres
      exact absurd hres h
  unlink_exact g c p := by
    obtain ⟨hres, hstate⟩ := Routes.run_unlink_store s g c p hw
    have hlen := s.length_select_hit g c p
    refine ⟨⟨_, ?_, hres, ?_⟩, ?_⟩
    · split <;> omega
    · rw [hstate, ← hlen, hw]
      simp only [RouteStore.unlink, Table.delete, Table.select]
      rw [Nat.add_comm]
      exact (List.length_eq_length_filter_add _).symm
    · intro row
      rw [hstate, hw]
      simp only [RouteStore.unlink, Table.mem_delete_iff]
      refine and_congr_right fun hrow => ?_
      rw [← s.hit_iff_stored hrow g c p, Bool.not_eq_true]
  list_exact g := by
    refine ⟨w.routes.listed g, by rw [Routes.run_list], RouteTable.nodup_listed _ _, fun route => ?_⟩
    rw [Routes.run_fetchByChannel, hw, s.mem_listed_iff]
    simp only [Except.ok.injEq]
    exact and_congr_right fun _ => (s.routing.inv _ _).symm

/-- After any sequence of links and unlinks from any number of guilds, the route store is lawful. -/
theorem routes_lawful (guildOf : UInt64 → UInt64) (w : World) (calls : List RouteCall) :
    RoutesLawful guildOf (RouteCall.history guildOf w calls) := by
  obtain ⟨s, hs⟩ := exists_store_history guildOf w calls
  exact s.lawful hs

end ModerationBot
