import ModerationBot.Library.PartialBijection
import ModerationBot.Proxy.Routes

/-!
# The route store, abstractly

What the lookups of the route store compute, and the store of a bot whose every channel is in one guild (`RouteStore`): a
partial bijection between remote chats and channels. The two keys of the table and the single guild of a channel together make
each lookup the inverse of the other.
-/

namespace ModerationBot

/-- An id survives the storage as `i64`. -/
theorem eq_toInt64_iff {x : Int64} {c : UInt64} : x = c.toInt64 ↔ x.toUInt64 = c := by
  constructor
  · rintro rfl
    exact UInt64.toUInt64_toInt64 c
  · rintro rfl
    exact (Int64.toInt64_toUInt64 x).symm

theorem toInt64_inj {a b : UInt64} : a.toInt64 = b.toInt64 ↔ a = b := by
  rw [eq_toInt64_iff, UInt64.toUInt64_toInt64]

/-- The conflict of two routes is symmetric. -/
theorem RouteRow.Conflict.symm {a b : RouteRow} (h : a.Conflict b) : b.Conflict a := by
  rcases h with ⟨h1, h2, h3⟩ | ⟨h1, h2⟩
  · exact Or.inl ⟨h1.symm, h2.symm, h3.symm⟩
  · exact Or.inr ⟨h1.symm, h2.symm⟩

namespace RouteTable

/-- A row stores the route between a remote chat and a channel. -/
def Stores (row : RouteRow) (chat : Platform × String) (channel : UInt64) : Prop :=
  row.discordChannel = channel.toInt64 ∧ row.platform = chat.1.asI16 ∧ row.remoteChatId = chat.2

/-- The channel a remote chat is linked to. -/
def byRemote (t : RouteTable) (chat : Platform × String) : Option UInt64 :=
  (t.select (fun r => r.platform == chat.1.asI16 && r.remoteChatId == chat.2)).head?.map (·.discordChannel.toUInt64)

/-- The remote chat a channel is linked to: of its routes, the one of the lowest platform. -/
def byChannel (t : RouteTable) (channel : UInt64) : Option (Platform × String) :=
  ((t.select (fun r => r.discordChannel == channel.toInt64)).mergeSort
    (fun a b => decide (a.platform ≤ b.platform))).head?.bind
      (fun r => (Platform.fromI16 r.platform).map (fun p => (p, r.remoteChatId)))

/-- The inbound lookup finds exactly the channel a row stores for the chat, in any table. -/
theorem byRemote_eq_some_iff {t : RouteTable} {chat : Platform × String} {c : UInt64} :
    t.byRemote chat = some c ↔ ∃ row ∈ t.rows, Stores row chat c := by
  have hp : ∀ a ∈ t.rows, ∀ b ∈ t.rows,
      (a.platform == chat.1.asI16 && a.remoteChatId == chat.2) = true →
      (b.platform == chat.1.asI16 && b.remoteChatId == chat.2) = true → a.Conflict b := by
    intro a _ b _ ha hb
    simp only [Bool.and_eq_true, beq_iff_eq] at ha hb
    exact Or.inr ⟨ha.1.trans hb.1.symm, ha.2.trans hb.2.symm⟩
  constructor
  · intro h
    obtain ⟨row, hrow, hc⟩ := Option.map_eq_some_iff.1 h
    obtain ⟨hmem, hkey⟩ := Table.mem_select_iff.1 (List.mem_of_mem_head? hrow)
    simp only [Bool.and_eq_true, beq_iff_eq] at hkey
    exact ⟨row, hmem, eq_toInt64_iff.2 hc, hkey.1, hkey.2⟩
  · intro h
    obtain ⟨row, hmem, hc, hp1, hp2⟩ := h
    have hs := Table.select_eq_singleton hp hmem (by simp [hp1, hp2])
    rw [byRemote, hs, List.head?_cons, Option.map_some, eq_toInt64_iff.1 hc]

/-- The route a row is read as, if its platform is known. -/
def readRow (row : RouteRow) : Option ProxyRoute :=
  (Platform.fromI16 row.platform).map (fun p => ⟨row.discordChannel.toUInt64, p, row.remoteChatId⟩)

/-- The routes of a guild, in the order of their stored channels. -/
def listed (t : RouteTable) (guildId : UInt64) : List ProxyRoute :=
  ((t.select (fun r => r.guildId == guildId.toInt64)).mergeSort
    (fun a b => decide (a.discordChannel ≤ b.discordChannel))).filterMap readRow

theorem readRow_eq_some_iff {row : RouteRow} {route : ProxyRoute} :
    readRow row = some route ↔ Stores row (route.platform, route.remoteChatId) route.discordChannel := by
  simp only [readRow, Option.map_eq_some_iff, Platform.fromI16_eq_some_iff, Stores, eq_toInt64_iff]
  constructor
  · rintro ⟨p, hp, rfl⟩
    exact ⟨rfl, hp, rfl⟩
  · intro h
    obtain ⟨hc, hp, hr⟩ := h
    exact ⟨route.platform, hp, by rw [hc, hr]⟩

/-- A route is listed for a guild when a row of that guild stores it. -/
theorem mem_listed_iff {t : RouteTable} {guildId : UInt64} {route : ProxyRoute} :
    route ∈ t.listed guildId ↔ ∃ row ∈ t.rows,
      row.guildId = guildId.toInt64 ∧ Stores row (route.platform, route.remoteChatId) route.discordChannel := by
  simp only [listed, List.mem_filterMap, List.mem_mergeSort, Table.mem_select_iff, beq_iff_eq, readRow_eq_some_iff,
    and_assoc]

/-- No route is listed twice: two rows of one guild that read the same agree on the primary key. -/
theorem nodup_listed (t : RouteTable) (guildId : UInt64) : (t.listed guildId).Nodup := by
  have hperm := List.mergeSort_perm (t.select (fun r => r.guildId == guildId.toInt64))
    (fun a b => decide (a.discordChannel ≤ b.discordChannel))
  have hsel : (t.select (fun r => r.guildId == guildId.toInt64)).Pairwise (fun a b => ¬a.Conflict b) :=
    t.unique.sublist List.filter_sublist
  have hsort := (hperm.pairwise_iff (fun h hc => h hc.symm)).2 hsel
  refine List.pairwise_filterMap.2 (hsort.imp_of_mem ?_)
  intro a b ha hb hab route hra route' hrb heq
  subst heq
  rw [List.mem_mergeSort, Table.mem_select_iff, beq_iff_eq] at ha hb
  obtain ⟨hca, hpa, -⟩ := readRow_eq_some_iff.1 hra
  obtain ⟨hcb, hpb, -⟩ := readRow_eq_some_iff.1 hrb
  exact hab (Or.inl ⟨ha.2.trans hb.2.symm, hca.trans hcb.symm, hpa.trans hpb.symm⟩)

end RouteTable

/-! ## The store of channels that each belong to one guild -/

/-- A route table in which every route was linked from the guild of its channel, for a known platform. -/
structure RouteStore (guildOf : UInt64 → UInt64) where
  table : RouteTable
  guild : ∀ row ∈ table.rows, row.guildId = (guildOf row.discordChannel.toUInt64).toInt64
  platform : ∀ row ∈ table.rows, ∃ p : Platform, row.platform = p.asI16

namespace RouteStore

variable {guildOf : UInt64 → UInt64}

/-- Two routes of one channel are in conflict: they are in one guild, and there is one platform. -/
theorem conflict_of_channel (s : RouteStore guildOf) {a b : RouteRow} (ha : a ∈ s.table.rows) (hb : b ∈ s.table.rows)
    (h : a.discordChannel = b.discordChannel) : a.Conflict b := by
  obtain ⟨p, hp⟩ := s.platform a ha
  obtain ⟨q, hq⟩ := s.platform b hb
  refine Or.inl ⟨?_, h, ?_⟩
  · rw [s.guild a ha, s.guild b hb, h]
  · cases p
    cases q
    rw [hp, hq]

/-- The outbound lookup finds exactly the chat a row stores for the channel. -/
theorem byChannel_eq_some_iff (s : RouteStore guildOf) {chat : Platform × String} {c : UInt64} :
    s.table.byChannel c = some chat ↔ ∃ row ∈ s.table.rows, RouteTable.Stores row chat c := by
  have hp : ∀ a ∈ s.table.rows, ∀ b ∈ s.table.rows, (a.discordChannel == c.toInt64) = true →
      (b.discordChannel == c.toInt64) = true → a.Conflict b := by
    intro a ha b hb hac hbc
    rw [beq_iff_eq] at hac hbc
    exact s.conflict_of_channel ha hb (hac.trans hbc.symm)
  constructor
  · intro h
    obtain ⟨row, hrow, hchat⟩ := Option.bind_eq_some_iff.1 h
    have hmem := List.mem_of_mem_head? hrow
    rw [List.mem_mergeSort, Table.mem_select_iff, beq_iff_eq] at hmem
    obtain ⟨p, hpf, rfl⟩ := Option.map_eq_some_iff.1 hchat
    exact ⟨row, hmem.1, hmem.2, Platform.fromI16_eq_some_iff.1 hpf, rfl⟩
  · intro h
    obtain ⟨row, hmem, hc, hp1, hp2⟩ := h
    have hs := Table.select_eq_singleton hp hmem (by simp [hc])
    rw [RouteTable.byChannel, hs, List.mergeSort_singleton, List.head?_cons, Option.bind_some, hp1,
      Platform.fromI16_asI16, hp2]
    rfl

/-- What the store is for: the partial bijection between remote chats and channels. -/
def routing (s : RouteStore guildOf) : (Platform × String) ≃. UInt64 where
  toFun := s.table.byRemote
  invFun := s.table.byChannel
  inv chat c := by
    rw [RouteTable.byRemote_eq_some_iff]
    exact s.byChannel_eq_some_iff

@[simp] theorem routing_apply (s : RouteStore guildOf) (chat : Platform × String) :
    s.routing chat = s.table.byRemote chat := rfl

@[simp] theorem routing_symm_apply (s : RouteStore guildOf) (c : UInt64) : s.routing.symm c = s.table.byChannel c := rfl

theorem byChannel_eq_none_iff (s : RouteStore guildOf) {c : UInt64} :
    s.table.byChannel c = none ↔ ∀ row ∈ s.table.rows, row.discordChannel ≠ c.toInt64 := by
  rw [Option.eq_none_iff_forall_ne_some]
  constructor
  · intro h row hrow hc
    obtain ⟨p, hp⟩ := s.platform row hrow
    exact h (p, row.remoteChatId) (s.byChannel_eq_some_iff.2 ⟨row, hrow, hc, hp, rfl⟩)
  · intro h chat hchat
    obtain ⟨row, hrow, hc, -⟩ := s.byChannel_eq_some_iff.1 hchat
    exact h row hrow hc

theorem byRemote_eq_none_iff (s : RouteStore guildOf) {chat : Platform × String} :
    s.table.byRemote chat = none ↔ ∀ row ∈ s.table.rows, ¬(row.platform = chat.1.asI16 ∧ row.remoteChatId = chat.2) := by
  rw [Option.eq_none_iff_forall_ne_some]
  constructor
  · intro h row hrow he
    obtain ⟨hp, hr⟩ := he
    exact h _ (RouteTable.byRemote_eq_some_iff.2 ⟨row, hrow, eq_toInt64_iff.2 rfl, hp, hr⟩)
  · intro h c hc
    obtain ⟨row, hrow, -, hp, hr⟩ := RouteTable.byRemote_eq_some_iff.1 hc
    exact h row hrow ⟨hp, hr⟩

/-- A route is listed for the guild of its channel, and for no other. -/
theorem mem_listed_iff (s : RouteStore guildOf) {guildId : UInt64} {route : ProxyRoute} :
    route ∈ s.table.listed guildId ↔
      guildOf route.discordChannel = guildId ∧
        s.routing (route.platform, route.remoteChatId) = some route.discordChannel := by
  rw [RouteTable.mem_listed_iff, routing_apply, RouteTable.byRemote_eq_some_iff]
  constructor
  · intro h
    obtain ⟨row, hrow, hg, hst⟩ := h
    rw [s.guild row hrow, hst.1, UInt64.toUInt64_toInt64, toInt64_inj] at hg
    exact ⟨hg, row, hrow, hst⟩
  · rintro ⟨rfl, row, hrow, hst⟩
    exact ⟨row, hrow, by rw [s.guild row hrow, hst.1, UInt64.toUInt64_toInt64], hst⟩

/-! ### Linking and unlinking -/

/-- The row `link` inserts for a channel, from its guild. -/
def newRow (guildOf : UInt64 → UInt64) (c : UInt64) (chat : Platform × String) (createdBy : UInt64) : RouteRow :=
  ⟨(guildOf c).toInt64, c.toInt64, chat.1.asI16, chat.2, createdBy.toInt64⟩

/-- The rows `unlink` deletes. -/
def hit (guildId c : UInt64) (p : Platform) (row : RouteRow) : Bool :=
  row.guildId == guildId.toInt64 && row.discordChannel == c.toInt64 && row.platform == p.asI16

/-- A stored route is in conflict with a new one when it is of the same channel or of the same remote chat. -/
theorem conflict_newRow_iff (s : RouteStore guildOf) {row : RouteRow} (hrow : row ∈ s.table.rows) (c : UInt64)
    (chat : Platform × String) (createdBy : UInt64) : row.Conflict (newRow guildOf c chat createdBy) ↔
      row.discordChannel = c.toInt64 ∨ row.platform = chat.1.asI16 ∧ row.remoteChatId = chat.2 := by
  obtain ⟨p, hp⟩ := s.platform row hrow
  have hg := s.guild row hrow
  have hpp : p.asI16 = chat.1.asI16 := by
    cases p
    cases chat.1
    rfl
  simp only [RouteRow.Conflict, newRow]
  constructor
  · intro h
    rcases h with ⟨-, hc, -⟩ | h
    · exact Or.inl hc
    · exact Or.inr h
  · intro h
    rcases h with hc | h
    · exact Or.inl ⟨by rw [hg, hc, UInt64.toUInt64_toInt64], hc, hp.trans hpp⟩
    · exact Or.inr h

/-- Link a channel: refused when the new row is in conflict with a stored one. -/
def link (s : RouteStore guildOf) (c : UInt64) (chat : Platform × String) (createdBy : UInt64) :
    Option (RouteStore guildOf) :=
  match h : s.table.insert (newRow guildOf c chat createdBy) with
  | none => none
  | some t => some
    { table := t
      guild := by
        intro row hrow
        rw [Table.rows_of_insert h, List.mem_append, List.mem_singleton] at hrow
        rcases hrow with hrow | rfl
        · exact s.guild row hrow
        · simp [newRow]
      platform := by
        intro row hrow
        rw [Table.rows_of_insert h, List.mem_append, List.mem_singleton] at hrow
        rcases hrow with hrow | rfl
        · exact s.platform row hrow
        · exact ⟨chat.1, rfl⟩ }

/-- Unlink a channel: the rows of the guild, channel and platform go. -/
def unlink (s : RouteStore guildOf) (guildId c : UInt64) (p : Platform) : RouteStore guildOf where
  table := s.table.delete (hit guildId c p)
  guild row hrow := s.guild row (Table.mem_delete_iff.1 hrow).1
  platform row hrow := s.platform row (Table.mem_delete_iff.1 hrow).1

/-- What `link` did when it was accepted. -/
theorem link_eq_some {s s' : RouteStore guildOf} {c : UInt64} {chat : Platform × String} {createdBy : UInt64}
    (h : s.link c chat createdBy = some s') : s.table.insert (newRow guildOf c chat createdBy) = some s'.table := by
  unfold link at h
  split at h
  · cases h
  · rename_i t ht
    cases h
    exact ht

theorem link_eq_none {s : RouteStore guildOf} {c : UInt64} {chat : Platform × String} {createdBy : UInt64}
    (h : s.link c chat createdBy = none) : s.table.insert (newRow guildOf c chat createdBy) = none := by
  unfold link at h
  split at h
  · rename_i hn
    exact hn
  · cases h

/-- A link is accepted exactly when the channel and the remote chat are both free. -/
theorem link_isSome_iff (s : RouteStore guildOf) (c : UInt64) (chat : Platform × String) (createdBy : UInt64) :
    (∃ s', s.link c chat createdBy = some s') ↔ s.routing chat = none ∧ s.routing.symm c = none := by
  rw [routing_apply, routing_symm_apply, s.byRemote_eq_none_iff, s.byChannel_eq_none_iff]
  constructor
  · intro h
    obtain ⟨s', hs⟩ := h
    have hfree : ∀ row ∈ s.table.rows, ¬row.Conflict (newRow guildOf c chat createdBy) := by
      intro row hrow hc
      have := Table.insert_eq_none_iff.2 ⟨row, hrow, hc⟩
      rw [link_eq_some hs] at this
      cases this
    exact ⟨fun row hrow hk => hfree row hrow ((s.conflict_newRow_iff hrow c chat createdBy).2 (Or.inr hk)),
      fun row hrow hk => hfree row hrow ((s.conflict_newRow_iff hrow c chat createdBy).2 (Or.inl hk))⟩
  · intro h
    obtain ⟨hr, hc⟩ := h
    cases hs : s.link c chat createdBy with
    | some s' => exact ⟨s', rfl⟩
    | none =>
      exfalso
      obtain ⟨row, hrow, hk⟩ := Table.insert_eq_none_iff.1 (link_eq_none hs)
      rcases (s.conflict_newRow_iff hrow c chat createdBy).1 hk with hk | hk
      · exact hc row hrow hk
      · exact hr row hrow hk

/-- An accepted link matches the remote chat with the channel, and nothing else changes. -/
theorem routing_link {s s' : RouteStore guildOf} {c : UInt64} {chat : Platform × String} {createdBy : UInt64}
    (h : s.link c chat createdBy = some s') (ha : s.routing chat = none) (hb : s.routing.symm c = none) :
    s'.routing = s.routing.link chat c ha hb := by
  have hrows := Table.rows_of_insert (link_eq_some h)
  have hstores : ∀ (x : Platform × String) (d : UInt64),
      RouteTable.Stores (newRow guildOf c chat createdBy) x d ↔ x = chat ∧ d = c := by
    intro x d
    simp only [RouteTable.Stores, newRow, toInt64_inj]
    constructor
    · intro h
      obtain ⟨hd, hp, hr⟩ := h
      refine ⟨Prod.ext ?_ hr.symm, hd.symm⟩
      cases x.1
      cases chat.1
      rfl
    · rintro ⟨rfl, rfl⟩
      simp
  refine PEquiv.ext fun x => Option.ext fun d => ?_
  rw [PEquiv.link_apply, routing_apply, RouteTable.byRemote_eq_some_iff, hrows]
  simp only [List.mem_append, List.mem_singleton, or_and_right, exists_or, exists_eq_left, hstores,
    ← RouteTable.byRemote_eq_some_iff]
  by_cases hx : x = chat
  · subst hx
    rw [routing_apply] at ha
    rw [ha, if_pos rfl, Option.some.injEq]
    simp [eq_comm]
  · simp [hx]

/-- The rows `unlink` deletes are the rows of the guild and the channel: there is one platform. -/
theorem hit_iff_stored (s : RouteStore guildOf) {row : RouteRow} (hrow : row ∈ s.table.rows) (guildId c : UInt64)
    (p : Platform) : hit guildId c p row = true ↔ row.guildId = guildId.toInt64 ∧ row.discordChannel = c.toInt64 := by
  obtain ⟨q, hq⟩ := s.platform row hrow
  have hqp : q.asI16 = p.asI16 := by
    cases q
    cases p
    rfl
  simp only [hit, Bool.and_eq_true, beq_iff_eq, hq.trans hqp, and_true]

/-- They are the rows of the channel, if the guild is the channel's. -/
theorem hit_iff (s : RouteStore guildOf) {row : RouteRow} (hrow : row ∈ s.table.rows) (guildId c : UInt64) (p : Platform) :
    hit guildId c p row = true ↔ guildId = guildOf c ∧ row.discordChannel = c.toInt64 := by
  rw [s.hit_iff_stored hrow]
  refine and_congr_left fun hc => ?_
  rw [s.guild row hrow, hc, UInt64.toUInt64_toInt64, toInt64_inj]
  exact eq_comm

/-- An unlink deletes one row when the channel is linked and the guild is its own, and none otherwise. -/
theorem length_select_hit (s : RouteStore guildOf) (guildId c : UInt64) (p : Platform) :
    (s.table.select (hit guildId c p)).length =
      if guildId = guildOf c ∧ s.routing.symm c ≠ none then 1 else 0 := by
  rw [Table.length_select_of_conflict]
  · congr 1
    rw [routing_symm_apply, Ne, s.byChannel_eq_none_iff, eq_iff_iff]
    constructor
    · intro h
      obtain ⟨row, hrow, hh⟩ := h
      obtain ⟨hg, hc⟩ := (s.hit_iff hrow guildId c p).1 hh
      exact ⟨hg, fun h => h row hrow hc⟩
    · intro h
      obtain ⟨hg, hn⟩ := h
      obtain ⟨row, hrow, hc⟩ : ∃ row ∈ s.table.rows, row.discordChannel = c.toInt64 := by simpa using hn
      exact ⟨row, hrow, (s.hit_iff hrow guildId c p).2 ⟨hg, hc⟩⟩
  · intro a ha b hb hha hhb
    exact s.conflict_of_channel ha hb
      (((s.hit_iff ha guildId c p).1 hha).2.trans ((s.hit_iff hb guildId c p).1 hhb).2.symm)

/-- Unlinking a channel in its own guild frees it; in any other guild it changes nothing. -/
theorem routing_unlink (s : RouteStore guildOf) (guildId c : UInt64) (p : Platform) :
    (s.unlink guildId c p).routing = if guildId = guildOf c then s.routing.unlink c else s.routing := by
  refine PEquiv.ext fun x => Option.ext fun d => ?_
  have hleft : (s.unlink guildId c p).routing x = some d ↔
      s.routing x = some d ∧ ¬(guildId = guildOf c ∧ d = c) := by
    rw [routing_apply, routing_apply, RouteTable.byRemote_eq_some_iff, RouteTable.byRemote_eq_some_iff]
    constructor
    · intro h
      obtain ⟨row, hdel, hst⟩ := h
      obtain ⟨hrow, hnot⟩ := Table.mem_delete_iff.1 hdel
      refine ⟨⟨row, hrow, hst⟩, fun hgd => ?_⟩
      rw [(s.hit_iff hrow guildId c p).2 ⟨hgd.1, hgd.2 ▸ hst.1⟩] at hnot
      cases hnot
    · intro h
      obtain ⟨⟨row, hrow, hst⟩, hn⟩ := h
      refine ⟨row, Table.mem_delete_iff.2 ⟨hrow, ?_⟩, hst⟩
      rw [Bool.eq_false_iff]
      intro hh
      obtain ⟨hg, hc⟩ := (s.hit_iff hrow guildId c p).1 hh
      exact hn ⟨hg, toInt64_inj.1 (hst.1.symm.trans hc)⟩
  rw [hleft]
  by_cases hg : guildId = guildOf c
  · rw [if_pos hg, PEquiv.unlink_apply]
    by_cases hx : s.routing x = some c
    · simp [hx, hg, eq_comm]
    · rw [if_neg hx]
      constructor
      · exact fun h => h.1
      · intro h
        refine ⟨h, ?_⟩
        rintro ⟨-, rfl⟩
        exact hx h
  · simp [hg]

end RouteStore

/-! ## The operations on the world -/

namespace Routes

@[simp] theorem run_fetchByRemote (p : Platform) (r : String) (w : World) :
    (fetchByRemote p r).run serve w = ⟨.ok (w.routes.byRemote (p, r)), [.selectChannel p.asI16 r], w⟩ := by
  simp [fetchByRemote, Prog.run_bind, Outcome.andThen, RouteTable.byRemote, Function.comp_def]

@[simp] theorem run_fetchByChannel (c : UInt64) (w : World) :
    (fetchByChannel c).run serve w = ⟨.ok (w.routes.byChannel c), [.selectRemote c.toInt64], w⟩ := by
  simp [fetchByChannel, Prog.run_bind, Outcome.andThen, RouteTable.byChannel, Option.bind_map]

@[simp] theorem run_list (g : UInt64) (w : World) :
    (list g).run serve w = ⟨.ok (w.routes.listed g), [.selectRoutes g.toInt64], w⟩ := by
  simp only [list, Prog.run_bind, Prog.run_perform, Prog.run_pure, Outcome.andThen, serve_selectRoutes, List.filterMap_map,
    RouteTable.listed, List.append_nil]
  rfl

/-- A link inserts its row, or leaves the world when a key refuses it. -/
theorem run_link (g c : UInt64) (p : Platform) (r : String) (createdBy : UInt64) (w : World) :
    (link g c p r createdBy).run serve w =
      match w.routes.insert ⟨g.toInt64, c.toInt64, p.asI16, r, createdBy.toInt64⟩ with
      | some t =>
        ⟨.ok (), [.insertRoute ⟨g.toInt64, c.toInt64, p.asI16, r, createdBy.toInt64⟩], { w with routes := t }⟩
      | none =>
        ⟨.error (.proxy .channelAlreadyLinked),
          [.insertRoute ⟨g.toInt64, c.toInt64, p.asI16, r, createdBy.toInt64⟩], w⟩ := by
  unfold link
  rw [Prog.run_bind, Prog.run_attempt, Prog.run_perform]
  simp only [serve_insertRoute, Outcome.andThen]
  cases w.routes.insert ⟨g.toInt64, c.toInt64, p.asI16, r, createdBy.toInt64⟩ with
  | none => simp [uniqueViolation]
  | some t => simp

/-- A link on a store: it is linked, or the world is left. -/
theorem run_link_store {guildOf : UInt64 → UInt64} (s : RouteStore guildOf) (c : UInt64) (chat : Platform × String)
    (createdBy : UInt64) {w : World} (hw : w.routes = s.table) :
    ((link (guildOf c) c chat.1 chat.2 createdBy).run serve w).result =
        (if (s.link c chat createdBy).isSome then .ok () else .error (.proxy .channelAlreadyLinked)) ∧
      ((link (guildOf c) c chat.1 chat.2 createdBy).run serve w).state =
        { w with routes := ((s.link c chat createdBy).getD s).table } := by
  rw [run_link, hw]
  cases hs : s.link c chat createdBy with
  | none =>
    have hn := RouteStore.link_eq_none hs
    simp only [RouteStore.newRow] at hn
    refine ⟨by simp [hn], ?_⟩
    simp only [hn, Option.getD_none]
    rw [← hw]
  | some s' =>
    have hn := RouteStore.link_eq_some hs
    simp only [RouteStore.newRow] at hn
    simp [hn]

/-- An unlink on a store. -/
theorem run_unlink_store {guildOf : UInt64 → UInt64} (s : RouteStore guildOf) (g c : UInt64) (p : Platform) {w : World}
    (hw : w.routes = s.table) :
    ((unlink g c p).run serve w).result = .ok (if g = guildOf c ∧ s.routing.symm c ≠ none then 1 else 0) ∧
      ((unlink g c p).run serve w).state = { w with routes := (s.unlink g c p).table } := by
  rw [← s.length_select_hit g c p]
  simp only [unlink, ask, Prog.run_perform, serve_deleteRoute, hw]
  exact ⟨rfl, rfl⟩

end Routes

end ModerationBot
