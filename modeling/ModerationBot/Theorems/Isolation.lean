import ModerationBot.Theorems.Authorization

namespace ModerationBot

variable {guildOf : UInt64 → UInt64}

/-! ## What the bot stores for one guild, another cannot touch -/

/-- The commands that edit a table. -/
def Command.edits : Command → Bool
  | .allow _ _ => true
  | .disallow _ _ => true
  | .proxyLink _ _ => true
  | .proxyUnlink _ => true
  | _ => false

/-- The statements that insert or delete rows of a guild. -/
def Request.editsGuild (g : Int64) : Request → Bool
  | .insertRoute row => row.guildId == g
  | .deleteRoute g' _ _ => g' == g
  | .insertAllowed row => row.guildId == g
  | .deleteAllowed g' _ _ => g' == g
  | _ => false

/-- The rows of a guild in the two tables. -/
def World.rowsOf (w : World) (g : Int64) : List RouteRow × List AllowlistRow :=
  (w.routes.select fun r => r.guildId == g, w.allowlist.select fun r => r.guildId == g)

/-- A change by other hands leaves the rows. -/
theorem Foreign.rowsOf (c : Foreign) (w : BotWorld) (g : Int64) : (c.apply w).rowsOf g = w.rowsOf g := by
  rw [World.rowsOf, World.rowsOf, c.routes, c.allowlist]

/-- A row of another guild is inserted: those of the guild stay. -/
theorem select_of_insert {ρ : Type} {conflict : ρ → ρ → Prop} [DecidableRel conflict] {t t' : Table conflict} {r : ρ}
    (h : t.insert r = some t') {p : ρ → Bool} (hp : p r = false) : t'.select p = t.select p := by
  rw [Table.select, Table.rows_of_insert h, List.filter_append, List.filter_singleton, hp]
  exact List.append_nil _

/-- Rows of another guild are deleted: those of the guild stay. -/
theorem select_delete {ρ : Type} {conflict : ρ → ρ → Prop} (t : Table conflict) {p hit : ρ → Bool}
    (hp : ∀ r, hit r = true → p r = false) : (t.delete hit).select p = t.select p := by
  rw [Table.select, Table.select, Table.delete, List.filter_filter]
  refine List.filter_congr fun r _ => ?_
  cases hr : hit r with
  | true => rw [hp r hr, Bool.false_and]
  | false => rw [Bool.not_false, Bool.and_true]

/-- A request that edits no row of the guild leaves its rows. -/
theorem rowsOf_serve {g : Int64} {q : Request} (hq : q.editsGuild g = false) (w : World) :
    (serve w q).2.rowsOf g = w.rowsOf g := by
  cases q with
  | insertRoute row =>
    rw [serve_insertRoute]
    cases hi : w.routes.insert row with
    | none => rfl
    | some t => exact Prod.ext (select_of_insert hi hq) rfl
  | deleteRoute g' c p =>
    refine Prod.ext (select_delete _ fun r hr => ?_) rfl
    simp only [Bool.and_eq_true, beq_iff_eq] at hr
    rw [hr.1.1]
    exact hq
  | insertAllowed row =>
    rw [serve_insertAllowed]
    cases hi : w.allowlist.insert row with
    | none => rfl
    | some t => exact Prod.ext rfl (select_of_insert hi hq)
  | deleteAllowed g' k e =>
    refine Prod.ext rfl (select_delete _ fun r hr => ?_)
    simp only [Bool.and_eq_true, beq_iff_eq] at hr
    rw [hr.1.1]
    exact hq
  | member g' u =>
    rw [serve_member]
    cases w.members g' u <;> rfl
  | ban g' u days reason =>
    rw [serve_ban]
    split <;> rfl
  | _ => rfl

/-- A request that is authorized edits rows of a guild only for a command that edits a table, invoked there. -/
theorem edits_of_authorized {o : Origin guildOf} {past : Past} {q : Request} (h : Authorized o past q) {g : UInt64}
    (hq : q.editsGuild g.toInt64 = true) :
    ∃ inv, o = .command inv ∧ inv.ctx.guildId = some g ∧ inv.command.edits = true := by
  cases q with
  | insertRoute row =>
    obtain ⟨inv, rfl, -, channel, r, g', hc, hg, -, rfl⟩ := h
    rw [Request.editsGuild, beq_iff_eq, Ctx.route, toInt64_inj] at hq
    exact ⟨inv, rfl, hq ▸ hg, by rw [hc, Command.edits]⟩
  | deleteRoute g' c p =>
    obtain ⟨inv, rfl, -, channel, g'', hc, hg, -, rfl, -⟩ := h
    rw [Request.editsGuild, beq_iff_eq, toInt64_inj] at hq
    exact ⟨inv, rfl, hq ▸ hg, by rw [hc, Command.edits]⟩
  | insertAllowed row =>
    obtain ⟨inv, rfl, -, user, role, g', hc, hg, e, -, rfl⟩ := h
    rw [Request.editsGuild, beq_iff_eq, AllowlistTable.entryRow, toInt64_inj] at hq
    exact ⟨inv, rfl, hq ▸ hg, by rw [hc, Command.edits]⟩
  | deleteAllowed g' k e =>
    obtain ⟨inv, rfl, -, user, role, g'', hc, hg, rfl, -⟩ := h
    rw [Request.editsGuild, beq_iff_eq, toInt64_inj] at hq
    exact ⟨inv, rfl, hq ▸ hg, by rw [hc, Command.edits]⟩
  | _ => cases hq

/-- Through any run in which no command that edits a table is invoked in a guild, the rows of the guild stay as they were: whatever
other guilds do at once, whatever fails, and whatever else is invoked in the guild itself. -/
theorem guild_isolated (g : UInt64) (w : BotWorld) (happenings : List (Happening guildOf))
    (hnone : ∀ inv, .start (.command inv) ∈ happenings → inv.ctx.guildId = some g → inv.command.edits = false) :
    (System.run guildOf w happenings).state.rowsOf g.toInt64 = w.rowsOf g.toInt64 := by
  refine @Pool.invariant _ _ _ _ _ _ _ _ (botSetup guildOf) (fun q => ∀ q', q = .core q' → q'.editsGuild g.toInt64 = false)
    (fun w' => w'.rowsOf g.toInt64 = w.rowsOf g.toInt64) (fun w' q hq hw' => ?_) (fun c w' hw' => ?_) w rfl happenings ?_
  · cases q with
    | core q => exact (rowsOf_serve (hq q rfl) w'.toWorld).trans hw'
    | _ => exact hw'
  · exact (c.rowsOf w' _).trans hw'
  · intro e he q hq
    obtain ⟨o, l, hstart, hauth⟩ := Pool.issued_of_mem authorized_program w happenings he
    rw [hq] at hauth
    by_contra hedits
    obtain ⟨inv, rfl, hg, hedit⟩ := edits_of_authorized hauth (Bool.not_eq_false _ ▸ hedits)
    rw [hnone inv hstart hg] at hedit
    cases hedit

namespace FirstLink

/-- The bot before anything happened, but for a route of another guild. -/
def neighbour : BotWorld :=
  { BotWorld.initial ⟨1, "bot", none, true⟩ fun n => (UInt64.ofNat n, "token") with
    routes := ⟨[⟨11, 30, 0, "-200", 3⟩], by decide⟩ }

/-- A user that may manage the webhooks of the guild 10 links its channel 20. -/
def invocation : Invocation fun _ => 10 where
  ctx := ⟨some 10, 21, ⟨2, "ann", none, false⟩, none⟩
  permissions := [.manageWebhooks]
  owner := false
  command := .proxyLink 20 "-100"
  met := ⟨fun _ hp => by cases hp; exact List.mem_singleton_self _, fun _ => rfl, nofun⟩
  place _ hg := Option.some.inj hg
  channels _ _ := rfl
  members _ hm := absurd hm List.not_mem_nil

/-- The link is invoked, and its row inserted. -/
def happenings : List (Happening fun _ => 10) := [.start (.command invocation), .issue 0 .served]

end FirstLink

open FirstLink in
theorem guild_isolated_firstLink : (System.run (fun _ => 10) neighbour happenings).state.rowsOf (11 : UInt64).toInt64 =
    neighbour.rowsOf (11 : UInt64).toInt64 := by
  refine guild_isolated 11 neighbour happenings fun inv hinv hg => ?_
  simp only [happenings, List.mem_cons, Turn.start.injEq, Origin.command.injEq, reduceCtorEq, List.not_mem_nil, or_false] at hinv
  subst hinv
  cases hg

end ModerationBot
