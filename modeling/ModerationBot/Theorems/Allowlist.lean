import ModerationBot.Library.LastWins
import ModerationBot.Lemmas.Allowlist

namespace ModerationBot

/-! ## The allowlist gate over whole histories -/

namespace AllowlistCall

/-- The world after an invocation. -/
def run (w : World) (call : AllowlistCall) : World := (call.handler.run serve w).state

/-- The world after a sequence of invocations on an empty allowlist. -/
def history (w : World) (calls : List AllowlistCall) : World := calls.foldl run { w with allowlist := .empty }

/-- It was invoked in the guild and names the entity. -/
def names (call : AllowlistCall) (k : UInt64 × Entity) : Bool :=
  call.ctx.guildId == some k.1 && decide (k.2 ∈ call.entities)

end AllowlistCall

/-- Of the invocations of a guild that name an entity, the last one was an `/allow`. -/
def lastAllowed (calls : List AllowlistCall) (g : UInt64) (e : Entity) : Bool :=
  LastWins.granted AllowlistCall.names AllowlistCall.grants calls (g, e)

/-- The laws of the allowlist in a world reached by a history. -/
structure AllowlistLawful (calls : List AllowlistCall) (w : World) : Prop where
  /-- The check passes exactly the invokers last allowed by id or through a role they have. -/
  decides : ∀ ctx g, ctx.guildId = some g → ((moderationAccessCheck ctx).run serve w).result =
    .ok (lastAllowed calls g (.user ctx.author.id) || ctx.roleIds.any (fun r => lastAllowed calls g (.role r)))
  /-- The ids read for a guild are those of the users and the roles last allowed there. -/
  fetched : ∀ g, ∃ sets, ((fetchAllowed g).run serve w).result = .ok sets ∧
    (∀ id, id ∈ sets.users ↔ lastAllowed calls g (.user id) = true) ∧
      ∀ id, id ∈ sets.roles ↔ lastAllowed calls g (.role id) = true
  /-- An invocation in one guild changes no decision in another. -/
  other_guild : ∀ (call : AllowlistCall) ctx g, ctx.guildId = some g → call.ctx.guildId ≠ some g →
    ((moderationAccessCheck ctx).run serve (call.run w)).result = ((moderationAccessCheck ctx).run serve w).result
  /-- To allow what is allowed changes nothing. -/
  idempotent : ∀ ctx user role g, ctx.guildId = some g →
    (∀ e ∈ named user role, lastAllowed calls g e = true) →
      (AllowlistCall.run w (.allow ctx user role)).allowlist = w.allowlist
  /-- `/disallow` reports exactly the entities it names that were on the list. -/
  reports : ∀ ctx user role g, ctx.guildId = some g → ∃ statements,
    ((disallow ctx user role).run serve w).issued =
      statements ++ [.send { content := removedReply (labels (lastAllowed calls g) user role) }]
  /-- Neither a failed request nor a missing member makes the check pass an invoker it would refuse. -/
  fail_closed : ∀ ctx authorMember issued w', authorMember = none ∨ authorMember = ctx.authorMember →
    Prog.Exec serve (moderationAccessCheck { ctx with authorMember }) w issued (.ok true) w' →
      ((moderationAccessCheck ctx).run serve w).result = .ok true

/-- An invocation outside a guild changes nothing. -/
theorem AllowlistCall.run_of_no_guild {call : AllowlistCall} (h : call.ctx.guildId = none) (w : World) :
    call.run w = w := by
  cases call with
  | allow c user role =>
    have hc : c.guildId = none := h
    simp [run, handler, ModerationBot.allow, Ctx.guild, hc, Prog.run_bind, Outcome.andThen]
  | disallow c user role =>
    have hc : c.guildId = none := h
    simp [run, handler, ModerationBot.disallow, Ctx.guild, hc, Prog.run_bind, Outcome.andThen]

/-- An invocation in a guild adds the entities it names, or removes them. -/
theorem AllowlistCall.allowlist_run {call : AllowlistCall} {g : UInt64} (hg : call.ctx.guildId = some g) (w : World) :
    (call.run w).allowlist = if call.grants then w.allowlist.addRows g call.ctx.author.id call.entities
      else w.allowlist.deleteRows g call.entities := by
  classical
  cases call with
  | allow c user role =>
    have hc : c.guildId = some g := hg
    rw [run, handler, run_allow hc, grants, if_pos rfl]
    rfl
  | disallow c user role =>
    have hc : c.guildId = some g := hg
    have hon : ∀ e, decide (w.allowlist.Holds g e) = true ↔ w.allowlist.Holds g e := fun e => decide_eq_true_iff
    rw [run, handler, run_disallow hc user role hon, grants, if_neg Bool.false_ne_true]
    rfl

/-- An invocation decides the entities it names, in its guild. -/
theorem AllowlistCall.holds_run_iff (w : World) (call : AllowlistCall) (k : UInt64 × Entity) :
    (call.run w).allowlist.Holds k.1 k.2 ↔
      if call.names k then call.grants = true else w.allowlist.Holds k.1 k.2 := by
  obtain ⟨g, e⟩ := k
  cases hg : call.ctx.guildId with
  | none => simp [call.run_of_no_guild hg, names, hg]
  | some g' =>
    have hn : call.names (g, e) = true ↔ g = g' ∧ e ∈ call.entities := by
      simp only [names, hg, Bool.and_eq_true, beq_iff_eq, Option.some.injEq, decide_eq_true_eq]
      exact and_congr_left fun _ => eq_comm
    rw [call.allowlist_run hg]
    by_cases h : g = g' ∧ e ∈ call.entities
    · rw [if_pos (hn.2 h)]
      cases call.grants <;> simp [AllowlistTable.holds_addRows_iff, AllowlistTable.holds_deleteRows_iff, h]
    · rw [if_neg (mt hn.1 h)]
      cases call.grants <;> simp [AllowlistTable.holds_addRows_iff, AllowlistTable.holds_deleteRows_iff, h]

/-- After a history the table holds the entries last allowed. -/
theorem AllowlistCall.holds_history_iff (w : World) (calls : List AllowlistCall) (g : UInt64) (e : Entity) :
    (history w calls).allowlist.Holds g e ↔ lastAllowed calls g e = true :=
  LastWins.holds_foldl_iff names grants (fun w k => w.allowlist.Holds k.1 k.2)
    (fun w call k => call.holds_run_iff w k) (fun k => AllowlistTable.not_holds_empty k.1 k.2) calls (g, e)

/-- The check passes the invokers the table admits. -/
theorem check_result_eq {w w' : World} {ctx ctx' : Ctx} {g : UInt64} (hg : ctx.guildId = some g)
    (hg' : ctx'.guildId = some g) (h : w.allowlist.Admits g ctx ↔ w'.allowlist.Admits g ctx') :
    ((moderationAccessCheck ctx).run serve w).result = ((moderationAccessCheck ctx').run serve w').result := by
  obtain ⟨b, hb, hiff⟩ := run_moderationAccessCheck hg w
  obtain ⟨b', hb', hiff'⟩ := run_moderationAccessCheck hg' w'
  rw [hb, hb', Bool.eq_iff_iff.2 (hiff.trans (h.trans hiff'.symm))]

/-- After any sequence of invocations, in any guilds, the allowlist is lawful. -/
theorem allowlist_lawful (w : World) (calls : List AllowlistCall) :
    AllowlistLawful calls (AllowlistCall.history w calls) where
  decides ctx g hg := by
    obtain ⟨b, hb, hiff⟩ := run_moderationAccessCheck hg (AllowlistCall.history w calls)
    rw [hb]
    refine congrArg _ (Bool.eq_iff_iff.2 ?_)
    rw [hiff, Bool.or_eq_true, List.any_eq_true]
    simp only [AllowlistTable.Admits, AllowlistCall.holds_history_iff]
  fetched g := by
    have hf : ∀ e, ((AllowlistCall.history w calls).allowlist.fetched g).Holds e ↔ lastAllowed calls g e = true :=
      fun e => AllowlistTable.holds_fetched_iff.trans (AllowlistCall.holds_history_iff w calls g e)
    exact ⟨_, by rw [run_fetchAllowed], fun id => hf (.user id), fun id => hf (.role id)⟩
  other_guild call ctx g hg hne := by
    have hsame : ∀ e, (call.run (AllowlistCall.history w calls)).allowlist.Holds g e ↔
        (AllowlistCall.history w calls).allowlist.Holds g e := by
      intro e
      have hn : call.names (g, e) = false := by simp [AllowlistCall.names, hne]
      have hstep := call.holds_run_iff (AllowlistCall.history w calls) (g, e)
      rwa [hn, if_neg Bool.false_ne_true] at hstep
    refine check_result_eq hg hg ?_
    simp only [AllowlistTable.Admits, hsame]
  idempotent ctx user role g hg hall := by
    have hcall : (AllowlistCall.allow ctx user role).ctx.guildId = some g := hg
    have hrun := AllowlistCall.allowlist_run hcall (AllowlistCall.history w calls)
    rw [AllowlistCall.grants, if_pos rfl] at hrun
    rw [hrun]
    exact AllowlistTable.addRows_of_holds (fun e he => (AllowlistCall.holds_history_iff w calls g e).2 (hall e he)) _
  reports ctx user role g hg := by
    have hon : ∀ e, lastAllowed calls g e = true ↔ (AllowlistCall.history w calls).allowlist.Holds g e :=
      fun e => (AllowlistCall.holds_history_iff w calls g e).symm
    exact ⟨_, by rw [run_disallow hg user role hon]⟩
  fail_closed ctx authorMember issued w' hm hexec := by
    obtain ⟨g, hg, hadm⟩ := exec_moderationAccessCheck hexec
    have hg' : ctx.guildId = some g := hg
    obtain ⟨b, hb, hiff⟩ := run_moderationAccessCheck hg' (AllowlistCall.history w calls)
    rw [hb, hiff.2]
    rcases hm with rfl | rfl
    · rcases hadm with hu | ⟨r, hr, -⟩
      · exact Or.inl hu
      · exact absurd hr List.not_mem_nil
    · exact hadm

end ModerationBot
