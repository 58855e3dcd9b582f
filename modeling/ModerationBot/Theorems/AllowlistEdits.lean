import ModerationBot.Lemmas.Replies
import ModerationBot.Library.Faults

namespace ModerationBot

/-! ## Edits of the allowlist among failing statements -/

/-- The requests that are SQL statements. -/
def Request.isStatement : Request → Bool
  | .insertRoute _ => true
  | .deleteRoute _ _ _ => true
  | .selectRoutes _ => true
  | .selectChannel _ _ => true
  | .selectRemote _ => true
  | .selectAllowed _ => true
  | .insertAllowed _ => true
  | .deleteAllowed _ _ _ => true
  | _ => false

/-- Exactly the entries named are edited: each is there afterwards or is not, and every other row is as it was. -/
def Edited (g : UInt64) (es : List Entity) (granted : Bool) (before after : AllowlistTable) : Prop :=
  (∀ e ∈ es, after.Holds g e ↔ granted = true) ∧
    ∀ row : AllowlistRow, (∀ e ∈ es, ¬row.Names g e) → (row ∈ after.rows ↔ row ∈ before.rows)

namespace AllowlistCall

/-- What an invocation leaves when the requests with a fault fail. -/
def faultyRun (faults : Request → Option Error) (w : World) (call : AllowlistCall) : Outcome Error Request World Unit :=
  call.handler.run (Service.faulty serve faults) w

/-- A statement that the invocation issued failed. -/
def StatementFails (faults : Request → Option Error) (w : World) (call : AllowlistCall) : Prop :=
  ∃ q ∈ (call.faultyRun faults w).issued, q.isStatement = true ∧ faults q ≠ none

/-- The statement that edits the entry of an entity. -/
def statement (call : AllowlistCall) (g : UInt64) (e : Entity) : Request :=
  if call.grants then .insertAllowed (AllowlistTable.entryRow g e call.ctx.author.id)
  else .deleteAllowed g.toInt64 e.kind e.id.toInt64

/-- The table after entries of a guild were edited in order. -/
def edit (call : AllowlistCall) (g : UInt64) (t : AllowlistTable) (es : List Entity) : AllowlistTable :=
  if call.grants then t.addRows g call.ctx.author.id es else t.deleteRows g es

end AllowlistCall

namespace AllowlistTable

/-- The rows of other entries stay when an entry is added. -/
theorem mem_addRow_iff {t : AllowlistTable} {g addedBy : UInt64} {e : Entity} {row : AllowlistRow} (h : ¬row.Names g e) :
    row ∈ (addRow t g e addedBy).rows ↔ row ∈ t.rows := by
  cases hi : t.insert (entryRow g e addedBy) with
  | none => rw [addRow, hi, Option.getD_none]
  | some t' =>
    rw [addRow, hi, Option.getD_some, Table.rows_of_insert hi, List.mem_append, List.mem_singleton]
    refine or_iff_left ?_
    rintro rfl
    exact h ⟨rfl, rfl, rfl⟩

/-- The rows of other entries stay when entries are added. -/
theorem mem_addRows_iff {t : AllowlistTable} {g addedBy : UInt64} {es : List Entity} {row : AllowlistRow}
    (h : ∀ e ∈ es, ¬row.Names g e) : row ∈ (addRows t g addedBy es).rows ↔ row ∈ t.rows := by
  induction es generalizing t with
  | nil => rfl
  | cons e es ih =>
    rw [List.forall_mem_cons] at h
    rw [addRows, List.foldl_cons, ← addRows, ih h.2, mem_addRow_iff h.1]

/-- The rows of other entries stay when entries are removed. -/
theorem mem_deleteRows_iff {t : AllowlistTable} {g : UInt64} {es : List Entity} {row : AllowlistRow}
    (h : ∀ e ∈ es, ¬row.Names g e) : row ∈ (deleteRows t g es).rows ↔ row ∈ t.rows := by
  induction es generalizing t with
  | nil => rfl
  | cons e es ih =>
    rw [List.forall_mem_cons] at h
    rw [deleteRows, List.foldl_cons, ← deleteRows, ih h.2, Table.mem_delete_iff, and_iff_left]
    rw [Bool.eq_false_iff, Ne, hit_iff]
    exact h.1

end AllowlistTable

namespace AllowlistCall

variable {call : AllowlistCall} {g : UInt64}

/-- Entries that are edited are edited exactly. -/
theorem edited_edit (call : AllowlistCall) (g : UInt64) (t : AllowlistTable) (es : List Entity) :
    Edited g es call.grants t (call.edit g t es) := by
  unfold edit
  cases call.grants with
  | true =>
    refine ⟨fun e he => iff_of_true (AllowlistTable.holds_addRows_iff.2 (Or.inl ⟨rfl, he⟩)) rfl, fun row hrow => ?_⟩
    exact AllowlistTable.mem_addRows_iff hrow
  | false =>
    refine ⟨fun e he => iff_of_false (fun h => ?_) Bool.false_ne_true, fun row hrow => ?_⟩
    · exact (AllowlistTable.holds_deleteRows_iff.1 h).2 ⟨rfl, he⟩
    · exact AllowlistTable.mem_deleteRows_iff hrow

theorem edit_nil (call : AllowlistCall) (g : UInt64) (t : AllowlistTable) : call.edit g t [] = t := by
  unfold edit
  cases call.grants <;> rfl

theorem isStatement_statement (call : AllowlistCall) (g : UInt64) (e : Entity) : (call.statement g e).isStatement = true := by
  unfold statement
  cases call.grants <;> rfl

/-- Served statements edit the entries. -/
theorem after_statements (call : AllowlistCall) (g : UInt64) (es : List Entity) (w : World) :
    Service.after serve w (es.map (call.statement g)) = { w with allowlist := call.edit g w.allowlist es } := by
  unfold edit statement
  cases call.grants with
  | true =>
    induction es generalizing w with
    | nil => rfl
    | cons e es ih => exact ih _
  | false =>
    induction es generalizing w with
    | nil => rfl
    | cons e es ih => exact ih _

/-- Without faults an invocation issues the statements of the entities it names and then a reply. -/
theorem issued_handler (hg : call.ctx.guildId = some g) (w : World) : ∃ text, (call.handler.run serve w).issued =
    call.entities.map (call.statement g) ++ [.send { content := text }] := by
  classical
  cases call with
  | allow c user role =>
    have hc : c.guildId = some g := hg
    exact ⟨_, by rw [handler, run_allow hc]; rfl⟩
  | disallow c user role =>
    have hc : c.guildId = some g := hg
    have hon : ∀ e, decide (w.allowlist.Holds g e) = true ↔ w.allowlist.Holds g e := fun e => decide_eq_true_iff
    exact ⟨_, by rw [handler, run_disallow hc user role hon]; rfl⟩

theorem failFast_handler (call : AllowlistCall) : call.handler.FailFast := by
  cases call with
  | allow c user role => exact failFast_allow c user role
  | disallow c user role => exact failFast_disallow c user role

/-- Before an entity that is named comes none, or a user before a role. -/
theorem named_eq_append {user : Option User} {role : Option Role} {es₁ es₂ : List Entity} {e : Entity}
    (h : named user role = es₁ ++ e :: es₂) :
    es₁ = [] ∨ ∃ u r, named user role = [.user u, .role r] ∧ es₁ = [.user u] ∧ e = .role r := by
  cases es₁ with
  | nil => exact Or.inl rfl
  | cons x es₁ =>
    have hlen := congrArg List.length h
    cases user with
    | none => cases role <;> simp [named] at hlen
    | some u =>
      cases role with
      | none => simp [named] at hlen
      | some r =>
        have htail : [Entity.role r.id] = es₁ ++ e :: es₂ := (List.cons.inj h).2
        obtain ⟨rfl, he⟩ := List.append_eq_singleton_iff.1 htail.symm |>.resolve_right (by simp)
        have hx : Entity.user u.id = x := (List.cons.inj h).1
        exact Or.inr ⟨u.id, r.id, rfl, by rw [hx], (List.cons.inj he).1⟩

/-- A list with one more element at its end, cut at an element: it is cut there, or before. -/
theorem concat_eq_append_cons {α : Type} {l before after : List α} {x q : α} (h : l ++ [x] = before ++ q :: after) :
    (l = before ∧ q = x) ∨ ∃ rest, l = before ++ q :: rest := by
  rcases List.eq_nil_or_concat after with rfl | ⟨rest, y, rfl⟩
  · obtain ⟨hl, hx⟩ := List.append_inj' h rfl
    exact Or.inl ⟨hl, (List.cons.inj hx).1.symm⟩
  · have hassoc : before ++ q :: (rest ++ [y]) = (before ++ q :: rest) ++ [y] := by simp
    rw [List.concat_eq_append, hassoc] at h
    exact Or.inr ⟨rest, (List.append_inj' h rfl).1⟩

theorem entities_eq_append {call : AllowlistCall} {es₁ es₂ : List Entity} {e : Entity} (h : call.entities = es₁ ++ e :: es₂) :
    es₁ = [] ∨ ∃ u r, call.entities = [.user u, .role r] ∧ es₁ = [.user u] ∧ e = .role r := by
  cases call with
  | allow c user role => exact named_eq_append h
  | disallow c user role => exact named_eq_append h

/-- How an invocation runs among faults: no statement fails and all entries are edited, or the first statement that fails ends it, and
the entries before it are edited. -/
theorem faultyRun_cases (hg : call.ctx.guildId = some g) (faults : Request → Option Error) (w : World) :
    (¬call.StatementFails faults w ∧ (∀ e ∈ call.entities, faults (call.statement g e) = none) ∧
        (call.faultyRun faults w).state.allowlist = call.edit g w.allowlist call.entities) ∨
      ∃ es₁ e es₂ err, call.entities = es₁ ++ e :: es₂ ∧ (∀ x ∈ es₁, faults (call.statement g x) = none) ∧
        faults (call.statement g e) = some err ∧ (call.faultyRun faults w).result = .error err ∧
          (call.faultyRun faults w).issued = es₁.map (call.statement g) ++ [call.statement g e] ∧
            (call.faultyRun faults w).state.allowlist = call.edit g w.allowlist es₁ := by
  obtain ⟨text, hissued⟩ := call.issued_handler hg w
  have hdone : (Service.after serve w (call.entities.map (call.statement g))).allowlist =
      call.edit g w.allowlist call.entities := by rw [after_statements]
  unfold StatementFails faultyRun
  rcases call.failFast_handler.run_faulty faults w with ⟨hall, hrun⟩ | ⟨before, q, err, after, hsplit, hbefore, hq, hrun⟩
  · refine Or.inl ⟨?_, fun e he => hall _ ?_, ?_⟩
    · rw [hrun]
      intro h
      obtain ⟨q, hmem, -, hfault⟩ := h
      exact hfault (hall q hmem)
    · rw [hissued]
      exact List.mem_append_left _ (List.mem_map_of_mem he)
    · rw [hrun, Prog.run_state, hissued, Service.after_append]
      exact hdone
  · rw [hissued] at hsplit
    rw [hrun]
    rcases concat_eq_append_cons hsplit with ⟨rfl, rfl⟩ | ⟨rest, hstatements⟩
    · refine Or.inl ⟨?_, fun e he => hbefore _ (List.mem_map_of_mem he), hdone⟩
      intro h
      obtain ⟨q, hmem, hstatement, hfault⟩ := h
      rcases List.mem_append.1 hmem with hmem | hmem
      · exact hfault (hbefore q hmem)
      · rw [List.mem_singleton.1 hmem] at hstatement
        cases hstatement
    · obtain ⟨es₁, l, hes, rfl, hl⟩ := List.map_eq_append_iff.1 hstatements
      obtain ⟨e, es₂, rfl, rfl, -⟩ := List.map_eq_cons_iff.1 hl
      refine Or.inr ⟨es₁, e, es₂, err, hes, fun x hx => hbefore _ (List.mem_map_of_mem hx), hq, rfl, rfl, ?_⟩
      rw [after_statements]

end AllowlistCall

/-- An invocation names both a user and a role, and of its two statements the role's fails. -/
def AllowlistCall.OnlyRoleFails (faults : Request → Option Error) (call : AllowlistCall) (g : UInt64) : Prop :=
  ∃ u r, call.entities = [.user u, .role r] ∧ faults (call.statement g (.user u)) = none ∧
    faults (call.statement g (.role r)) ≠ none

/-- What holds of an invocation whose statements may fail. -/
structure EditsLawful (faults : Request → Option Error) (w : World) (call : AllowlistCall) (g : UInt64) : Prop where
  /-- An invocation one of whose statements failed returns an error. -/
  reported : call.StatementFails faults w → ∃ err, (call.faultyRun faults w).result = .error err
  /-- It leaves the allowlist as it was, unless the statement that failed is the second of two. -/
  unchanged : call.StatementFails faults w → ¬call.OnlyRoleFails faults g →
    (call.faultyRun faults w).state.allowlist = w.allowlist
  /-- In that case exactly the user's entry is edited. -/
  half_done : ∀ u r, call.entities = [.user u, .role r] → faults (call.statement g (.user u)) = none →
    faults (call.statement g (.role r)) ≠ none →
      Edited g [.user u] call.grants w.allowlist (call.faultyRun faults w).state.allowlist
  /-- When no statement failed, exactly the entries named are edited. -/
  complete : ¬call.StatementFails faults w →
    Edited g call.entities call.grants w.allowlist (call.faultyRun faults w).state.allowlist

/-- In every world and with whatever faults, an invocation in a guild is lawful. -/
theorem edits_lawful (faults : Request → Option Error) (w : World) {call : AllowlistCall} {g : UInt64}
    (hg : call.ctx.guildId = some g) : EditsLawful faults w call g := by
  rcases AllowlistCall.faultyRun_cases hg faults w with
    ⟨hno, hnone, hstate⟩ | ⟨es₁, e, es₂, err, hes, hbefore, hfault, hresult, hissued, hstate⟩
  · refine ⟨fun h => absurd h hno, fun h => absurd h hno, fun u r he _ hr => ?_, fun _ => ?_⟩
    · exact absurd (hnone (.role r) (by simp [he])) hr
    rw [hstate]
    exact call.edited_edit g w.allowlist call.entities
  · have hfails : call.StatementFails faults w := by
      refine ⟨call.statement g e, ?_, call.isStatement_statement g e, by simp [hfault]⟩
      rw [hissued]
      exact List.mem_append_right _ (List.mem_singleton_self _)
    refine ⟨fun _ => ⟨err, hresult⟩, fun _ hrole => ?_, fun u r he hu _ => ?_, fun h => absurd hfails h⟩
    · rcases AllowlistCall.entities_eq_append hes with rfl | ⟨u, r, he, rfl, rfl⟩
      · rw [hstate, AllowlistCall.edit_nil]
      · exact absurd ⟨u, r, he, hbefore _ List.mem_cons_self, by simp [hfault]⟩ hrole
    · rcases AllowlistCall.entities_eq_append hes with rfl | ⟨u', r', he', rfl, rfl⟩
      · rw [he] at hes
        rw [← (List.cons.inj hes).1, hu] at hfault
        cases hfault
      · rw [he] at he'
        rw [hstate, ← (List.cons.inj he').1]
        exact call.edited_edit g w.allowlist [.user u]

/-! ### A role's statement that fails -/

namespace RoleStatementFails

/-- An invocation of the owner of guild 1. -/
def ctx : Ctx := ⟨some 1, 2, ⟨10, "owner", none, false⟩, none⟩

/-- It allows a user and a role. -/
def call : AllowlistCall := .allow ctx (some ⟨30, "member", none, false⟩) (some ⟨40, "staff"⟩)

/-- An empty allowlist. -/
def world : World := World.initial ⟨99, "boyfucker", none, true⟩ (fun n => (.ofNat n, "token"))

/-- The database fails the role's statement. -/
def faults (q : Request) : Option Error := if q = call.statement 1 (.role 40) then some (.database none) else none

/-- The invocation fails, and the user is on the allowlist afterwards. -/
theorem half_done : (call.faultyRun faults world).result = .error (.database none) ∧
    (call.faultyRun faults world).state.allowlist.Holds 1 (.user 30) ∧ ¬world.allowlist.Holds 1 (.user 30) := by
  decide

end RoleStatementFails

/-- The law, for that invocation. -/
theorem edits_lawful_half_done : EditsLawful RoleStatementFails.faults RoleStatementFails.world RoleStatementFails.call 1 :=
  edits_lawful RoleStatementFails.faults RoleStatementFails.world rfl

end ModerationBot
