import ModerationBot.Access
import ModerationBot.Lemmas.Routes

/-!
# The allowlist, abstractly

A row of the allowlist names a user or a role of a guild (`Entity`). What the statements do to the entries a table holds, what
the commands do to them, and what the check reads from them.
-/

namespace ModerationBot

/-- What an entry of the allowlist names. -/
inductive Entity where
  | user (id : UInt64)
  | role (id : UInt64)
  deriving DecidableEq

/-- The stored kind of an entity. -/
def Entity.kind : Entity → Int16
  | .user _ => kindUser
  | .role _ => kindRole

/-- The id of an entity. -/
def Entity.id : Entity → UInt64
  | .user id => id
  | .role id => id

/-- An entity is its kind and its id: a user and a role of one id are two entities. -/
theorem Entity.ext_iff {a b : Entity} : a = b ↔ a.kind = b.kind ∧ a.id = b.id := by
  cases a <;> cases b <;> simp [kind, id, kindUser, kindRole]

/-- A row names an entity of a guild. -/
def AllowlistRow.Names (row : AllowlistRow) (g : UInt64) (e : Entity) : Prop :=
  row.guildId = g.toInt64 ∧ row.kind = e.kind ∧ row.entityId = e.id.toInt64

instance (row : AllowlistRow) (g : UInt64) (e : Entity) : Decidable (row.Names g e) := inferInstanceAs (Decidable (_ ∧ _))

/-- A row names one entity of one guild. -/
theorem AllowlistRow.Names.unique {row : AllowlistRow} {g g' : UInt64} {e e' : Entity} (h : row.Names g e)
    (h' : row.Names g' e') : g = g' ∧ e = e' :=
  ⟨toInt64_inj.1 (h.1.symm.trans h'.1),
    Entity.ext_iff.2 ⟨h.2.1.symm.trans h'.2.1, toInt64_inj.1 (h.2.2.symm.trans h'.2.2)⟩⟩

/-- A row in conflict with one that names an entity names it too. -/
theorem AllowlistRow.Names.of_conflict {a b : AllowlistRow} {g : UInt64} {e : Entity} (h : b.Names g e)
    (hc : a.Conflict b) : a.Names g e :=
  ⟨hc.1.trans h.1, hc.2.1.trans h.2.1, hc.2.2.trans h.2.2⟩

namespace AllowlistTable

/-- A table has an entry for an entity of a guild. -/
def Holds (t : AllowlistTable) (g : UInt64) (e : Entity) : Prop := ∃ row ∈ t.rows, row.Names g e

instance (t : AllowlistTable) (g : UInt64) (e : Entity) : Decidable (t.Holds g e) :=
  inferInstanceAs (Decidable (∃ row ∈ t.rows, row.Names g e))

/-- The row an entry is stored as. -/
def entryRow (g : UInt64) (e : Entity) (addedBy : UInt64) : AllowlistRow :=
  ⟨g.toInt64, e.kind, e.id.toInt64, addedBy.toInt64⟩

/-- The table after an entry was added: as it was when the key is taken. -/
def addRow (t : AllowlistTable) (g : UInt64) (e : Entity) (addedBy : UInt64) : AllowlistTable :=
  (t.insert (entryRow g e addedBy)).getD t

/-- The rows of an entry. -/
def hit (g : UInt64) (e : Entity) (row : AllowlistRow) : Bool :=
  row.guildId == g.toInt64 && row.kind == e.kind && row.entityId == e.id.toInt64

theorem hit_iff {g : UInt64} {e : Entity} {row : AllowlistRow} : hit g e row = true ↔ row.Names g e := by
  simp [hit, AllowlistRow.Names, and_assoc]

theorem not_holds_empty (g : UInt64) (e : Entity) : ¬Holds .empty g e := by
  intro h
  obtain ⟨row, hrow, -⟩ := h
  exact absurd hrow List.not_mem_nil

/-- After an entry was added the table holds it, and what it held before. -/
theorem holds_addRow_iff {t : AllowlistTable} {g g' : UInt64} {e e' : Entity} {addedBy : UInt64} :
    Holds (addRow t g e addedBy) g' e' ↔ (g' = g ∧ e' = e) ∨ Holds t g' e' := by
  have hnew : (entryRow g e addedBy).Names g e := ⟨rfl, rfl, rfl⟩
  cases hi : t.insert (entryRow g e addedBy) with
  | none =>
    rw [addRow, hi, Option.getD_none]
    constructor
    · exact Or.inr
    · intro h
      rcases h with ⟨rfl, rfl⟩ | h
      · obtain ⟨row, hrow, hc⟩ := Table.insert_eq_none_iff.1 hi
        exact ⟨row, hrow, hnew.of_conflict hc⟩
      · exact h
  | some t' =>
    rw [addRow, hi, Option.getD_some, Holds, Table.rows_of_insert hi]
    simp only [List.mem_append, List.mem_singleton, or_and_right, exists_or, exists_eq_left]
    rw [or_comm, Holds]
    refine or_congr_left ⟨fun h => ?_, ?_⟩
    · obtain ⟨hg, he⟩ := h.unique hnew
      exact ⟨hg, he⟩
    · rintro ⟨rfl, rfl⟩
      exact hnew

/-- An entry that is there already is added without effect. -/
theorem addRow_of_holds {t : AllowlistTable} {g : UInt64} {e : Entity} (h : Holds t g e) (addedBy : UInt64) :
    addRow t g e addedBy = t := by
  obtain ⟨row, hrow, hn⟩ := h
  have hi : t.insert (entryRow g e addedBy) = none := Table.insert_eq_none_iff.2 ⟨row, hrow, hn⟩
  rw [addRow, hi, Option.getD_none]

/-- After an entry was removed the table holds what it held before, without it. -/
theorem holds_delete_iff {t : AllowlistTable} {g g' : UInt64} {e e' : Entity} :
    Holds (t.delete (hit g e)) g' e' ↔ Holds t g' e' ∧ ¬(g' = g ∧ e' = e) := by
  constructor
  · intro h
    obtain ⟨row, hdel, hn⟩ := h
    obtain ⟨hrow, hnot⟩ := Table.mem_delete_iff.1 hdel
    refine ⟨⟨row, hrow, hn⟩, ?_⟩
    rintro ⟨rfl, rfl⟩
    rw [hit_iff.2 hn] at hnot
    cases hnot
  · intro h
    obtain ⟨⟨row, hrow, hn⟩, hne⟩ := h
    refine ⟨row, Table.mem_delete_iff.2 ⟨hrow, ?_⟩, hn⟩
    rw [Bool.eq_false_iff]
    exact fun hh => hne (hn.unique (hit_iff.1 hh))

/-- Rows are removed for an entry exactly when the table holds it. -/
theorem length_select_hit_pos_iff {t : AllowlistTable} {g : UInt64} {e : Entity} :
    (t.select (hit g e)).length > 0 ↔ Holds t g e := by
  rw [gt_iff_lt, List.length_pos_iff_exists_mem]
  exact exists_congr fun row => by rw [Table.mem_select_iff, hit_iff]

end AllowlistTable

/-! ## Reading the allowlist -/

/-- The sets read hold an entity. -/
def AllowedSets.Holds (sets : AllowedSets) : Entity → Prop
  | .user id => id ∈ sets.users
  | .role id => id ∈ sets.roles

/-- A row read adds the entity it names, and none when its kind is unknown. -/
theorem AllowedSets.holds_read_iff (sets : AllowedSets) (row : Int16 × Int64) (e : Entity) :
    (sets.read row).Holds e ↔ (row.1 = e.kind ∧ row.2 = e.id.toInt64) ∨ sets.Holds e := by
  obtain ⟨kind, id⟩ := row
  by_cases hu : kind = kindUser
  · subst hu
    cases e with
    | user i => simp [AllowedSets.read, Holds, Entity.kind, Entity.id, eq_toInt64_iff, eq_comm]
    | role i => simp [AllowedSets.read, Holds, Entity.kind, kindUser, kindRole]
  · by_cases hr : kind = kindRole
    · subst hr
      cases e with
      | user i => simp [AllowedSets.read, Holds, Entity.kind, kindUser, kindRole]
      | role i =>
        simp [AllowedSets.read, Holds, Entity.kind, Entity.id, eq_toInt64_iff, eq_comm, kindUser, kindRole]
    · cases e <;> simp [AllowedSets.read, hu, hr, Entity.kind]

/-- The rows read in a row add the entities they name. -/
theorem AllowedSets.holds_foldl_iff (rows : List (Int16 × Int64)) (sets : AllowedSets) (e : Entity) :
    (rows.foldl AllowedSets.read sets).Holds e ↔ (e.kind, e.id.toInt64) ∈ rows ∨ sets.Holds e := by
  induction rows generalizing sets with
  | nil => simp
  | cons row rows ih =>
    rw [List.foldl_cons, ih, AllowedSets.holds_read_iff, List.mem_cons, Prod.ext_iff, or_assoc, or_left_comm]
    simp only [eq_comm]

/-- The sets read of a guild. -/
def AllowlistTable.fetched (t : AllowlistTable) (g : UInt64) : AllowedSets :=
  ((t.select (fun r => r.guildId == g.toInt64)).map (fun r => (r.kind, r.entityId))).foldl AllowedSets.read ⟨∅, ∅⟩

/-- They hold the entities the table has entries for. -/
theorem AllowlistTable.holds_fetched_iff {t : AllowlistTable} {g : UInt64} {e : Entity} :
    (t.fetched g).Holds e ↔ Holds t g e := by
  have hempty : ¬(⟨∅, ∅⟩ : AllowedSets).Holds e := by cases e <;> simp [AllowedSets.Holds]
  rw [fetched, AllowedSets.holds_foldl_iff, or_iff_left hempty, Holds]
  simp only [List.mem_map, Table.mem_select_iff, beq_iff_eq, Prod.mk.injEq, AllowlistRow.Names, and_assoc]

@[simp] theorem run_fetchAllowed (g : UInt64) (w : World) :
    (fetchAllowed g).run serve w = ⟨.ok (w.allowlist.fetched g), [.selectAllowed g.toInt64], w⟩ := by
  simp [fetchAllowed, Prog.run_bind, Outcome.andThen, AllowlistTable.fetched]

/-- Sets that were read are those of the table. -/
theorem exec_fetchAllowed {g : UInt64} {w w' : World} {l : List Request} {sets : AllowedSets}
    (h : Prog.Exec serve (fetchAllowed g) w l (.ok sets) w') : sets = w.allowlist.fetched g ∧ w' = w := by
  rw [fetchAllowed, Prog.exec_bind_ok_iff] at h
  obtain ⟨rows, l₁, l₂, w₁, hrows, hret, -⟩ := h
  obtain ⟨-, hserved, rfl⟩ := Prog.exec_perform_ok_iff.1 hrows
  obtain ⟨-, hsets, rfl⟩ := Prog.exec_pure_iff.1 hret
  simp only [serve_selectAllowed, Except.ok.injEq] at hserved hsets
  exact ⟨by rw [hsets, ← hserved, AllowlistTable.fetched], rfl⟩

/-! ## The check -/

/-- The roles of the invoker, as far as they are known. -/
def Ctx.roleIds (ctx : Ctx) : List UInt64 :=
  match ctx.authorMember with
  | some member => member.roles
  | none => []

/-- The invoker passes through an entry of its own or of a role it has. -/
def AllowlistTable.Admits (t : AllowlistTable) (g : UInt64) (ctx : Ctx) : Prop :=
  Holds t g (.user ctx.author.id) ∨ ∃ r ∈ ctx.roleIds, Holds t g (.role r)

theorem isAllowed_fetched_iff {t : AllowlistTable} {g : UInt64} {ctx : Ctx} :
    isAllowed ctx.author.id ctx.roleIds (t.fetched g).users (t.fetched g).roles = true ↔ t.Admits g ctx := by
  simp only [isAllowed, Bool.or_eq_true, decide_eq_true_eq, List.any_eq_true, AllowlistTable.Admits,
    ← AllowlistTable.holds_fetched_iff, AllowedSets.Holds]

/-- The check decides whether the table admits the invoker. -/
theorem run_moderationAccessCheck {ctx : Ctx} {g : UInt64} (hg : ctx.guildId = some g) (w : World) :
    ∃ b, ((moderationAccessCheck ctx).run serve w).result = .ok b ∧ (b = true ↔ w.allowlist.Admits g ctx) := by
  refine ⟨_, ?_, isAllowed_fetched_iff⟩
  unfold moderationAccessCheck
  simp only [hg, Prog.run_bind, run_fetchAllowed, Outcome.andThen]
  change (Prog.run serve (if isAllowed ctx.author.id ctx.roleIds _ _ = true then _ else _) w).result = _
  split
  · rename_i h
    rw [h]
    rfl
  · rename_i h
    rw [Bool.not_eq_true] at h
    rw [h]
    rfl

/-- Whatever fails, an invoker that passes is admitted by the table. -/
theorem exec_moderationAccessCheck {ctx : Ctx} {w w' : World} {l : List Request}
    (h : Prog.Exec serve (moderationAccessCheck ctx) w l (.ok true) w') :
    ∃ g, ctx.guildId = some g ∧ w.allowlist.Admits g ctx := by
  unfold moderationAccessCheck at h
  cases hg : ctx.guildId with
  | none =>
    simp only [hg, Prog.exec_bind_ok_iff, Prog.exec_pure_iff, Except.ok.injEq, Bool.true_eq_false, false_and, and_false,
      exists_false] at h
  | some g =>
    simp only [hg] at h
    obtain ⟨sets, l₁, l₂, w₁, hsets, hrest, -⟩ := Prog.exec_bind_ok_iff.1 h
    obtain ⟨rfl, rfl⟩ := exec_fetchAllowed hsets
    refine ⟨g, rfl, isAllowed_fetched_iff.1 ?_⟩
    change Prog.Exec serve (if isAllowed ctx.author.id ctx.roleIds _ _ = true then _ else _) _ _ _ _ at hrest
    split at hrest
    · assumption
    · simp only [Prog.exec_bind_ok_iff, Prog.exec_pure_iff, Except.ok.injEq, Bool.true_eq_false, false_and, and_false,
        exists_false] at hrest

/-! ## The commands -/

/-- The entities an invocation of `/allow` or `/disallow` names. -/
def named (user : Option User) (role : Option Role) : List Entity :=
  user.toList.map (fun u => .user u.id) ++ role.toList.map (fun r => .role r.id)

/-- An invocation of `/allow` or `/disallow`. -/
inductive AllowlistCall where
  | allow (ctx : Ctx) (user : Option User) (role : Option Role)
  | disallow (ctx : Ctx) (user : Option User) (role : Option Role)

namespace AllowlistCall

/-- Where and by whom the command was invoked. -/
def ctx : AllowlistCall → Ctx
  | .allow ctx _ _ => ctx
  | .disallow ctx _ _ => ctx

/-- The entities it names. -/
def entities : AllowlistCall → List Entity
  | .allow _ user role => named user role
  | .disallow _ user role => named user role

/-- Whether it allows them. -/
def grants : AllowlistCall → Bool
  | .allow _ _ _ => true
  | .disallow _ _ _ => false

/-- The handler of the command. -/
def handler : AllowlistCall → Bot Unit
  | .allow ctx user role => ModerationBot.allow ctx user role
  | .disallow ctx user role => ModerationBot.disallow ctx user role

end AllowlistCall

namespace AllowlistTable

/-- The table after several entries of a guild were added. -/
def addRows (t : AllowlistTable) (g : UInt64) (addedBy : UInt64) (es : List Entity) : AllowlistTable :=
  es.foldl (fun t e => addRow t g e addedBy) t

/-- The table after several entries of a guild were removed. -/
def deleteRows (t : AllowlistTable) (g : UInt64) (es : List Entity) : AllowlistTable :=
  es.foldl (fun t e => t.delete (hit g e)) t

theorem holds_addRows_iff {t : AllowlistTable} {g g' addedBy : UInt64} {es : List Entity} {e : Entity} :
    Holds (addRows t g addedBy es) g' e ↔ (g' = g ∧ e ∈ es) ∨ Holds t g' e := by
  induction es generalizing t with
  | nil => simp [addRows]
  | cons x es ih =>
    rw [addRows, List.foldl_cons, ← addRows, ih, holds_addRow_iff, List.mem_cons, and_or_left, or_assoc, or_left_comm]

theorem holds_deleteRows_iff {t : AllowlistTable} {g g' : UInt64} {es : List Entity} {e : Entity} :
    Holds (deleteRows t g es) g' e ↔ Holds t g' e ∧ ¬(g' = g ∧ e ∈ es) := by
  induction es generalizing t with
  | nil => simp [deleteRows]
  | cons x es ih =>
    rw [deleteRows, List.foldl_cons, ← deleteRows, ih, holds_delete_iff, and_assoc, ← not_or, List.mem_cons, and_or_left]

/-- Entries that are there already are added without effect. -/
theorem addRows_of_holds {t : AllowlistTable} {g : UInt64} {es : List Entity} (h : ∀ e ∈ es, Holds t g e)
    (addedBy : UInt64) : addRows t g addedBy es = t := by
  induction es with
  | nil => rfl
  | cons e es ih =>
    rw [addRows, List.foldl_cons, addRow_of_holds (h e (by simp)), ← addRows]
    exact ih fun e' he' => h e' (List.mem_cons_of_mem e he')

end AllowlistTable

/-- The reply of `/allow`. -/
def addedReply (added : List String) : String :=
  if added = [] then "Specify a user and/or a role to allow."
  else "✅ Added to the moderation allowlist: " ++ joinWith ", " added ++ "."

/-- The reply of `/disallow`. -/
def removedReply (removed : List String) : String :=
  if removed = [] then "Nothing removed — specify a user and/or role currently on the allowlist."
  else "🗑️ Removed from the moderation allowlist: " ++ joinWith ", " removed ++ "."

/-- The labels of the entities named for which a condition holds. -/
def labels (on : Entity → Bool) (user : Option User) (role : Option Role) : List String :=
  (user.toList.filter (fun u => on (.user u.id))).map User.label ++
    (role.toList.filter (fun r => on (.role r.id))).map Role.label

theorem run_addEntry (g : UInt64) (e : Entity) (addedBy : UInt64) (w : World) :
    (addEntry g e.kind e.id addedBy).run serve w =
      ⟨.ok (), [.insertAllowed (AllowlistTable.entryRow g e addedBy)],
        { w with allowlist := w.allowlist.addRow g e addedBy }⟩ := rfl

theorem run_removeEntry (g : UInt64) (e : Entity) (w : World) :
    (removeEntry g e.kind e.id).run serve w =
      ⟨.ok (w.allowlist.select (AllowlistTable.hit g e)).length, [.deleteAllowed g.toInt64 e.kind e.id.toInt64],
        { w with allowlist := w.allowlist.delete (AllowlistTable.hit g e) }⟩ := rfl

/-- `/allow` adds the entities it names, and says so. -/
theorem run_allow {ctx : Ctx} {g : UInt64} (hg : ctx.guildId = some g) (user : Option User) (role : Option Role)
    (w : World) :
    (allow ctx user role).run serve w =
      ⟨.ok (), (named user role).map (fun e => .insertAllowed (AllowlistTable.entryRow g e ctx.author.id)) ++
        [.send { content := addedReply (labels (fun _ => true) user role) }],
        { w with allowlist := w.allowlist.addRows g ctx.author.id (named user role) }⟩ := by
  have hu : ∀ u : User, addEntry g kindUser u.id = addEntry g (Entity.user u.id).kind (Entity.user u.id).id := fun _ => rfl
  have hr : ∀ r : Role, addEntry g kindRole r.id = addEntry g (Entity.role r.id).kind (Entity.role r.id).id := fun _ => rfl
  cases user <;> cases role <;>
    simp [allow, Ctx.guild, hg, hu, hr, run_addEntry, Prog.run_bind, Outcome.andThen, say, addedReply, labels, named,
      AllowlistTable.addRows]

/-- `/disallow` removes the entities it names, and reports those that were there. -/
theorem run_disallow {ctx : Ctx} {g : UInt64} (hg : ctx.guildId = some g) (user : Option User) (role : Option Role)
    {w : World} {on : Entity → Bool} (hon : ∀ e, on e = true ↔ w.allowlist.Holds g e) :
    (disallow ctx user role).run serve w =
      ⟨.ok (), (named user role).map (fun e => .deleteAllowed g.toInt64 e.kind e.id.toInt64) ++
        [.send { content := removedReply (labels on user role) }],
        { w with allowlist := w.allowlist.deleteRows g (named user role) }⟩ := by
  have hu : ∀ u : User, removeEntry g kindUser u.id = removeEntry g (Entity.user u.id).kind (Entity.user u.id).id :=
    fun _ => rfl
  have hr : ∀ r : Role, removeEntry g kindRole r.id = removeEntry g (Entity.role r.id).kind (Entity.role r.id).id :=
    fun _ => rfl
  have hpos : ∀ e, (w.allowlist.select (AllowlistTable.hit g e)).length > 0 ↔ on e = true := by
    intro e
    rw [AllowlistTable.length_select_hit_pos_iff, hon]
  have hrole : ∀ (u : User) (r : Role), ((w.allowlist.delete (AllowlistTable.hit g (.user u.id))).select
      (AllowlistTable.hit g (.role r.id))).length > 0 ↔ on (.role r.id) = true := by
    intro u r
    rw [AllowlistTable.length_select_hit_pos_iff, AllowlistTable.holds_delete_iff, hon]
    simp
  cases user with
  | none =>
    cases role with
    | none => simp [disallow, Ctx.guild, hg, Prog.run_bind, Outcome.andThen, say, labels, named, removedReply,
        AllowlistTable.deleteRows]
    | some r =>
      cases hon : on (.role r.id) <;>
        simp [disallow, Ctx.guild, hg, hr, run_removeEntry, Prog.run_bind, Outcome.andThen, say, hpos, hon, labels, named,
          removedReply, AllowlistTable.deleteRows]
  | some u =>
    cases role with
    | none =>
      cases hon : on (.user u.id) <;>
        simp [disallow, Ctx.guild, hg, hu, run_removeEntry, Prog.run_bind, Outcome.andThen, say, hpos, hon, labels, named,
          removedReply, AllowlistTable.deleteRows]
    | some r =>
      cases honu : on (.user u.id) <;> cases honr : on (.role r.id) <;>
        simp [disallow, Ctx.guild, hg, hu, hr, run_removeEntry, Prog.run_bind, Outcome.andThen, say, hpos, hrole, honu, honr,
          labels, named, removedReply, AllowlistTable.deleteRows]

end ModerationBot
