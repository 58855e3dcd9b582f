import Mathlib.Data.Finset.Insert
import Mathlib.Data.Finset.Lattice.Basic
import ModerationBot.Text
import ModerationBot.World

/-!
# The moderation allowlist

`src/access.rs`: the access gate, its store and the commands that edit it.
-/

namespace ModerationBot

/-- An invoker passes when allowlisted by id or through a role it holds. -/
def isAllowed (invokerId : UInt64) (invokerRoleIds : List UInt64) (allowedUserIds allowedRoleIds : Finset UInt64) : Bool :=
  decide (invokerId ∈ allowedUserIds) || invokerRoleIds.any (fun roleId => decide (roleId ∈ allowedRoleIds))

def kindUser : Int16 := 0

def kindRole : Int16 := 1

/-- The allowlisted users and roles of a guild. -/
structure AllowedSets where
  users : Finset UInt64
  roles : Finset UInt64

/-- One row read: its id goes to the set of its kind; an unknown kind is skipped. -/
def AllowedSets.read (sets : AllowedSets) (row : Int16 × Int64) : AllowedSets :=
  if row.1 = kindUser then { sets with users := insert row.2.toUInt64 sets.users }
  else if row.1 = kindRole then { sets with roles := insert row.2.toUInt64 sets.roles }
  else sets

/-- Load the allowlist of a guild. -/
def fetchAllowed (guildId : UInt64) : Bot AllowedSets := do
  let rows : List (Int16 × Int64) ← ask (.selectAllowed guildId.toInt64)
  pure (rows.foldl AllowedSets.read ⟨∅, ∅⟩)

/-- Add an entry; an entry already there is kept. -/
def addEntry (guildId : UInt64) (kind : Int16) (entityId addedBy : UInt64) : Bot Unit :=
  ask (.insertAllowed ⟨guildId.toInt64, kind, entityId.toInt64, addedBy.toInt64⟩)

/-- Remove an entry; the number of rows removed. -/
def removeEntry (guildId : UInt64) (kind : Int16) (entityId : UInt64) : Bot Nat :=
  ask (.deleteAllowed guildId.toInt64 kind entityId.toInt64)

/-- The check of the moderation commands: the invoker is on the allowlist of the guild. -/
def moderationAccessCheck (ctx : Ctx) : Bot Bool :=
  match ctx.guildId with
  | none => do
    say "This command can only be used in a server."
    pure false
  | some guildId => do
    let roleIds := match ctx.authorMember with
      | some member => member.roles
      | none => []
    let allowed ← fetchAllowed guildId
    if isAllowed ctx.author.id roleIds allowed.users allowed.roles then pure true
    else do
      say "⛔ You are not on this server's moderation allowlist. An admin can add you with `/allow`."
      pure false

/-- How a reply names an account. -/
def User.label (u : User) : String := "user **" ++ u.name ++ "**"

/-- How a reply names a role. -/
def Role.label (r : Role) : String := "role **" ++ r.name ++ "**"

/-- Add a user and/or a role to the allowlist of the guild. -/
def allow (ctx : Ctx) (user : Option User) (role : Option Role) : Bot Unit := do
  let guildId ← ctx.guild
  let addedUser : List String ← match user with
    | some u => do
      addEntry guildId kindUser u.id ctx.author.id
      pure [u.label]
    | none => pure []
  let addedRole : List String ← match role with
    | some r => do
      addEntry guildId kindRole r.id ctx.author.id
      pure [r.label]
    | none => pure []
  let added := addedUser ++ addedRole
  if added = [] then say "Specify a user and/or a role to allow."
  else say ("✅ Added to the moderation allowlist: " ++ joinWith ", " added ++ ".")

/-- Remove a user and/or a role from the allowlist of the guild. -/
def disallow (ctx : Ctx) (user : Option User) (role : Option Role) : Bot Unit := do
  let guildId ← ctx.guild
  let removedUser : List String ← match user with
    | some u => do
      let n ← removeEntry guildId kindUser u.id
      pure (if n > 0 then [u.label] else [])
    | none => pure []
  let removedRole : List String ← match role with
    | some r => do
      let n ← removeEntry guildId kindRole r.id
      pure (if n > 0 then [r.label] else [])
    | none => pure []
  let removed := removedUser ++ removedRole
  if removed = [] then say "Nothing removed — specify a user and/or role currently on the allowlist."
  else say ("🗑️ Removed from the moderation allowlist: " ++ joinWith ", " removed ++ ".")

/-- The order in which a hash set is iterated: any enumeration without repetition. -/
structure IterOrder where
  list : Finset UInt64 → List UInt64
  nodup : ∀ s, (list s).Nodup
  mem_iff : ∀ s x, x ∈ list s ↔ x ∈ s

/-- How the listing shows a set of ids. -/
def formatIds (iter : IterOrder) (ids : Finset UInt64) : String :=
  if ids = ∅ then "—"
  else joinWith ", " ((iter.list ids).map (fun id => "`" ++ toString id ++ "`"))

/-- Show the allowlist of the guild. -/
def showAllowlist (iter : IterOrder) (ctx : Ctx) : Bot Unit := do
  let guildId ← ctx.guild
  let allowed ← fetchAllowed guildId
  if allowed.users = ∅ ∧ allowed.roles = ∅ then
    say "The moderation allowlist is empty. Add entries with `/allow`."
  else
    say ("**Moderation allowlist**\nUsers: " ++ formatIds iter allowed.users ++ "\nRoles: " ++
      formatIds iter allowed.roles)

end ModerationBot
