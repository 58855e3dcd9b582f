import ModerationBot.Lemmas.Replies
import ModerationBot.Theorems.Authorization

namespace ModerationBot

open Prog

variable {guildOf : UInt64 → UInt64}

/-! ## The allowlist of the whole bot -/

/-- What the allowlist is, abstractly: which entities are on it, in which guilds. -/
abbrev Entries : Type := UInt64 × Entity → Bool

/-- The entity a stored kind and id name, if the kind is known. -/
def Entity.read (kind : Int16) (id : Int64) : Option Entity :=
  if kind = kindUser then some (.user id.toUInt64) else if kind = kindRole then some (.role id.toUInt64) else none

@[simp] theorem Entity.read_kind (e : Entity) : read e.kind e.id.toInt64 = some e := by
  cases e <;> simp [read, kind, Entity.id, kindUser, kindRole]

/-- The entries a table holds. -/
def AllowlistTable.entries (t : AllowlistTable) : Entries := fun k => decide (Holds t k.1 k.2)

/-- The entries admit an invoker: itself, or a role it is known to have. -/
def Entries.Admit (a : Entries) (g : UInt64) (ctx : Ctx) : Prop :=
  a (g, .user ctx.author.id) = true ∨ ∃ r ∈ ctx.roleIds, a (g, .role r) = true

/-- What a checked command issues after which reads of the allowlist, of whose entries something was found: the read itself; once they
admit the invoker, anything; and if they do not, the refusal. -/
def Invocation.Gated (inv : Invocation guildOf) (seen : Request → (Entries → Prop) → Prop) (q : BotRequest) : Prop :=
  inv.command.attributes.check = true → ∃ g, inv.ctx.guildId = some g ∧
    (q = .core (.selectAllowed g.toInt64) ∨ seen (.selectAllowed g.toInt64) (fun a => a.Admit g inv.ctx) ∨
      q = .core (.send denial) ∧ seen (.selectAllowed g.toInt64) fun a => ¬a.Admit g inv.ctx)

theorem Invocation.Gated.mono {inv : Invocation guildOf} {seen seen' : Request → (Entries → Prop) → Prop} {q : BotRequest}
    (h : inv.Gated seen q) (hs : ∀ q R, seen q R → seen' q R) : inv.Gated seen' q := fun hcheck => by
  obtain ⟨g, hg, hq | ha | ⟨hq, ha⟩⟩ := h hcheck
  · exact ⟨g, hg, Or.inl hq⟩
  · exact ⟨g, hg, Or.inr (Or.inl (hs _ _ ha))⟩
  · exact ⟨g, hg, Or.inr (Or.inr ⟨hq, hs _ _ ha⟩)⟩

/-- What a program has found of the entries. -/
def Found (past : Past) (q : Request) (R : Entries → Prop) : Prop := Saw past q fun w => R w.allowlist.entries

/-- What a command over the allowlist replies after which statements, of whose entries something was found: `/allow` confirms what it
added, `/disallow` reports what each of its deletions found, and `/allowlist` shows the entries of the guild. -/
def Command.Reports (ctx : Ctx) (seen : Request → (Entries → Prop) → Prop) (reply : CreateReply) : Command → Prop
  | .allow user role => ∃ g, ctx.guildId = some g ∧ reply = { content := addedReply (labels (fun _ => true) user role) } ∧
      ∀ e ∈ named user role, seen (.insertAllowed (AllowlistTable.entryRow g e ctx.author.id)) fun _ => True
  | .disallow user role => ∃ g on, ctx.guildId = some g ∧ reply = { content := removedReply (labels on user role) } ∧
      ∀ e ∈ named user role, seen (.deleteAllowed g.toInt64 e.kind e.id.toInt64) fun a => on e = a (g, e)
  | .allowlist iter => ∃ g sets, ctx.guildId = some g ∧ reply = { content := allowlistReply iter sets } ∧
      seen (.selectAllowed g.toInt64) fun a => ∀ e, sets.Holds e ↔ a (g, e) = true
  | _ => True

theorem Command.Reports.mono {ctx : Ctx} {seen seen' : Request → (Entries → Prop) → Prop} {reply : CreateReply}
    {command : Command} (h : command.Reports ctx seen reply) (hs : ∀ q R, seen q R → seen' q R) :
    command.Reports ctx seen' reply := by
  cases command with
  | allow user role =>
    obtain ⟨g, hg, hr, he⟩ := h
    exact ⟨g, hg, hr, fun e hmem => hs _ _ (he e hmem)⟩
  | disallow user role =>
    obtain ⟨g, on, hg, hr, he⟩ := h
    exact ⟨g, on, hg, hr, fun e hmem => hs _ _ (he e hmem)⟩
  | allowlist iter =>
    obtain ⟨g, sets, hg, hr, hsets⟩ := h
    exact ⟨g, sets, hg, hr, hs _ _ hsets⟩
  | _ => trivial

/-- The replies of a command report what it found. -/
def Invocation.Reported (inv : Invocation guildOf) (past : Past) : Request → Prop
  | .send reply => inv.command.Reports inv.ctx (Found past) reply
  | _ => True

section Commands

variable {inv : Invocation guildOf} {past : Past} {g : UInt64}

theorem Found.mono {past' : Past} {q : Request} {R : Entries → Prop} (h : Found past q R) (hp : past <+: past') :
    Found past' q R := Saw.mono h hp

end Commands

end ModerationBot
