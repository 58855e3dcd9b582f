import Mathlib.Logic.Relation
import ModerationBot.Lemmas.Moderation

namespace ModerationBot

/-! ## The moderation hierarchy of a guild -/

/-- A guild the bot has in its cache. -/
structure Snapshot (w : World) where
  guildId : UInt64
  guild : Guild
  cached : w.guilds guildId = some guild

namespace Snapshot

variable {w : World} (s : Snapshot w)

/-- A member of the guild, as the guild knows it. -/
def Member : Type := { m : ModerationBot.Member // w.members s.guildId m.user.id = some m }

variable {s}

/-- The account of a member. -/
def Member.id (m : s.Member) : UInt64 := m.val.user.id

/-- A member is the one with its id. -/
theorem Member.ext_id {a b : s.Member} (h : a.id = b.id) : a = b :=
  Subtype.ext (Option.some.inj (a.property.symm.trans ((congrArg (w.members s.guildId) h).trans b.property)))

variable (s)

/-- The member invokes a command in the guild. -/
def Invokes (a : s.Member) (ctx : Ctx) : Prop := ctx.guildId = some s.guildId ∧ ctx.author = a.val.user

/-- In the context, `authorize` lets the invoker act on the member. -/
def Allows (ctx : Ctx) (b : s.Member) : Prop := ((authorize ctx b.val).run serve w).result = .ok (.ok ())

/-- Somewhere in the guild, `authorize` lets the first act on the second. -/
def Above (a b : s.Member) : Prop := ∃ ctx, s.Invokes a ctx ∧ s.Allows ctx b

/-- The owner outranks everybody else, and otherwise who has the higher top role outranks the other. -/
def Outranks (a b : s.Member) : Prop :=
  b.id ≠ s.guild.ownerId ∧ (a.id = s.guild.ownerId ∨ s.guild.highest b.val.roles < s.guild.highest a.val.roles)

theorem outranks_irrefl (a : s.Member) : ¬s.Outranks a a := by
  intro h
  obtain ⟨hother, howner | hlt⟩ := h
  · exact hother howner
  · exact Int.lt_irrefl _ hlt

variable {s} in
theorem Outranks.trans {a b c : s.Member} (hab : s.Outranks a b) (hbc : s.Outranks b c) : s.Outranks a c := by
  obtain ⟨hb, ha⟩ := hab
  obtain ⟨hc, hrole⟩ := hbc
  have hlow := hrole.resolve_left hb
  exact ⟨hc, ha.imp_right fun hhigh => Int.lt_trans hlow hhigh⟩

/-- The decision of `authorize` between two members; the rest of the context has no part in it. -/
theorem allows_iff {a : s.Member} {ctx : Ctx} (h : s.Invokes a ctx) (b : s.Member) : s.Allows ctx b ↔
    b.id ≠ a.id ∧ b.id ≠ w.bot.id ∧ b.id ≠ s.guild.ownerId ∧
      (a.id = s.guild.ownerId ∨ s.guild.highest a.val.roles > s.guild.highest b.val.roles) := by
  obtain ⟨hg, ha⟩ := h
  have hactor : w.members s.guildId ctx.author.id = some a.val := by rw [ha, a.property]
  rw [Allows, run_authorize hg hactor s.cached, Except.ok.injEq, checkModerationAllowed_eq_ok_iff]
  simp [World.facts, ha, Member.id]

/-- Who is above whom. -/
theorem above_iff (a b : s.Member) : s.Above a b ↔
    b.id ≠ a.id ∧ b.id ≠ w.bot.id ∧ b.id ≠ s.guild.ownerId ∧
      (a.id = s.guild.ownerId ∨ s.guild.highest a.val.roles > s.guild.highest b.val.roles) := by
  constructor
  · intro h
    obtain ⟨ctx, hctx, h⟩ := h
    exact (s.allows_iff hctx b).1 h
  · intro h
    have hctx : s.Invokes a ⟨some s.guildId, 0, a.val.user, none⟩ := ⟨rfl, rfl⟩
    exact ⟨_, hctx, (s.allows_iff hctx b).2 h⟩

/-- A member is above those that it outranks, save the bot. -/
theorem above_iff_outranks (a b : s.Member) : s.Above a b ↔ b.id ≠ w.bot.id ∧ s.Outranks a b := by
  rw [above_iff]
  constructor
  · intro h
    obtain ⟨-, hbot, hb, ha⟩ := h
    exact ⟨hbot, hb, ha⟩
  · intro h
    obtain ⟨hbot, hout⟩ := h
    refine ⟨fun hid => ?_, hbot, hout⟩
    obtain rfl := Member.ext_id hid
    exact s.outranks_irrefl b hout

end Snapshot

/-- The laws of the hierarchy of a guild. -/
structure HierarchyLawful {w : World} (s : Snapshot w) : Prop where
  /-- Who is above another is so wherever in the guild it invokes the command. -/
  uniform : ∀ a b, s.Above a b → ∀ ctx, s.Invokes a ctx → s.Allows ctx b
  irrefl : ∀ a, ¬s.Above a a
  asymm : ∀ a b, s.Above a b → ¬s.Above b a
  trans : ∀ a b c, s.Above a b → s.Above b c → s.Above a c
  /-- No cycle of members can act on one another. -/
  acyclic : ∀ a, ¬Relation.TransGen s.Above a a
  /-- Nobody is above the owner or the bot. -/
  protected_ids : ∀ a b, b.id = s.guild.ownerId ∨ b.id = w.bot.id → ¬s.Above a b
  /-- The owner is above everybody else, save the bot. -/
  owner_above : ∀ a b, a.id = s.guild.ownerId → b.id ≠ s.guild.ownerId → b.id ≠ w.bot.id → s.Above a b

/-- In every guild snapshot the hierarchy is a strict order below the owner. -/
theorem hierarchy_lawful {w : World} (s : Snapshot w) : HierarchyLawful s := by
  have hirrefl : ∀ a, ¬s.Above a a := by
    intro a h
    obtain ⟨-, hout⟩ := (s.above_iff_outranks a a).1 h
    exact s.outranks_irrefl a hout
  have htrans : ∀ a b c, s.Above a b → s.Above b c → s.Above a c := by
    intro a b c hab hbc
    rw [s.above_iff_outranks] at hab hbc ⊢
    exact ⟨hbc.1, hab.2.trans hbc.2⟩
  refine ⟨?_, hirrefl, ?_, htrans, ?_, ?_, ?_⟩
  · intro a b h ctx hctx
    exact (s.allows_iff hctx b).2 ((s.above_iff a b).1 h)
  · intro a b hab hba
    exact hirrefl a (htrans a b a hab hba)
  · intro a h
    have htr : IsTrans s.Member s.Above := ⟨htrans⟩
    rw [Relation.transGen_eq_self] at h
    exact hirrefl a h
  · intro a b hb h
    obtain ⟨-, hbot, howner, -⟩ := (s.above_iff a b).1 h
    exact hb.elim howner hbot
  · intro a b ha hb hbot
    exact (s.above_iff a b).2 ⟨fun h => hb (h.trans ha), hbot, hb, Or.inl ha⟩

/-! ### A guild with a moderator -/

namespace Staffed

def owner : Member := ⟨1, ⟨10, "owner", none, false⟩, []⟩

def moderator : Member := ⟨1, ⟨20, "moderator", none, false⟩, [5, 7, 5]⟩

/-- The guild does not know its role. -/
def guest : Member := ⟨1, ⟨30, "guest", none, false⟩, [6]⟩

def guild : Guild := ⟨10, fun r => if r = 5 then some 3 else if r = 7 then some 2 else none⟩

def world : World :=
  { World.initial ⟨99, "boyfucker", none, true⟩ (fun n => (.ofNat n, "token")) with
    guilds := fun g => if g = 1 then some guild else none
    members := fun _ u => if u = 10 then some owner else if u = 20 then some moderator else if u = 30 then some guest else none }

def snapshot : Snapshot world := ⟨1, guild, rfl⟩

end Staffed

open Staffed in
theorem hierarchy_lawful_staffed : HierarchyLawful snapshot ∧ snapshot.Above ⟨owner, rfl⟩ ⟨moderator, rfl⟩ ∧
    snapshot.Above ⟨moderator, rfl⟩ ⟨guest, rfl⟩ ∧ ¬snapshot.Above ⟨guest, rfl⟩ ⟨moderator, rfl⟩ := by
  have hlawful : HierarchyLawful snapshot := hierarchy_lawful snapshot
  have howner : snapshot.Above ⟨owner, rfl⟩ ⟨moderator, rfl⟩ := hlawful.owner_above _ _ rfl (by decide) (by decide)
  have hmoderator : snapshot.Above ⟨moderator, rfl⟩ ⟨guest, rfl⟩ := (snapshot.above_iff _ _).2 (by decide)
  exact ⟨hlawful, howner, hmoderator, hlawful.asymm _ _ hmoderator⟩

end ModerationBot
