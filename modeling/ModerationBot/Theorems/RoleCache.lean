import Mathlib.Order.Basic
import ModerationBot.Lemmas.Moderation

namespace ModerationBot

/-! ## The top role a guild knows -/

/-- The positions of the roles a guild knows among some. -/
def Guild.positions (guild : Guild) (roles : List UInt64) : List Int :=
  (roles.filterMap guild.roles).map (fun position : Nat => (position : Int))

theorem Guild.mem_positions_iff {guild : Guild} {roles : List UInt64} {x : Int} :
    x ∈ guild.positions roles ↔ ∃ r ∈ roles, ∃ p, guild.roles r = some p ∧ x = (p : Int) := by
  simp only [positions, List.mem_map, List.mem_filterMap]
  constructor
  · rintro ⟨p, ⟨r, hr, hp⟩, rfl⟩
    exact ⟨r, hr, p, hp, rfl⟩
  · rintro ⟨r, hr, p, hp, rfl⟩
    exact ⟨p, ⟨r, hr, hp⟩, rfl⟩

theorem Guild.highest_def (guild : Guild) (roles : List UInt64) :
    guild.highest roles = (guild.positions roles).max?.getD 0 := by
  simp [highest, positions, List.map_eq_flatMap]

/-- The top role is 0 or the position of a role that is known. -/
theorem Guild.highest_eq (guild : Guild) (roles : List UInt64) :
    guild.highest roles = 0 ∨ ∃ r ∈ roles, ∃ p, guild.roles r = some p ∧ guild.highest roles = (p : Int) := by
  rw [highest_def]
  cases h : (guild.positions roles).max? with
  | none => exact Or.inl rfl
  | some top => exact Or.inr (mem_positions_iff.1 (List.max?_mem h))

/-- No role that is known is above the top role. -/
theorem Guild.le_highest {guild : Guild} {roles : List UInt64} {r : UInt64} {p : Nat} (hr : r ∈ roles)
    (hp : guild.roles r = some p) : (p : Int) ≤ guild.highest roles := by
  have hmem : (p : Int) ∈ guild.positions roles := mem_positions_iff.2 ⟨r, hr, p, hp, rfl⟩
  rw [highest_def]
  cases h : (guild.positions roles).max? with
  | none =>
    rw [List.max?_eq_none_iff.1 h] at hmem
    exact absurd hmem List.not_mem_nil
  | some top => exact (List.max?_eq_some_iff.1 h).2 _ hmem

theorem Guild.highest_nonneg (guild : Guild) (roles : List UInt64) : 0 ≤ guild.highest roles := by
  rcases guild.highest_eq roles with h | ⟨r, hr, p, hp, h⟩
  · rw [h]
  · rw [h]
    omega

/-- A top role is below a bound when the bound is positive and no role that is known reaches it. -/
theorem Guild.highest_lt_iff {guild : Guild} {roles : List UInt64} {bound : Int} : guild.highest roles < bound ↔
    0 < bound ∧ ∀ r ∈ roles, ∀ p, guild.roles r = some p → (p : Int) < bound := by
  constructor
  · intro h
    exact ⟨(guild.highest_nonneg roles).trans_lt h, fun r hr p hp => (Guild.le_highest hr hp).trans_lt h⟩
  · intro h
    obtain ⟨hpos, hall⟩ := h
    rcases guild.highest_eq roles with he | ⟨r, hr, p, hp, he⟩
    · rwa [he]
    · rw [he]
      exact hall r hr p hp

/-- A top role above another is that of a role above all others that are known. -/
theorem Guild.exists_leading (guild : Guild) {roles others : List UInt64} (h : guild.highest roles > guild.highest others) :
    ∃ r ∈ roles, ∃ p, guild.roles r = some p ∧ 0 < p ∧ ∀ r' ∈ others, ∀ p', guild.roles r' = some p' → p' < p := by
  obtain ⟨hpos, hbelow⟩ := Guild.highest_lt_iff.1 h
  rcases guild.highest_eq roles with he | ⟨r, hr, p, hp, he⟩
  · omega
  · rw [he] at hpos hbelow
    exact ⟨r, hr, p, hp, by omega, fun r' hr' p' hp' => by exact_mod_cast hbelow r' hr' p' hp'⟩

/-! ## A cache with gaps -/

/-- What the cache may hold of a guild: its owner, and some of its roles at their positions. -/
structure CacheOf (full : Guild) where
  guild : Guild
  owner_eq : guild.ownerId = full.ownerId
  positions : ∀ r p, guild.roles r = some p → full.roles r = some p

/-- Gaps in the cache lower a top role, if anything. -/
theorem CacheOf.highest_le {full : Guild} (cache : CacheOf full) (roles : List UInt64) :
    cache.guild.highest roles ≤ full.highest roles := by
  rcases cache.guild.highest_eq roles with h | ⟨r, hr, p, hp, h⟩
  · rw [h]
    exact full.highest_nonneg roles
  · rw [h]
    exact Guild.le_highest hr (cache.positions r p hp)

/-- A gap raises a top role only through a role that is not known. -/
theorem CacheOf.exists_unknown {full : Guild} (cache : CacheOf full) {roles : List UInt64} {bound : Int}
    (hlow : cache.guild.highest roles < bound) (hhigh : bound ≤ full.highest roles) :
    ∃ r ∈ roles, cache.guild.roles r = none ∧ ∃ p, full.roles r = some p ∧ bound ≤ (p : Int) := by
  rcases full.highest_eq roles with h | ⟨r, hr, p, hp, h⟩
  · have hzero := cache.guild.highest_nonneg roles
    omega
  · refine ⟨r, hr, ?_, p, hp, by omega⟩
    cases hc : cache.guild.roles r with
    | none => rfl
    | some p' =>
      have hle := Guild.le_highest hr hc
      have hsame := cache.positions r p' hc
      rw [hp, Option.some.injEq] at hsame
      omega

namespace Attempt

/-- `authorize` allows the attempt when the cache holds the given guild. -/
def Allowed (a : Attempt) (guild : Guild) : Prop :=
  ((authorize a.ctx a.target).run serve
    { a.world with guilds := Function.update a.world.guilds a.guildId (some guild) }).result = .ok (.ok ())

/-- The attempt is allowed under the rule of the README. -/
theorem allowed_iff (a : Attempt) (guild : Guild) : a.Allowed guild ↔
    a.target.user.id ≠ a.ctx.author.id ∧ a.target.user.id ≠ a.world.bot.id ∧ a.target.user.id ≠ guild.ownerId ∧
      (a.ctx.author.id = guild.ownerId ∨ guild.highest a.actor.roles > guild.highest a.target.roles) := by
  have hcached : (Function.update a.world.guilds a.guildId (some guild)) a.guildId = some guild := Function.update_self _ _ _
  rw [Allowed, @run_authorize { a.world with guilds := Function.update a.world.guilds a.guildId (some guild) } a.ctx a.guildId guild
    a.actor a.in_guild a.is_member hcached, Except.ok.injEq, checkModerationAllowed_eq_ok_iff]
  simp [World.facts]

/-- The target, who is neither the actor, the bot nor the owner, has a role that the cache does not know and that is at least as high
as every role of the actor, who is not the owner; among the roles the cache knows, the actor leads. -/
structure Exposed (a : Attempt) {full : Guild} (cache : CacheOf full) : Prop where
  others : a.target.user.id ≠ a.ctx.author.id ∧ a.target.user.id ≠ a.world.bot.id ∧ a.target.user.id ≠ full.ownerId ∧
    a.ctx.author.id ≠ full.ownerId
  leads : ∃ r ∈ a.actor.roles, ∃ p, cache.guild.roles r = some p ∧ 0 < p ∧
    ∀ r' ∈ a.target.roles, ∀ p', cache.guild.roles r' = some p' → p' < p
  hidden : ∃ r ∈ a.target.roles, cache.guild.roles r = none ∧ ∃ p, full.roles r = some p ∧
    ∀ r' ∈ a.actor.roles, ∀ p', full.roles r' = some p' → p' ≤ p

/-- What is allowed with a cache is allowed with the full guild exactly when no role the cache misses exposes the target. -/
theorem allowed_full_iff (a : Attempt) {full : Guild} (cache : CacheOf full) :
    (a.Allowed cache.guild → a.Allowed full) ↔ ¬a.Exposed cache := by
  have hactor := cache.highest_le a.actor.roles
  rw [allowed_iff, allowed_iff, cache.owner_eq]
  constructor
  · intro h hexposed
    obtain ⟨⟨hself, hbot, howner, hactorOwner⟩, ⟨r, hr, p, hp, hpos, hknown⟩, ⟨r', hr', -, p', hp', hall⟩⟩ := hexposed
    have hlow : cache.guild.highest a.target.roles < (p : Int) :=
      Guild.highest_lt_iff.2 ⟨by omega, fun x hx q hq => by exact_mod_cast hknown x hx q hq⟩
    have hlead := Guild.le_highest hr hp
    obtain ⟨-, -, -, hfull⟩ := h ⟨hself, hbot, howner, Or.inr (hlow.trans_le hlead)⟩
    have htop := hfull.resolve_left hactorOwner
    have hrole := Guild.le_highest hr' hp'
    have hbelow : full.highest a.actor.roles < (p' : Int) + 1 :=
      Guild.highest_lt_iff.2 ⟨by omega, fun x hx q hq => by have hq' := hall x hx q hq; omega⟩
    omega
  · intro hexposed h
    obtain ⟨hself, hbot, howner, hcached⟩ := h
    refine ⟨hself, hbot, howner, ?_⟩
    by_cases hactorOwner : a.ctx.author.id = full.ownerId
    · exact Or.inl hactorOwner
    · have hlow := hcached.resolve_left hactorOwner
      refine Or.inr ?_
      by_contra hhigh
      refine hexposed ⟨⟨hself, hbot, howner, hactorOwner⟩, cache.guild.exists_leading hlow, ?_⟩
      have hbelow : cache.guild.highest a.target.roles < full.highest a.actor.roles := by omega
      have hreach : full.highest a.actor.roles ≤ full.highest a.target.roles := by omega
      obtain ⟨r, hr, hunknown, p, hp, hle⟩ := cache.exists_unknown hbelow hreach
      refine ⟨r, hr, hunknown, p, hp, fun r' hr' p' hp' => ?_⟩
      have hrole := Guild.le_highest hr' hp'
      omega

end Attempt

/-! ### A target whose top role is missing -/

namespace MissingRole

/-- A guild with two roles. -/
def full : Guild := ⟨10, fun r => if r = 1 then some 5 else if r = 2 then some 10 else none⟩

/-- The cache knows the lower one. -/
def cache : CacheOf full where
  guild := ⟨10, fun r => if r = 1 then some 5 else none⟩
  owner_eq := rfl
  positions r p h := by
    simp only [full]
    by_cases hr : r = 1 <;> simp_all

/-- A member with the lower role. -/
def moderator : Member := ⟨1, ⟨20, "moderator", none, false⟩, [1]⟩

/-- A member with the higher role. -/
def admin : Member := ⟨1, ⟨30, "admin", none, false⟩, [2]⟩

/-- The moderator attempts to act on the admin. -/
def attempt : Attempt where
  world := { World.initial ⟨99, "boyfucker", none, true⟩ (fun n => (.ofNat n, "token")) with members := fun _ _ => some moderator }
  ctx := ⟨some 1, 2, moderator.user, some moderator⟩
  guildId := 1
  actor := moderator
  target := admin
  in_guild := rfl
  is_member := rfl

/-- The cache lets the moderator act on the admin; the full guild does not. -/
theorem allowed_by_cache : attempt.Allowed cache.guild ∧ ¬attempt.Allowed full := by
  rw [Attempt.allowed_iff, Attempt.allowed_iff]
  decide

end MissingRole

end ModerationBot
