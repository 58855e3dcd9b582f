import ModerationBot.Commands.Moderation

/-!
# The authorization of a moderation action

What the commands make of the numbers among their arguments, and what `authorize` resolves and decides. An actor may act on a target
when the target is neither the bot nor the owner nor the actor, and the actor is the owner or has the higher top role.
-/

namespace ModerationBot

/-! ## Numbers among the arguments -/

/-- A nonnegative `i64` is cast to a `u64` of the same value. -/
theorem toNat_toUInt64 {x : Int64} (h : 0 ≤ x.toInt) : (x.toUInt64.toNat : Int) = x.toInt := by
  rw [Int64.toNat_toUInt64_of_le (Int64.le_iff_toInt_le.2 h), ← Int64.toNat_toInt, Int.toNat_of_nonneg h]

/-- An `i64` in the range of a `u8` is cast to a `u8` of the same value. -/
theorem toNat_toUInt8 {x : Int64} (h : 0 ≤ x.toInt) (hle : x.toInt ≤ 255) : (x.toUInt64.toUInt8.toNat : Int) = x.toInt := by
  have hcast := toNat_toUInt64 h
  rw [UInt64.toNat_toUInt8]
  omega

/-- A `u64` in the range of an `i64` is cast to an `i64` of the same value. -/
theorem toInt_toInt64 {x : UInt64} (h : x.toNat ≤ 9223372036854775807) : x.toInt64.toInt = x.toNat := by
  have hcond := BitVec.toInt_eq_toNat_cond x.toBitVec
  rw [if_pos (by rw [UInt64.toNat_toBitVec]; omega)] at hcond
  exact hcond

/-- A sum that fits into an `i64` is computed without overflow. -/
theorem toInt_add {x y : Int64} (hx : 0 ≤ x.toInt) (hy : 0 ≤ y.toInt) (h : x.toInt + y.toInt ≤ 9223372036854775807) :
    (x + y).toInt = x.toInt + y.toInt := by
  rw [Int64.toInt_add]
  exact Int.bmod_eq_of_le (by omega) (by omega)

/-- The end of a timeout is computed without overflow while the clock leaves room for the longest one. -/
theorem toInt_until {clock : UInt64} {secs : Nat} (hclock : clock.toNat ≤ 9223372036854775807 - 2419200) (hsecs : secs ≤ 2419200) :
    (clock.toInt64 + (UInt64.ofNat secs).toInt64).toInt = clock.toNat + secs := by
  have hnow := @toInt_toInt64 clock (by omega)
  have hof : (UInt64.ofNat secs).toNat = secs := UInt64.toNat_ofNat_of_lt' (by rw [UInt64.size]; omega)
  have hlength := @toInt_toInt64 (UInt64.ofNat secs) (by omega)
  rw [toInt_add (by omega) (by omega) (by omega), hnow, hlength, hof]

/-- The purge count is accepted exactly in its range. -/
theorem validatePurgeCount_eq_ok_iff {count : Int64} {limit : UInt8} : validatePurgeCount count = .ok limit ↔
    (1 ≤ count.toInt ∧ count.toInt ≤ 100) ∧ limit = count.toUInt64.toUInt8 := by
  have hlow : 1 ≤ count ↔ 1 ≤ count.toInt := Int64.le_iff_toInt_le
  have hhigh : count ≤ 100 ↔ count.toInt ≤ 100 := Int64.le_iff_toInt_le
  rw [validatePurgeCount, ← hlow, ← hhigh]
  by_cases h : 1 ≤ count ∧ count ≤ 100
  · rw [if_pos h, Except.ok.injEq, and_iff_right h, eq_comm]
  · rw [if_neg h]
    exact iff_of_false (by simp) fun hc => h hc.1

/-- The ban window is accepted exactly in its range. -/
theorem validateBanDeleteDays_eq_ok_iff {days : Int64} {secs : UInt32} : validateBanDeleteDays days = .ok secs ↔
    (0 ≤ days.toInt ∧ days.toInt ≤ 7) ∧ secs = days.toUInt64.toUInt32 * 86400 := by
  have hlow : 0 ≤ days ↔ 0 ≤ days.toInt := Int64.le_iff_toInt_le
  have hhigh : days ≤ 7 ↔ days.toInt ≤ 7 := Int64.le_iff_toInt_le
  rw [validateBanDeleteDays, ← hlow, ← hhigh]
  by_cases h : 0 ≤ days ∧ days ≤ 7
  · rw [if_pos h, Except.ok.injEq, and_iff_right h, eq_comm]
  · rw [if_neg h]
    exact iff_of_false (by simp) fun hc => h hc.1

/-! ## The decision -/

/-- The facts `authorize` resolves from the guild and the two members. -/
def World.facts (w : World) (guild : Guild) (actorId : UInt64) (actor target : Member) : ModCheck where
  actorId := actorId
  targetId := target.user.id
  botId := w.bot.id
  actorIsOwner := actorId == guild.ownerId
  targetIsOwner := target.user.id == guild.ownerId
  actorTopRole := guild.highest actor.roles
  targetTopRole := guild.highest target.roles

/-- The decision, as the rule the README gives. -/
theorem checkModerationAllowed_eq_ok_iff (check : ModCheck) : checkModerationAllowed check = .ok () ↔
    check.targetId ≠ check.actorId ∧ check.targetId ≠ check.botId ∧ check.targetIsOwner = false ∧
      (check.actorIsOwner = true ∨ check.actorTopRole > check.targetTopRole) := by
  unfold checkModerationAllowed
  by_cases hself : check.targetId = check.actorId
  · simp [hself]
  · rw [if_neg hself]
    by_cases hbot : check.targetId = check.botId
    · simp [hbot]
    · rw [if_neg hbot]
      cases hto : check.targetIsOwner
      · cases hao : check.actorIsOwner
        · by_cases htop : check.actorTopRole > check.targetTopRole <;> simp [hself, hbot, htop]
        · simp [hself, hbot]
      · simp

/-- With its snapshot at hand, `authorize` decides on the facts. -/
theorem run_authorize {w : World} {ctx : Ctx} {g : UInt64} {guild : Guild} {actor : Member} (hg : ctx.guildId = some g)
    (ha : w.members g ctx.author.id = some actor) (hc : w.guilds g = some guild) (target : Member) :
    (authorize ctx target).run serve w = ⟨.ok (checkModerationAllowed (w.facts guild ctx.author.id actor target)),
      [.currentUser, .member g ctx.author.id, .cachedGuild g], w⟩ := by
  simp [authorize, Ctx.guild, hg, Prog.run_bind, Outcome.andThen, ha, hc, World.facts]

/-- A member that was fetched is the member of the guild. -/
theorem exec_member_ok {w w' : World} {g u : UInt64} {m : Member} {l : List Request}
    (h : Prog.Exec serve (ask (.member g u)) w l (.ok m) w') : w.members g u = some m ∧ w' = w := by
  obtain ⟨-, hserved, rfl⟩ := Prog.exec_perform_ok_iff.1 h
  cases hm : w.members g u with
  | none => simp [hm] at hserved
  | some m' => simpa [hm] using hserved

/-- Whatever fails, a decision of `authorize` is the one on the facts. -/
theorem exec_authorize {w w' : World} {ctx : Ctx} {target : Member} {l : List Request} {d : Except ModError Unit}
    (h : Prog.Exec serve (authorize ctx target) w l (.ok d) w') :
    ∃ g guild actor, ctx.guildId = some g ∧ w.members g ctx.author.id = some actor ∧ w.guilds g = some guild ∧
      d = checkModerationAllowed (w.facts guild ctx.author.id actor target) ∧ w' = w := by
  unfold authorize at h
  obtain ⟨g, _, _, _, hguild, h, -⟩ := Prog.exec_bind_ok_iff.1 h
  obtain ⟨botId, _, _, _, hbot, h, -⟩ := Prog.exec_bind_ok_iff.1 h
  obtain ⟨actor, _, _, _, hactor, h, -⟩ := Prog.exec_bind_ok_iff.1 h
  obtain ⟨cached, _, _, _, hcached, h, -⟩ := Prog.exec_bind_ok_iff.1 h
  cases hg : ctx.guildId with
  | none => simp [Ctx.guild, hg] at hguild
  | some g' =>
    simp only [Ctx.guild, hg, Prog.exec_pure_iff, Except.ok.injEq] at hguild
    obtain ⟨-, rfl, rfl⟩ := hguild
    obtain ⟨-, hb, rfl⟩ := Prog.exec_perform_ok_iff.1 hbot
    obtain ⟨ha, rfl⟩ := exec_member_ok hactor
    obtain ⟨-, hc, rfl⟩ := Prog.exec_perform_ok_iff.1 hcached
    simp only [serve_currentUser, serve_cachedGuild, Except.ok.injEq] at hb hc ha h
    cases cached with
    | none => simp at h
    | some guild =>
      obtain ⟨-, hd, rfl⟩ := Prog.exec_pure_iff.1 h
      refine ⟨g, guild, actor, rfl, ha, hc, ?_, rfl⟩
      rw [Except.ok.inj hd, ← hb, World.facts]

/-- `authorize` only reads. -/
theorem only_authorize (ctx : Ctx) (target : Member) : (authorize ctx target).Only (fun q => q.mutates = false) := by
  unfold authorize
  refine Prog.Only.bind ?_ fun g => ?_
  · unfold Ctx.guild
    cases ctx.guildId <;> trivial
  · refine Prog.Only.bind (by simp [Request.mutates]) fun botId => ?_
    refine Prog.Only.bind (by simp [Request.mutates]) fun actor => ?_
    refine Prog.Only.bind (by simp [Request.mutates]) fun cached => ?_
    cases cached <;> trivial

/-- A timeout that was allowed is built from the clock, and then sent. -/
theorem muteDecided_ok (member : Member) (secs : Nat) : muteDecided member secs (.ok ()) = (do
    let clock : UInt64 ← ask .now
    let timestamp : Int64 ← ask (.fromUnixTimestamp (clock.toInt64 + (UInt64.ofNat secs).toInt64))
    ask (.disableCommunicationUntil member.guildId member.user.id timestamp)
    say ("Muted " ++ member.user.name ++ " until <t:" ++ toString (clock.toInt64 + (UInt64.ofNat secs).toInt64) ++ ":f>.")) := by
  rw [muteDecided, nowUnixSecs, Prog.bind_assoc]
  rfl

/-- The decision on the facts of the guild snapshot is to allow the action. -/
def Permitted (w : World) (ctx : Ctx) (target : Member) : Prop :=
  ∃ g guild actor, ctx.guildId = some g ∧ w.members g ctx.author.id = some actor ∧ w.guilds g = some guild ∧
    checkModerationAllowed (w.facts guild ctx.author.id actor target) = .ok ()

/-- What is permitted, as the README says it: the target is not the invoker, the bot or the owner, and the invoker is the owner
or has the higher top role. -/
theorem permitted_iff {w : World} {ctx : Ctx} {target : Member} : Permitted w ctx target ↔
    ∃ g guild actor, ctx.guildId = some g ∧ w.members g ctx.author.id = some actor ∧ w.guilds g = some guild ∧
      target.user.id ≠ ctx.author.id ∧ target.user.id ≠ w.bot.id ∧ target.user.id ≠ guild.ownerId ∧
        (ctx.author.id = guild.ownerId ∨ guild.highest actor.roles > guild.highest target.roles) := by
  simp [Permitted, checkModerationAllowed_eq_ok_iff, World.facts]

/-- An attempt of a member of a guild to act on a target. -/
structure Attempt where
  world : World
  ctx : Ctx
  guildId : UInt64
  actor : Member
  target : Member
  in_guild : ctx.guildId = some guildId
  is_member : world.members guildId ctx.author.id = some actor

end ModerationBot
