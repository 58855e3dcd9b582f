import ModerationBot.Lemmas.Duration
import ModerationBot.Lemmas.Replies

namespace ModerationBot

/-! ## What the moderation commands change -/

/-- An attempt in a guild that is in the cache: its facts resolve to a `ModCheck`. -/
structure Resolved extends Attempt where
  guild : Guild
  cached : world.guilds guildId = some guild

/-- The facts of the attempt. -/
def Resolved.check (r : Resolved) : ModCheck := r.world.facts r.guild r.ctx.author.id r.actor r.target

/-- The requests of a command that change something, the reply among them, are the given ones, and whatever fails it issues no other. -/
def Changes (w : World) (command : Bot Unit) (requests : List Request) : Prop :=
  (command.run serve w).issued.filter Request.mutates = requests ∧
    ∀ q, Prog.MayIssue serve command w q → q.mutates = true → q ∈ requests

/-- The reply that refuses a command. -/
def refusal (e : ModError) : Request := .send { content := e.display }

/-! ### Runs -/

/-- A command that ends at the first error changes what it changes when everything is served. -/
theorem changes_of_failFast {w : World} {command : Bot Unit} (h : command.FailFast) :
    Changes w command ((command.run serve w).issued.filter Request.mutates) :=
  ⟨rfl, fun _ hq hm => List.mem_filter.2 ⟨h.mayIssue_iff.1 hq, hm⟩⟩

theorem failFast_replyErr (e : ModError) : (replyErr e).FailFast := failFast_say _

theorem failFast_authorize (ctx : Ctx) (target : Member) : (authorize ctx target).FailFast := by
  unfold authorize
  refine Prog.FailFast.bind (failFast_guild ctx) fun g => Prog.FailFast.bind (Prog.failFast_perform _) fun botId => ?_
  refine Prog.FailFast.bind (Prog.failFast_perform _) fun actor => Prog.FailFast.bind (Prog.failFast_perform _) fun cached => ?_
  cases cached with
  | none => exact Prog.failFast_throw _
  | some guild => exact Prog.failFast_pure _

/-- What a command changes that is authorized first is what it changes after the decision. -/
theorem changes_authorize (r : Resolved) {f : Except ModError Unit → Bot Unit} (hf : ∀ d, (f d).FailFast) {requests : List Request}
    (h : ((f (checkModerationAllowed r.check)).run serve r.world).issued.filter Request.mutates = requests) :
    Changes r.world (authorize r.ctx r.target >>= f) requests := by
  subst h
  have hchanges := @changes_of_failFast r.world _ (Prog.FailFast.bind (failFast_authorize r.ctx r.target) hf)
  rw [Prog.run_bind, run_authorize r.in_guild r.is_member r.cached] at hchanges
  exact hchanges

/-- A refusal changes nothing. -/
theorem changes_replyErr (w : World) (e : ModError) : Changes w (replyErr e) [refusal e] :=
  changes_of_failFast (failFast_replyErr e)

/-- The requests that delete messages of a channel: the single one for one message, the bulk one for 2 to 100. -/
inductive Deletes (channel : UInt64) : List UInt64 → List Request → Prop
  | none : Deletes channel [] []
  | single (id : UInt64) : Deletes channel [id] [.deleteMessage channel id]
  | bulk {ids : List UInt64} : 2 ≤ ids.length → ids.length ≤ 100 → Deletes channel ids [.deleteMessages channel ids]

/-- What the moderation commands change, for all arguments. -/
structure ModerationCallsLawful (r : Resolved) : Prop where
  purge_range : ∀ count, (∃ limit, validatePurgeCount count = .ok limit) ↔ 1 ≤ count.toInt ∧ count.toInt ≤ 100
  ban_range : ∀ days, (∃ secs, validateBanDeleteDays days = .ok secs) ↔ 0 ≤ days.toInt ∧ days.toInt ≤ 7
  purge_refused : ∀ count e, validatePurgeCount count = .error e → Changes r.world (purge r.ctx count) [refusal e]
  ban_refused_days : ∀ days reason e, validateBanDeleteDays (days.getD 0) = .error e →
    Changes r.world (ban r.ctx r.target days reason) [refusal e]
  ban_refused : ∀ days reason secs e, validateBanDeleteDays (days.getD 0) = .ok secs → checkModerationAllowed r.check = .error e →
    Changes r.world (ban r.ctx r.target days reason) [refusal e]
  mute_refused_duration : ∀ duration e, parseTimeoutDuration duration = .error e →
    Changes r.world (mute r.ctx r.target duration) [refusal e]
  mute_refused : ∀ duration secs e, parseTimeoutDuration duration = .ok secs → checkModerationAllowed r.check = .error e →
    Changes r.world (mute r.ctx r.target duration) [refusal e]
  /-- A purge deletes the newest messages, as many as the count says or as there are. -/
  purge_deletes : ∀ count limit, validatePurgeCount count = .ok limit → ∃ ids deletion text,
    ids = (r.world.history r.ctx.channelId).take count.toInt.toNat ∧ Deletes r.ctx.channelId ids deletion ∧
      Changes r.world (purge r.ctx count) (deletion ++ [.send { content := text }])
  /-- A ban sends the days of the argument; nothing follows when the client does not take the reason. -/
  ban_days : ∀ days reason secs, validateBanDeleteDays (days.getD 0) = .ok secs → checkModerationAllowed r.check = .ok () →
    ∃ (sent : UInt8) (text : String), (sent.toNat : Int) = (days.getD 0).toInt ∧ sent.toNat ≤ 7 ∧
      Changes r.world (ban r.ctx r.target days reason) (.ban r.guildId r.target.user.id sent (reasonOr reason) ::
        if r.world.refusesReason (reasonOr reason) = true then [] else [.send { content := text }])
  /-- A timeout ends as many seconds from now as the argument says. -/
  mute_ends : r.world.clock.toNat ≤ 9223372036854775807 - 2419200 → ∀ duration secs, parseTimeoutDuration duration = .ok secs →
    checkModerationAllowed r.check = .ok () → ∃ (sent : Int64) (text : String), sent.toInt - r.world.clock.toNat = secs ∧
      (1 ≤ secs ∧ secs ≤ 2419200) ∧ Changes r.world (mute r.ctx r.target duration)
        [.disableCommunicationUntil r.target.guildId r.target.user.id sent, .send { content := text }]

theorem failFast_purgeIds (ctx : Ctx) (ids : List UInt64) : (purgeIds ctx ids).FailFast := by
  unfold purgeIds
  split
  · exact failFast_say _
  · exact Prog.FailFast.bind (Prog.failFast_perform _) fun _ => failFast_say _
  · exact Prog.FailFast.bind (Prog.failFast_perform _) fun _ => failFast_say _

/-- A purge deletes the messages it fetched. -/
theorem issued_purgeIds (ctx : Ctx) (w : World) {ids : List UInt64} (h : ids.length ≤ 100) :
    ∃ deletion text, Deletes ctx.channelId ids deletion ∧
      ((purgeIds ctx ids).run serve w).issued.filter Request.mutates = deletion ++ [.send { content := text }] := by
  cases ids with
  | nil => exact ⟨[], _, Deletes.none, rfl⟩
  | cons id ids =>
    cases ids with
    | nil => exact ⟨_, _, Deletes.single id, rfl⟩
    | cons id' ids => exact ⟨_, _, Deletes.bulk (by simp) h, rfl⟩

/-- A purge within its range, run. -/
theorem purge_deletes (r : Resolved) {count : Int64} {limit : UInt8} (h : validatePurgeCount count = .ok limit) :
    ∃ ids deletion text, ids = (r.world.history r.ctx.channelId).take count.toInt.toNat ∧ Deletes r.ctx.channelId ids deletion ∧
      Changes r.world (purge r.ctx count) (deletion ++ [.send { content := text }]) := by
  obtain ⟨⟨hlow, hhigh⟩, hlimit⟩ := validatePurgeCount_eq_ok_iff.1 h
  have hcast : limit.toNat = count.toInt.toNat := by
    have hbyte := @toNat_toUInt8 count (by omega) (by omega)
    rw [← hlimit] at hbyte
    omega
  have hpurge : purge r.ctx count = ask (.messages r.ctx.channelId limit) >>= purgeIds r.ctx := by
    rw [purge, h]
  have hserved : serve r.world (.messages r.ctx.channelId limit) =
      (.ok ((r.world.history r.ctx.channelId).take limit.toNat), r.world) := rfl
  have hlen : ((r.world.history r.ctx.channelId).take limit.toNat).length ≤ 100 := by
    rw [List.length_take]
    omega
  obtain ⟨deletion, text, hdeletes, hissued⟩ := issued_purgeIds r.ctx r.world hlen
  have hchanges := @changes_of_failFast r.world _
    (Prog.FailFast.bind (Prog.failFast_perform (.messages r.ctx.channelId limit)) (failFast_purgeIds r.ctx))
  rw [Prog.run_bind, Prog.run_perform, hserved] at hchanges
  rw [← hcast]
  refine ⟨_, deletion, text, rfl, hdeletes, ?_⟩
  rw [hpurge, ← hissued]
  exact hchanges

/-- A ban within its range is the decision and what follows it. -/
theorem changes_ban (r : Resolved) {days : Option Int64} {secs : UInt32} (h : validateBanDeleteDays (days.getD 0) = .ok secs)
    (reason : Option String) {requests : List Request}
    (hrun : ((banDecided r.ctx r.target (days.getD 0) reason (checkModerationAllowed r.check)).run serve
      r.world).issued.filter Request.mutates = requests) : Changes r.world (ban r.ctx r.target days reason) requests := by
  have hban : ban r.ctx r.target days reason = authorize r.ctx r.target >>= banDecided r.ctx r.target (days.getD 0) reason := by
    simp only [ban, h]
  rw [hban]
  refine changes_authorize r (fun d => ?_) hrun
  cases d with
  | error e => exact failFast_replyErr e
  | ok _ => exact Prog.FailFast.bind (failFast_guild _) fun _ => Prog.FailFast.bind (Prog.failFast_perform _) fun _ => failFast_say _

/-- A timeout is the decision and what follows it. -/
theorem changes_mute (r : Resolved) {duration : String} {secs : Nat} (h : parseTimeoutDuration duration = .ok secs)
    {requests : List Request} (hrun : ((muteDecided r.target secs (checkModerationAllowed r.check)).run serve
      r.world).issued.filter Request.mutates = requests) : Changes r.world (mute r.ctx r.target duration) requests := by
  have hmute : mute r.ctx r.target duration = authorize r.ctx r.target >>= muteDecided r.target secs := by
    rw [mute, h]
  rw [hmute]
  refine changes_authorize r (fun d => ?_) hrun
  cases d with
  | error e => exact failFast_replyErr e
  | ok _ =>
    refine Prog.FailFast.bind (Prog.FailFast.bind (Prog.failFast_perform _) fun _ => Prog.failFast_pure _) fun _ => ?_
    refine Prog.FailFast.bind (Prog.failFast_perform _) fun _ => Prog.FailFast.bind (Prog.failFast_perform _) fun _ => ?_
    exact failFast_say _

/-- In every resolved attempt the commands change what they should. -/
theorem moderationCalls_lawful (r : Resolved) : ModerationCallsLawful r where
  purge_range count := by
    simp [validatePurgeCount_eq_ok_iff]
  ban_range days := by
    simp [validateBanDeleteDays_eq_ok_iff]
  purge_refused count e h := by
    rw [purge, h]
    exact changes_replyErr r.world e
  ban_refused_days days reason e h := by
    simp only [ban, h]
    exact changes_replyErr r.world e
  ban_refused days reason secs e h hd := by
    refine changes_ban r h reason ?_
    rw [hd]
    rfl
  mute_refused_duration duration e h := by
    rw [mute, h]
    exact changes_replyErr r.world e
  mute_refused duration secs e h hd := by
    refine changes_mute r h ?_
    rw [hd]
    rfl
  purge_deletes count limit h := purge_deletes r h
  ban_days days reason secs h hd := by
    obtain ⟨⟨hlow, hhigh⟩, -⟩ := validateBanDeleteDays_eq_ok_iff.1 h
    have hbyte := toNat_toUInt8 hlow (by omega)
    refine ⟨(days.getD 0).toUInt64.toUInt8, "Banned " ++ r.target.user.name ++ " (" ++ reasonOr reason ++ ").", hbyte, by omega,
      changes_ban r h reason ?_⟩
    rw [hd, banDecided, Ctx.guild, r.in_guild]
    simp only [Prog.pure_bind, Prog.run_bind, Prog.run_perform, serve_ban]
    split <;> rfl
  mute_ends hclock duration secs h hd := by
    have hbounds := parseTimeoutDuration_bounds h
    have huntil := toInt_until hclock hbounds.2
    refine ⟨r.world.clock.toInt64 + (UInt64.ofNat secs).toInt64, "Muted " ++ r.target.user.name ++ " until <t:" ++
      toString (r.world.clock.toInt64 + (UInt64.ofNat secs).toInt64) ++ ":f>.", by omega, hbounds, changes_mute r h ?_⟩
    rw [hd]
    rfl

/-! ### The last timeout whose end fits into an `i64` -/

namespace LastTimeout

/-- The owner of a guild. -/
def owner : Member := ⟨1, ⟨10, "owner", none, false⟩, []⟩

def member : Member := ⟨1, ⟨30, "member", none, false⟩, []⟩

/-- The owner acts on a member 28 days before the last second of an `i64`. -/
def attempt : Resolved where
  world := { World.initial ⟨99, "boyfucker", none, true⟩ (fun n => (.ofNat n, "token")) with
    guilds := fun _ => some ⟨10, fun _ => none⟩
    members := fun _ _ => some owner
    clock := 9223372036852356607 }
  ctx := ⟨some 1, 2, owner.user, some owner⟩
  guildId := 1
  actor := owner
  target := member
  in_guild := rfl
  is_member := rfl
  guild := ⟨10, fun _ => none⟩
  cached := rfl

example : ((mute attempt.ctx attempt.target "28d").run serve attempt.world).issued.filter Request.mutates =
    [.disableCommunicationUntil 1 30 9223372036854775807,
      .send { content := "Muted member until <t:9223372036854775807:f>." }] := by
  decide +kernel

end LastTimeout

end ModerationBot
