import ModerationBot.Lemmas.Moderation

namespace ModerationBot

/-! ## The mediation of the commands that act on a member -/

/-- The commands that act on a member, with their other arguments. -/
inductive MemberCommand where
  | kick (reason : Option String)
  | ban (deleteMessageDays : Option Int64) (reason : Option String)
  | mute (duration : String)
  | unmute

/-- The handler of a command. -/
def MemberCommand.handler (ctx : Ctx) (member : Member) : MemberCommand → Bot Unit
  | .kick reason => ModerationBot.kick ctx member reason
  | .ban days reason => ModerationBot.ban ctx member days reason
  | .mute duration => ModerationBot.mute ctx member duration
  | .unmute => ModerationBot.unmute ctx member

/-- The Discord calls that change a member. -/
def Request.changesMember : Request → Bool
  | .kick _ _ _ => true
  | .ban _ _ _ _ => true
  | .disableCommunicationUntil _ _ _ => true
  | .enableCommunication _ _ => true
  | _ => false

/-- In every execution of the command, whatever fails, a Discord call that changes a member is issued only if the decision is
to allow it. -/
def Mediated (w : World) (ctx : Ctx) (target : Member) (command : MemberCommand) : Prop :=
  ∀ issued result w', Prog.Exec serve (command.handler ctx target) w issued result w' →
    ∀ q ∈ issued, q.changesMember = true → Permitted w ctx target

/-- A reply changes no member. -/
theorem only_replyErr (err : ModError) : (replyErr err).Only (fun q => ¬q.changesMember = true) := by
  simp [replyErr, say, Request.changesMember]

/-- What reads only changes no member. -/
theorem only_authorize_changes (ctx : Ctx) (target : Member) :
    (authorize ctx target).Only (fun q => ¬q.changesMember = true) :=
  (only_authorize ctx target).mono fun q hq hc => by cases q <;> simp_all [Request.mutates, Request.changesMember]

/-- What follows an authorization, and only replies when it is refused, changes a member only if that is permitted. -/
theorem permitted_of_authorize {w w' : World} {ctx : Ctx} {target : Member} {f : Except ModError Unit → Bot Unit}
    (hf : ∀ e, (f (.error e)).Only (fun q => ¬q.changesMember = true)) {issued : List Request}
    {result : Except Error Unit} (h : Prog.Exec serve (authorize ctx target >>= f) w issued result w') {q : Request}
    (hq : q ∈ issued) (hc : q.changesMember = true) : Permitted w ctx target := by
  obtain ⟨d, _, l, w₁, hd, hrest, hq⟩ := (only_authorize_changes ctx target).exec_bind h hq hc
  obtain ⟨g, guild, actor, hg, ha, hguild, rfl, -⟩ := exec_authorize hd
  refine ⟨g, guild, actor, hg, ha, hguild, ?_⟩
  cases hok : checkModerationAllowed (w.facts guild ctx.author.id actor target) with
  | ok _ => rfl
  | error e =>
    rw [hok] at hrest
    exact absurd hc ((hf e).exec hrest q hq)

/-- The commands that consult the authorization are mediated. -/
theorem mediated_of_ne_unmute {command : MemberCommand} (h : command ≠ .unmute) (w : World) (ctx : Ctx) (target : Member) :
    Mediated w ctx target command := by
  intro issued result w' hexec q hq hc
  cases command with
  | unmute => exact absurd rfl h
  | kick reason => exact permitted_of_authorize (fun e => only_replyErr e) hexec hq hc
  | ban days reason =>
    simp only [MemberCommand.handler, ban] at hexec
    split at hexec
    · exact absurd hc ((only_replyErr _).exec hexec q hq)
    · exact permitted_of_authorize (fun e => only_replyErr e) hexec hq hc
  | mute duration =>
    simp only [MemberCommand.handler, mute] at hexec
    split at hexec
    · exact absurd hc ((only_replyErr _).exec hexec q hq)
    · exact permitted_of_authorize (fun e => only_replyErr e) hexec hq hc

/-- `/unmute` changes its target whatever the decision. -/
theorem mediated_unmute_iff (w : World) (ctx : Ctx) (target : Member) :
    Mediated w ctx target .unmute ↔ Permitted w ctx target := by
  constructor
  · intro h
    refine h _ _ _ (Prog.exec_run serve _ w) (.enableCommunication target.guildId target.user.id) ?_ rfl
    simp [MemberCommand.handler, unmute, Prog.run_bind, Outcome.andThen]
  · exact fun h _ _ _ _ _ _ _ => h

/-- A command is mediated exactly when it is not `/unmute`, or the action is permitted. -/
theorem mediated_iff (w : World) (ctx : Ctx) (target : Member) (command : MemberCommand) :
    Mediated w ctx target command ↔ command ≠ .unmute ∨ Permitted w ctx target := by
  by_cases h : command = .unmute
  · subst h
    simp [mediated_unmute_iff]
  · exact ⟨fun _ => Or.inl h, fun _ => mediated_of_ne_unmute h w ctx target⟩

/-! ### An unmute that is not permitted -/

namespace JuniorModerator

/-- A guild with a junior moderator, 20, and a senior one, 30, whose role is the higher. -/
def guildWorld : World :=
  { World.initial ⟨99, "boyfucker", none, true⟩ (fun n => (.ofNat n, "token")) with
    guilds := fun _ => some ⟨10, fun r => if r = 5 then some 1 else if r = 6 then some 2 else none⟩
    members := fun _ u => some ⟨1, ⟨u, "member", none, false⟩, if u = 20 then [5] else [6]⟩ }

/-- The junior moderator invokes a command. -/
def ctx : Ctx := ⟨some 1, 2, ⟨20, "member", none, false⟩, some ⟨1, ⟨20, "member", none, false⟩, [5]⟩⟩

/-- The senior moderator, whom the owner has muted. -/
def target : Member := ⟨1, ⟨30, "member", none, false⟩, [6]⟩

/-- The world after the owner allowlisted the junior moderator. -/
def world : World :=
  ((allow ⟨some 1, 2, ⟨10, "owner", none, false⟩, none⟩ (some ctx.author) none).run serve guildWorld).state

/-- The junior moderator passes the allowlist check, and unmutes the senior one though that is not permitted. -/
theorem unmute_not_mediated :
    ((moderationAccessCheck ctx).run serve world).result = .ok true ∧ ¬Mediated world ctx target .unmute := by
  refine ⟨by rfl, ?_⟩
  rw [mediated_unmute_iff, permitted_iff]
  intro h
  obtain ⟨g, guild, actor, hg, ha, hguild, -, -, -, hrank⟩ := h
  cases hg
  cases ha
  cases hguild
  exact absurd hrank (by decide)

end JuniorModerator

end ModerationBot
