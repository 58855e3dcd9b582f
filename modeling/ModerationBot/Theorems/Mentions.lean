import ModerationBot.Lemmas.Pings
import ModerationBot.Lemmas.Replies

namespace ModerationBot

/-! ## The mentions of the replies -/

/-- Every reply of the command, whatever fails while it runs, is sent with no mention allowed or holds no token that pings. -/
def Silent (w : World) (ctx : Ctx) (command : ReplyCommand) : Prop :=
  ∀ reply, MayReply w ctx command reply → reply.allowedMentions = some .new ∨ ¬Pings reply.content

/-- What a command echoes without suppressing mentions holds no token that pings. -/
def ReplyCommand.Harmless (w : World) (ctx : Ctx) : ReplyCommand → Prop
  | .kick member reason => Permitted w ctx member → ¬Pings member.user.name ∧ ∀ text ∈ reason, ¬Pings text
  | .ban member days reason => 0 ≤ days.getD 0 ∧ days.getD 0 ≤ 7 → Permitted w ctx member →
      w.refusesReason (reasonOr reason) = false → ¬Pings member.user.name ∧ ∀ text ∈ reason, ¬Pings text
  | .allow user role => ctx.guildId ≠ none → (∀ u ∈ user, ¬Pings u.name) ∧ ∀ r ∈ role, ¬Pings r.name
  | .disallow user role => ∀ g ∈ ctx.guildId, (∀ u ∈ user, w.allowlist.Holds g (.user u.id) → ¬Pings u.name) ∧
      ∀ r ∈ role, w.allowlist.Holds g (.role r.id) → ¬Pings r.name
  | .showAllowlist _ => True
  | .proxyLink _ _ => True
  | .proxyList => True

/-! ### Where a token may stand -/

/-- Characters that stand in no token. -/
def isSeparator (c : Char) : Bool := c == ' ' || c == '(' || c == ')' || c == '*' || c == ',' || c == '.'

/-- A digit is no separator. -/
theorem isSeparator_of_isDigit {c : Char} (h : c.isDigit = true) : isSeparator c = false := by
  rw [← Bool.not_eq_true]
  intro hc
  simp only [isSeparator, Bool.or_eq_true, beq_iff_eq, or_assoc] at hc
  rcases hc with rfl | rfl | rfl | rfl | rfl | rfl <;> cases h

theorem IsPing.not_isSeparator {word : List Char} (h : IsPing word) : ∀ c ∈ word, isSeparator c = false := by
  cases h with
  | everyone => simp [isSeparator]
  | here => simp [isSeparator]
  | mention sigil id hs hne hd =>
    have hid : ∀ c ∈ id, isSeparator c = false := fun c hc => isSeparator_of_isDigit (hd c hc)
    have hsigil : ∀ c ∈ sigil, isSeparator c = false := by
      rcases hs with rfl | rfl | rfl <;> simp [isSeparator]
    simp only [List.forall_mem_cons, List.forall_mem_append]
    exact ⟨rfl, rfl, ⟨hsigil, hid⟩, rfl, by simp⟩

/-- A text of separators, which stands in no token. -/
def Separates (s : String) : Prop := s ≠ "" ∧ s.toList.all isSeparator = true

instance (s : String) : Decidable (Separates s) := inferInstanceAs (Decidable (_ ∧ _))

/-- The texts on either side of separators ping on their own. -/
theorem pings_append_iff {a s b : String} (hs : Separates s) : Pings (a ++ s ++ b) ↔ Pings a ∨ Pings b := by
  rw [Pings, String.toList_append, String.toList_append]
  refine List.holds_append_append_iff ?_ fun c hc word hw hmem => ?_
  · rw [Ne, String.toList_eq_nil_iff]
    exact hs.1
  · have hsep := List.all_eq_true.1 hs.2 c hc
    rw [hw.not_isSeparator c hmem] at hsep
    cases hsep

/-- Separators at the end do not matter. -/
theorem pings_append_left_iff {a s : String} (hs : Separates s) : Pings (a ++ s) ↔ Pings a := by
  have h := @pings_append_iff a s "" hs
  rwa [String.append_empty, or_iff_left (not_pings_of_notMem (by decide))] at h

/-- Texts joined by commas ping when one of them does. -/
theorem pings_joinWith_iff {strs : List String} : Pings (joinWith ", " strs) ↔ ∃ s ∈ strs, Pings s := by
  induction strs with
  | nil =>
    have hempty : ¬Pings (joinWith ", " []) := not_pings_of_notMem (by simp [joinWith])
    simp [hempty]
  | cons s strs ih =>
    cases strs with
    | nil => simp [joinWith]
    | cons t strs =>
      rw [joinWith_cons_cons, pings_append_iff (by decide), List.exists_mem_cons_iff, ← ih]

/-! ### Which replies ping -/

/-- A confirmation pings nobody when neither the name nor the reason does. -/
theorem not_pings_actedReply_iff {verb : String} (hv : '@' ∉ verb.toList) {member : Member} {reason : Option String} :
    ¬Pings (actedReply verb member reason) ↔ ¬Pings member.user.name ∧ ∀ text ∈ reason, ¬Pings text := by
  have hverb : ¬Pings verb := not_pings_of_notMem hv
  have hreason : ¬Pings (reasonOr reason) ↔ ∀ text ∈ reason, ¬Pings text := by
    cases reason with
    | none =>
      have hdefault : ¬Pings "No reason provided" := not_pings_of_notMem (by decide)
      simp [reasonOr, hdefault]
    | some text => simp [reasonOr]
  rw [actedReply, pings_append_left_iff (by decide), pings_append_iff (by decide),
    pings_append_iff (by decide), or_iff_right hverb, not_or, hreason]

/-- A label pings when its name does. -/
theorem pings_label_iff {kind name : String} (hk : '@' ∉ kind.toList) : Pings (kind ++ " **" ++ name ++ "**") ↔ Pings name := by
  rw [pings_append_left_iff (by decide), pings_append_iff (by decide),
    or_iff_right (not_pings_of_notMem hk)]

/-- The labels ping nobody when no name among them does. -/
theorem not_pings_labels_iff {on : Entity → Bool} {user : Option User} {role : Option Role} :
    (∀ label ∈ labels on user role, ¬Pings label) ↔
      (∀ u ∈ user, on (.user u.id) = true → ¬Pings u.name) ∧ ∀ r ∈ role, on (.role r.id) = true → ¬Pings r.name := by
  have huser : ∀ u : User, Pings u.label ↔ Pings u.name := fun u => @pings_label_iff "user" u.name (by decide)
  have hrole : ∀ r : Role, Pings r.label ↔ Pings r.name := fun r => @pings_label_iff "role" r.name (by decide)
  simp only [labels, List.forall_mem_append, List.forall_mem_map, List.mem_filter, Option.mem_toList, Option.mem_def, and_imp, huser,
    hrole]

/-- A list of labels after a text that holds no sign pings nobody when no label does. -/
theorem not_pings_summary_iff {head : String} (hh : '@' ∉ head.toList) {labels : List String} :
    ¬Pings (head ++ " " ++ joinWith ", " labels ++ ".") ↔ ∀ label ∈ labels, ¬Pings label := by
  rw [pings_append_left_iff (by decide), pings_append_iff (by decide),
    or_iff_right (not_pings_of_notMem hh), pings_joinWith_iff]
  simp

theorem not_pings_addedReply_iff {added : List String} :
    (added ≠ [] → ¬Pings (addedReply added)) ↔ ∀ label ∈ added, ¬Pings label := by
  by_cases h : added = []
  · simp [h]
  · rw [forall_prop_of_true h, addedReply, if_neg h]
    exact @not_pings_summary_iff "✅ Added to the moderation allowlist:" (by decide +kernel) added

theorem not_pings_removedReply_iff {removed : List String} :
    (removed ≠ [] → ¬Pings (removedReply removed)) ↔ ∀ label ∈ removed, ¬Pings label := by
  by_cases h : removed = []
  · simp [h]
  · rw [forall_prop_of_true h, removedReply, if_neg h]
    exact @not_pings_summary_iff "🗑️ Removed from the moderation allowlist:" (by decide +kernel) removed

/-- The sign is in no id. -/
theorem notMem_toString (id : UInt64) : '@' ∉ (toString id).toList := by
  intro h
  have hdigits : (toString id).toList = Nat.toDigits 10 id.toNat := by
    change (String.ofList (Nat.toDigits 10 id.toNat)).toList = _
    rw [String.toList_ofList]
  rw [hdigits] at h
  exact absurd (Nat.isDigit_of_mem_toDigits (by decide) (by decide) h) (by decide)

/-- The sign is in no listing of ids. -/
theorem notMem_formatIds (iter : IterOrder) (ids : Finset UInt64) : '@' ∉ (formatIds iter ids).toList := by
  have hid : ∀ id : UInt64, '@' ∉ ("`" ++ toString id ++ "`").toList := by
    intro id
    simpa using notMem_toString id
  unfold formatIds
  split
  · decide
  · intro h
    rcases mem_joinWith h with hsep | ⟨s, hs, hc⟩
    · exact absurd hsep (by decide)
    · obtain ⟨id, -, rfl⟩ := List.mem_map.1 hs
      exact hid id hc

/-- The listing of the allowlist pings nobody. -/
theorem not_pings_allowlistReply (iter : IterOrder) {sets : AllowedSets} (h : ¬(sets.users = ∅ ∧ sets.roles = ∅)) :
    ¬Pings (allowlistReply iter sets) := by
  refine not_pings_of_notMem ?_
  rw [allowlistReply, if_neg h]
  simp [notMem_formatIds]

/-- A text that echoes nothing pings nobody. -/
theorem Canned.not_pings {text : String} (h : Canned text) : ¬Pings text := by
  refine not_pings_of_notMem ?_
  cases h with
  | modError e => cases e <;> decide +kernel
  | proxyError e => cases e <;> decide +kernel
  | nothingToAllow => decide +kernel
  | nothingRemoved => decide +kernel
  | emptyAllowlist => decide +kernel
  | noRoutes => decide +kernel

/-! ### The law -/

/-- The replies of a command ping nobody through what they echo exactly when what it echoes unsuppressed is harmless. -/
theorem silent_iff_harmless (w : World) (ctx : Ctx) (command : ReplyCommand) :
    Silent w ctx command ↔ command.Harmless w ctx := by
  have hplain : ∀ text : String, (none = some CreateAllowedMentions.new ∨ ¬Pings text) ↔ ¬Pings text := by
    intro text
    exact or_iff_right (by simp)
  rw [Silent, forall_mayReply_iff fun reply hc => Or.inr hc.not_pings]
  cases command with
  | kick member reason =>
    refine forall_sent_iff.trans (imp_congr_right fun _ => ?_)
    rw [hplain, not_pings_actedReply_iff (by decide)]
  | ban member days reason =>
    simp only [ReplyCommand.Echoes, ← and_assoc]
    rw [forall_sent_iff, and_imp, and_imp, hplain, not_pings_actedReply_iff (by decide)]
    rfl
  | allow user role =>
    have hlabels := @not_pings_labels_iff (fun _ => true) user role
    simp only [forall_const] at hlabels
    simp only [ReplyCommand.Echoes, ← and_assoc]
    rw [forall_sent_iff, and_imp, hplain, not_pings_addedReply_iff, hlabels]
    rfl
  | disallow user role =>
    refine forall_sent_guild_iff.trans (forall₂_congr fun g _ => ?_)
    have hlabels := @not_pings_labels_iff (fun e => decide (w.allowlist.Holds g e)) user role
    simp only [decide_eq_true_eq] at hlabels
    rw [hplain, not_pings_removedReply_iff, hlabels]
  | showAllowlist iter =>
    refine iff_of_true (forall_sent_guild_iff.2 fun g _ he => ?_) trivial
    exact Or.inr (not_pings_allowlistReply iter he)
  | proxyLink channel remoteChatId =>
    exact iff_of_true (forall_sent_guild_iff.2 fun g _ _ => Or.inl rfl) trivial
  | proxyList =>
    refine iff_of_true (forall_sent_guild_iff.2 fun g _ he => ?_) trivial
    rw [routesReply, if_neg he]
    exact Or.inl rfl

/-! ### A reason that mentions an account -/

namespace MentionedReason

/-- The owner of the guild 1. -/
def owner : User := ⟨10, "owner", none, false⟩

/-- An invocation of the owner. -/
def ctx : Ctx := ⟨some 1, 2, owner, some ⟨1, owner, []⟩⟩

/-- A member of the guild. -/
def target : Member := ⟨1, ⟨30, "member", none, false⟩, []⟩

/-- The guild, after the owner put itself on the allowlist. -/
def world : World :=
  ((allow ctx (some owner) none).run serve
    { World.initial ⟨99, "boyfucker", none, true⟩ (fun n => (.ofNat n, "token")) with
      guilds := fun _ => some ⟨10, fun _ => none⟩
      members := fun _ u => some ⟨1, ⟨u, "member", none, false⟩, []⟩ }).state

/-- The owner passes the allowlist check, and the confirmation of the kick pings the account 20 of the reason. -/
theorem kick_not_silent :
    ((moderationAccessCheck ctx).run serve world).result = .ok true ∧
      ¬Silent world ctx (.kick target (some "<@20>")) := by
  refine ⟨by rfl, ?_⟩
  intro h
  have hp : Permitted world ctx target :=
    permitted_iff.2 ⟨1, ⟨10, fun _ => none⟩, ⟨1, ⟨10, "member", none, false⟩, []⟩, rfl, rfl, rfl, by decide, by decide,
      by decide, Or.inl rfl⟩
  rcases h _ (ReplyCommand.Echoes.mayReply ⟨hp, rfl⟩) with hnone | hping
  · cases hnone
  · refine ((not_pings_actedReply_iff (by decide)).1 hping).2 "<@20>" rfl ?_
    exact ⟨_, IsPing.mention [] ['2', '0'] (Or.inl rfl) (by decide) (by simp), List.infix_rfl⟩

end MentionedReason

end ModerationBot
