import Mathlib.Algebra.BigOperators.Group.Finset.Basic
import Mathlib.Algebra.GroupWithZero.Nat
import ModerationBot.Lemmas.Replies
import ModerationBot.Proxy.Sanitize

namespace ModerationBot

/-! ## The length of the replies -/

/-- Discord accepts every reply of the command, whatever fails while it runs. -/
def Fits (w : World) (ctx : Ctx) (command : ReplyCommand) : Prop :=
  ∀ reply, MayReply w ctx command reply → reply.content.length ≤ maxMessageChars

/-- The number of digits of an id. -/
def digits (id : UInt64) : Nat := (toString id).length

/-- What a set of ids takes in the listing of the allowlist: a dash, or four characters and its digits for each id, save the two
that separate it from a next one. -/
def idsSize (ids : Finset UInt64) : Nat := if ids = ∅ then 1 else ids.sum (fun id => digits id + 4) - 2

/-- What the labels of `/allow` and `/disallow` take. -/
def labelsSize (on : Entity → Bool) (user : Option User) (role : Option Role) : Nat :=
  ((labels on user role).map (fun label => label.length + 2)).sum

/-- What the routes take in their listing. -/
def routesSize (routes : List ProxyRoute) : Nat :=
  (routes.map (fun r => digits r.discordChannel + r.remoteChatId.length + 20)).sum

/-- What a command echoes is short enough. -/
def ReplyCommand.Short (w : World) (ctx : Ctx) : ReplyCommand → Prop
  | .kick member reason =>
    Permitted w ctx member → member.user.name.length + (reasonOr reason).length + 11 ≤ maxMessageChars
  | .ban member days reason => 0 ≤ days.getD 0 ∧ days.getD 0 ≤ 7 → Permitted w ctx member →
      w.refusesReason (reasonOr reason) = false → member.user.name.length + (reasonOr reason).length + 11 ≤ maxMessageChars
  | .allow user role => ctx.guildId ≠ none → labelsSize (fun _ => true) user role + 36 ≤ maxMessageChars
  | .disallow user role => ∀ g, ctx.guildId = some g →
      labelsSize (fun e => decide (w.allowlist.Holds g e)) user role + 41 ≤ maxMessageChars
  | .showAllowlist _ => ∀ g, ctx.guildId = some g →
      idsSize (w.allowlist.fetched g).users + idsSize (w.allowlist.fetched g).roles + 40 ≤ maxMessageChars
  | .proxyLink channel remoteChatId => ∀ g, ctx.guildId = some g →
      (∀ row ∈ w.routes.rows, ¬row.Conflict (linkRow ctx g channel remoteChatId)) →
        digits channel + (trim remoteChatId).length + 32 ≤ maxMessageChars
  | .proxyList => ∀ g, ctx.guildId = some g → routesSize (w.routes.listed g) + 16 ≤ maxMessageChars

/-! ### What a reply takes -/

theorem length_actedReply (verb : String) (member : Member) (reason : Option String) :
    (actedReply verb member reason).length = verb.length + member.user.name.length + (reasonOr reason).length + 5 := by
  have h1 : " ".length = 1 := rfl
  have h2 : " (".length = 2 := rfl
  have h3 : ").".length = 2 := rfl
  simp only [actedReply, String.length_append, h1, h2, h3]
  omega

/-- The separators and the strings make up the length of a joined string, up to one separator. -/
theorem length_joinWith {sep : String} {strs : List String} (h : strs ≠ []) :
    (joinWith sep strs).length + sep.length = (strs.map (fun s => s.length + sep.length)).sum := by
  induction strs with
  | nil => exact absurd rfl h
  | cons s strs ih =>
    cases strs with
    | nil => simp [joinWith]
    | cons t strs =>
      have hjoin := ih (by simp)
      rw [joinWith] at hjoin ⊢
      rw [String.intercalate_cons_cons, List.map_cons, List.sum_cons, ← hjoin, String.length_append, String.length_append]
      omega

/-- Strings joined by commas take two characters more each, save the last. -/
theorem length_joinWith_comma {strs : List String} (h : strs ≠ []) :
    (joinWith ", " strs).length + 2 = (strs.map (fun s => s.length + 2)).sum := by
  have hjoin := @length_joinWith ", " _ h
  have h2 : ", ".length = 2 := rfl
  rwa [h2] at hjoin

theorem length_addedReply_le_iff {added : List String} : (added ≠ [] → (addedReply added).length ≤ maxMessageChars) ↔
    (added.map (fun label => label.length + 2)).sum + 36 ≤ maxMessageChars := by
  by_cases h : added = []
  · simp [h, maxMessageChars]
  · have hjoin := length_joinWith_comma h
    have h1 : "✅ Added to the moderation allowlist: ".length = 37 := rfl
    have h2 : ".".length = 1 := rfl
    rw [forall_prop_of_true h, addedReply, if_neg h, String.length_append, String.length_append, h1, h2]
    omega

theorem length_removedReply_le_iff {removed : List String} :
    (removed ≠ [] → (removedReply removed).length ≤ maxMessageChars) ↔
      (removed.map (fun label => label.length + 2)).sum + 41 ≤ maxMessageChars := by
  by_cases h : removed = []
  · simp [h, maxMessageChars]
  · have hjoin := length_joinWith_comma h
    have h1 : "🗑️ Removed from the moderation allowlist: ".length = 42 := rfl
    have h2 : ".".length = 1 := rfl
    rw [forall_prop_of_true h, removedReply, if_neg h, String.length_append, String.length_append, h1, h2]
    omega

/-- In whatever order a set is listed, its ids add up to the same. -/
theorem IterOrder.sum_map (iter : IterOrder) (ids : Finset UInt64) (f : UInt64 → Nat) :
    ((iter.list ids).map f).sum = ids.sum f := by
  have hperm : (iter.list ids).Perm ids.toList := by
    refine (List.perm_ext_iff_of_nodup (iter.nodup ids) ids.nodup_toList).2 fun id => ?_
    rw [iter.mem_iff, Finset.mem_toList]
  rw [(hperm.map f).sum_eq, Finset.sum_map_toList]

theorem length_formatIds (iter : IterOrder) (ids : Finset UInt64) : (formatIds iter ids).length = idsSize ids := by
  unfold formatIds idsSize
  split
  · rfl
  · rename_i hne
    have hids : (iter.list ids).map (fun id => "`" ++ toString id ++ "`") ≠ [] := by
      obtain ⟨id, hid⟩ := Finset.nonempty_iff_ne_empty.2 hne
      exact List.ne_nil_of_mem (List.mem_map_of_mem ((iter.mem_iff ids id).2 hid))
    have hjoin := length_joinWith_comma hids
    have hid : ∀ id : UInt64, ("`" ++ toString id ++ "`").length + 2 = digits id + 4 := by
      intro id
      have h1 : "`".length = 1 := rfl
      rw [String.length_append, String.length_append, h1, digits]
      omega
    rw [List.map_map] at hjoin
    simp only [Function.comp_def, hid] at hjoin
    rw [← iter.sum_map ids]
    omega

theorem length_allowlistReply_le_iff (iter : IterOrder) {sets : AllowedSets} :
    (¬(sets.users = ∅ ∧ sets.roles = ∅) → (allowlistReply iter sets).length ≤ maxMessageChars) ↔
      idsSize sets.users + idsSize sets.roles + 40 ≤ maxMessageChars := by
  by_cases h : sets.users = ∅ ∧ sets.roles = ∅
  · simp [h, idsSize, maxMessageChars]
  · have h1 : "**Moderation allowlist**\nUsers: ".length = 32 := rfl
    have h2 : "\nRoles: ".length = 8 := rfl
    rw [forall_prop_of_true h, allowlistReply, if_neg h]
    simp only [String.length_append, length_formatIds, h1, h2]
    omega

theorem length_linkedReply (channel : UInt64) (remoteChatId : String) :
    (linkedReply channel remoteChatId).content.length = digits channel + (trim remoteChatId).length + 32 := by
  have h1 : "✅ Linked <#".length = 11 := rfl
  have h2 : "> ⇄ ".length = 4 := rfl
  have h3 : Platform.telegram.label.length = 8 := rfl
  have h4 : " chat `".length = 7 := rfl
  have h5 : "`.".length = 2 := rfl
  unfold linkedReply digits
  generalize toString channel = id
  simp only [String.length_append, h1, h2, h3, h4, h5]
  omega

theorem length_line (r : ProxyRoute) :
    (ProxyCommand.line r).length + 1 = digits r.discordChannel + r.remoteChatId.length + 20 := by
  have h1 : "• <#".length = 4 := rfl
  have h2 : "> ⇄ ".length = 4 := rfl
  have h3 : r.platform.label.length = 8 := by
    cases r.platform
    decide
  have h4 : " `".length = 2 := rfl
  have h5 : "`".length = 1 := rfl
  unfold ProxyCommand.line digits
  generalize toString r.discordChannel = id
  simp only [String.length_append, h1, h2, h3, h4, h5]
  omega

theorem length_routesReply_le_iff {routes : List ProxyRoute} :
    (routes ≠ [] → (routesReply routes).content.length ≤ maxMessageChars) ↔ routesSize routes + 16 ≤ maxMessageChars := by
  by_cases h : routes = []
  · simp [h, routesSize, maxMessageChars]
  · have hlines : routes.map ProxyCommand.line ≠ [] := by simpa using h
    have hjoin := @length_joinWith "\n" _ hlines
    have h1 : "**Proxy routes**\n".length = 17 := rfl
    have h2 : "\n".length = 1 := rfl
    rw [h2, List.map_map] at hjoin
    simp only [Function.comp_def, length_line] at hjoin
    rw [forall_prop_of_true h, routesReply, if_neg h, String.length_append, h1, routesSize]
    omega

theorem Canned.length_le {text : String} (h : Canned text) : text.length ≤ maxMessageChars := by
  cases h with
  | modError e => cases e <;> decide +kernel
  | proxyError e => cases e <;> decide +kernel
  | nothingToAllow => decide +kernel
  | nothingRemoved => decide +kernel
  | emptyAllowlist => decide +kernel
  | noRoutes => decide +kernel

/-! ### The law -/

/-- The replies of a command fit Discord's limit exactly when what it echoes is short enough. -/
theorem fits_iff_short (w : World) (ctx : Ctx) (command : ReplyCommand) : Fits w ctx command ↔ command.Short w ctx := by
  have hverb : "Kicked".length = 6 ∧ "Banned".length = 6 := ⟨rfl, rfl⟩
  rw [Fits, forall_mayReply_iff fun reply hc => hc.length_le]
  cases command with
  | kick member reason =>
    have hlen := length_actedReply "Kicked" member reason
    refine forall_sent_iff.trans (imp_congr_right fun _ => ?_)
    rw [hlen]
    omega
  | ban member days reason =>
    have hlen := length_actedReply "Banned" member reason
    simp only [ReplyCommand.Echoes, ← and_assoc]
    rw [forall_sent_iff, and_imp, and_imp, hlen]
    refine imp_congr_right fun _ => imp_congr_right fun _ => imp_congr_right fun _ => ?_
    omega
  | allow user role =>
    simp only [ReplyCommand.Echoes, ← and_assoc]
    rw [forall_sent_iff, and_imp]
    exact imp_congr_right fun _ => length_addedReply_le_iff
  | disallow user role =>
    exact forall_sent_guild_iff.trans (forall₂_congr fun g _ => length_removedReply_le_iff)
  | showAllowlist iter =>
    exact forall_sent_guild_iff.trans (forall₂_congr fun g _ => length_allowlistReply_le_iff iter)
  | proxyLink channel remoteChatId =>
    refine forall_sent_guild_iff.trans (forall₂_congr fun g _ => imp_congr_right fun _ => ?_)
    rw [length_linkedReply]
  | proxyList =>
    exact forall_sent_guild_iff.trans (forall₂_congr fun g _ => length_routesReply_le_iff)

/-! ### A link that is made but cannot be confirmed -/

namespace LongChatId

/-- A bot to which nothing has happened yet. -/
def world : World := World.initial ⟨99, "boyfucker", none, true⟩ (fun n => (.ofNat n, "token"))

/-- An invocation in the guild 1. -/
def ctx : Ctx := ⟨some 1, 2, ⟨10, "owner", none, false⟩, none⟩

/-- A remote chat id of a given length. -/
def chatId (n : Nat) : String := String.ofList (List.replicate n 'x')

theorem length_trim_chatId (n : Nat) : (trim (chatId n)).length = n := by
  have htrim : trim (chatId n) = chatId n := by
    refine trim_eq_self fun c hc => ?_
    rw [chatId, String.toList_ofList] at hc
    rw [List.eq_of_mem_replicate hc]
    decide
  rw [htrim, chatId, String.length_ofList, List.length_replicate]

/-- `/proxy link` of a chat with 2000 characters to the channel 7 is accepted, but Discord rejects its confirmation. -/
theorem link_not_fits : ¬Fits world ctx (.proxyLink 7 (chatId 2000)) := by
  intro h
  have hle := h (linkedReply 7 (chatId 2000))
    (ReplyCommand.Echoes.mayReply ⟨1, rfl, fun row hrow => absurd hrow List.not_mem_nil, rfl⟩)
  rw [length_linkedReply, length_trim_chatId, maxMessageChars] at hle
  omega

end LongChatId

end ModerationBot
