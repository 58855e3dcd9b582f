import Mathlib.Data.Set.Insert
import ModerationBot.Theorems.Bridging

namespace ModerationBot

variable {guildOf : UInt64 → UInt64}

/-! ## The managed webhooks of the whole bot -/

/-- A change by other hands that leaves no channel without the managed webhooks it had. -/
def Foreign.KeepsHooks (change : Foreign) : Prop :=
  ∀ (w : BotWorld) (c : UInt64), w.managedHook c ≠ none → (change.apply w).managedHook c ≠ none

/-- The channels where a managed webhook was created, as the programs of the bot share them. -/
def hookObject : Shared BotWorld BotRequest (Set UInt64) UInt64 where
  op
    | .core (.createWebhook c name) => if name = managedWebhookName then some c else none
    | _ => none
  apply channels c := insert c channels
  Rep w channels := ∀ c ∈ channels, w.managedHook c ≠ none

/-- No request takes a channel its managed webhook. -/
theorem managedHook_serve {w : World} {c : UInt64} (h : w.managedHook c ≠ none) (q : Request) :
    (serve w q).2.managedHook c ≠ none := by
  cases q with
  | createWebhook c' name =>
    rw [serve_createWebhook, World.managedHook]
    by_cases hc : c' = c
    · subst hc
      rw [World.hooks_addHook, List.find?_append]
      intro hnone
      exact h (Option.or_eq_none_iff.1 hnone).1
    · simpa [World.addHook, World.managedHook, Function.update_of_ne (Ne.symm hc)] using h
  | insertRoute row =>
    rw [serve_insertRoute]
    cases w.routes.insert row <;> exact h
  | member g u =>
    rw [serve_member]
    cases w.members g u <;> exact h
  | ban g u days reason =>
    rw [serve_ban]
    split <;> exact h
  | _ => exact h

/-- The world keeps the channels through every request of the bot, and through the changes by other hands that keep the webhooks. -/
theorem faithful_hooks : hookObject.Faithful (botSetup guildOf) (fun _ => True) Foreign.KeepsHooks where
  operation w channels q c _ hop hw c' hc' := by
    cases q with
    | core q =>
      cases q with
      | createWebhook channel name =>
        obtain ⟨rfl, rfl⟩ : name = managedWebhookName ∧ channel = c := by simpa [hookObject] using hop
        rcases Set.mem_insert_iff.1 hc' with rfl | hc'
        · change (w.toWorld.addHook c' managedWebhookName).managedHook c' ≠ none
          rw [World.managedHook_addHook]
          exact Option.some_ne_none _
        · exact managedHook_serve (hw c' hc') (.createWebhook channel managedWebhookName)
      | _ => cases hop
    | _ => cases hop
  other w channels q _ _ hw c hc := by
    cases q with
    | core q => exact managedHook_serve (hw c hc) q
    | _ => exact hw c hc
  change change w channels hkeeps hw c hc := hkeeps w c (hw c hc)

theorem mem_foldl_insert_iff {channels : Set UInt64} {l : List UInt64} {c : UInt64} :
    c ∈ l.foldl hookObject.apply channels ↔ c ∈ channels ∨ c ∈ l := by
  induction l generalizing channels with
  | nil => simp
  | cons c' l ih =>
    rw [List.foldl_cons, ih, List.mem_cons]
    change c ∈ insert c' channels ∨ c ∈ l ↔ _
    rw [Set.mem_insert_iff]
    tauto

/-- A channel where a managed webhook was created is among the channels. -/
theorem mem_replay {channels : Set UInt64} {l history : Chronicle} {i : Nat} {w : BotWorld} {c : UInt64} {fate : Fate Outage}
    (hl : l ++ [(i, ⟨w, .core (.createWebhook c managedWebhookName), fate⟩)] <+: history) (hfate : fate.effective = true) :
    c ∈ hookObject.replay channels history := by
  have hmem := hl.subset (List.mem_append_right l (List.mem_singleton_self _))
  refine mem_foldl_insert_iff.2 (Or.inr (List.mem_filterMap.2 ⟨_, hmem, ?_⟩))
  rw [if_pos hfate]
  change (if managedWebhookName = managedWebhookName then some c else none) = some c
  exact if_pos rfl

/-- How the managed webhooks of a run came to be created. -/
structure HooksCreated (s : System guildOf) : Prop where
  /-- Nothing creates two webhooks. -/
  once : ∀ before i w c name fate, before ++ [(i, ⟨w, .core (.createWebhook c name), fate⟩)] <+: s.history →
    ∀ ev ∈ corePast (eventsOf i before), ev.request.creates = false
  /-- After one was created in a channel, another is created there only in a race: by something else, which had listed the webhooks of
  the channel before. -/
  raced : ∀ first before i j w w' c fate fate', first ++ [(i, ⟨w, .core (.createWebhook c managedWebhookName), fate⟩)] <+: before →
    fate.effective = true → before ++ [(j, ⟨w', .core (.createWebhook c managedWebhookName), fate'⟩)] <+: s.history →
      i ≠ j ∧ Moment first j (.webhooks c) fun _ => True

/-- Whatever is in progress at once and whatever fails, a second managed webhook of a channel is the outcome of a race, as long as no
other hands take the first. -/
theorem hooks_created (w : BotWorld) (happenings : List (Happening guildOf))
    (hkeeps : ∀ change, .change change ∈ happenings → change.KeepsHooks) : HooksCreated (System.run guildOf w happenings) := by
  have hrep : hookObject.Rep w ∅ := fun _ hc => absurd hc (Set.notMem_empty _)
  obtain ⟨-, hevents⟩ := faithful_hooks.replayed hrep (fun _ _ => trivial) hkeeps
  refine ⟨?_, ?_⟩
  · intro before i w' c name fate hev
    obtain ⟨job, -, honce, -⟩ := Pool.issued bridged_program w happenings hev
    exact honce
  · intro first before i j w₁ w₂ c fate fate' hfirst hfate hev
    obtain ⟨job, -, honce, p, r, msg, -, -, -, hlisted⟩ := Pool.issued bridged_program w happenings hev
    refine ⟨?_, ?_⟩
    · rintro rfl
      have hmem := mem_eventsOf_iff.2 (hfirst.subset (List.mem_append_right first (List.mem_singleton_self _)))
      cases honce ⟨w₁.toWorld, _, fate⟩ (List.mem_filterMap.2 ⟨_, hmem, rfl⟩)
    · -- When the webhooks were listed, none was managed: so none had been created.
      have hmoment : Moment before j (.webhooks c) fun l => c ∉ hookObject.replay ∅ l := hlisted.moment fun l v hl hnone hmem =>
        hevents l j _ (hl.trans ((List.prefix_append _ _).trans hev)) c hmem hnone.1
      obtain ⟨l, v, hl, hnotMem⟩ := hmoment
      rcases List.prefix_or_prefix_of_prefix hl hfirst with hle | hle
      · rcases List.prefix_concat_iff.1 hle with heq | hle
        · simp at heq
        · exact ⟨l, v, hle, trivial⟩
      · rcases List.prefix_concat_iff.1 hle with heq | hle
        · simp at heq
        · exact absurd (mem_replay hle hfate) hnotMem

/-! ### Two messages that race -/

namespace Race

open FirstMessage

/-- Another message of the chat. -/
def other : Delivery := ⟨.telegram, "-100", ⟨"eve", none, "hello"⟩⟩

/-- Somebody adds a webhook of their own to the channel. -/
def visit : Foreign where
  apply w := { w with hooks := Function.update w.hooks 20 (w.hooks 20 ++ [⟨77, 20, some "news", none⟩]) }
  routes _ := rfl
  allowlist _ := rfl

theorem keepsHooks_visit : visit.KeepsHooks := by
  intro w c h
  have hhooks : (visit.apply w).hooks = Function.update w.hooks 20 (w.hooks 20 ++ [⟨77, 20, some "news", none⟩]) := rfl
  rw [World.managedHook, hhooks]
  by_cases hc : c = 20
  · subst hc
    rw [Function.update_self, List.find?_append]
    exact fun hnone => h (Option.or_eq_none_iff.1 hnone).1
  · rwa [Function.update_of_ne hc]

/-- Both list the webhooks before either creates one; the visit falls between the two creations. -/
def happenings : List (Happening fun _ => 10) :=
  [.start (.delivery delivery), .start (.delivery other), .issue 0 .served, .issue 1 .served, .issue 0 .served, .issue 1 .served,
    .issue 0 .served, .change visit, .issue 1 .served]

/-- What was issued before the first creation. -/
def first : Chronicle :=
  [(0, ⟨world, .core (.selectChannel 0 "-100"), .served⟩), (1, ⟨world, .core (.selectChannel 0 "-100"), .served⟩),
    (0, ⟨world, .core (.webhooks 20), .served⟩), (1, ⟨world, .core (.webhooks 20), .served⟩)]

/-- A creation in a world. -/
def creation (w : BotWorld) : Event Outage BotRequest BotWorld := ⟨w, .core (.createWebhook 20 managedWebhookName), .served⟩

/-- The world of the second creation. -/
def visited : BotWorld := visit.apply { world with toWorld := world.addHook 20 managedWebhookName }

end Race

open FirstMessage Race in
theorem hooks_created_race : HooksCreated (System.run (fun _ => 10) world Race.happenings) ∧
    (first ++ [(0, creation world)]) ++ [(1, creation visited)] <+: (System.run (fun _ => 10) world Race.happenings).history := by
  refine ⟨hooks_created world Race.happenings fun change hchange => ?_, [], by with_unfolding_all rfl⟩
  obtain rfl : change = visit := by simpa [Race.happenings] using hchange
  exact keepsHooks_visit

end ModerationBot
