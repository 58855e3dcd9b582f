import Mathlib.Data.Fintype.Basic
import ModerationBot.Lemmas.Deliveries

namespace ModerationBot

open FindOrCreate (Stage State)

namespace Deliveries

section

variable {ι : Type} {c : UInt64} {calls : ι → Delivery} {s : Deliveries ι} {a : State ι Webhook} {i : ι}

/-! ## The managed webhook of a channel under every interleaving -/

/-- One webhook serves the channel: at most one was created, every execution was on the managed webhook of the channel, and every
delivery that has ended and had content executed it. -/
structure OneWebhook (c : UInt64) (calls : ι → Delivery) (s : Deliveries ι) : Prop where
  created_once : s.creators.length ≤ 1
  same : ∀ x ∈ s.executions, s.world.managedHook c = some x.2
  executed : ∀ i, (s.tasks i).awaits = none → prepareRelayContent (calls i).msg.content ≠ none →
    ∃ h, (i, h) ∈ s.executions

/-- If a delivery is about to list the webhooks of the channel, none is about to create one there. -/
def Alone (c : UInt64) (s : Deliveries ι) (i : ι) : Prop :=
  (s.tasks i).awaits = some (.webhooks c) → ∀ j, (s.tasks j).awaits ≠ some (.createWebhook c managedWebhookName)

instance [Fintype ι] (c : UInt64) (s : Deliveries ι) (i : ι) : Decidable (s.Alone c i) :=
  inferInstanceAs (Decidable (_ → ∀ _, _))

/-- In every turn of a run the delivery is alone. -/
def Exclusive [DecidableEq ι] (c : UInt64) : Deliveries ι → List ι → Prop
  | _, [] => True
  | s, i :: turns => s.Alone c i ∧ Exclusive c (s.step i) turns

instance Exclusive.decidable [DecidableEq ι] [Fintype ι] (c : UInt64) :
    ∀ (s : Deliveries ι) (turns : List ι), Decidable (Exclusive c s turns)
  | _, [] => .isTrue trivial
  | s, i :: turns =>
    have := Exclusive.decidable c (s.step i) turns
    inferInstanceAs (Decidable (_ ∧ _))

theorem Exclusive.of_append [DecidableEq ι] {pre post : List ι} (h : Exclusive c s (pre ++ post)) : Exclusive c s pre := by
  induction pre generalizing s with
  | nil => trivial
  | cons i pre ih => exact ⟨h.1, ih h.2⟩

/-! ### Where the requests of a delivery stand in the protocol -/

/-- A delivery that is about to create is at that stage. -/
theorem Simulates.creating_iff (h : Simulates c calls s a) (i : ι) :
    a.stage i = .creating ↔ (s.tasks i).awaits = some (.createWebhook c managedWebhookName) := by
  have hm := h.tasks i
  generalize s.tasks i = task at hm
  generalize a.stage i = stage at hm
  cases hm with
  | create content hp => exact ⟨fun _ => rfl, fun _ => rfl⟩
  | _ => exact ⟨fun hs => (by cases hs), fun hq => (by cases hq)⟩

/-- A delivery that lists the webhooks is looking. -/
theorem Simulates.looking_of_awaits (h : Simulates c calls s a) (hq : (s.tasks i).awaits = some (.webhooks c)) :
    a.stage i = .looking := by
  have hm := h.tasks i
  generalize s.tasks i = task at hm hq
  generalize a.stage i = stage at hm
  cases hm with
  | list content hp => rfl
  | _ => cases hq

/-- A delivery that has ended has finished. -/
theorem Simulates.finished_of_awaits (h : Simulates c calls s a) (hq : (s.tasks i).awaits = none) :
    a.stage i = .finished := by
  have hm := h.tasks i
  generalize s.tasks i = task at hm hq
  generalize a.stage i = stage at hm
  cases hm with
  | ended r => rfl
  | _ => cases hq

/-- While the value of the protocol is sole, one webhook serves the channel. -/
theorem Simulates.oneWebhook (h : Simulates c calls s a) (hs : a.Sole) : OneWebhook c calls s where
  created_once := by
    rw [h.created]
    exact hs.created_once
  same x hx := by
    rw [h.used] at hx
    cases hf : a.found with
    | none =>
      rw [hs.used_nil hf] at hx
      exact absurd hx List.not_mem_nil
    | some v => rw [h.found, hf, hs.used_same v hf x hx]
  executed i hq hcontent := by
    rw [h.used]
    exact h.executed i (h.finished_of_awaits hq) hcontent

/-! ### Runs -/

variable [DecidableEq ι]

/-- A turn alone keeps the value sole. -/
theorem Simulates.sole_step (h : Simulates c calls s a) (hs : a.Sole) (halone : s.Alone c i) :
    ∃ a', Simulates c calls (s.step i) a' ∧ a'.Sole := by
  obtain ⟨a', h', ⟨rfl, -⟩ | ⟨fresh, rfl, hlook⟩⟩ := h.step i
  · exact ⟨a', h', hs⟩
  · refine ⟨_, h', hs.step fresh fun hi j hj => ?_⟩
    exact halone (hlook hi) j ((h.creating_iff j).1 hj)

/-- A turn that is not alone doubles a sole value. -/
theorem Simulates.doubled_of_not_alone (h : Simulates c calls s a) (hs : a.Sole) (halone : ¬s.Alone c i) :
    ∃ a', Simulates c calls (s.step i) a' ∧ a'.Doubled := by
  obtain ⟨hq, j, hj⟩ : (s.tasks i).awaits = some (.webhooks c) ∧
      ∃ j, (s.tasks j).awaits = some (.createWebhook c managedWebhookName) := by
    simpa [Alone] using halone
  rw [← h.creating_iff] at hj
  obtain ⟨a', h', ⟨rfl, hn⟩ | ⟨fresh, rfl, -⟩⟩ := h.step i
  · exact absurd hq hn
  · exact ⟨_, h', hs.doubled_step fresh (h.looking_of_awaits hq) hj⟩

theorem Simulates.doubled_step (h : Simulates c calls s a) (hd : a.Doubled) :
    ∃ a', Simulates c calls (s.step i) a' ∧ a'.Doubled := by
  obtain ⟨a', h', ⟨rfl, -⟩ | ⟨fresh, rfl, -⟩⟩ := h.step i
  · exact ⟨a', h', hd⟩
  · exact ⟨_, h', hd.step fresh i⟩

/-- An exclusive run keeps the value sole. -/
theorem Simulates.sole_run (h : Simulates c calls s a) (hs : a.Sole) {turns : List ι} (he : Exclusive c s turns) :
    ∃ a', Simulates c calls (turns.foldl Deliveries.step s) a' ∧ a'.Sole := by
  induction turns generalizing s a with
  | nil => exact ⟨a, h, hs⟩
  | cons i turns ih =>
    obtain ⟨a', h', hs'⟩ := h.sole_step hs he.1
    exact ih h' hs' he.2

theorem Simulates.doubled_run (h : Simulates c calls s a) (hd : a.Doubled) (turns : List ι) :
    ∃ a', Simulates c calls (turns.foldl Deliveries.step s) a' ∧ a'.Doubled := by
  induction turns generalizing s a with
  | nil => exact ⟨a, h, hd⟩
  | cons i turns ih =>
    obtain ⟨a', h', hd'⟩ := h.doubled_step (i := i) hd
    exact ih h' hd'

/-- A run that is not exclusive doubles it. -/
theorem Simulates.doubled_of_not_exclusive (h : Simulates c calls s a) (hs : a.Sole) {turns : List ι}
    (he : ¬Exclusive c s turns) : ∃ a', Simulates c calls (turns.foldl Deliveries.step s) a' ∧ a'.Doubled := by
  induction turns generalizing s a with
  | nil => exact absurd trivial he
  | cons i turns ih =>
    by_cases halone : s.Alone c i
    · obtain ⟨a', h', hs'⟩ := h.sole_step hs halone
      exact ih h' hs' fun he' => he ⟨halone, he'⟩
    · obtain ⟨a', h', hd'⟩ := h.doubled_of_not_alone hs halone
      exact h'.doubled_run hd' turns

omit [DecidableEq ι] in
/-- Deliveries into a channel without a managed webhook start with nothing found. -/
theorem exists_simulates_start {w : World}
    (hroute : ∀ i, ((Routes.fetchByRemote (calls i).platform (calls i).remoteChatId).run serve w).result = .ok (some c))
    (hnone : ∀ h ∈ w.hooks c, h.managed = false) (hroom : (w.hooks c).length < maxChannelWebhooks) :
    ∃ a, Simulates c calls (start w calls) a ∧ a.Sole := by
  have hfound : w.managedHook c = none := World.managedHook_eq_none_iff.2 hnone
  refine ⟨⟨fun i => if prepareRelayContent (calls i).msg.content = none then .finished else .looking, none, [], []⟩, ?_, ?_⟩
  · refine ⟨fun i => ?_, hfound, fun _ => hroom, fun i => ?_, rfl, rfl, fun i hi hcontent => ?_⟩
    · cases hp : prepareRelayContent (calls i).msg.content with
      | none =>
        simp only [hp, if_true]
        exact .blank hp
      | some content =>
        simp only [hp, reduceCtorEq, if_false]
        exact .route content hp
    · have hr := hroute i
      rw [Routes.run_fetchByRemote] at hr
      exact Except.ok.inj hr
    · simp only [hcontent, if_false] at hi
      cases hi
  · have hstage : ∀ i x, (if prepareRelayContent (calls i).msg.content = none then (.finished : Stage Webhook)
        else .looking) = x → x = .finished ∨ x = .looking := by
      intro i x hx
      split at hx
      · exact Or.inl hx.symm
      · exact Or.inr hx.symm
    refine ⟨fun _ => rfl, fun _ => rfl, fun _ i v hi => ?_, fun _ i j hi => ?_, Nat.zero_le 1,
      fun v hv => (by cases hv), fun v hv => (by cases hv), fun v hv => (by cases hv)⟩
    · rcases hstage i _ hi with hx | hx <;> cases hx
    · rcases hstage i _ hi with hx | hx <;> cases hx

/-- Deliveries into a channel without a managed webhook and with room for one: in every exclusive run one webhook serves the
channel, in every state reached; and a run in which all deliveries end is served by one webhook only if it was exclusive. -/
theorem oneWebhook_of_exclusive (w : World) (c : UInt64) (calls : ι → Delivery)
    (hroute : ∀ i, ((Routes.fetchByRemote (calls i).platform (calls i).remoteChatId).run serve w).result = .ok (some c))
    (hnone : ∀ h ∈ w.hooks c, h.managed = false) (hroom : (w.hooks c).length < 15) (turns : List ι) :
    (Exclusive c (start w calls) turns → ∀ pre, pre <+: turns → OneWebhook c calls (run w calls pre)) ∧
      ((∀ i, ((run w calls turns).tasks i).awaits = none) →
        (OneWebhook c calls (run w calls turns) ↔ Exclusive c (start w calls) turns)) := by
  obtain ⟨a, h, hs⟩ := exists_simulates_start hroute hnone hroom
  have hone : ∀ pre, Exclusive c (start w calls) pre → OneWebhook c calls (run w calls pre) := by
    intro pre he
    obtain ⟨a', h', hs'⟩ := h.sole_run hs he
    exact h'.oneWebhook hs'
  refine ⟨?_, fun hended => ⟨fun ho => ?_, hone turns⟩⟩
  · rintro he pre ⟨post, rfl⟩
    exact hone pre he.of_append
  · by_contra he
    obtain ⟨a', h', hd'⟩ := h.doubled_of_not_exclusive hs he
    have hcreating : ∀ i, a'.stage i ≠ .creating := by
      intro i hi
      have hfinished := h'.finished_of_awaits (hended i)
      rw [hi] at hfinished
      cases hfinished
    have htwo := hd'.created hcreating
    have hle := ho.created_once
    rw [run, h'.created] at hle
    omega

end

/-! ### Two deliveries -/

namespace Two

/-- A world in which channel 7 is linked and has no webhook. -/
def world : World :=
  ((Routes.link 1 7 .telegram "chat" 10).run serve
    (World.initial ⟨99, "boyfucker", none, true⟩ (fun n => (.ofNat n, "token")))).state

/-- Two messages arrive for the channel. -/
def arrivals (i : Fin 2) : Delivery := ⟨.telegram, "chat", ⟨"Ann", none, if i = 0 then "hello" else "there"⟩⟩

/-- One after the other, they share a webhook. -/
theorem oneWebhook_in_turn : OneWebhook 7 arrivals (run world arrivals [0, 0, 0, 0, 1, 1, 1]) :=
  (oneWebhook_of_exclusive world 7 arrivals (fun _ => rfl) (fun _ hh => absurd hh List.not_mem_nil) (by decide)
    [0, 0, 0, 0, 1, 1, 1]).1 (by decide +kernel) _ (List.prefix_refl _)

/-- When both list the webhooks before either creates one, two are created. -/
theorem not_oneWebhook : ¬OneWebhook 7 arrivals (run world arrivals [0, 1, 0, 1, 0, 1, 0, 1]) :=
  fun h => absurd h.created_once (by decide +kernel)

end Two

end Deliveries

end ModerationBot
