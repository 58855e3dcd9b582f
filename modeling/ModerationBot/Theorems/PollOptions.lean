import ModerationBot.Commands.Poll

namespace ModerationBot

/-! ## The options of a poll, written and read -/

/-- A list of options that `/poll` may give a poll: as many and as long as Discord takes, trimmed, and without the separator. -/
structure ValidOptions (options : List String) : Prop where
  at_least : 2 ≤ options.length
  at_most : options.length ≤ 10
  nonempty : ∀ o ∈ options, o ≠ ""
  trimmed : ∀ o ∈ options, trim o = o
  no_separator : ∀ o ∈ options, '|' ∉ o.toList
  short : ∀ o ∈ options, o.length ≤ 55

theorem ValidOptions.ne_nil {options : List String} (h : ValidOptions options) : options ≠ [] := by
  intro he
  have hlen := h.at_least
  rw [he] at hlen
  exact absurd hlen (by decide)

/-- Segments that write options in order, each between whitespace, with blank segments anywhere. -/
inductive Writes : List String → List String → Prop
  | nil : Writes [] []
  | blank {segment : String} {segments options : List String} : Blank segment → Writes segments options →
      Writes (segment :: segments) options
  | option {left o right : String} {segments options : List String} : Blank left → Blank right → Writes segments options →
      Writes ((left ++ o ++ right) :: segments) (o :: options)

/-- A string that writes options: its segments between the separators do. -/
def Encodes (s : String) (options : List String) : Prop := ∃ segments, Writes segments options ∧ s = joinWith "|" segments

/-- The segments of a string in which there is something to see. -/
def visibleSegments (s : String) : List String := (split '|' s).filter (fun segment => !segment.toList.all isWhitespace)

/-- The options that the parser finds, before it counts them. -/
def foundOptions (segments : List String) : List String := (segments.map trim).filter (fun s => s != "")

/-- What the parser makes of the options it finds. -/
theorem parsePollOptions_eq (s : String) : parsePollOptions s =
    if (foundOptions (split '|' s)).length < 2 then .error .tooFewOptions
    else if (foundOptions (split '|' s)).length > 10 then .error .tooManyOptions
    else if (foundOptions (split '|' s)).any (fun o => decide (o.length > 55)) = true then .error .optionTooLong
    else .ok (foundOptions (split '|' s)) := rfl

/-- The options found are the visible segments, trimmed. -/
theorem foundOptions_split (s : String) : foundOptions (split '|' s) = (visibleSegments s).map trim := by
  have hvisible : ∀ segment : String, (trim segment != "") = !segment.toList.all isWhitespace := by
    intro segment
    rw [Bool.eq_iff_iff, bne_iff_ne, trim_ne_empty_iff]
    simp
  rw [foundOptions, List.filter_map, visibleSegments]
  exact congrArg (List.map trim) (List.filter_congr fun segment _ => hvisible segment)

/-- The options found are not empty, trimmed and free of the separator. -/
theorem foundOptions_spec {s o : String} (h : o ∈ foundOptions (split '|' s)) : o ≠ "" ∧ trim o = o ∧ '|' ∉ o.toList := by
  obtain ⟨hmem, hne⟩ := List.mem_filter.1 h
  obtain ⟨segment, hsegment, rfl⟩ := List.mem_map.1 hmem
  refine ⟨bne_iff_ne.1 hne, trim_trim segment, fun hbar => ?_⟩
  exact notMem_of_mem_split hsegment ((isInfix_trim segment).subset hbar)

/-- The segments of a string write the options found in them. -/
theorem writes_foundOptions (segments : List String) : Writes segments (foundOptions segments) := by
  induction segments with
  | nil => exact Writes.nil
  | cons segment segments ih =>
    rw [foundOptions, List.map_cons]
    by_cases hb : trim segment = ""
    · rw [List.filter_cons_of_neg (by simp [hb])]
      exact Writes.blank ((trim_eq_empty_iff segment).1 hb) ih
    · rw [List.filter_cons_of_pos (by simpa using hb)]
      obtain ⟨left, right, hl, hr, hpad⟩ := exists_pad segment
      have hoption := @Writes.option left (trim segment) right _ _ hl hr ih
      rwa [← hpad] at hoption

namespace Writes

variable {segments options : List String}

/-- What was written is found. -/
theorem found (h : Writes segments options) (ho : ∀ o ∈ options, o ≠ "" ∧ trim o = o) : foundOptions segments = options := by
  induction h with
  | nil => rfl
  | blank hb _ ih =>
    rw [foundOptions, List.map_cons, List.filter_cons_of_neg (by simp [(trim_eq_empty_iff _).2 hb])]
    exact ih ho
  | @option left o right segments options hl hr _ ih =>
    rw [List.forall_mem_cons] at ho
    rw [foundOptions, List.map_cons, trim_pad hl hr ho.1.2 ho.1.1, List.filter_cons_of_pos (by simpa using ho.1.1)]
    exact congrArg (List.cons o) (ih ho.2)

/-- Options without the separator are written in segments without it. -/
theorem no_separator (h : Writes segments options) (ho : ∀ o ∈ options, '|' ∉ o.toList) : ∀ s ∈ segments, '|' ∉ s.toList := by
  have hblank : ∀ s : String, Blank s → '|' ∉ s.toList := fun s hs hbar => absurd (hs '|' hbar) (by decide)
  induction h with
  | nil => simp
  | blank hb _ ih =>
    rw [List.forall_mem_cons]
    exact ⟨hblank _ hb, ih ho⟩
  | option hl hr _ ih =>
    rw [List.forall_mem_cons] at ho ⊢
    refine ⟨?_, ih ho.2⟩
    rw [String.toList_append, String.toList_append, List.mem_append, List.mem_append]
    exact not_or.2 ⟨not_or.2 ⟨hblank _ hl, ho.1⟩, hblank _ hr⟩

end Writes

theorem bar_eq : "|" = String.singleton '|' := rfl

/-- What encodes options has no others. -/
theorem Encodes.found {s : String} {options : List String} (h : Encodes s options) (hne : options ≠ [])
    (ho : ∀ o ∈ options, o ≠ "" ∧ trim o = o ∧ '|' ∉ o.toList) : foundOptions (split '|' s) = options := by
  obtain ⟨segments, hw, rfl⟩ := h
  have hsegments : segments ≠ [] := by
    intro he
    subst he
    cases hw
    exact hne rfl
  rw [bar_eq, split_joinWith hsegments (hw.no_separator fun o hmem => (ho o hmem).2.2)]
  exact hw.found fun o hmem => ⟨(ho o hmem).1, (ho o hmem).2.1⟩

/-- A string encodes the options found in it. -/
theorem encodes_foundOptions (s : String) : Encodes s (foundOptions (split '|' s)) :=
  ⟨split '|' s, writes_foundOptions _, by rw [bar_eq, joinWith_split]⟩

/-- Options joined with a separator between spaces are encoded. -/
theorem encodes_joinWith {options : List String} (hne : options ≠ []) : Encodes (joinWith " | " options) options := by
  have hspace : Blank " " := by simp [Blank, isWhitespace]
  have hempty : Blank "" := by simp [Blank]
  have hpadded : ∀ left : String, Blank left → ∀ options : List String, options ≠ [] → ∃ segments, segments ≠ [] ∧
      Writes segments options ∧ left ++ joinWith " | " options = joinWith "|" segments := by
    intro left hl options hne
    induction options generalizing left with
    | nil => exact absurd rfl hne
    | cons o options ih =>
      cases options with
      | nil =>
        refine ⟨[left ++ o ++ ""], List.cons_ne_nil _ _, Writes.option hl hempty Writes.nil, ?_⟩
        simp [joinWith]
      | cons o' options =>
        obtain ⟨segments, hs, hw, hjoin⟩ := ih " " hspace (List.cons_ne_nil _ _)
        obtain ⟨segment, segments, rfl⟩ := List.exists_cons_of_ne_nil hs
        refine ⟨(left ++ o ++ " ") :: segment :: segments, List.cons_ne_nil _ _, Writes.option hl hspace hw, ?_⟩
        have hbar : " | " = " " ++ "|" ++ " " := rfl
        rw [joinWith_cons_cons, joinWith_cons_cons, ← hjoin, hbar]
        simp only [String.append_assoc]
  obtain ⟨segments, -, hw, hjoin⟩ := hpadded "" hempty options hne
  exact ⟨segments, hw, by rw [← hjoin, String.empty_append]⟩

/-- What the parser accepts and how it rejects. -/
structure PollOptionsLaw (s : String) : Prop where
  ok_iff : ∀ options, parsePollOptions s = .ok options ↔ ValidOptions options ∧ Encodes s options
  /-- What was accepted is accepted again when it is joined. -/
  again : ∀ options, parsePollOptions s = .ok options → parsePollOptions (joinWith " | " options) = .ok options
  too_few_iff : parsePollOptions s = .error .tooFewOptions ↔ (visibleSegments s).length < 2
  too_many_iff : parsePollOptions s = .error .tooManyOptions ↔ 10 < (visibleSegments s).length
  too_long_iff : parsePollOptions s = .error .optionTooLong ↔
    2 ≤ (visibleSegments s).length ∧ (visibleSegments s).length ≤ 10 ∧ ∃ segment ∈ visibleSegments s, 55 < (trim segment).length
  rejected : ∀ e, parsePollOptions s = .error e → e = .tooFewOptions ∨ e = .tooManyOptions ∨ e = .optionTooLong

/-- The parser accepts the options found when they are valid. -/
theorem parsePollOptions_eq_ok_iff {s : String} {options : List String} :
    parsePollOptions s = .ok options ↔ foundOptions (split '|' s) = options ∧ ValidOptions options := by
  rw [parsePollOptions_eq]
  constructor
  · intro h
    split_ifs at h with hfew hmany hlong
    obtain rfl := Except.ok.inj h
    refine ⟨rfl, by omega, by omega, fun o ho => (foundOptions_spec ho).1, fun o ho => (foundOptions_spec ho).2.1,
      fun o ho => (foundOptions_spec ho).2.2, fun o ho => ?_⟩
    by_contra hlt
    exact hlong (List.any_eq_true.2 ⟨o, ho, decide_eq_true (by omega)⟩)
  · intro h
    obtain ⟨rfl, hv⟩ := h
    have hfew := hv.at_least
    have hmany := hv.at_most
    rw [if_neg (by omega), if_neg (by omega), if_neg]
    intro hlong
    obtain ⟨o, ho, hlt⟩ := List.any_eq_true.1 hlong
    have hshort := hv.short o ho
    rw [decide_eq_true_eq] at hlt
    omega

/-- Valid options are found in what encodes them. -/
theorem ValidOptions.found {options : List String} (hv : ValidOptions options) {s : String} (h : Encodes s options) :
    foundOptions (split '|' s) = options :=
  h.found hv.ne_nil fun o ho => ⟨hv.nonempty o ho, hv.trimmed o ho, hv.no_separator o ho⟩

/-- Every string is accepted or rejected as it should be. -/
theorem pollOptions_law (s : String) : PollOptionsLaw s := by
  have hlen : (foundOptions (split '|' s)).length = (visibleSegments s).length := by rw [foundOptions_split, List.length_map]
  have hlong : (foundOptions (split '|' s)).any (fun o => decide (o.length > 55)) = true ↔
      ∃ segment ∈ visibleSegments s, 55 < (trim segment).length := by
    rw [foundOptions_split]
    simp
  have hparse := parsePollOptions_eq s
  rw [hlen] at hparse
  refine ⟨fun options => ?_, fun options h => ?_, ?_, ?_, ?_, fun e he => ?_⟩
  · rw [parsePollOptions_eq_ok_iff]
    constructor
    · intro h
      obtain ⟨rfl, hv⟩ := h
      exact ⟨hv, encodes_foundOptions s⟩
    · intro h
      exact ⟨h.1.found h.2, h.1⟩
  · obtain ⟨-, hv⟩ := parsePollOptions_eq_ok_iff.1 h
    exact parsePollOptions_eq_ok_iff.2 ⟨hv.found (encodes_joinWith hv.ne_nil), hv⟩
  · rw [hparse]
    split_ifs with hfew hmany hany
    · exact iff_of_true rfl hfew
    · exact iff_of_false (by simp) hfew
    · exact iff_of_false (by simp) hfew
    · exact iff_of_false (by simp) hfew
  · rw [hparse]
    split_ifs with hfew hmany hany
    · exact iff_of_false (by simp) (by omega)
    · exact iff_of_true rfl hmany
    · exact iff_of_false (by simp) hmany
    · exact iff_of_false (by simp) hmany
  · rw [hparse, ← hlong]
    split_ifs with hfew hmany hany
    · exact iff_of_false (by simp) (by omega)
    · exact iff_of_false (by simp) (by omega)
    · exact iff_of_true rfl ⟨by omega, by omega, hany⟩
    · exact iff_of_false (by simp) fun h => hany h.2.2
  · rw [hparse] at he
    split_ifs at he with hfew hmany hany
    · exact Or.inl (Except.error.inj he).symm
    · exact Or.inr (Or.inl (Except.error.inj he).symm)
    · exact Or.inr (Or.inr (Except.error.inj he).symm)

end ModerationBot
