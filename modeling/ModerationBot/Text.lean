import Mathlib.Data.List.DropRight

/-!
# Strings as the source handles them

A string is its sequence of characters (Unicode scalar values). The definitions here are the methods of `str` and `char` that
the source calls.
-/

namespace ModerationBot

/-- `char::is_whitespace`: the Unicode property White_Space. -/
def isWhitespace (c : Char) : Bool :=
  (0x9 ≤ c.toNat && c.toNat ≤ 0xD) || c.toNat == 0x20 || c.toNat == 0x85 || c.toNat == 0xA0 || c.toNat == 0x1680 ||
    (0x2000 ≤ c.toNat && c.toNat ≤ 0x200A) || c.toNat == 0x2028 || c.toNat == 0x2029 || c.toNat == 0x202F ||
    c.toNat == 0x205F || c.toNat == 0x3000

/-- `str::trim`: without the whitespace at both ends. -/
@[irreducible] def trim (s : String) : String :=
  String.ofList ((s.toList.dropWhile isWhitespace).rdropWhile isWhitespace)

/-- `char::to_ascii_lowercase`. -/
def toAsciiLowercase (c : Char) : Char :=
  if 'A'.toNat ≤ c.toNat ∧ c.toNat ≤ 'Z'.toNat then Char.ofNat (c.toNat + 32) else c

/-- `str::eq_ignore_ascii_case`. -/
def eqIgnoreAsciiCase (a b : String) : Bool :=
  a.toList.map toAsciiLowercase == b.toList.map toAsciiLowercase

/-- `s.chars().take(n).collect()`. -/
def takeChars (n : Nat) (s : String) : String := String.ofList (s.toList.take n)

/-- `s.split(sep)`: the pieces between the separators. -/
def split (sep : Char) (s : String) : List String := (s.toList.splitOn sep).map String.ofList

/-- `strs.join(sep)`. -/
def joinWith (sep : String) (strs : List String) : String := sep.intercalate strs

/-- A string with nothing to see in it. -/
def Blank (s : String) : Prop := ∀ c ∈ s.toList, isWhitespace c = true

/-- A string trims to nothing exactly when all its characters are whitespace. -/
theorem trim_eq_empty_iff (s : String) : trim s = "" ↔ ∀ c ∈ s.toList, isWhitespace c = true := by
  have h : trim s = "" ↔ (s.toList.dropWhile isWhitespace).rdropWhile isWhitespace = [] := by
    rw [← String.toList_inj, trim, String.toList_ofList]
    rfl
  rw [h, List.rdropWhile_eq_nil_iff]
  constructor
  · intro hd c hc
    rw [← List.takeWhile_append_dropWhile (p := isWhitespace) (l := s.toList), List.mem_append] at hc
    rcases hc with hc | hc
    · exact List.mem_takeWhile_imp hc
    · exact hd c hc
  · intro ha c hc
    exact ha c ((List.dropWhile_suffix _).subset hc)

/-- A string with something to see in it does not trim to nothing. -/
theorem trim_ne_empty_iff (s : String) : trim s ≠ "" ↔ ∃ c ∈ s.toList, isWhitespace c = false := by
  rw [Ne, trim_eq_empty_iff]
  simp

theorem toList_trim (s : String) : (trim s).toList = (s.toList.dropWhile isWhitespace).rdropWhile isWhitespace := by
  rw [trim, String.toList_ofList]

/-- What is left after trimming is one piece of the string. -/
theorem isInfix_trim (s : String) : (trim s).toList <:+: s.toList := by
  rw [toList_trim]
  exact (List.rdropWhile_prefix _ _).isInfix.trans (List.dropWhile_suffix _).isInfix

/-- A string is trimmed when neither its first nor its last character is whitespace. -/
theorem trim_eq_self_iff {s : String} : trim s = s ↔
    (∀ c ∈ s.toList.head?, isWhitespace c = false) ∧ ∀ c ∈ s.toList.getLast?, isWhitespace c = false := by
  have hleft : s.toList.dropWhile isWhitespace = s.toList ↔ ∀ c ∈ s.toList.head?, isWhitespace c = false := by
    cases s.toList with
    | nil => simp
    | cons a l => simp [List.dropWhile_eq_self_iff]
  have hright : s.toList.rdropWhile isWhitespace = s.toList ↔ ∀ c ∈ s.toList.getLast?, isWhitespace c = false := by
    rw [List.rdropWhile_eq_self_iff]
    cases hl : s.toList.getLast? with
    | none => simp [List.getLast?_eq_none_iff.1 hl]
    | some a =>
      obtain ⟨l, hl⟩ := List.getLast?_eq_some_iff.1 hl
      simp [hl]
  rw [← String.toList_inj, toList_trim, ← hleft, ← hright]
  constructor
  · intro h
    have hlen : (s.toList.dropWhile isWhitespace).length = s.toList.length := by
      have h₁ := (List.rdropWhile_prefix isWhitespace (s.toList.dropWhile isWhitespace)).length_le
      have h₂ := (List.dropWhile_suffix isWhitespace (l := s.toList)).length_le
      rw [h] at h₁
      omega
    have hd := (List.dropWhile_suffix isWhitespace).eq_of_length hlen
    rw [hd] at h
    exact ⟨hd, h⟩
  · intro h
    rw [h.1, h.2]

/-- Between whitespace, a string is trimmed to the string itself when it is trimmed and not empty. -/
theorem trim_pad {left s right : String} (hl : Blank left) (hr : Blank right) (hs : trim s = s) (hne : s ≠ "") :
    trim (left ++ s ++ right) = s := by
  have hsome : s.toList ≠ [] := fun h => hne (String.toList_eq_nil_iff.1 h)
  have hdrop : s.toList.dropWhile isWhitespace = s.toList := by
    rw [List.dropWhile_eq_self_iff]
    intro hpos
    rw [← List.head_eq_getElem_zero hsome, (trim_eq_self_iff.1 hs).1 _ (List.head_mem_head? hsome)]
    exact Bool.false_ne_true
  have hrdrop : s.toList.rdropWhile isWhitespace = s.toList := by
    rw [← String.toList_inj, toList_trim, hdrop] at hs
    exact hs
  rw [← String.toList_inj, toList_trim, String.toList_append, String.toList_append, List.append_assoc,
    List.dropWhile_append_of_pos hl, List.dropWhile_append, hdrop, if_neg (by simpa using hsome), List.rdropWhile,
    List.reverse_append, List.dropWhile_append_of_pos (fun c hc => hr c (List.mem_reverse.1 hc)), ← List.rdropWhile, hrdrop]

/-- A string is what it trims to, between whitespace. -/
theorem exists_pad (s : String) : ∃ left right, Blank left ∧ Blank right ∧ s = left ++ trim s ++ right := by
  refine ⟨String.ofList (s.toList.takeWhile isWhitespace),
    String.ofList ((s.toList.dropWhile isWhitespace).rtakeWhile isWhitespace), fun c hc => ?_, fun c hc => ?_, ?_⟩
  · rw [String.toList_ofList] at hc
    exact List.mem_takeWhile_imp hc
  · rw [String.toList_ofList] at hc
    exact List.mem_rtakeWhile_imp hc
  · rw [← String.toList_inj, String.toList_append, String.toList_append, toList_trim, String.toList_ofList, String.toList_ofList,
      List.append_assoc, List.rdropWhile_append_rtakeWhile, List.takeWhile_append_dropWhile]

/-- A string without whitespace is trimmed. -/
theorem trim_eq_self {s : String} (h : ∀ c ∈ s.toList, isWhitespace c = false) : trim s = s :=
  trim_eq_self_iff.2 ⟨fun c hc => h c (List.mem_of_mem_head? hc), fun c hc => h c (List.mem_of_mem_getLast? hc)⟩

/-- A string is trimmed when it starts and ends with characters that are no whitespace. -/
theorem trim_eq_self_of_ends {s : String} {a b : Char} (ha : s.toList.head? = some a) (hb : s.toList.getLast? = some b)
    (hwa : isWhitespace a = false) (hwb : isWhitespace b = false) : trim s = s := by
  refine trim_eq_self_iff.2 ⟨fun c hc => ?_, fun c hc => ?_⟩
  · obtain rfl := Option.some.inj (ha.symm.trans hc)
    exact hwa
  · obtain rfl := Option.some.inj (hb.symm.trans hc)
    exact hwb

/-- Trimming trims. -/
theorem trim_trim (s : String) : trim (trim s) = trim s := by
  rw [trim_eq_self_iff, toList_trim]
  constructor
  · intro c hc
    obtain ⟨t, ht⟩ := List.rdropWhile_prefix isWhitespace (s.toList.dropWhile isWhitespace)
    have hd : (s.toList.dropWhile isWhitespace).head? = some c := by rw [← ht, List.head?_append, hc, Option.some_or]
    have hnot := List.head?_dropWhile_not isWhitespace s.toList
    rwa [hd] at hnot
  · intro c hc
    obtain ⟨hne, rfl⟩ := List.mem_getLast?_eq_getLast hc
    exact Bool.eq_false_iff.2 (List.rdropWhile_last_not _ _ hne)

theorem length_takeChars (n : Nat) (s : String) : (takeChars n s).length = min n s.length := by
  rw [takeChars, String.length_ofList, List.length_take, String.length_toList]

/-- A string that is short enough is not cut. -/
theorem takeChars_of_length_le {n : Nat} {s : String} (h : s.length ≤ n) : takeChars n s = s := by
  rw [takeChars, List.take_of_length_le, String.ofList_toList]
  rwa [String.length_toList]

theorem joinWith_cons_cons (sep s t : String) (strs : List String) :
    joinWith sep (s :: t :: strs) = s ++ sep ++ joinWith sep (t :: strs) := String.intercalate_cons_cons

/-- The pieces joined again are the string. -/
theorem joinWith_split (sep : Char) (s : String) : joinWith (String.singleton sep) (split sep s) = s := by
  have hid : (String.toList ∘ String.ofList) = id := funext fun _ => String.toList_ofList
  rw [← String.toList_inj, joinWith, String.toList_intercalate, split, List.map_map, hid, List.map_id,
    String.toList_singleton, List.intercalate_splitOn]

/-- Strings without the separator are the pieces of the string they are joined to. -/
theorem split_joinWith {sep : Char} {strs : List String} (hne : strs ≠ []) (h : ∀ s ∈ strs, sep ∉ s.toList) :
    split sep (joinWith (String.singleton sep) strs) = strs := by
  have hid : (String.ofList ∘ String.toList) = id := funext fun _ => String.ofList_toList
  rw [split, joinWith, String.toList_intercalate, String.toList_singleton, List.splitOn_intercalate, List.map_map, hid, List.map_id]
  · simpa using h
  · simpa using hne

/-- No piece holds the separator. -/
theorem notMem_of_mem_split {sep : Char} {s piece : String} (h : piece ∈ split sep s) : sep ∉ piece.toList := by
  have hpieces : ∀ l : List Char, ∀ p ∈ l.splitOn sep, sep ∉ p := by
    intro l
    induction l with
    | nil => simp
    | cons c l ih =>
      intro p hp
      rw [List.splitOn_cons_eq_if_modifyHead] at hp
      obtain ⟨first, rest, hsplit⟩ := List.exists_cons_of_ne_nil (List.splitOn_ne_nil sep l)
      rw [hsplit] at ih hp
      by_cases hc : c = sep
      · rw [if_pos (beq_iff_eq.2 hc)] at hp
        rcases List.mem_cons.1 hp with rfl | hp
        · exact List.not_mem_nil
        · exact ih p hp
      · rw [if_neg (by simpa using hc), List.modifyHead_cons] at hp
        rcases List.mem_cons.1 hp with rfl | hp
        · exact List.not_mem_cons_of_ne_of_not_mem (Ne.symm hc) (ih first List.mem_cons_self)
        · exact ih p (List.mem_cons_of_mem first hp)
  obtain ⟨p, hp, rfl⟩ := List.mem_map.1 h
  rw [String.toList_ofList]
  exact hpieces _ p hp

/-- The characters of a joined string are those of the separator and of the strings. -/
theorem mem_joinWith {c : Char} {sep : String} {strs : List String} (h : c ∈ (joinWith sep strs).toList) :
    c ∈ sep.toList ∨ ∃ s ∈ strs, c ∈ s.toList := by
  induction strs with
  | nil => simp [joinWith] at h
  | cons s strs ih =>
    cases strs with
    | nil => exact Or.inr ⟨s, List.mem_cons_self, by simpa [joinWith] using h⟩
    | cons t strs =>
      rw [joinWith_cons_cons, String.toList_append, String.toList_append] at h
      rcases List.mem_append.1 h with h | h
      · rcases List.mem_append.1 h with h | h
        · exact Or.inr ⟨s, List.mem_cons_self, h⟩
        · exact Or.inl h
      · rcases ih h with h | ⟨s', hs', hc⟩
        · exact Or.inl h
        · exact Or.inr ⟨s', List.mem_cons_of_mem s hs', hc⟩

end ModerationBot
