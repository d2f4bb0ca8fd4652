import XmlSettings.Logging.Size
import XmlSettings.Proofs.Decimal.ReadDigits
import XmlSettings.Proofs.Text.Capitals

/-! # Exact sizes

A row of digits without a unit is the size that it spells.  With a unit it goes through a binary
number and is rounded twice, so that the size is the exact number of bytes if that number has a
binary number of its own, and otherwise it is another one or none at all (`sizeOf_exact_iff`).
-/

namespace XmlSettings.Logging

open XmlSettings.Decimal
open XmlSettings.Text

/-! ## Units -/

/-- The name of a unit is a letter of ASCII and a `B`, and the unit is a power of two. -/
theorem unit?_cases {letters : List Rune} {bytes : Nat} (found : unit? letters = some bytes) :
    ∃ initial, letters = [Rune.char initial, .char 'B'] ∧ initial.toNat < 0x80 ∧ ∃ j, bytes = 2 ^ j := by
  unfold unit? at found
  split at found
  · cases found
    exact ⟨'K', rfl, by decide, 10, rfl⟩
  · cases found
    exact ⟨'M', rfl, by decide, 20, rfl⟩
  · cases found
    exact ⟨'G', rfl, by decide, 30, rfl⟩
  · cases found

theorem isBlank_of_isDigit {c : Char} (digit : c.isDigit = true) : isBlank c = false :=
  isBlank_of_isNumeralChar (by simp [isNumeralChar, digit])

/-- A text that does not end with a `B` has no unit. -/
theorem unit?_of_getLast? {cs : List Rune} (other : cs.getLast? ≠ some (.char 'B')) :
    unit? (cs.drop (cs.length - 2)) = none := by
  refine Option.eq_none_iff_forall_ne_some.2 fun bytes found => other ?_
  obtain ⟨initial, name, _⟩ := unit?_cases found
  have parts := List.take_append_drop (cs.length - 2) cs
  rw [name] at parts
  rw [← parts, List.getLast?_append]
  rfl

/-! ## Sizes -/

theorem capitals_of_isShowable {value : Value} (showable : value.isShowable = true) :
    capitals value = .ok (upper value.plainText) := by
  rw [capitals, Value.written, if_pos showable]
  rfl

theorem sizeOf_of_isShowable {value : Value} (showable : value.isShowable = true) :
    sizeOf value = sizeOfText (upper value.plainText) := by
  simp only [sizeOf, capitals_of_isShowable showable, bind, Except.bind]

theorem isShowable_text (s : Text) : (Value.text s).isShowable = true := rfl

theorem sizeOf_text (s : Text) : sizeOf (.text s) = sizeOfText (upper s) := by
  rw [sizeOf_of_isShowable (isShowable_text s), Value.plainText]

section Sizes

variable {before after digits spaces letters : List Char} (front : ∀ c ∈ before, isBlank c = true)
  (back : ∀ c ∈ after, isBlank c = true)

include front back

/-- In capitals, blanks at the ends are still blanks, and are removed. -/
theorem strip_upper {middle capitals : List Char} (same : middle.flatMap upperChar = capitals)
    (filled : capitals ≠ []) (first : isBlank (capitals.head filled) = false)
    (last : isBlank (capitals.getLast filled) = false) :
    strip (upper (String.ofList (before ++ middle ++ after))) = String.ofList capitals := by
  have kept {cs : List Char} (blank : ∀ c ∈ cs, isBlank c = true) : cs.flatMap upperChar = cs :=
    flatMap_upperChar_of_same fun c member => upperChar_of_isBlank (blank c member)
  rw [upper_ofString, strip_ofString, String.toList_ofList, String.toList_ofList, List.flatMap_append,
    List.flatMap_append, kept front, kept back, same, trimBoth_surrounded front back filled first last]

theorem sizeOf_digits (areDigits : AreDigits digits) :
    sizeOf (.text (String.ofList (before ++ digits ++ after))) = integerOfText (String.ofList digits) := by
  have solid : ∀ c ∈ digits, isBlank c = false := fun c member => isBlank_of_isDigit (areDigits.2 c member)
  have capital : digits.flatMap upperChar = digits :=
    flatMap_upperChar_of_same fun c member => upperChar_of_isDigit (areDigits.2 c member)
  have stripped := strip_upper front back capital areDigits.1 (solid _ (List.head_mem _))
    (solid _ (List.getLast_mem _))
  have other : (digits.map Rune.char).getLast? ≠ some (.char 'B') := by
    rw [List.getLast?_map, ne_eq, Option.map_eq_some_iff]
    rintro ⟨c, last, same⟩
    have digit := areDigits.2 c (List.mem_of_getLast? last)
    rw [Rune.char.inj same] at digit
    cases digit
  rw [sizeOf_text, sizeOfText, stripped, Text.toList_ofString, String.toList_ofList]
  simp only [unit?_of_getLast? other]
  rw [Text.ofString, String.toList_ofList]

theorem sizeOf_unit {bytes : Nat} (areDigits : AreDigits digits)
    (between : ∀ c ∈ spaces, isBlank c = true)
    (unit : unit? (letters.map fun c => .char c.toUpper) = some bytes) :
    sizeOf (.text (String.ofList (before ++ (digits ++ spaces ++ letters) ++ after))) = (do
      let amount ← realOfText (String.ofList (digits ++ spaces))
      (amount.timesNat bytes).toInteger) := by
  obtain ⟨initial, name, small, _⟩ := unit?_cases unit
  have letter : letters.map Char.toUpper = [initial, 'B'] := by
    refine (List.map_inj_right fun _ _ => Rune.char.inj).1 ?_
    rw [List.map_map]
    exact name
  -- In capitals the letters are two of ASCII, so capitals change nothing else in the text.
  have ascii : ∀ c ∈ letters.map Char.toUpper, c.toNat < 0x80 := by
    rw [letter]
    exact List.forall_mem_cons.2 ⟨small, List.forall_mem_singleton.2 (by decide)⟩
  have capital : (digits ++ spaces ++ letters).flatMap upperChar = digits ++ spaces ++ [initial, 'B'] := by
    rw [List.flatMap_append, List.flatMap_append,
      flatMap_upperChar_of_same fun c member => upperChar_of_isDigit (areDigits.2 c member),
      flatMap_upperChar_of_same fun c member => upperChar_of_isBlank (between c member),
      flatMap_upperChar_of_toUpper (List.forall_mem_map.1 ascii), letter]
  have first : isBlank ((digits ++ spaces ++ [initial, 'B']).head (by simp)) = false := by
    simp only [List.append_assoc, List.head_append_of_ne_nil areDigits.1]
    exact isBlank_of_isDigit (areDigits.2 _ (List.head_mem _))
  have last : isBlank ((digits ++ spaces ++ [initial, 'B']).getLast (by simp)) = false := by
    simp only [List.getLast_append_of_ne_nil _ (List.cons_ne_nil initial ['B'])]
    rfl
  have stripped := strip_upper front back capital (by simp) first last
  have parts : (digits ++ spaces ++ [initial, 'B']).map Rune.char =
      (digits ++ spaces).map .char ++ [Rune.char initial, .char 'B'] := by
    rw [List.map_append]
    rfl
  have split : ((digits ++ spaces).map Rune.char ++ [Rune.char initial, .char 'B']).length - 2 =
      ((digits ++ spaces).map Rune.char).length := by
    rw [List.length_append]
    rfl
  rw [name] at unit
  rw [sizeOf_text, sizeOfText, stripped, Text.toList_ofString, String.toList_ofList, parts]
  simp only [split, List.drop_left, List.take_left, unit]
  rw [Text.ofString, String.toList_ofList]

/-- Digits, perhaps among blanks, are the size that they spell.  With a unit behind them in any case
    they are the exact number of bytes if and only if that number has a binary number of its own. -/
theorem sizeOf_exact_iff (areDigits : AreDigits digits)
    (between : ∀ c ∈ spaces, isSpace (plainChar c) = true) :
    (digits.length ≤ maxDigits →
      sizeOf (.text (String.ofList (before ++ digits ++ after))) = .ok (worth digits)) ∧
    ∀ letters bytes, unit? (letters.map fun c => .char c.toUpper) = some bytes →
      (sizeOf (.text (String.ofList (before ++ (digits ++ spaces ++ letters) ++ after))) =
        .ok (worth digits * bytes : Nat) ↔ Binary64.IsBinary (worth digits * bytes)) := by
  refine ⟨fun few => ?_, fun letters bytes unit => ?_⟩
  · have count : digitsIn (String.ofList digits) = digits.length := by
      rw [digitsIn, Text.chars_ofString, String.toList_ofList, List.countP_eq_length.2 areDigits.2]
    rw [sizeOf_digits front back areDigits, integerOfText, integer_of_spells (.bare areDigits), count,
      if_neg (Nat.not_lt.2 few)]
  · have blank : ∀ c ∈ spaces, isBlank c = true := fun c member =>
      isBlank_of_isSpace_plainChar (between c member)
    obtain ⟨_, _, _, j, rfl⟩ := unit?_cases unit
    obtain ⟨x, read, rounds⟩ := exists_realOfText (t := String.ofList (digits ++ spaces))
      (by rw [Text.chars_ofString, String.toList_ofList]) areDigits between
    rw [sizeOf_unit front back areDigits blank unit, read]
    exact rounds.timesNat_iff j

end Sizes

/-- An odd number of 54 bits is rounded. -/
theorem not_sizeOf_exact_odd :
    sizeOf (.text "9007199254740993KB") ≠ .ok (9007199254740993 * 1024 : Nat) := by
  have areDigits : AreDigits "9007199254740993".toList := ⟨nofun, List.all_eq_true.1 rfl⟩
  have text : String.ofList ([] ++ ("9007199254740993".toList ++ [] ++ ['K', 'B']) ++ []) =
      "9007199254740993KB" := rfl
  have value : worth "9007199254740993".toList = 9007199254740993 := by decide +kernel
  have exact_iff := (sizeOf_exact_iff (List.forall_mem_nil _) (List.forall_mem_nil _) areDigits
    (List.forall_mem_nil _)).2 ['K', 'B'] 1024 rfl
  rw [text, value] at exact_iff
  exact fun exact => absurd (exact_iff.1 exact) (by decide +kernel)

end XmlSettings.Logging
