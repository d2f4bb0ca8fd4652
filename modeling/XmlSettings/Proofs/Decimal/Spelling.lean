import Mathlib.Data.List.TakeWhile
import Mathlib.Data.Nat.Digits.Defs
import XmlSettings.Proofs.Decimal.Integer

/-! # Strict numerals

The integers that texts spell in ASCII digits (`Spells`).  Strict numerals are exactly the texts that
spell one, and reading such a text gives the integer unless there are too many digits
(`integer_of_spells`).  A strict decimal is always read as a binary number (`exists_real?`).
-/

namespace XmlSettings.Decimal

open XmlSettings.Text (dropWhile_of_none trimBoth_of_none)

/-! ## Spelled integers -/

/-- Whether there are characters, all of them ASCII digits. -/
def AreDigits (digits : List Char) : Prop :=
  digits ≠ [] ∧ ∀ c ∈ digits, c.isDigit = true

/-- What digits are worth, the last one counting ones. -/
def worth (digits : List Char) : Nat :=
  Nat.ofDigits 10 (digits.reverse.map fun c => c.toNat - '0'.toNat)

/-- Which integer a text spells: ASCII digits, perhaps behind a sign. -/
inductive Spells : Text → Int → Prop where
  | bare {digits : List Char} (areDigits : AreDigits digits) :
      Spells (String.ofList digits) (worth digits)
  | plus {digits : List Char} (areDigits : AreDigits digits) :
      Spells (String.ofList ('+' :: digits)) (worth digits)
  | minus {digits : List Char} (areDigits : AreDigits digits) :
      Spells (String.ofList ('-' :: digits)) (-(worth digits : Int))

/-- How many ASCII digits there are in a text. -/
def digitsIn (t : Text) : Nat := t.chars.countP (·.isDigit)

variable {t : Text} {n : Int} {c : Char} {cs digits : List Char}

theorem valueOfChars_eq_worth (digits : List Char) : valueOfChars digits = worth digits := by
  rw [valueOfChars, valueOf, worth, Nat.ofDigits_eq_foldr, List.map_reverse, List.foldr_reverse]
  congr 1
  funext value digit
  exact Nat.add_comm _ _

/-! ## Signs -/

theorem takeSign_of_isDigit {c : Char} {rest : List Char} (digit : c.isDigit = true) :
    takeSign (c :: rest) = (false, c :: rest) := by
  unfold takeSign
  split
  next same =>
    cases same
    exact absurd digit (by decide)
  next same =>
    cases same
    exact absurd digit (by decide)
  next => rfl

theorem takeSign_cases (cs : List Char) :
    takeSign cs = (false, cs) ∨ (∃ rest, cs = '+' :: rest ∧ takeSign cs = (false, rest)) ∨
      ∃ rest, cs = '-' :: rest ∧ takeSign cs = (true, rest) := by
  unfold takeSign
  split
  next rest => exact .inr (.inr ⟨rest, rfl, rfl⟩)
  next rest => exact .inr (.inl ⟨rest, rfl, rfl⟩)
  next => exact .inl rfl

theorem takeSign_of_areDigits (areDigits : AreDigits digits) : takeSign digits = (false, digits) := by
  obtain ⟨filled, each⟩ := areDigits
  obtain ⟨c, rest, rfl⟩ := List.exists_cons_of_ne_nil filled
  exact takeSign_of_isDigit (each c List.mem_cons_self)

/-- A character that is not taken off is the sign. -/
theorem mem_takeSign (member : c ∈ cs) : c = '+' ∨ c = '-' ∨ c ∈ (takeSign cs).2 := by
  rcases takeSign_cases cs with bare | ⟨rest, rfl, signed⟩ | ⟨rest, rfl, signed⟩
  · rw [bare]
    exact .inr (.inr member)
  · rw [signed]
    exact (List.mem_cons.1 member).imp_right .inr
  · rw [signed]
    exact .inr (List.mem_cons.1 member)

theorem isPlainInteger_iff_areDigits : isPlainInteger t = true ↔ AreDigits (takeSign t.chars).2 := by
  simp [isPlainInteger, AreDigits]

/-- The integer of digits behind a sign. -/
def signed (negative : Bool) (digits : List Char) : Int :=
  if negative then -(worth digits : Int) else worth digits

theorem ofString_chars_of_areDigits (areDigits : AreDigits (takeSign t.chars).2) :
    (String.ofList t.chars : Text) = t := by
  refine Text.ofString_ofList_chars (Text.hasSurrogate_of_not_mem_chars fun member => ?_)
  rcases mem_takeSign member with same | same | inside
  · exact absurd same (by decide)
  · exact absurd same (by decide)
  · exact absurd (areDigits.2 _ inside) (by decide)

theorem spells_of_areDigits (areDigits : AreDigits (takeSign t.chars).2) :
    Spells t (signed (takeSign t.chars).1 (takeSign t.chars).2) := by
  have same := ofString_chars_of_areDigits areDigits
  rcases takeSign_cases t.chars with bare | ⟨rest, text, taken⟩ | ⟨rest, text, taken⟩
  · rw [bare] at areDigits ⊢
    have spelled := Spells.bare areDigits
    rwa [same] at spelled
  · rw [taken] at areDigits ⊢
    have spelled := Spells.plus areDigits
    rwa [← text, same] at spelled
  · rw [taken] at areDigits ⊢
    have spelled := Spells.minus areDigits
    rwa [← text, same] at spelled

/-- The digits and the sign of a text that spells an integer. -/
theorem Spells.takeSign (spelled : Spells t n) : ∃ negative digits, AreDigits digits ∧
    Decimal.takeSign t.chars = (negative, digits) ∧ n = signed negative digits ∧
    digitsIn t = digits.length := by
  cases spelled with
  | @bare digits areDigits =>
    refine ⟨false, digits, areDigits, ?_, rfl, ?_⟩
    · rw [Text.chars_ofString, String.toList_ofList, takeSign_of_areDigits areDigits]
    · rw [digitsIn, Text.chars_ofString, String.toList_ofList, List.countP_eq_length.2 areDigits.2]
  | @plus digits areDigits =>
    refine ⟨false, digits, areDigits, by rw [Text.chars_ofString, String.toList_ofList]; rfl, rfl, ?_⟩
    rw [digitsIn, Text.chars_ofString, String.toList_ofList, List.countP_cons_of_neg (by decide),
      List.countP_eq_length.2 areDigits.2]
  | @minus digits areDigits =>
    refine ⟨true, digits, areDigits, by rw [Text.chars_ofString, String.toList_ofList]; rfl, rfl, ?_⟩
    rw [digitsIn, Text.chars_ofString, String.toList_ofList, List.countP_cons_of_neg (by decide),
      List.countP_eq_length.2 areDigits.2]

/-- The strict numerals of integers are the texts that spell one. -/
theorem isPlainInteger_iff : isPlainInteger t = true ↔ ∃ n, Spells t n := by
  rw [isPlainInteger_iff_areDigits]
  constructor
  · exact fun areDigits => ⟨_, spells_of_areDigits areDigits⟩
  · rintro ⟨n, spelled⟩
    obtain ⟨negative, digits, areDigits, taken, _, _⟩ := spelled.takeSign
    rw [taken]
    exact areDigits

theorem Spells.unique {other : Int} (first : Spells t n) (second : Spells t other) : n = other := by
  obtain ⟨negative, digits, _, taken, rfl, _⟩ := first.takeSign
  obtain ⟨_, _, _, again, rfl, _⟩ := second.takeSign
  cases taken.symm.trans again
  rfl

/-- The decimal form of an integer spells it. -/
theorem spells_integerText (n : Int) : Spells (String.ofList (integerText n)) n := by
  have areDigits (m : Nat) : AreDigits (naturalText m) :=
    ⟨naturalText_ne_nil m, fun c member => isDigit_of_mem_naturalText c member⟩
  have value (m : Nat) : worth (naturalText m) = m := by
    rw [← valueOfChars_eq_worth, valueOfChars_naturalText]
  cases n with
  | ofNat m =>
    have spelled := Spells.bare (areDigits m)
    rwa [value] at spelled
  | negSucc m =>
    have spelled := Spells.minus (areDigits (m + 1))
    rwa [value] at spelled

/-! ## Characters of strict numerals -/

/-- Whether a character may stand in a strict numeral: it is printed in ASCII, and no underscore. -/
def isStrictChar (c : Char) : Bool := 0x21 ≤ c.toNat && c.toNat < 0x7F && c != '_'

theorem isStrictChar_of_isDigit (digit : c.isDigit = true) : isStrictChar c = true := by
  have bounds := Char.isDigit_iff_toNat.1 digit
  simp only [Char.reduceToNat] at bounds
  have other : c ≠ '_' := by
    rintro rfl
    exact absurd digit (by decide)
  simp only [isStrictChar, Bool.and_eq_true, decide_eq_true_eq, bne_iff_ne]
  exact ⟨⟨by omega, by omega⟩, other⟩

/-- A text is made of strict characters if it is without its sign. -/
theorem areStrict_of_takeSign (each : ∀ c ∈ (takeSign cs).2, isStrictChar c = true) :
    ∀ c ∈ cs, isStrictChar c = true := by
  intro c member
  rcases mem_takeSign member with rfl | rfl | behind
  · rfl
  · rfl
  · exact each c behind

section Strict

variable (each : ∀ c ∈ cs, isStrictChar c = true)

include each

theorem map_plainChar_of_strict : cs.map plainChar = cs := by
  refine (List.map_congr_left fun c member => ?_).trans (List.map_id _)
  have strict := each c member
  simp only [isStrictChar, Bool.and_eq_true, decide_eq_true_eq] at strict
  rw [plainChar, if_pos strict.1.2, id]

theorem isSpace_of_strict : ∀ c ∈ cs, isSpace c = false := by
  intro c member
  have strict := each c member
  simp only [isStrictChar, Bool.and_eq_true, decide_eq_true_eq] at strict
  have notSpace : c ≠ ' ' := by
    rintro rfl
    exact absurd strict.1.1 (by decide)
  have high : ¬c ≤ '\r' := by
    rw [Char.le_def, UInt32.le_iff_toNat_le]
    exact fun low => absurd (Nat.le_trans strict.1.1 low) (by decide)
  simp [isSpace, notSpace, high]

theorem filter_of_strict : cs.filter (· != '_') = cs := by
  refine List.filter_eq_self.2 fun c member => ?_
  have strict := each c member
  simp only [isStrictChar, Bool.and_eq_true] at strict
  exact strict.2

theorem underscoresSeparate_of_strict {before : Char} (first : before ≠ '_') :
    underscoresSeparate before cs = true := by
  induction cs generalizing before with
  | nil => simpa [underscoresSeparate] using first
  | cons c rest ih =>
    obtain ⟨here, later⟩ := List.forall_mem_cons.1 each
    simp only [isStrictChar, Bool.and_eq_true, bne_iff_ne] at here
    simp [underscoresSeparate, here.2, first, ih later here.2]

end Strict

/-! ## Reading integers -/

theorem digitRun?_of_isDigit {cs : List Char} (digits : ∀ c ∈ cs, c.isDigit = true) :
    digitRun? cs = some (cs, []) := by
  induction cs with
  | nil => rfl
  | cons c rest ih =>
    obtain ⟨first, more⟩ := List.forall_mem_cons.1 digits
    rw [digitRun?, if_pos first, ih more]
    · rfl
    · rintro rfl
      exact absurd first (by decide)

/-- A text that spells an integer is read as it unless there are too many digits. -/
theorem integer_of_spells (spelled : Spells t n) : integer t =
    if maxDigits < digitsIn t then .error (.tooManyDigits (digitsIn t)) else .ok n := by
  obtain ⟨negative, digits, areDigits, taken, rfl, count⟩ := spelled.takeSign
  have strict : ∀ c ∈ t.chars, isStrictChar c = true := by
    apply areStrict_of_takeSign
    rw [taken]
    exact fun c member => isStrictChar_of_isDigit (areDigits.2 c member)
  have start : t.chars.dropWhile isSpace = t.chars := dropWhile_of_none (isSpace_of_strict strict)
  have headed : digits.head?.any (·.isDigit) = true := by
    obtain ⟨c, rest, rfl⟩ := List.exists_cons_of_ne_nil areDigits.1
    exact areDigits.2 c List.mem_cons_self
  rw [integer, map_plainChar_of_strict strict, start, taken, count]
  simp only [headed, digitRun?_of_isDigit areDigits.2, valueOfChars_eq_worth, List.all_nil, Bool.not_true,
    Bool.false_eq_true, if_false, signed]

theorem digitsIn_integerText (n : Int) : digitsIn (String.ofList (integerText n)) = digitCount n := by
  have count (m : Nat) : (naturalText m).countP (·.isDigit) = (naturalText m).length :=
    List.countP_eq_length.2 isDigit_of_mem_naturalText
  rw [digitsIn, Text.chars_ofString, String.toList_ofList, digitCount]
  cases n with
  | ofNat m => exact count m
  | negSucc m => exact (List.countP_cons_of_neg (by decide)).trans (count (m + 1))

/-- An integer is read back from its decimal form. -/
theorem integer_integerText (few : digitCount n ≤ maxDigits) :
    integer (String.ofList (integerText n)) = .ok n := by
  rw [integer_of_spells (spells_integerText n), digitsIn_integerText, if_neg (Nat.not_lt.2 few)]

/-! ## Reading decimals -/

theorem isStrictChar_of_toLower (strict : isStrictChar c.toLower = true) : isStrictChar c = true := by
  delta Char.toLower at strict
  split at strict
  next upper =>
    have low : 0x41 ≤ c.toNat := UInt32.le_iff_toNat_le.1 upper.1
    have high : c.toNat ≤ 0x5A := UInt32.le_iff_toNat_le.1 upper.2
    have other : c ≠ '_' := by
      rintro rfl
      exact absurd high (by decide)
    simp only [isStrictChar, Bool.and_eq_true, decide_eq_true_eq, bne_iff_ne]
    exact ⟨⟨by omega, by omega⟩, other⟩
  next => exact strict

/-- The words for special values are made of letters. -/
theorem areStrict_of_specialValue? {negative : Bool} (special : (specialValue? negative cs).isSome = true) :
    ∀ c ∈ cs, isStrictChar c = true := by
  have word : ∃ word : String, String.ofList (cs.map (·.toLower)) = word ∧
      word.toList.all isStrictChar = true := by
    unfold specialValue? at special
    simp only at special
    split at special
    next infinite => rcases infinite with same | same <;> exact ⟨_, same, rfl⟩
    next =>
      split at special
      next same => exact ⟨_, same, rfl⟩
      next => cases special
  obtain ⟨_, rfl, strict⟩ := word
  rw [String.toList_ofList, List.all_eq_true] at strict
  exact fun c member => isStrictChar_of_toLower (strict _ (List.mem_map_of_mem member))

theorem isDigit_of_mem_takeWhile (member : c ∈ cs.takeWhile (·.isDigit)) : c.isDigit = true :=
  List.all_eq_true.1 List.all_takeWhile c member

theorem mem_takeFraction (member : c ∈ cs) :
    c = '.' ∨ c.isDigit = true ∨ c ∈ (takeFraction cs).2.2 := by
  rw [← List.takeWhile_append_dropWhile (p := (·.isDigit)) (l := cs), List.mem_append] at member
  unfold takeFraction
  simp only
  rcases member with front | behind
  · exact .inr (.inl (isDigit_of_mem_takeWhile front))
  · split
    next rest point =>
      rw [point] at behind
      rcases List.mem_cons.1 behind with same | later
      · exact .inl same
      · rw [← List.takeWhile_append_dropWhile (p := (·.isDigit)) (l := rest), List.mem_append] at later
        exact .inr (later.imp_left isDigit_of_mem_takeWhile)
    next => exact .inr (.inr behind)

/-- Nothing stands behind the digits of a decimal, or its exponent does. -/
theorem exponent_of_decimalParts? (parts : (decimalParts? cs).isSome = true) :
    (takeFraction cs).2.2 = [] ∨ ∃ mark rest, (takeFraction cs).2.2 = mark :: rest ∧
      (mark = 'e' ∨ mark = 'E') ∧ AreDigits (takeSign rest).2 := by
  unfold decimalParts? at parts
  simp only at parts
  split at parts
  next => cases parts
  next =>
    split at parts
    next none => exact .inl none
    next mark rest behind =>
      split at parts
      next exponent =>
        simp only [Bool.and_eq_true, Bool.or_eq_true, beq_iff_eq, Bool.not_eq_true', List.isEmpty_eq_false_iff,
          List.all_eq_true] at exponent
        exact .inr ⟨mark, rest, behind, exponent.1.1, exponent.1.2, exponent.2⟩
      next => cases parts

/-- A decimal is made of digits, a point, and the letter and the sign of its exponent. -/
theorem areStrict_of_decimalParts? (parts : (decimalParts? cs).isSome = true) :
    ∀ c ∈ cs, isStrictChar c = true := by
  intro c member
  rcases mem_takeFraction member with rfl | digit | behind
  · rfl
  · exact isStrictChar_of_isDigit digit
  · rcases exponent_of_decimalParts? parts with none | ⟨mark, rest, same, letter, digits⟩
    · rw [none] at behind
      cases behind
    · rw [same] at behind
      rcases List.mem_cons.1 behind with rfl | later
      · rcases letter with rfl | rfl <;> rfl
      · apply areStrict_of_takeSign _ c later
        exact fun c member => isStrictChar_of_isDigit (digits.2 c member)

/-- Which special value a word stands for depends on the sign, but not whether it does. -/
theorem isSome_specialValue? (negative : Bool) (cs : List Char) :
    (specialValue? negative cs).isSome = (specialValue? false cs).isSome := by
  unfold specialValue?
  simp only
  split
  next => rfl
  next => split <;> rfl

theorem exists_signedReal? (plain : isPlainReal t = true) : ∃ x, signedReal? t.chars = some x := by
  unfold signedReal?
  simp only
  split
  next x _ => exact ⟨x, rfl⟩
  next noWord =>
    simp only [isPlainReal, Bool.or_eq_true] at plain
    rcases plain with special | parts
    · rw [← isSome_specialValue? (takeSign t.chars).1, noWord] at special
      cases special
    · rw [← Option.isSome_iff_exists, Option.isSome_map]
      exact parts

/-- A strict decimal is read as a binary number. -/
theorem exists_real? (plain : isPlainReal t = true) : ∃ x, real? t = some x := by
  have strict : ∀ c ∈ t.chars, isStrictChar c = true := by
    apply areStrict_of_takeSign
    have body := plain
    simp only [isPlainReal, Bool.or_eq_true] at body
    exact body.elim areStrict_of_specialValue? areStrict_of_decimalParts?
  rw [real?, map_plainChar_of_strict strict, trimBoth_of_none (isSpace_of_strict strict),
    underscoresSeparate_of_strict strict (by decide), filter_of_strict strict]
  exact exists_signedReal? plain

/-- A strict numeral of an integer is a strict decimal. -/
theorem isPlainReal_of_isPlainInteger (plain : isPlainInteger t = true) : isPlainReal t = true := by
  obtain ⟨filled, each⟩ := isPlainInteger_iff_areDigits.1 plain
  have whole : takeFraction (takeSign t.chars).2 = ((takeSign t.chars).2, [], []) := by
    have front := List.takeWhile_eq_self_iff.2 each
    have behind := List.dropWhile_eq_nil_iff.2 each
    rw [takeFraction, front, behind]
  have parts : (decimalParts? (takeSign t.chars).2).isSome = true := by
    rw [decimalParts?, whole]
    simp [filled]
  rw [isPlainReal, parts, Bool.or_true]

end XmlSettings.Decimal
