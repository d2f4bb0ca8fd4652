import XmlSettings.Proofs.Decimal.Rounding
import XmlSettings.Proofs.Decimal.Spelling
import XmlSettings.Proofs.Text.Strip

/-! # Digits as binary numbers

A row of digits is read as the binary number that what it is worth is rounded to
(`exists_realOfText`).  It is a natural number, or beyond the range of the format.
-/

namespace XmlSettings.Decimal

open XmlSettings.Text (isBlank trimBoth trimBoth_surrounded)

variable {digits spaces : List Char}

/-! ## What digits are worth -/

theorem worth_cons (c : Char) (rest : List Char) :
    worth (c :: rest) = (c.toNat - 48) * 10 ^ rest.length + worth rest := by
  simp only [worth, List.reverse_cons, List.map_append, Nat.ofDigits_append, List.length_map,
    List.length_reverse, List.map_singleton, Nat.ofDigits_singleton, Char.reduceToNat]
  rw [Nat.add_comm, Nat.mul_comm]

/-- Zeros in front are worth nothing. -/
theorem worth_dropWhile (digits : List Char) : worth (digits.dropWhile (· == '0')) = worth digits := by
  induction digits with
  | nil => rfl
  | cons c rest ih =>
    rw [List.dropWhile_cons]
    split
    next zero =>
      rw [ih, worth_cons, beq_iff_eq.1 zero]
      simp
    next => rfl

theorem pow_le_worth {c : Char} {rest : List Char} (digit : c.isDigit = true) (nonzero : c ≠ '0') :
    10 ^ rest.length ≤ worth (c :: rest) := by
  have bounds := Char.isDigit_iff_toNat.1 digit
  have other : c.toNat ≠ 48 := fun same => nonzero (Char.toNat_inj.1 same)
  simp only [Char.reduceToNat] at bounds
  rw [worth_cons]
  calc 10 ^ rest.length
    _ = 1 * 10 ^ rest.length := (Nat.one_mul _).symm
    _ ≤ (c.toNat - 48) * 10 ^ rest.length := Nat.mul_le_mul_right _ (by omega)
    _ ≤ (c.toNat - 48) * 10 ^ rest.length + worth rest := Nat.le_add_right _ _

/-! ## Characters -/

theorem isBlank_of_isSpace {c : Char} (space : isSpace c = true) : isBlank c = true := by
  simp only [isSpace, Bool.or_eq_true, beq_iff_eq, Bool.and_eq_true, decide_eq_true_eq] at space
  rcases space with rfl | ⟨low, high⟩
  · rfl
  · have low : 0x09 ≤ c.toNat := UInt32.le_iff_toNat_le.1 low
    have high : c.toNat ≤ 0x0D := UInt32.le_iff_toNat_le.1 high
    simp only [isBlank, Text.blankIntervals, Text.Intervals.covers, Text.Intervals.start?]
    rw [if_neg (by omega), if_pos (by omega)]
    rfl

theorem isBlank_of_isSpace_plainChar {c : Char} (space : isSpace (plainChar c) = true) :
    isBlank c = true := by
  unfold plainChar at space
  split at space
  next => exact isBlank_of_isSpace space
  next =>
    split at space
    next blank => exact blank
    next =>
      split at space
      next value found =>
        have small : value < 10 := by
          obtain ⟨first, _, rfl⟩ := Option.map_eq_some_iff.1 found
          exact Nat.mod_lt _ (by decide)
        have strict := isStrictChar_of_isDigit (isDigit_digitChar small)
        have other := isSpace_of_strict (List.forall_mem_singleton.2 strict) _ List.mem_cons_self
        rw [space] at other
        cases other
      next => exact isBlank_of_isSpace space

theorem toLower_of_isDigit {c : Char} (digit : c.isDigit = true) : c.toLower = c := by
  have bounds := Char.isDigit_iff_toNat.1 digit
  simp only [Char.reduceToNat] at bounds
  have notCapital : ¬(c.val ≥ 'A'.val ∧ c.val ≤ 'Z'.val) := by
    rintro ⟨low, _⟩
    have : 0x41 ≤ c.toNat := UInt32.le_iff_toNat_le.1 low
    omega
  delta Char.toLower
  rw [dif_neg notCapital]

/-! ## Reading -/

theorem rounds_toBinary (each : ∀ c ∈ digits, c.isDigit = true) :
    Binary64.Rounds (worth digits) (DecimalParts.toBinary ⟨digits, [], 0⟩ false) := by
  rw [← worth_dropWhile]
  simp only [DecimalParts.toBinary, List.append_nil, List.length_nil, Int.natCast_zero, Int.sub_zero,
    Int.zero_add, Int.toNat_zero, Int.neg_zero]
  cases shown : digits.dropWhile (· == '0') with
  | nil => exact Binary64.rounds_nearest 0 0
  | cons c rest =>
    have digit : c.isDigit = true := by
      apply each c
      exact (List.dropWhile_sublist _).subset (shown ▸ List.mem_cons_self)
    have nonzero : c ≠ '0' := by
      rintro rfl
      have first := List.head_dropWhile_not (· == '0') (l := digits) (by simp [shown])
      simp [shown] at first
    rw [if_neg (by simp; omega)]
    split
    next far =>
      -- With more than 310 digits, the number is beyond the range of the format.
      refine .beyond rfl fun binary => ?_
      have long : 310 ≤ rest.length := by
        rw [List.length_cons] at far
        omega
      have large : 2 ^ 1024 ≤ worth (c :: rest) :=
        calc 2 ^ 1024
          _ ≤ 10 ^ 310 := by decide +kernel
          _ ≤ 10 ^ rest.length := pow_le_pow_right₀ (by decide) long
          _ ≤ worth (c :: rest) := pow_le_worth digit nonzero
      exact absurd binary.2 (Nat.not_lt.2 large)
    next =>
      rw [valueOfChars_eq_worth]
      exact Binary64.rounds_nearest _ 0

/-- No word for a special value opens with a digit. -/
theorem specialValue?_of_areDigits (areDigits : AreDigits digits) : specialValue? false digits = none := by
  obtain ⟨filled, each⟩ := areDigits
  obtain ⟨c, rest, rfl⟩ := List.exists_cons_of_ne_nil filled
  have digit := each c List.mem_cons_self
  have other (word : String) (letter : word.toList.head?.all (fun first => !first.isDigit) = true) :
      String.ofList ((c :: rest).map (·.toLower)) ≠ word := by
    rintro rfl
    rw [String.toList_ofList, List.map_cons, toLower_of_isDigit digit] at letter
    simp [digit] at letter
  simp only [specialValue?]
  rw [if_neg (not_or.2 ⟨other "inf" rfl, other "infinity" rfl⟩), if_neg (other "nan" rfl)]

theorem decimalParts?_of_areDigits (areDigits : AreDigits digits) :
    decimalParts? digits = some ⟨digits, [], 0⟩ := by
  obtain ⟨filled, each⟩ := areDigits
  have front := List.takeWhile_eq_self_iff.2 each
  have behind := List.dropWhile_eq_nil_iff.2 each
  simp only [decimalParts?, takeFraction, front, behind]
  rw [if_neg (by simp [filled])]

/-- Digits, perhaps with blanks behind them, are read as the number nearest to what they are worth. -/
theorem exists_realOfText {t : Text} (chars : t.chars = digits ++ spaces) (areDigits : AreDigits digits)
    (spaced : ∀ c ∈ spaces, isSpace (plainChar c) = true) :
    ∃ x, realOfText t = .ok x ∧ Binary64.Rounds (worth digits) x := by
  have strict : ∀ c ∈ digits, isStrictChar c = true :=
    fun c member => isStrictChar_of_isDigit (areDigits.2 c member)
  have solid := isSpace_of_strict strict
  have trimmed : trimBoth isSpace ((digits ++ spaces).map plainChar) = digits := by
    rw [List.map_append, map_plainChar_of_strict strict]
    change trimBoth isSpace ([] ++ digits ++ spaces.map plainChar) = digits
    exact trimBoth_surrounded (List.forall_mem_nil _) (List.forall_mem_map.2 spaced) areDigits.1
      (solid _ (List.head_mem _)) (solid _ (List.getLast_mem _))
  refine ⟨_, ?_, rounds_toBinary areDigits.2⟩
  rw [realOfText, real?, chars]
  simp only [trimmed]
  rw [if_pos (underscoresSeparate_of_strict strict (by decide)), filter_of_strict strict, signedReal?,
    takeSign_of_areDigits areDigits]
  simp only [specialValue?_of_areDigits areDigits, decimalParts?_of_areDigits areDigits, Option.map_some]

end XmlSettings.Decimal
