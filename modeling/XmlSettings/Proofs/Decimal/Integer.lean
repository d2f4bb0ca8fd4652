import XmlSettings.Decimal.Numeral

/-! # Integers in decimal

An integer that is written in decimal consists of digits and perhaps a sign (`isNumeralChar`), and the
value of its digits is the number (`valueOfChars_naturalText`).
-/

namespace XmlSettings.Decimal

open XmlSettings.Text (isBlank)

/-! ## Digits -/

theorem toNat_digitChar {d : Nat} (small : d < 10) : (digitChar d).toNat = 48 + d := by
  have valid : Nat.isValidChar (48 + d) := .inl (by omega)
  rw [digitChar, Char.ofNat, dif_pos valid]
  rfl

theorem isDigit_digitChar {d : Nat} (small : d < 10) : (digitChar d).isDigit = true := by
  rw [Char.isDigit_iff_toNat, toNat_digitChar small]
  simp only [Char.reduceToNat]
  omega

theorem valueOf_append (first second : List Nat) :
    valueOf (first ++ second) = second.foldl (fun value digit => 10 * value + digit) (valueOf first) :=
  List.foldl_append

theorem naturalText_of_lt {n : Nat} (small : n < 10) : naturalText n = [digitChar n] := by
  rw [naturalText, if_pos small]

theorem naturalText_of_le {n : Nat} (large : 10 ≤ n) :
    naturalText n = naturalText (n / 10) ++ [digitChar (n % 10)] := by
  rw [naturalText, if_neg (Nat.not_lt.2 large)]

theorem naturalText_ne_nil (n : Nat) : naturalText n ≠ [] := by
  by_cases small : n < 10
  · rw [naturalText_of_lt small]
    exact List.cons_ne_nil _ _
  · rw [naturalText_of_le (Nat.le_of_not_lt small)]
    simp

theorem isDigit_of_mem_naturalText {n : Nat} : ∀ c ∈ naturalText n, c.isDigit = true := by
  induction n using Nat.strongRecOn with
  | ind n ih =>
    by_cases small : n < 10
    · rw [naturalText_of_lt small]
      exact List.forall_mem_singleton.2 (isDigit_digitChar small)
    · have large := Nat.le_of_not_lt small
      rw [naturalText_of_le large]
      refine List.forall_mem_append.2 ⟨ih (n / 10) (by omega), List.forall_mem_singleton.2 ?_⟩
      exact isDigit_digitChar (Nat.mod_lt n (by omega))

/-- The value of the digits of a number is the number. -/
theorem valueOfChars_naturalText (n : Nat) : valueOfChars (naturalText n) = n := by
  induction n using Nat.strongRecOn with
  | ind n ih =>
    by_cases small : n < 10
    · rw [naturalText_of_lt small, valueOfChars, List.map_singleton, toNat_digitChar small]
      simp [valueOf]
    · have large := Nat.le_of_not_lt small
      have front := ih (n / 10) (by omega)
      have last := toNat_digitChar (Nat.mod_lt n (show 0 < 10 by omega))
      rw [valueOfChars] at front
      rw [naturalText_of_le large, valueOfChars, List.map_append, valueOf_append, front,
        List.map_singleton, last]
      simp only [List.foldl_cons, List.foldl_nil]
      omega

/-! ## Characters of numerals -/

/-- Whether a character may stand in an integer that is written in decimal. -/
def isNumeralChar (c : Char) : Bool := c == '-' || c.isDigit

theorem isNumeralChar_of_mem {n : Int} : ∀ c ∈ integerText n, isNumeralChar c = true := by
  have digits (m : Nat) : ∀ c ∈ naturalText m, isNumeralChar c = true := by
    intro c member
    simp [isNumeralChar, isDigit_of_mem_naturalText c member]
  cases n with
  | ofNat m => exact digits m
  | negSucc m => exact List.forall_mem_cons.2 ⟨by decide, digits (m + 1)⟩

theorem toNat_of_isNumeralChar {c : Char} (numeral : isNumeralChar c = true) :
    0x2D ≤ c.toNat ∧ c.toNat ≤ 0x39 := by
  simp only [isNumeralChar, Bool.or_eq_true, beq_iff_eq] at numeral
  rcases numeral with rfl | digit
  · decide
  · have bounds := Char.isDigit_iff_toNat.1 digit
    simp only [Char.reduceToNat] at bounds
    omega

theorem isBlank_of_isNumeralChar {c : Char} (numeral : isNumeralChar c = true) : isBlank c = false := by
  have bounds := toNat_of_isNumeralChar numeral
  simp only [isBlank, Text.blankIntervals, Text.Intervals.covers, Text.Intervals.start?]
  rw [if_neg (by omega), if_neg (by omega), if_neg (by omega), if_neg (by omega), if_pos (by omega)]
  rfl

end XmlSettings.Decimal
