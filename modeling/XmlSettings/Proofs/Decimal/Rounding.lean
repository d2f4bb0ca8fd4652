import Mathlib.Algebra.Order.Ring.Nat
import Mathlib.Data.Nat.Log
import XmlSettings.Value.Number

/-! # Natural numbers as binary numbers

The natural numbers that have a finite binary number of their own (`IsBinary`) are rounded to it, and
every other one is rounded to one that has, or beyond them all (`rounds_nearest`).  Such numbers are
multiplied without a loss before the product is rounded (`StandsFor.rounds_timesNat`), and read as
integers they are themselves (`StandsFor.toInteger`).  A number that is rounded, multiplied by a power
of two and rounded again is exact if the product has a binary number of its own
(`Rounds.timesNat_iff`).
-/

namespace XmlSettings.Decimal

/-! ## Rounded quotients -/

section Quotients

variable {num den : Nat}

theorem roundedQuotient_mul (num den : Nat) {c : Nat} (positive : 0 < c) :
    roundedQuotient (num * c) (den * c) = roundedQuotient num den := by
  simp only [roundedQuotient, Nat.mul_div_mul_right _ _ positive, Nat.mul_mod_mul_right, ← Nat.mul_assoc,
    Nat.mul_lt_mul_right positive, Nat.mul_right_cancel_iff positive]

/-- A quotient without a remainder is not rounded. -/
theorem roundedQuotient_of_dvd (positive : 0 < den) (divides : den ∣ num) :
    roundedQuotient num den = num / den := by
  have noRest := Nat.mod_eq_zero_of_dvd divides
  simp only [roundedQuotient, noRest]
  rw [if_neg (by omega)]

theorem le_roundedQuotient (num den : Nat) : num / den ≤ roundedQuotient num den := by
  simp only [roundedQuotient]
  split <;> omega

theorem roundedQuotient_le (num den : Nat) : roundedQuotient num den ≤ num / den + 1 := by
  simp only [roundedQuotient]
  split <;> omega

end Quotients

theorem log2_mul_two_pow {n : Nat} (nonzero : n ≠ 0) (j : Nat) : (n * 2 ^ j).log2 = n.log2 + j := by
  have filled : n * 2 ^ j ≠ 0 := Nat.mul_ne_zero nonzero (Nat.two_pow_pos j).ne'
  rw [Nat.log2_eq_iff filled, Nat.add_right_comm, Nat.pow_add, Nat.pow_add]
  exact ⟨Nat.mul_le_mul_right _ (Nat.log2_self_le nonzero),
    Nat.mul_lt_mul_of_pos_right Nat.lt_log2_self (Nat.two_pow_pos j)⟩

namespace Binary64

/-! ## Naturals among the binary numbers -/

/-- Whether a natural number has a finite binary number of its own: no bit behind its first 53 is set,
    and it has no more than 1024 bits. -/
def IsBinary (n : Nat) : Prop := 2 ^ (n.log2 - 52) ∣ n ∧ n < 2 ^ 1024

instance (n : Nat) : Decidable (IsBinary n) := inferInstanceAs (Decidable (_ ∧ _))

/-- Whether a binary number is a natural one. -/
structure StandsFor (x : Binary64) (n : Nat) : Prop where
  isNumber : x.isNaN = false
  isFinite : x.isInfinite = false
  isPositive : x.negative = false
  worth : x.significand * 2 ^ x.exponent.toNat = n * 2 ^ (-x.exponent).toNat

/-- What a natural number is rounded to. -/
inductive Rounds (n : Nat) (x : Binary64) : Prop where
  | beyond (infinite : x = infinity false) (other : ¬IsBinary n)
  | finite {m : Nat} (binary : IsBinary m) (stands : x.StandsFor m) (kept : IsBinary n → m = n)

/-! ## Magnitudes -/

section Magnitude

variable {m : Nat} (small : m < 0x8000000000000000)

include small

theorem toNat_bits_ofMagnitude : (ofMagnitude false m).bits.toNat = m := by
  have fits : m < 2 ^ 64 := by omega
  rw [ofMagnitude, if_neg Bool.false_ne_true, Nat.add_zero, UInt64.toNat_ofNat', Nat.mod_eq_of_lt fits]

theorem magnitude_ofMagnitude : (ofMagnitude false m).magnitude = m := by
  rw [magnitude, toNat_bits_ofMagnitude small, Nat.mod_eq_of_lt small]

theorem negative_ofMagnitude : (ofMagnitude false m).negative = false := by
  rw [negative, toNat_bits_ofMagnitude small]
  exact decide_eq_false (by omega)

end Magnitude

/-- The number with some units at a place.  A carry into the place above is one into the exponent. -/
theorem standsFor_ofMagnitude {n place units : Nat} (low : leadingPlace ≤ units)
    (high : units ≤ 2 * leadingPlace)
    (below : (place + 1022) * leadingPlace + units < infiniteMagnitude)
    (worth : units * 2 ^ (place - 52) = n * 2 ^ (52 - place)) :
    (ofMagnitude false ((place + 1022) * leadingPlace + units)).StandsFor n := by
  have leading : leadingPlace = 4503599627370496 := rfl
  have small : (place + 1022) * leadingPlace + units < 0x8000000000000000 := Nat.lt_trans below (by decide)
  have magnitude := magnitude_ofMagnitude small
  refine ⟨?_, ?_, negative_ofMagnitude small, ?_⟩
  · rw [isNaN, magnitude]
    exact decide_eq_false (by omega)
  · rw [isInfinite, magnitude]
    exact beq_eq_false_iff_ne.2 (by omega)
  · rw [leading] at low high
    rw [significand, exponent, magnitude, leading, if_neg (by omega)]
    rcases Nat.lt_or_eq_of_le high with within | rfl
    · -- The leading place of the units adds one to the exponent.
      have quotient : ((place + 1022) * 4503599627370496 + units) / 4503599627370496 = place + 1023 := by
        omega
      have significand : ((place + 1022) * 4503599627370496 + units) % 4503599627370496 +
          4503599627370496 = units := by omega
      have up : (((max (place + 1023) 1 : Nat) : Int) - 1075).toNat = place - 52 := by omega
      have down : (-(((max (place + 1023) 1 : Nat) : Int) - 1075)).toNat = 52 - place := by omega
      rw [quotient, significand, up, down, worth]
    -- The units are carried into the place above: none are left, and the exponent is one higher.
    · have quotient : ((place + 1022) * 4503599627370496 + 2 * 4503599627370496) / 4503599627370496 =
          place + 1024 := by omega
      have rest : ((place + 1022) * 4503599627370496 + 2 * 4503599627370496) % 4503599627370496 = 0 := by
        omega
      have up : (((max (place + 1024) 1 : Nat) : Int) - 1075).toNat = place - 51 := by omega
      have down : (-(((max (place + 1024) 1 : Nat) : Int) - 1075)).toNat = 51 - place := by omega
      rw [quotient, rest, up, down, Nat.zero_add]
      rcases Nat.lt_or_ge place 52 with fraction | whole
      · rw [show place - 52 = 0 by omega, show 52 - place = 51 - place + 1 by omega, Nat.pow_succ] at worth
        rw [show place - 51 = 0 by omega, Nat.pow_zero]
        rw [Nat.pow_zero, ← Nat.mul_assoc] at worth
        omega
      · rw [show 52 - place = 0 by omega] at worth
        rw [show place - 51 = place - 52 + 1 by omega, show 51 - place = 0 by omega, ← worth, Nat.pow_succ]
        omega

/-! ## Rounding -/

/-- Up to 53 bits at any place make a binary number. -/
theorem isBinary_mul {units place : Nat} (high : units ≤ 2 * leadingPlace)
    (small : units * 2 ^ place < 2 ^ 1024) : IsBinary (units * 2 ^ place) := by
  refine ⟨?_, small⟩
  by_cases nonzero : units = 0
  · rw [nonzero, Nat.zero_mul]
    exact Nat.dvd_zero _
  · rw [log2_mul_two_pow nonzero]
    rcases Nat.lt_or_ge 52 units.log2 with many | few
    · have all : units = 2 ^ 53 := Nat.le_antisymm high ((Nat.le_log2 nonzero).1 many)
      rw [all, Nat.log2_two_pow, ← Nat.pow_add]
      exact Nat.pow_dvd_pow 2 (by omega)
    · exact Dvd.dvd.mul_left (Nat.pow_dvd_pow 2 (by omega)) _

/-- The leading 53 bits of a natural number, rounded. -/
def units (n : Nat) : Nat :=
  roundedQuotient (n * 2 ^ (52 - n.log2)) (2 ^ (n.log2 - 52))

theorem units_of_dvd {n : Nat} (short : 2 ^ (n.log2 - 52) ∣ n) :
    units n = n * 2 ^ (52 - n.log2) / 2 ^ (n.log2 - 52) :=
  roundedQuotient_of_dvd (Nat.two_pow_pos _) (Dvd.dvd.mul_right short _)

section Nearest

variable {n : Nat} (nonzero : n ≠ 0)

include nonzero

theorem placeOf_natural (j : Nat) : placeOf (n * 2 ^ j) (2 ^ j) = (n.log2 : Int) - 52 := by
  have guess : (((n * 2 ^ j).log2 : Int) - ((2 ^ j).log2 : Int)) = (n.log2 : Int) := by
    rw [log2_mul_two_pow nonzero, Nat.log2_two_pow]
    omega
  have reached : 2 ^ j <<< ((n.log2 : Int)).toNat ≤ (n * 2 ^ j) <<< (-(n.log2 : Int)).toNat := by
    rw [show (-(n.log2 : Int)).toNat = 0 by omega, Nat.shiftLeft_zero, Int.toNat_natCast, Nat.shiftLeft_eq,
      Nat.mul_comm]
    exact Nat.mul_le_mul_right _ (Nat.log2_self_le nonzero)
  simp only [placeOf, guess]
  rw [if_pos reached]
  omega

theorem nearest_natural (j : Nat) : nearest false (n * 2 ^ j) (2 ^ j) =
    ofMagnitude false (min infiniteMagnitude ((n.log2 + 1022) * leadingPlace + units n)) := by
  have filled : n * 2 ^ j ≠ 0 := Nat.mul_ne_zero nonzero (Nat.two_pow_pos j).ne'
  have up : ((n.log2 : Int) - 52).toNat = n.log2 - 52 := by omega
  have down : (-((n.log2 : Int) - 52)).toNat = 52 - n.log2 := by omega
  have place : ((n.log2 : Int) - 52 + 1074).toNat = n.log2 + 1022 := by omega
  have scaled : roundedQuotient ((n * 2 ^ j) <<< (52 - n.log2)) (2 ^ j <<< (n.log2 - 52)) = units n := by
    rw [Nat.shiftLeft_eq, Nat.shiftLeft_eq, Nat.mul_right_comm, Nat.mul_comm (2 ^ j),
      roundedQuotient_mul _ _ (Nat.two_pow_pos _), units]
  simp only [nearest, if_neg filled, placeOf_natural nonzero, up, down, place, scaled]

/-- The leading bits of a natural number, before they are rounded. -/
theorem leading_bounds : leadingPlace ≤ n * 2 ^ (52 - n.log2) / 2 ^ (n.log2 - 52) ∧
    n * 2 ^ (52 - n.log2) / 2 ^ (n.log2 - 52) < 2 * leadingPlace := by
  have leading : leadingPlace = 2 ^ 52 := rfl
  have bits : 52 + (n.log2 - 52) = n.log2 + (52 - n.log2) := by omega
  have more : 52 + 1 + (n.log2 - 52) = n.log2 + 1 + (52 - n.log2) := by omega
  rw [Nat.le_div_iff_mul_le (Nat.two_pow_pos _), Nat.div_lt_iff_lt_mul (Nat.two_pow_pos _), leading,
    ← Nat.pow_succ', ← Nat.pow_add, ← Nat.pow_add, bits, more, Nat.pow_add, Nat.pow_add]
  exact ⟨Nat.mul_le_mul_right _ (Nat.log2_self_le nonzero),
    Nat.mul_lt_mul_of_pos_right Nat.lt_log2_self (Nat.two_pow_pos _)⟩

theorem units_bounds : leadingPlace ≤ units n ∧ units n ≤ 2 * leadingPlace := by
  have bounds := leading_bounds nonzero
  have low := le_roundedQuotient (n * 2 ^ (52 - n.log2)) (2 ^ (n.log2 - 52))
  have high := roundedQuotient_le (n * 2 ^ (52 - n.log2)) (2 ^ (n.log2 - 52))
  rw [units]
  omega

/-- Rounding gives a binary number, which is the number itself if it is one. -/
theorem exists_worth_units : ∃ m, units n * 2 ^ (n.log2 - 52) = m * 2 ^ (52 - n.log2) ∧
    (m < 2 ^ 1024 → IsBinary m) ∧ (IsBinary n → m = n) := by
  by_cases short : 2 ^ (n.log2 - 52) ∣ n
  · refine ⟨n, ?_, fun small => ⟨short, small⟩, fun _ => rfl⟩
    rw [units_of_dvd short, Nat.div_mul_cancel (Dvd.dvd.mul_right short _)]
  · have many : 52 < n.log2 := by
      refine Nat.lt_of_not_le fun few => short ?_
      rw [Nat.sub_eq_zero_of_le few]
      exact Nat.one_dvd n
    refine ⟨units n * 2 ^ (n.log2 - 52), ?_, isBinary_mul (units_bounds nonzero).2, fun binary => ?_⟩
    · rw [Nat.sub_eq_zero_of_le (Nat.le_of_lt many), Nat.pow_zero, Nat.mul_one]
    · exact absurd binary.1 short

theorem lt_infiniteMagnitude_of_isBinary (binary : IsBinary n) :
    (n.log2 + 1022) * leadingPlace + units n < infiniteMagnitude := by
  have bits := (Nat.log2_lt nonzero).2 binary.2
  have high := (leading_bounds nonzero).2
  rw [← units_of_dvd binary.1] at high
  have infinite : infiniteMagnitude = 2047 * leadingPlace := rfl
  have places := Nat.mul_le_mul_right leadingPlace (show n.log2 + 1022 ≤ 2045 by omega)
  omega

/-- Units that fit are worth less than the end of the range. -/
theorem lt_of_units {m : Nat} (below : (n.log2 + 1022) * leadingPlace + units n < infiniteMagnitude)
    (worth : units n * 2 ^ (n.log2 - 52) = m * 2 ^ (52 - n.log2)) : m < 2 ^ 1024 := by
  have leading : leadingPlace = 4503599627370496 := rfl
  have infinite : infiniteMagnitude = 2047 * 4503599627370496 := rfl
  obtain ⟨low, high⟩ := units_bounds nonzero
  rw [leading] at low high below
  rw [infinite] at below
  refine Nat.lt_of_mul_lt_mul_right (a := 2 ^ (52 - n.log2)) ?_
  rw [← worth, ← Nat.pow_add]
  rcases Nat.lt_or_eq_of_le high with within | carried
  · calc units n * 2 ^ (n.log2 - 52)
      _ < 2 ^ 53 * 2 ^ (n.log2 - 52) := Nat.mul_lt_mul_of_pos_right within (Nat.two_pow_pos _)
      _ = 2 ^ (53 + (n.log2 - 52)) := (Nat.pow_add ..).symm
      _ ≤ 2 ^ (1024 + (52 - n.log2)) := Nat.pow_le_pow_right (by decide) (by omega)
  · have power : units n = 2 ^ 53 := carried
    rw [power, ← Nat.pow_add]
    exact Nat.pow_lt_pow_right (by decide) (by omega)

end Nearest

/-- A natural number is rounded to a natural one that is a binary number, which is itself if it can be. -/
theorem rounds_nearest (n j : Nat) : Rounds n (nearest false (n * 2 ^ j) (2 ^ j)) := by
  by_cases nonzero : n = 0
  · subst nonzero
    have zero : nearest false (0 * 2 ^ j) (2 ^ j) = ofMagnitude false 0 := by
      rw [nearest, if_pos (Nat.zero_mul _)]
    rw [zero]
    refine .finite ⟨Nat.dvd_zero _, pow_pos (by decide) 1024⟩ ⟨rfl, rfl, rfl, ?_⟩ fun _ => rfl
    exact (Nat.zero_mul _).trans (Nat.zero_mul _).symm
  · rw [nearest_natural nonzero]
    rcases Nat.lt_or_ge ((n.log2 + 1022) * leadingPlace + units n) infiniteMagnitude with below | above
    · obtain ⟨m, worth, binary, kept⟩ := exists_worth_units nonzero
      have bounds := units_bounds nonzero
      rw [Nat.min_eq_right (Nat.le_of_lt below)]
      exact .finite (binary (lt_of_units nonzero below worth))
        (standsFor_ofMagnitude bounds.1 bounds.2 below worth) kept
    · rw [Nat.min_eq_left above]
      refine .beyond rfl fun binary => ?_
      exact absurd (lt_infiniteMagnitude_of_isBinary nonzero binary) (Nat.not_lt.2 above)

/-! ## Arithmetic -/

namespace StandsFor

variable {x : Binary64} {n : Nat} (stands : x.StandsFor n)

include stands

/-- As an integer, a number that is a natural one is itself. -/
theorem toInteger : x.toInteger = .ok n := by
  have truncated : x.truncate = n := by
    rw [truncate, stands.isPositive, if_neg Bool.false_ne_true, Nat.shiftLeft_eq, stands.worth,
      Nat.shiftRight_eq_div_pow, Nat.mul_div_cancel _ (Nat.two_pow_pos _)]
  rw [Binary64.toInteger, stands.isNumber, stands.isFinite, truncated]
  rfl

/-- A product is rounded once. -/
theorem rounds_timesNat (k : Nat) : Rounds (n * k) (x.timesNat k) := by
  have product : x.timesNat k =
      nearest false (n * k * 2 ^ (-x.exponent).toNat) (2 ^ (-x.exponent).toNat) := by
    rw [timesNat, stands.isNumber, stands.isFinite, Bool.or_false, if_neg Bool.false_ne_true,
      stands.isPositive, Nat.shiftLeft_eq, Nat.shiftLeft_eq, Nat.one_mul, Nat.mul_right_comm, stands.worth,
      Nat.mul_right_comm]
  rw [product]
  exact rounds_nearest (n * k) _

end StandsFor

/-- A natural number has a binary number of its own if a power of two times it has. -/
theorem isBinary_of_mul_two_pow {n j : Nat} (binary : IsBinary (n * 2 ^ j)) : IsBinary n := by
  by_cases nonzero : n = 0
  · rwa [nonzero, Nat.zero_mul, ← nonzero] at binary
  · obtain ⟨divides, small⟩ := binary
    rw [log2_mul_two_pow nonzero] at divides
    refine ⟨?_, Nat.lt_of_le_of_lt (Nat.le_mul_of_pos_right n (Nat.two_pow_pos j)) small⟩
    rcases Nat.lt_or_ge n.log2 52 with few | many
    · rw [Nat.sub_eq_zero_of_le (Nat.le_of_lt few)]
      exact Nat.one_dvd n
    · rw [show n.log2 + j - 52 = n.log2 - 52 + j by omega, Nat.pow_add] at divides
      exact Nat.dvd_of_mul_dvd_mul_right (Nat.two_pow_pos j) divides

theorem toInteger_infinity_ne (m : Int) : (infinity false).toInteger ≠ .ok m := by
  have infinite : (infinity false).toInteger = .error .infiniteAsInteger := rfl
  rw [infinite]
  exact nofun

namespace Rounds

variable {n : Nat} {x : Binary64} (rounds : x.Rounds n)

include rounds

/-- What is read from a rounded number as an integer has a binary number of its own. -/
theorem isBinary_of_toInteger {m : Nat} (read : x.toInteger = .ok m) : IsBinary m := by
  cases rounds with
  | beyond infinite other =>
    rw [infinite] at read
    exact absurd read (toInteger_infinity_ne m)
  | @finite k binary stands kept =>
    rw [stands.toInteger, Except.ok.injEq, Int.natCast_inj] at read
    exact read ▸ binary

theorem toInteger (binary : IsBinary n) : x.toInteger = .ok n := by
  cases rounds with
  | beyond infinite other => exact absurd binary other
  | finite _ stands kept => rw [stands.toInteger, kept binary]

/-- A rounded number times a power of two is rounded again.  The product is read as the exact one if
    that has a binary number of its own, and only then. -/
theorem timesNat_iff (j : Nat) :
    (x.timesNat (2 ^ j)).toInteger = .ok (n * 2 ^ j : Nat) ↔ IsBinary (n * 2 ^ j) := by
  cases rounds with
  | beyond infinite other =>
    rw [infinite]
    exact iff_of_false (toInteger_infinity_ne _) fun binary => other (isBinary_of_mul_two_pow binary)
  | @finite m _ stands kept =>
    refine ⟨(stands.rounds_timesNat (2 ^ j)).isBinary_of_toInteger, fun binary => ?_⟩
    obtain rfl := kept (isBinary_of_mul_two_pow binary)
    exact (stands.rounds_timesNat (2 ^ j)).toInteger binary

end Rounds

end Binary64

end XmlSettings.Decimal
