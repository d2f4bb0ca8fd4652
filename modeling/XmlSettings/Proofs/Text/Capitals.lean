import XmlSettings.Text.Blank
import XmlSettings.Text.UpperCase

/-! # Capitals

In capitals a blank is itself (`upperChar_of_isBlank`), and so is a digit.  The characters of ASCII are the
capitals that ASCII gives them.
-/

namespace XmlSettings.Text

/-! ## Tables -/

/-- What a table covers lies in one of its intervals. -/
theorem exists_of_covers {table : Intervals} {n : Nat} (covered : table.covers n = true) :
    ∃ interval ∈ table, interval.1 ≤ n ∧ n ≤ interval.2 := by
  induction table with
  | nil => cases covered
  | cons interval rest ih =>
    obtain ⟨low, high⟩ := interval
    simp only [Intervals.covers, Intervals.start?] at covered ih
    split at covered
    next => cases covered
    next above =>
      split at covered
      next below => exact ⟨(low, high), List.mem_cons_self, Nat.le_of_not_lt above, below⟩
      next =>
        obtain ⟨found, member, bounds⟩ := ih covered
        exact ⟨found, List.mem_cons_of_mem _ member, bounds⟩

/-! ## Capitals -/

theorem upperChar_of_isBlank {c : Char} (blank : isBlank c = true) : upperChar c = [c] := by
  have each : ∀ interval ∈ blankIntervals,
      ∀ n ∈ List.range' interval.1 (interval.2 - interval.1 + 1),
        upperChar (Char.ofNat n) = [Char.ofNat n] := by
    decide +kernel
  obtain ⟨interval, member, low, high⟩ := exists_of_covers blank
  have same := each interval member c.toNat (List.mem_range'_1.2 ⟨low, by omega⟩)
  rwa [Char.ofNat_toNat] at same

/-- A character beyond ASCII has no capital in ASCII. -/
theorem toNat_lt_of_toUpper {c : Char} (ascii : c.toUpper.toNat < 0x80) : c.toNat < 0x80 := by
  delta Char.toUpper at ascii
  split at ascii
  next small =>
    have high : c.toNat ≤ 0x7A := UInt32.le_iff_toNat_le.1 small.2
    omega
  next => exact ascii

theorem flatMap_upperChar_of_toUpper {cs : List Char} (ascii : ∀ c ∈ cs, c.toUpper.toNat < 0x80) :
    cs.flatMap upperChar = cs.map Char.toUpper := by
  induction cs with
  | nil => rfl
  | cons c rest ih =>
    obtain ⟨first, more⟩ := List.forall_mem_cons.1 ascii
    rw [List.flatMap_cons, ih more, upperChar, if_pos (toNat_lt_of_toUpper first)]
    rfl

theorem flatMap_upperChar_of_same {cs : List Char} (same : ∀ c ∈ cs, upperChar c = [c]) :
    cs.flatMap upperChar = cs := by
  induction cs with
  | nil => rfl
  | cons c rest ih =>
    obtain ⟨first, more⟩ := List.forall_mem_cons.1 same
    rw [List.flatMap_cons, first, ih more]
    rfl

theorem upper_ofString (s : String) : upper s = String.ofList (s.toList.flatMap upperChar) := by
  rw [← toList_inj, upper, toList_ofList, toList_ofString, List.flatMap_map, toList_ofString,
    String.toList_ofList, List.map_flatMap]
  rfl

theorem upperChar_of_isDigit {c : Char} (digit : c.isDigit = true) : upperChar c = [c] := by
  have bounds := Char.isDigit_iff_toNat.1 digit
  simp only [Char.reduceToNat] at bounds
  have notSmall : ¬(c.val ≥ 'a'.val ∧ c.val ≤ 'z'.val) := by
    rintro ⟨low, _⟩
    have : 0x61 ≤ c.toNat := UInt32.le_iff_toNat_le.1 low
    omega
  rw [upperChar, if_pos (by omega)]
  delta Char.toUpper
  rw [dif_neg notSmall]

end XmlSettings.Text
