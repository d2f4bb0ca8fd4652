import XmlSettings.Proofs.Decimal.Spelling
import XmlSettings.Proofs.Outcome
import XmlSettings.Settings.Section

/-! # Reading texts

For each typed read of a text which values it gives and how it fails: an integer is given exactly if the
text spells it in few enough digits (`integer_eq_ok_iff`), and a binary number for every strict decimal
(`real_eq_ok_iff`).  A default stands in for every failure but that of too many digits
(`allowsDefault_iff`).
-/

namespace XmlSettings

open Decimal (Binary64 Spells digitsIn isPlainInteger isPlainReal maxDigits real?)

/-! ## Kinds of failures -/

/-- The kinds of failed reads that callers tell apart. -/
inductive AccessError.Kind where
  /-- There is no entry with the key. -/
  | absent
  /-- There is no section with the key. -/
  | noSection
  /-- The entry does not hold a value of the wanted type. -/
  | mistyped
  /-- The failure is none of reading, but of a conversion. -/
  | foreign
deriving DecidableEq

namespace AccessError

def kind : AccessError → Kind
  | missing _ | missingValue | missingSection _ => .absent
  | noEntries _ => .noSection
  | notASection _ | notAText _ _ | malformed _ | outOfRange _ => .mistyped
  | unreadable _ => .foreign

theorem allowsDefault_iff {e : AccessError} : e.allowsDefault = true ↔ e.kind ≠ .foreign := by
  cases e <;> simp [allowsDefault, kind]

end AccessError

namespace Section

/-! ## Texts -/

section Texts

variable {entries : Section} {key s : Text} {e : AccessError} {n : Int} {x : Binary64} {b : Bool}
  (found : entries.get? key = some (.text s))

include found

theorem scalar_of_text : entries.scalar key = .ok s := by
  rw [scalar, found]

theorem text_of_text : entries.text key = s := by
  rw [text, found]

theorem flag_eq_ok_iff : entries.flag key = .ok b ↔ (Value.text s).flag? = some b := by
  rw [flag, found]
  cases read : (Value.text s).flag? <;> simp [read]

theorem flag_eq_error_iff :
    entries.flag key = .error e ↔ (Value.text s).flag? = none ∧ .malformed (.text s) = e := by
  rw [flag, found]
  cases read : (Value.text s).flag? <;> simp [read, Value.isShowable]

theorem integer_of_text : entries.integer key =
    if isPlainInteger s then (integerOfText s).mapError .unreadable else .error (.malformed (.text s)) := by
  rw [integer, scalar_of_text found]
  rfl

theorem real_of_text : entries.real key =
    if isPlainReal s then (realOfText s).mapError .unreadable else .error (.malformed (.text s)) := by
  rw [real, scalar_of_text found]
  rfl

/-- What reading an integer comes to for a text that spells one. -/
theorem integer_of_spells (spelled : Spells s n) : entries.integer key =
    if maxDigits < digitsIn s then .error (.unreadable (.tooManyDigits (digitsIn s))) else .ok n := by
  rw [integer_of_text found, if_pos (Decimal.isPlainInteger_iff.2 ⟨n, spelled⟩), integerOfText,
    Decimal.integer_of_spells spelled]
  by_cases many : maxDigits < digitsIn s
  · simp only [if_pos many]
    rfl
  · simp only [if_neg many]
    rfl

theorem integer_of_not_spells (other : ¬∃ n, Spells s n) :
    entries.integer key = .error (.malformed (.text s)) := by
  rw [integer_of_text found, if_neg (mt Decimal.isPlainInteger_iff.1 other)]

/-- An integer is read exactly if the text spells it and does not have too many digits. -/
theorem integer_eq_ok_iff : entries.integer key = .ok n ↔ Spells s n ∧ digitsIn s ≤ maxDigits := by
  by_cases spelled : ∃ m, Spells s m
  · obtain ⟨m, spelled⟩ := spelled
    rw [integer_of_spells found spelled]
    split
    next many =>
      constructor
      · exact nofun
      · exact fun both => absurd both.2 (Nat.not_le.2 many)
    next few =>
      rw [Except.ok.injEq]
      constructor
      · rintro rfl
        exact ⟨spelled, Nat.not_lt.1 few⟩
      · exact fun both => spelled.unique both.1
  · rw [integer_of_not_spells found spelled]
    constructor
    · exact nofun
    · exact fun both => absurd ⟨n, both.1⟩ spelled

/-- No integer is read of a text that spells none, or that has too many digits. -/
theorem integer_eq_error_iff : entries.integer key = .error e ↔
    (¬∃ n, Spells s n) ∧ .malformed (.text s) = e ∨
      (∃ n, Spells s n) ∧ maxDigits < digitsIn s ∧ .unreadable (.tooManyDigits (digitsIn s)) = e := by
  by_cases spelled : ∃ n, Spells s n
  · have read := spelled
    obtain ⟨n, spells⟩ := read
    rw [integer_of_spells found spells]
    split
    next many => simp only [spelled, many, not_true_eq_false, false_and, true_and, false_or, Except.error.injEq]
    next few => simp only [spelled, few, not_true_eq_false, false_and, and_false, false_or, reduceCtorEq]
  · rw [integer_of_not_spells found spelled]
    simp only [spelled, not_false_eq_true, true_and, false_and, or_false, Except.error.injEq]

/-- A binary number is read of every strict decimal. -/
theorem real_eq_ok_iff : entries.real key = .ok x ↔ isPlainReal s = true ∧ real? s = some x := by
  rw [real_of_text found, realOfText]
  cases isPlainReal s with
  | false => simp
  | true => cases real? s <;> simp [Except.mapError]

theorem real_eq_error_iff :
    entries.real key = .error e ↔ isPlainReal s = false ∧ .malformed (.text s) = e := by
  rw [real_of_text found, realOfText]
  cases plain : isPlainReal s with
  | false => simp
  | true =>
    obtain ⟨x, read⟩ := Decimal.exists_real? plain
    simp [read, Except.mapError]

end Texts

/-! ## Integers of 64 bits -/

section Range

variable {entries : Section} {key : Text} {e : AccessError} {n : Int}

theorem integer64_eq_bind : entries.integer64 key = (entries.integer key).bind fun n =>
    if least64 ≤ n ∧ n ≤ greatest64 then .ok n
    else .error (.outOfRange ((entries.get? key).getD .nothing)) := rfl

theorem integer64_eq_ok_iff : entries.integer64 key = .ok n ↔
    entries.integer key = .ok n ∧ -2 ^ 63 ≤ n ∧ n ≤ 2 ^ 63 - 1 := by
  rw [integer64_eq_bind, bind_eq_ok]
  constructor
  · rintro ⟨m, read, inRange⟩
    split at inRange
    next within =>
      cases inRange
      exact ⟨read, within⟩
    next => cases inRange
  · rintro ⟨read, within⟩
    exact ⟨n, read, if_pos within⟩

theorem integer64_eq_error_iff : entries.integer64 key = .error e ↔
    entries.integer key = .error e ∨ ∃ n, entries.integer key = .ok n ∧
      ¬(-2 ^ 63 ≤ n ∧ n ≤ 2 ^ 63 - 1) ∧ .outOfRange ((entries.get? key).getD .nothing) = e := by
  rw [integer64_eq_bind]
  cases entries.integer key with
  | error failure => simp [Except.bind]
  | ok n =>
    simp only [Except.bind, reduceCtorEq, Except.ok.injEq, exists_eq_left', false_or]
    split
    next within => exact iff_of_false nofun fun ⟨outside, _⟩ => outside within
    next outside => exact ⟨fun same => ⟨outside, Except.error.inj same⟩, fun both => congrArg _ both.2⟩

end Range

end Section

end XmlSettings
