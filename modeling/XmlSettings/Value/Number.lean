import XmlSettings.Decimal.Numeral
import XmlSettings.Value.Message

/-! # Numbers

Reading a value as an integer or as a binary number.  Texts are read as numerals, truth values as
zero and one, and binary numbers lose their fraction when an integer is wanted.
-/

namespace XmlSettings

open XmlSettings.Decimal
open XmlSettings.Text (quoted)

inductive NumberError where
  | notAnInteger (s : Text)
  | tooManyDigits (count : Nat)
  | notAReal (s : Text)
  | nanAsInteger
  | infiniteAsInteger
  | beyondReals
  | notNumeric
  /-- An integer has too many digits to be written. -/
  | unwritable

namespace NumberError

/-- Messages about integers show at most this many characters of the quoted text. -/
def shownLength : Nat := 200

def message? : NumberError → Option Text
  | notAnInteger s =>
    some ("invalid literal for int() with base 10: " ++
      String.ofList ((quoted s).toList.take shownLength))
  | tooManyDigits count =>
    some ("Exceeds the limit (" ++ toString maxDigits ++ " digits) for integer string conversion: " ++
      "value has " ++ toString count ++ " digits; use sys.set_int_max_str_digits() to increase the limit")
  | notAReal s => some ("could not convert string to float: " ++ quoted s)
  | nanAsInteger => some "cannot convert float NaN to integer"
  | infiniteAsInteger => none
  | beyondReals => none
  | notNumeric => none
  | unwritable =>
    some ("Exceeds the limit (" ++ toString maxDigits ++ " digits) for integer string conversion; " ++
      "use sys.set_int_max_str_digits() to increase the limit")

end NumberError

def Decimal.Binary64.toInteger (x : Binary64) : Except NumberError Int :=
  if x.isNaN then .error .nanAsInteger
  else if x.isInfinite then .error .infiniteAsInteger
  else .ok x.truncate

def integerOfText (s : Text) : Except NumberError Int :=
  match integer s with
  | .ok n => .ok n
  | .error .notANumeral => .error (.notAnInteger s)
  | .error (.tooManyDigits count) => .error (.tooManyDigits count)

def realOfText (s : Text) : Except NumberError Binary64 :=
  match real? s with
  | some x => .ok x
  | none => .error (.notAReal s)

namespace Value

def toInteger : Value → Except NumberError Int
  | flag b => .ok (if b then 1 else 0)
  | integer n => .ok n
  | real x => x.toInteger
  | text s => integerOfText s
  | _ => .error .notNumeric

def toReal : Value → Except NumberError Binary64
  | flag b => .ok (Binary64.nearest false (if b then 1 else 0) 1)
  | integer n =>
    match Binary64.ofInt? n with
    | some x => .ok x
    | none => .error .beyondReals
  | real x => .ok x
  | text s => realOfText s
  | _ => .error .notNumeric

def written (value : Value) : Except NumberError Text :=
  if value.isShowable then .ok value.plainText else .error .unwritable

@[simp] theorem written_text (t : Text) : (text t).written = .ok t := rfl

theorem written_eq_ok_iff {value : Value} {t : Text} :
    value.written = .ok t ↔ value.isShowable = true ∧ value.plainText = t := by
  rw [written]
  split <;> simp_all

theorem written_eq_error_iff {value : Value} {e : NumberError} :
    value.written = .error e ↔ value.isShowable = false ∧ .unwritable = e := by
  rw [written]
  split <;> simp_all

end Value

end XmlSettings
