import XmlSettings.Decimal.Binary64
import XmlSettings.Decimal.Digits
import XmlSettings.Text.Blank
import XmlSettings.Text.Word

/-! # Reading numerals

Numerals may be surrounded by blanks, may have single underscores between two digits, and may use
the decimal digits of any script.  `integer` reads an integer of at most `maxDigits` digits and
`real?` the binary number nearest to a decimal; `isPlainInteger` and `isPlainReal` tell the strict
numerals, which have none of these freedoms.
-/

namespace XmlSettings.Decimal

open XmlSettings.Text

/-! ## Characters -/

/-- Blanks and digits beyond ASCII, replaced by the space and the digits of ASCII. -/
def plainChar (c : Char) : Char :=
  if c.toNat < 0x7F then c
  else if isBlank c then ' '
  else match digitValue? c with
    | some value => digitChar value
    | none => c

/-- The blanks that may surround a numeral, once its characters are plain. -/
def isSpace (c : Char) : Bool :=
  c == ' ' || ('\t' ≤ c && c ≤ '\r')

def valueOfChars (cs : List Char) : Nat :=
  valueOf (cs.map fun c => c.toNat - 48)

/-- Take a sign off the front; `true` for a minus. -/
def takeSign : List Char → Bool × List Char
  | '-' :: rest => (true, rest)
  | '+' :: rest => (false, rest)
  | cs => (false, cs)

/-! ## Integers -/

/-- Integers with more digits are refused. -/
def maxDigits : Nat := 4300

inductive NumeralFault where
  | notANumeral
  | tooManyDigits (count : Nat)

/-- The digits at the front and what follows them.  An underscore must stand between two digits. -/
def digitRun? : List Char → Option (List Char × List Char)
  | [] => some ([], [])
  | '_' :: rest => if (rest.head?.any (·.isDigit)) then digitRun? rest else none
  | c :: rest =>
    if c.isDigit then (digitRun? rest).map fun (digits, after) => (c :: digits, after)
    else some ([], c :: rest)

def integer (t : Text) : Except NumeralFault Int :=
  let (negative, cs) := takeSign ((t.chars.map plainChar).dropWhile isSpace)
  if !cs.head?.any (·.isDigit) then .error .notANumeral
  else match digitRun? cs with
    | none => .error .notANumeral
    | some (digits, after) =>
      if maxDigits < digits.length then .error (.tooManyDigits digits.length)
      else if !after.all isSpace then .error .notANumeral
      else .ok (if negative then -(valueOfChars digits : Int) else valueOfChars digits)

/-- An optional sign and ASCII digits. -/
def isPlainInteger (t : Text) : Bool :=
  let digits := (takeSign t.chars).2
  !digits.isEmpty && digits.all (·.isDigit)

/-! ## Real numbers -/

/-- Whether every underscore stands between two digits, the text following `before`. -/
def underscoresSeparate (before : Char) : List Char → Bool
  | [] => before != '_'
  | c :: rest =>
    (if c == '_' then before.isDigit else before != '_' || c.isDigit) && underscoresSeparate c rest

structure DecimalParts where
  whole : List Char
  fraction : List Char
  exponent : Int

/-- The digits before and after the point; at least one digit is needed. -/
def takeFraction (cs : List Char) : List Char × List Char × List Char :=
  let whole := cs.takeWhile (·.isDigit)
  match cs.dropWhile (·.isDigit) with
  | '.' :: rest => (whole, rest.takeWhile (·.isDigit), rest.dropWhile (·.isDigit))
  | rest => (whole, [], rest)

/-- The parts of an unsigned decimal such as `12`, `1.`, `.5` or `1.5e-3`. -/
def decimalParts? (cs : List Char) : Option DecimalParts :=
  let (whole, fraction, rest) := takeFraction cs
  if whole.isEmpty && fraction.isEmpty then none
  else match rest with
    | [] => some ⟨whole, fraction, 0⟩
    | c :: rest =>
      let (negative, digits) := takeSign rest
      if (c == 'e' || c == 'E') && !digits.isEmpty && digits.all (·.isDigit) then
        let size : Int := valueOfChars digits
        some ⟨whole, fraction, if negative then -size else size⟩
      else none

/-- The number nearest to a decimal.  Decimals far outside the range of the format are settled by
    the place of their first digit. -/
def DecimalParts.toBinary (parts : DecimalParts) (negative : Bool) : Binary64 :=
  let digits := (parts.whole ++ parts.fraction).dropWhile (· == '0')
  let scale := parts.exponent - parts.fraction.length
  let place := scale + digits.length
  if digits.isEmpty ∨ place < -330 then Binary64.ofMagnitude negative 0
  else if 310 < place then Binary64.infinity negative
  else Binary64.nearest negative (valueOfChars digits * Nat.pow 10 scale.toNat) (Nat.pow 10 (-scale).toNat)

def specialValue? (negative : Bool) (cs : List Char) : Option Binary64 :=
  let word := String.ofList (cs.map (·.toLower))
  if word = "inf" ∨ word = "infinity" then some (Binary64.infinity negative)
  else if word = "nan" then some Binary64.nan
  else none

def signedReal? (cs : List Char) : Option Binary64 :=
  let (negative, body) := takeSign cs
  match specialValue? negative body with
  | some x => some x
  | none => (decimalParts? body).map (·.toBinary negative)

def real? (t : Text) : Option Binary64 :=
  let cs := trimBoth isSpace (t.chars.map plainChar)
  if underscoresSeparate ' ' cs then signedReal? (cs.filter (· != '_')) else none

/-- A signed decimal in ASCII, or a special word. -/
def isPlainReal (t : Text) : Bool :=
  let body := (takeSign t.chars).2
  (specialValue? false body).isSome || (decimalParts? body).isSome

end XmlSettings.Decimal
