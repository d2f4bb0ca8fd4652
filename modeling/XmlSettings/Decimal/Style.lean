import XmlSettings.Decimal.Digits
import XmlSettings.Decimal.Shortest

/-! # Layout of binary numbers in text

`Style` holds what a text format decides: which numbers are written in positional form and how the
special values are spelled.  `Style.write` lays out the shortest decimal accordingly.
-/

namespace XmlSettings.Decimal

structure Style where
  /-- Positional form is used when the decimal point stands after this place … -/
  pointAfter : Int
  /-- … and not beyond this one, counted from the first digit. -/
  pointUpTo : Int
  /-- The least number of digits in an exponent. -/
  exponentWidth : Nat
  nanText : String
  infinityText : String

namespace Style

/-- Digits with the point after place `k`, filled up with zeros on either side. -/
def positional (digits : List Char) (k : Int) : List Char :=
  if k ≤ 0 then '0' :: '.' :: List.replicate (-k).toNat '0' ++ digits
  else
    let whole := digits.take k.toNat
    let fraction := digits.drop k.toNat
    whole ++ List.replicate (k.toNat - digits.length) '0' ++
      '.' :: if fraction.isEmpty then ['0'] else fraction

def scientific (style : Style) (digits : List Char) (e : Int) : List Char :=
  let size := naturalText e.natAbs
  let fraction := digits.drop 1
  digits.take 1 ++ (if fraction.isEmpty then [] else '.' :: fraction) ++
    'e' :: (if e < 0 then '-' else '+') ::
      List.replicate (style.exponentWidth - size.length) '0' ++ size

def write (style : Style) (x : Binary64) : String :=
  if x.isNaN then style.nanText
  else
    let body :=
      if x.isInfinite then style.infinityText.toList
      else if x.isZero then ['0', '.', '0']
      else
        let (d, p) := shortest x.significand x.exponent
        let digits := naturalText d
        let k : Int := digits.length + p
        if style.pointAfter < k ∧ k ≤ style.pointUpTo then positional digits k
        else style.scientific digits (k - 1)
    String.ofList (if x.negative then '-' :: body else body)

end Style

/-- The layout of numbers in messages: positional from 0.0001 to below 10^16. -/
def messageStyle : Style where
  pointAfter := -4
  pointUpTo := 16
  exponentWidth := 2
  nanText := "nan"
  infinityText := "inf"

/-- The layout of numbers in compact documents, which spell the special values out. -/
def documentStyle : Style :=
  { messageStyle with nanText := "NaN", infinityText := "Infinity" }

end XmlSettings.Decimal
