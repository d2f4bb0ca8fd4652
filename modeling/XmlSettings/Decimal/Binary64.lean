/-! # Binary floating-point numbers

Numbers in the binary interchange format of 64 bits, as a bit pattern with exact arithmetic on
`Nat`.  The bit patterns of the non-negative numbers are ordered like the numbers themselves, so
that rounding comes down to rounding a quotient to a natural number: `nearest` is the number nearest
to a fraction, a tie going to the even neighbour.

No operation tells one NaN from another.
-/

namespace XmlSettings.Decimal

/-- A quotient rounded to the nearest natural number, a tie to the even one. -/
def roundedQuotient (num den : Nat) : Nat :=
  let quotient := num / den
  let excess := 2 * (num % den)
  if den < excess ∨ (excess = den ∧ quotient % 2 = 1) then quotient + 1 else quotient

structure Binary64 where
  bits : UInt64
deriving DecidableEq

namespace Binary64

/-- The magnitude of the infinities: one more than that of the greatest finite number. -/
def infiniteMagnitude : Nat := 0x7FF0000000000000

def ofMagnitude (negative : Bool) (magnitude : Nat) : Binary64 :=
  ⟨UInt64.ofNat (magnitude + if negative then 0x8000000000000000 else 0)⟩

def nan : Binary64 := ofMagnitude false 0x7FF8000000000000

def infinity (negative : Bool) : Binary64 := ofMagnitude negative infiniteMagnitude

def negative (x : Binary64) : Bool :=
  0x8000000000000000 ≤ x.bits.toNat

def magnitude (x : Binary64) : Nat :=
  x.bits.toNat % 0x8000000000000000

def isNaN (x : Binary64) : Bool :=
  infiniteMagnitude < x.magnitude

def isInfinite (x : Binary64) : Bool :=
  x.magnitude == infiniteMagnitude

def leadingPlace : Nat := 0x10000000000000

/-- A finite number is `significand · 2 ^ exponent`, up to its sign. -/
def significand (x : Binary64) : Nat :=
  if x.magnitude < leadingPlace then x.magnitude else x.magnitude % leadingPlace + leadingPlace

@[inherit_doc significand]
def exponent (x : Binary64) : Int :=
  (max (x.magnitude / leadingPlace) 1 : Nat) - 1075

/-- The exponent of the last place of the numbers around a positive fraction. -/
def placeOf (num den : Nat) : Int :=
  let guess : Int := (num.log2 : Int) - den.log2
  let reached := den <<< guess.toNat ≤ num <<< (-guess).toNat
  max (-1074) ((if reached then guess else guess - 1) - 52)

def nearest (negative : Bool) (num den : Nat) : Binary64 :=
  if num = 0 then ofMagnitude negative 0
  else
    let place := placeOf num den
    let units := roundedQuotient (num <<< (-place).toNat) (den <<< place.toNat)
    -- The leading place of the units adds one to the exponent, and so does a carry out of rounding.
    ofMagnitude negative (min infiniteMagnitude ((place + 1074).toNat * leadingPlace + units))

def ofInt? (n : Int) : Option Binary64 :=
  let x := nearest (n < 0) n.natAbs 1
  if x.isInfinite then none else some x

/-- The integer part of a finite number, towards zero. -/
def truncate (x : Binary64) : Int :=
  let size := x.significand <<< x.exponent.toNat >>> (-x.exponent).toNat
  if x.negative then -size else size

def timesNat (x : Binary64) (n : Nat) : Binary64 :=
  if x.isNaN || x.isInfinite then x
  else nearest x.negative ((x.significand * n) <<< x.exponent.toNat) (1 <<< (-x.exponent).toNat)

def isZero (x : Binary64) : Bool :=
  x.magnitude == 0

def isOne (x : Binary64) : Bool :=
  x.bits == 0x3FF0000000000000

end Binary64

end XmlSettings.Decimal
