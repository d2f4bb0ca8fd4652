import XmlSettings.Decimal.Binary64

/-! # Shortest decimals

The decimal that stands for a binary number in text: the fewest digits that read back as the
number, and of those the ones nearest to it, a tie going to the even digit.

Every real number in the rounding interval of `m · 2 ^ q` reads back as it.  If a point of a decimal
grid lies in that interval, so does one of the two grid points around the number; hence it is enough
to test those two, on the grids of 1, 2, …, 17 digits in turn.
-/

namespace XmlSettings.Decimal

/-- Compare `a · 10 ^ p` with `b · 2 ^ q`. -/
def compareDecimal (a : Nat) (p : Int) (b : Nat) (q : Int) : Ordering :=
  compare ((a * Nat.pow 10 p.toNat) <<< (-q).toNat) (b <<< q.toNat * Nat.pow 10 (-p).toNat)

/-- The least `k` with `m · 2 ^ q < 10 ^ k`, counted up from an estimate below it. -/
def pointPosition (m : Nat) (q : Int) : Int :=
  -- The fraction stands for the decimal logarithm of two.
  let estimate := ((m.log2 : Int) + q) * 30103 / 100000
  (List.range 3).foldl
    (fun k _ => if compareDecimal 1 k m q == .gt then k else k + 1) estimate

/-- Whether `d · 10 ^ p` lies in the rounding interval of `m · 2 ^ q`.  The interval reaches half a
    place up and, below a power of two, a quarter of a place down, else half a place; its ends
    belong to it when `m` is even. -/
def readsBack (m : Nat) (q : Int) (d : Nat) (p : Int) : Bool :=
  let below := if m = Binary64.leadingPlace ∧ -1074 < q then 1 else 2
  let low := compareDecimal d p (4 * m - below) (q - 2)
  let high := compareDecimal d p (4 * m + 2) (q - 2)
  if m % 2 = 0 then low != .lt && high != .gt else low == .gt && high == .lt

/-- The grid point `d · 10 ^ p` with the number on its upper side, and the distance to the middle of
    the cell: whether the number lies below it, on it or beyond. -/
def gridCell (m : Nat) (q : Int) (p : Int) : Nat × Ordering :=
  let num := m <<< q.toNat * Nat.pow 10 (-p).toNat
  let den := Nat.pow 10 p.toNat <<< (-q).toNat
  (num / den, compare (2 * (num % den)) den)

/-- The point of a grid that reads back, the nearer one if both neighbours do. -/
def gridPoint? (m : Nat) (q : Int) (p : Int) : Option Nat :=
  let (d, side) := gridCell m q p
  let nearer := match side with
    | .lt => d
    | .gt => d + 1
    | .eq => if d % 2 = 0 then d else d + 1
  let other := 2 * d + 1 - nearer
  if readsBack m q nearer p then some nearer
  else if readsBack m q other p then some other
  else none

/-- The shortest decimal `d · 10 ^ p` that reads back as `m · 2 ^ q`, as `(d, p)`.  The last digit is
    zero only where the first grid rounds up to a power of ten. -/
def shortest (m : Nat) (q : Int) : Nat × Int :=
  let k := pointPosition m q
  let found := (List.range 17).findSome? fun (n : Nat) =>
    (gridPoint? m q (k - (n + 1))).map fun d => (d, k - (n + 1))
  match found with
  | some (d, p) => if d % 10 = 0 then (d / 10, p + 1) else (d, p)
  -- Seventeen digits always read back, so that nothing gets here.
  | none => (m, q)

end XmlSettings.Decimal
