/-! # Decimal digits

Natural numbers and integers written in decimal, and the value of a row of digits.
-/

namespace XmlSettings.Decimal

def digitChar (n : Nat) : Char :=
  Char.ofNat (48 + n)

def naturalText (n : Nat) : List Char :=
  if n < 10 then [digitChar n] else naturalText (n / 10) ++ [digitChar (n % 10)]
termination_by n

def integerText : Int → List Char
  | .ofNat n => naturalText n
  | .negSucc n => '-' :: naturalText (n + 1)

def digitCount (n : Int) : Nat := (naturalText n.natAbs).length

theorem digitCount_of_lt {n : Int} (small : n.natAbs < 10) : digitCount n = 1 := by
  rw [digitCount, naturalText, if_pos small]
  rfl

/-- The number that a row of digit values stands for, the most significant digit first. -/
def valueOf (digits : List Nat) : Nat :=
  digits.foldl (fun value digit => 10 * value + digit) 0

end XmlSettings.Decimal
