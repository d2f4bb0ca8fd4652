/-! # Shifts between cases

A change of case moves whole stretches of an alphabet by the same distance: every character of the
stretch, or every second one where capital and small letters alternate.
-/

namespace XmlSettings.Text

/-- The code points `first, first + stride, …, last`, all moved by the same distance. -/
structure CaseShift where
  first : Nat
  last : Nat
  stride : Nat
  distance : Int

namespace CaseShift

def applies (shift : CaseShift) (n : Nat) : Bool :=
  shift.first ≤ n && n ≤ shift.last && (n - shift.first) % shift.stride == 0

/-- Move a character by the first shift that applies to it. -/
def applyFirst (shifts : List CaseShift) (c : Char) : Char :=
  match shifts.find? (·.applies c.toNat) with
  | some shift => Char.ofNat (c.toNat + shift.distance).toNat
  | none => c

end CaseShift

end XmlSettings.Text
