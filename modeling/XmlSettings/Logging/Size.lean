import XmlSettings.Text.UpperCase
import XmlSettings.Value.Number

/-! # Sizes

The size at which a log file is rotated: a plain integer, or a decimal with the unit `KB`, `MB` or
`GB` in any case.  A size with a unit goes through a binary number and loses its fraction.
-/

namespace XmlSettings.Logging

open XmlSettings.Text (strip upper)

/-- The number of bytes in a unit, given its last two letters. -/
def unit? : List Rune → Option Nat
  | ['K', 'B'] => some 1024
  | ['M', 'B'] => some (1024 * 1024)
  | ['G', 'B'] => some (1024 * 1024 * 1024)
  | _ => none

def capitals (value : Value) : Except NumberError Text :=
  upper <$> value.written

def sizeOfText (s : Text) : Except NumberError Int :=
  let cs := (strip s).toList
  match unit? (cs.drop (cs.length - 2)) with
  | some bytes => do
    let amount ← realOfText (Text.ofList (cs.take (cs.length - 2)))
    (amount.timesNat bytes).toInteger
  | none => integerOfText (Text.ofList cs)

def sizeOf (value : Value) : Except NumberError Int := do
  sizeOfText (← capitals value)

end XmlSettings.Logging
