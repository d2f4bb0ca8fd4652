import XmlSettings.Value.Basic

/-! # Flags

The values that are read as truth values: truth values themselves, the numbers zero and one, and a
few words.
-/

namespace XmlSettings.Value

def trueWords : List Text := ["1", "t", "T", "true", "TRUE", "True"]

def falseWords : List Text := ["0", "f", "F", "false", "FALSE", "False"]

def flag? : Value → Option Bool
  | flag b => some b
  | text s =>
    if s ∈ trueWords then some true else if s ∈ falseWords then some false else none
  | integer n => if n = 1 then some true else if n = 0 then some false else none
  | real x => if x.isOne then some true else if x.isZero then some false else none
  | _ => none

end XmlSettings.Value
