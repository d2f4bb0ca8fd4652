import XmlSettings.Decimal.Binary64
import XmlSettings.Entries
import XmlSettings.Text.Basic

/-! # Values

A setting's value: a scalar, a list, a table of named values, or a record, an instance of a class
with named fields.  Documents hold texts, lists and tables only; the other values come from callers
and from decoding.
-/

namespace XmlSettings

open XmlSettings.Decimal (Binary64)

inductive Value where
  | text (s : Text)
  | flag (b : Bool)
  | nothing
  | integer (n : Int)
  | real (x : Binary64)
  | list (items : List Value)
  | table (entries : List (Text × Value))
  | record (className : Text) (fields : List (Text × Value))

namespace Value

instance : Inhabited Value := ⟨nothing⟩

def kindName : Value → Text
  | text _ => "str"
  | flag _ => "bool"
  | nothing => "NoneType"
  | integer _ => "int"
  | real _ => "float"
  | list _ => "list"
  | table _ => "dict"
  | record className _ => className

/-- Whether a value counts as true where only its presence matters: everything does but `nothing`,
    `false`, zero, and the empty text, list and table. -/
def isTruthy : Value → Bool
  | text s => s ≠ ""
  | flag b => b
  | nothing => false
  | integer n => n ≠ 0
  | real x => !x.isZero
  | list items => !items.isEmpty
  | table entries => !entries.isEmpty
  | record _ _ => true

/-! ## What is inside is smaller -/

theorem sizeOf_lt_of_item {items : List Value} {item : Value} (member : item ∈ items) :
    sizeOf item < sizeOf (Value.list items) := by
  have inside := List.sizeOf_lt_of_mem member
  simp only [list.sizeOf_spec]
  omega

theorem sizeOf_lt_of_entry {entries : List (Text × Value)} {key : Text} {value : Value}
    (member : (key, value) ∈ entries) : sizeOf value < sizeOf (Value.table entries) := by
  have inside := List.sizeOf_lt_of_mem member
  simp only [Prod.mk.sizeOf_spec, table.sizeOf_spec] at inside ⊢
  omega

end Value

end XmlSettings
