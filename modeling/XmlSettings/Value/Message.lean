import XmlSettings.Decimal.Numeral
import XmlSettings.Decimal.Style
import XmlSettings.Text.Quoted
import XmlSettings.Value.Basic

/-! # Values in messages

`Value.inMessage` is how a message shows a value: texts between quotes, lists in brackets, tables in
braces.  `Value.plainText` is the text of a value where texts stand for themselves; it is what a
section stores when a value is written to it.  Only values whose integers have few enough digits to be
read again can be shown (`Value.isShowable`).
-/

namespace XmlSettings.Value

open XmlSettings.Decimal (digitCount integerText maxDigits messageStyle)
open XmlSettings.Text (quoted)

mutual

def inMessage : Value → Text
  | text s => quoted s
  | flag b => if b then "True" else "False"
  | nothing => "None"
  | integer n => String.ofList (integerText n)
  | real x => messageStyle.write x
  | list items => "[" ++ Text.intercalate ", " (itemsInMessage items) ++ "]"
  | table entries => "\x7b" ++ Text.intercalate ", " (entriesInMessage entries) ++ "\x7d"
  | record className fields => className ++ "(" ++ Text.intercalate ", " (fieldsInMessage fields) ++ ")"
termination_by structural v => v

def itemsInMessage : List Value → List Text
  | [] => []
  | item :: rest => inMessage item :: itemsInMessage rest
termination_by structural items => items

def entriesInMessage : List (Text × Value) → List Text
  | [] => []
  | (key, value) :: rest => (quoted key ++ ": " ++ inMessage value) :: entriesInMessage rest
termination_by structural entries => entries

def fieldsInMessage : List (Text × Value) → List Text
  | [] => []
  | (name, value) :: rest => (name ++ "=" ++ inMessage value) :: fieldsInMessage rest
termination_by structural fields => fields

end

def plainText : Value → Text
  | text s => s
  | value => value.inMessage

mutual

/-- Whether no integer in a value has too many digits to be shown. -/
def isShowable : Value → Bool
  | integer n => digitCount n ≤ maxDigits
  | list items => areShowable items
  | table entries => holdsShowable entries
  | record _ fields => holdsShowable fields
  | _ => true
termination_by structural v => v

def areShowable : List Value → Bool
  | [] => true
  | item :: rest => isShowable item && areShowable rest
termination_by structural items => items

def holdsShowable : List (Text × Value) → Bool
  | [] => true
  | (_, value) :: rest => isShowable value && holdsShowable rest
termination_by structural entries => entries

end

theorem areShowable_iff {items : List Value} :
    areShowable items = true ↔ ∀ item ∈ items, item.isShowable = true := by
  induction items with
  | nil => simp [areShowable]
  | cons item rest ih => simp [areShowable, ih]

theorem holdsShowable_iff {entries : List (Text × Value)} :
    holdsShowable entries = true ↔ ∀ entry ∈ entries, entry.2.isShowable = true := by
  induction entries with
  | nil => simp [holdsShowable]
  | cons entry rest ih => simp [holdsShowable, ih]

end XmlSettings.Value
