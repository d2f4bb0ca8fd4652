import XmlSettings.Text.Basic

/-! # Declared types

The types that fields are declared with, and how messages show them.  Unions are kept flat: building
one takes unions among its members apart, leaves out repeated members, and gives a union of a single
member up for the member itself.
-/

namespace XmlSettings.Schema

inductive Scalar where
  | text
  | flag
  | integer
  | real
deriving DecidableEq

def Scalar.name : Scalar → Text
  | text => "str"
  | flag => "bool"
  | integer => "int"
  | real => "float"

/-- The types that values are checked against as they are. -/
inductive Plain where
  | object
  | bytes
  | nothing
  | list
  | table
deriving DecidableEq

def Plain.name : Plain → Text
  | object => "object"
  | bytes => "bytes"
  | nothing => "NoneType"
  | list => "list"
  | table => "dict"

inductive Spelling where
  /-- With the long names: `typing.List[int]`. -/
  | long
  /-- With the short names and signs: `list[int]`, `int | str`. -/
  | short
  /-- With a long name alone, where members may be of any type. -/
  | bare
deriving DecidableEq

inductive Hint where
  | any
  | scalar (type : Scalar)
  | plain (type : Plain)
  | list (spelling : Spelling) (item : Hint)
  | table (spelling : Spelling) (value : Hint)
  | union (spelling : Spelling) (members : List Hint)
  /-- A type that values are not checked against. -/
  | unchecked (spelling : Spelling) (text : Text)
  | record (className : Text)
deriving BEq

namespace Hint

instance : Inhabited Hint := ⟨any⟩

def nothing : Hint := plain .nothing

def isNothing : Hint → Bool
  | plain .nothing => true
  | _ => false

def isLong : Hint → Bool
  | list spelling _ | table spelling _ | union spelling _ | unchecked spelling _ => spelling != .short
  | _ => false

/-- The members of a union, and any other type alone. -/
def members : Hint → List Hint
  | union _ members => members
  | type => [type]

def distinct (hints : List Hint) : List Hint :=
  hints.foldl (fun kept hint => if kept.contains hint then kept else kept ++ [hint]) []

def unionOf (spelling : Spelling) (hints : List Hint) : Hint :=
  match distinct (hints.flatMap members) with
  | [only] => only
  | flat => union spelling flat

/-- The union of two types by a bar.  It is spelled with long names once one of the two is. -/
def either (left right : Hint) : Hint :=
  unionOf (if left.isLong || right.isLong then .long else .short) [left, right]

def optional (hint : Hint) : Hint :=
  unionOf .long [hint, nothing]

/-- Classes are shown as members of this module. -/
def moduleName : Text := "app"

mutual

def shown : Hint → Text
  | any => "typing.Any"
  | scalar type => type.name
  | plain type => type.name
  | list .long item => "typing.List[" ++ shown item ++ "]"
  | list .short item => "list[" ++ shown item ++ "]"
  | list .bare _ => "typing.List"
  | table .long value => "typing.Dict[str, " ++ shown value ++ "]"
  | table .short value => "dict[str, " ++ shown value ++ "]"
  | table .bare _ => "typing.Dict"
  | union .short members => Text.intercalate " | " (shownBetweenBars members)
  | union _ [plain .nothing, other] => "typing.Optional[" ++ shown other ++ "]"
  | union _ [other, plain .nothing] => "typing.Optional[" ++ shown other ++ "]"
  | union _ members => "typing.Union[" ++ Text.intercalate ", " (shownAll members) ++ "]"
  | unchecked _ text => text
  | record className => moduleName ++ "." ++ className
termination_by structural hint => hint

def shownAll : List Hint → List Text
  | [] => []
  | hint :: rest => shown hint :: shownAll rest
termination_by structural hints => hints

/-- Some types as messages show them between bars, where `nothing` has a shorter name. -/
def shownBetweenBars : List Hint → List Text
  | [] => []
  | plain .nothing :: rest => "None" :: shownBetweenBars rest
  | hint :: rest => shown hint :: shownBetweenBars rest
termination_by structural hints => hints

end

/-- Tuples of some types.  Values are not checked against it. -/
def tuple (spelling : Spelling) (items : List Hint) : Hint :=
  let name := if spelling = .short then "tuple" else "typing.Tuple"
  unchecked spelling (name ++ "[" ++ Text.intercalate ", " (shownAll items) ++ "]")

/-- Some texts, given by their quoted forms.  Values are not checked against it. -/
def literal (quotedTexts : List Text) : Hint :=
  unchecked .long ("typing.Literal[" ++ Text.intercalate ", " quotedTexts ++ "]")

end Hint

end XmlSettings.Schema
