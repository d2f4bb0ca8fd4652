import XmlSettings.Decimal.Digits
import XmlSettings.Text.Blank
import XmlSettings.Xml.Element

/-! # Writing documents

An element is written over several lines: every child stands on a line of its own, one step further
in than its parent.  Text beside children stays as it is, unless it is blank, and an element without
children and text is written as one closed tag.

A document is a string, so surrogates in its texts are written as references, which no reader takes.
-/

namespace XmlSettings.Xml.Writer

def reference (n : Nat) : List Char :=
  '&' :: '#' :: Decimal.naturalText n ++ [';']

def escapeChar (c : Char) : List Char :=
  if c = '&' then "&amp;".toList
  else if c = '<' then "&lt;".toList
  else if c = '>' then "&gt;".toList
  else [c]

/-- One character of an attribute value.  Blanks other than the space would not come back if they
    were written as they are. -/
def escapeValueChar (c : Char) : List Char :=
  if c = '"' then "&quot;".toList
  else if c = '\r' then "&#13;".toList
  else if c = '\n' then "&#10;".toList
  else if c = '\t' then "&#09;".toList
  else escapeChar c

def escape (char : Char → List Char) : Rune → List Char
  | .char c => char c
  | .surrogate n => reference (Rune.surrogate n).toNat

def text (cs : List Rune) : List Char :=
  cs.flatMap (escape escapeChar)

def quoted (cs : List Rune) : List Char :=
  cs.flatMap (escape escapeValueChar)

def oneAttribute (name : String) (value : Text) : List Char :=
  ' ' :: name.toList ++ '=' :: '"' :: quoted value.toList ++ ['"']

def attributes (found : List (String × Text)) : List Char :=
  found.flatMap fun (name, value) => oneAttribute name value

def lineStart (step : List Rune) (depth : Nat) : List Rune :=
  Rune.char '\n' :: (List.replicate depth step).flatten

/-- What stands for a text beside the children of an element: a line start for a blank one. -/
def beside (step : List Rune) (depth : Nat) (text : Text) : List Rune :=
  if text.toList.all Text.isBlankRune then lineStart step (depth + 1) else text.toList

/-- What stands for the text behind the last child of an element.  A blank one is not a step further
    in; a step that is not blank itself looks like text that belongs there, and stays. -/
def behindLast (step : List Rune) (depth : Nat) (text : Text) : List Rune :=
  let behind := beside step depth text
  if behind.all Text.isBlankRune then lineStart step depth else behind

mutual

def element (step : List Rune) (depth : Nat) : Element Text → List Char
  | .mk name found content children =>
    '<' :: name.toList ++ attributes found ++
      if children.isEmpty then
        if content = "" then " />".toList
        else '>' :: text content.toList ++ '<' :: '/' :: name.toList ++ ['>']
      else
        '>' :: text (beside step depth content) ++ elements step depth children ++
          '<' :: '/' :: name.toList ++ ['>']
termination_by structural e => e

def elements (step : List Rune) (depth : Nat) : List (Element Text × Text) → List Char
  | [] => []
  | (child, behind) :: rest =>
    element step (depth + 1) child ++
      text (if rest.isEmpty then behindLast step depth behind else beside step depth behind) ++
      elements step depth rest
termination_by structural children => children

end

def opening : String := "<?xml version='1.0' encoding='utf-8'?>\n"

def document (step : Text) (root : Element Text) : String :=
  opening ++ String.ofList (element step.toList 0 root)

end XmlSettings.Xml.Writer
