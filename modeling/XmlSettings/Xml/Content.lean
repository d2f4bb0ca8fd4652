import XmlSettings.Xml.Element
import XmlSettings.Xml.Namespace
import XmlSettings.Xml.Token

/-! # Content of elements

The tokens inside the root element are put together to a tree.  `Tree` holds the elements that are
open; `content` runs through the tokens until the root element is closed.

The text of an entity is content of its own: it is read where it is referred to, opens and closes
its elements evenly, and a fault in it is blamed on the reference.
-/

namespace XmlSettings.Xml

structure Frame where
  /-- The name as it is written in the tag. -/
  written : String
  localName : String
  attributes : List (String × String)
  scope : Scope
  /-- The text in front of the first child, so far. -/
  text : List Char
  /-- The children so far with the texts behind them, the latest in front. -/
  children : List (Element String × List Char)

namespace Frame

def ofTag (tag : OpenTag) (attributes : List Attribute) (scope : Scope) : Frame where
  written := tag.name.written
  localName := tag.name.localName
  attributes := attributes.map fun a => (a.name.localName, String.ofList a.value)
  scope := scope
  text := []
  children := []

/-- Add text behind the latest child, or else to the text of the element. -/
def addText (frame : Frame) (text : List Char) : Frame :=
  match frame.children with
  | [] => { frame with text := frame.text ++ text }
  | (child, behind) :: earlier => { frame with children := (child, behind ++ text) :: earlier }

def addChild (frame : Frame) (child : Element String) : Frame :=
  { frame with children := (child, []) :: frame.children }

def element (frame : Frame) : Element String :=
  ⟨frame.localName, frame.attributes, String.ofList frame.text,
    frame.children.reverse.map fun (child, behind) => (child, String.ofList behind)⟩

end Frame

/-- The elements that are open, from the innermost to the root. -/
structure Tree where
  inner : Frame
  outer : List Frame

namespace Tree

def addText (tree : Tree) (text : List Char) : Tree :=
  { tree with inner := tree.inner.addText text }

def addChild (tree : Tree) (child : Element String) : Tree :=
  { tree with inner := tree.inner.addChild child }

def push (tree : Tree) (frame : Frame) : Tree :=
  ⟨frame, tree.inner :: tree.outer⟩

end Tree

inductive Level where
  | document
  /-- The text of an entity that is referred to while a number of elements encloses the innermost
      one. -/
  | entity (depth : Nat)
deriving DecidableEq

def Level.origin : Level → AttributeValue.Origin
  | document => .document
  | entity _ => .entity

def lineFeeds : List Char → List Char
  | [] => []
  | '\r' :: '\n' :: rest => '\n' :: lineFeeds rest
  | c :: rest => (if c = '\r' then '\n' else c) :: lineFeeds rest

/-- The character data that a text stands for.  Line ends are made alike in the document itself; the
    text of an entity has been through this when it was declared. -/
def Level.data : Level → List Char → List Char
  | document, text => lineFeeds text
  | entity _, text => text

/-- A reference as messages show it: cut off after some bytes, with a mark for a character that is
    cut in two. -/
def shownReference (name : String) : String :=
  String.ofList (go 100 ('&' :: name.toList ++ [';']))
where
  go (room : Nat) : List Char → List Char
    | [] => []
    | c :: rest =>
      if c.utf8Size ≤ room then c :: go (room - c.utf8Size) rest
      else if room = 0 then [] else ['\ufffd']

inductive Progress where
  | closed (root : Element String) (rest : List Char)
  | unclosed (tree : Tree)

/-- Read content.  `closed` holds the entities that are not being replaced. -/
def content [Naming] (doctype : Doctype) (closed : Entries String Entity) (level : Level) (tree : Tree)
    (s : List Char) : Except Failure Progress :=
  match s with
  | [] => .ok (.unclosed tree)
  | c :: tail =>
    match taken : Token.next (c :: tail) with
    | .error failure => .error failure
    | .ok (token, rest) =>
      have := Token.next_length taken
      match token with
      | .skipped => content doctype closed level tree rest
      | .data text => content doctype closed level (tree.addText (level.data text)) rest
      | .verbatim text => content doctype closed level (tree.addText (level.data text)) rest
      | .reference (.character none) => .error ⟨.invalidCharacterNumber, s⟩
      | .reference (.character (some d)) => content doctype closed level (tree.addText [d]) rest
      | .reference (.entity name) =>
        match Doctype.predefined? name with
        | some d => content doctype closed level (tree.addText [d]) rest
        | none =>
          match doctype.entities.get? name with
          | none =>
            if doctype.isComplete then .error ⟨.undefinedEntity, s⟩
            else .error ⟨.unresolvedEntity (shownReference name), s⟩
          | some _ =>
            match opened : closed.get? name with
            | none => .error ⟨.recursiveEntity, s⟩
            | some .binary => .error ⟨.binaryEntity, s⟩
            | some .external => .error ⟨.unresolvedEntity (shownReference name), s⟩
            | some (.internal text) =>
              have := Entries.erase_length_lt opened
              -- The text has to close every element that it opens, and no other one.
              let depth := tree.outer.length
              match content doctype (closed.erase name) (.entity depth) tree text with
              | .error failure => .error ⟨failure.fault, s⟩
              | .ok (.closed _ _) => .error ⟨.asynchronousEntity, s⟩
              | .ok (.unclosed grown) =>
                if grown.outer.length = depth then content doctype closed level grown rest
                else .error ⟨.asynchronousEntity, s⟩
      | .opening tag =>
        match tag.resolve doctype closed level.origin s tree.inner.scope with
        | .error failure => .error failure
        | .ok (attributes, scope) =>
          let frame := Frame.ofTag tag attributes scope
          if tag.isClosed then content doctype closed level (tree.addChild frame.element) rest
          else content doctype closed level (tree.push frame) rest
      | .closing name =>
        if level = .entity tree.outer.length then .error ⟨.asynchronousEntity, s⟩
        else if name ≠ tree.inner.written then .error ⟨.mismatchedTag, s.drop 2⟩
        else
          match tree.outer with
          | [] => .ok (.closed tree.inner.element rest)
          | parent :: outer =>
            content doctype closed level ⟨parent.addChild tree.inner.element, outer⟩ rest
termination_by (closed.length, s.length)

def rootElement [Naming] (doctype : Doctype) (s : List Char) : Except Failure (Element String × List Char) := do
  match ← Token.next s with
  | (.opening tag, rest) => do
    let (attributes, scope) ← tag.resolve doctype doctype.entities .document s Scope.initial
    let frame := Frame.ofTag tag attributes scope
    if tag.isClosed then .ok (frame.element, rest)
    else
      match ← content doctype doctype.entities .document ⟨frame, []⟩ rest with
      | .closed root rest => .ok (root, rest)
      -- A carriage return at the end waits for the other half of a line end.
      | .unclosed _ => .error ⟨.noElement, if s.getLast? = some '\r' then ['\r'] else []⟩
  | _ => .error ⟨.noElement, s⟩

end XmlSettings.Xml
