import XmlSettings.Text.Basic
import XmlSettings.Xml.Content
import XmlSettings.Xml.Declaration
import XmlSettings.Xml.Doctype.Grammar
import XmlSettings.Xml.Encoding

/-! # Documents

A document is given as text or as bytes.  Bytes are decoded by their first bytes and by what the
document declares; for text the declared encoding means nothing.  `Document.root` gives the root
element, or the reason why there is none.
-/

namespace XmlSettings.Xml

inductive Document where
  | text (t : Text)
  | bytes (content : ByteArray)

namespace Document

inductive ReadError where
  | unencodable
  | refused (refusal : Refusal)
  | unknownEncoding
  /-- It declares an encoding with several bytes for some characters. -/
  | wideEncoding
  /-- It declares an encoding that stops at some bytes. -/
  | incompleteEncoding
  /-- It declares an encoding in which nothing is decoded. -/
  | brokenEncoding

def ReadError.message? : ReadError → Option String
  | refused refusal => some refusal.message
  | wideEncoding => some "multi-byte encodings are not supported"
  | unencodable | unknownEncoding | incompleteEncoding | brokenEncoding => none

def content? : Document → Option ByteArray
  | text t => t.string?.map String.toByteArray
  | bytes content => some content

def checkEnd [Naming] (s : List Char) : Except Failure Unit :=
  match s with
  | [] => .ok ()
  | c :: tail =>
    match taken : Mark.next (c :: tail) with
    | .error failure => .error failure
    | .ok (mark, rest) =>
      have : rest.length < tail.length + 1 := Mark.next_length taken
      match mark with
      | .blanks | .comment | .instruction => checkEnd rest
      | _ => .error ⟨.junkAfterRoot, s⟩
termination_by s.length
decreasing_by all_goals exact this

def body [Naming] (isStandalone : Bool) (s : List Char) : Except Failure (Element String) := do
  let start := { Doctype.empty with isStandalone := isStandalone }
  let (doctype, rest) ← Doctype.read ⟨start, true, .root false⟩ s
  let (root, rest) ← rootElement doctype rest
  checkEnd rest
  .ok root

/-- The characters that a document is read from, as far as its first bytes tell, and how many of
    them are a byte order mark. -/
def characters (encoding : Encoding) (hasMark : Bool) (content : ByteArray) : List Char × Nat :=
  (encoding.decode content,
    match hasMark, encoding with
    | false, _ => 0
    -- To a character set of single bytes the mark of UTF-8 is three characters.
    | true, .latin1 | true, .page _ => 3
    | true, _ => 1)

/-- Read a document whose encoding is known up to what it declares itself. -/
def rootFrom (document : Document) (content : ByteArray) (encoding : Encoding) (hasMark : Bool) :
    Except ReadError (Element String) :=
  let (all, mark) := characters encoding hasMark content
  let located (all : List Char) (failure : Failure) := ReadError.refused (failure.locate all)
  match Declaration.read? (all.drop mark) with
  | .error failure => .error (located all failure)
  | .ok none => (body false (all.drop mark)).mapError (located all)
  | .ok (some (declaration, rest)) =>
    match document, declaration.encoding? with
    | .bytes _, some (name, place) =>
      match encoding.declared name with
      | .error .unknown => .error .unknownEncoding
      | .error .wide => .error .wideEncoding
      | .error .incomplete => .error .incompleteEncoding
      | .error .broken => .error .brokenEncoding
      | .error .foreign => .error (located all ⟨.unknownEncoding, place⟩)
      | .error .conflicting => .error (located all ⟨.conflictingEncoding, place⟩)
      | .ok actual =>
        let width := all.length - mark - rest.length
        let (all, mark) := characters actual hasMark content
        (@body actual.naming declaration.isStandalone (all.drop (mark + width))).mapError (located all)
    | _, _ => (body declaration.isStandalone rest).mapError (located all)

def root (document : Document) : Except ReadError (Element String) :=
  match document.content? with
  | none => .error .unencodable
  | some content =>
    if Encoding.isUndecided content.toList then .error (.refused ⟨.unclosedToken, Place.start⟩)
    else
      let (encoding, hasMark) := Encoding.ofStart content.toList
      document.rootFrom content encoding hasMark

end Document

end XmlSettings.Xml
