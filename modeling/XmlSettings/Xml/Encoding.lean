import XmlSettings.Text.CodePage
import XmlSettings.Xml.Character

/-! # Encodings

How the bytes of a document stand for characters.  The first bytes tell UTF-8 and the two forms of
UTF-16 apart (`Encoding.ofStart`); the document's own declaration may then name another encoding of
the same unit (`Encoding.declared`).  Decoding always succeeds: bytes that stand for nothing become
marks that no document may hold, and reading stops at the first of them.
-/

namespace XmlSettings.Xml

open XmlSettings.Text (CodePage)

inductive Encoding where
  | utf8
  | utf16 (bigEndian : Bool)
  /-- The character set in which every byte stands for the character of its own number. -/
  | latin1
  | page (page : CodePage)

namespace Encoding

/-- The number of bytes that the first byte of a character in UTF-8 asks for. -/
def utf8Width (first : UInt8) : Nat :=
  if first < 0xC0 then 1 else if first < 0xE0 then 2 else if first < 0xF0 then 3
  else if first < 0xF5 then 4 else 1

def utf8Characters (bytes : ByteArray) (i : Nat) : List Char :=
  if inside : i < bytes.size then
    match bytes.utf8DecodeChar? i with
    | some c =>
      have := c.utf8Size_pos
      admitted c :: utf8Characters bytes (i + c.utf8Size)
    | none =>
      if bytes.size < i + utf8Width bytes[i] then [cutOff]
      else malformed :: utf8Characters bytes (i + 1)
  else []
termination_by bytes.size - i

def unit (bigEndian : Bool) (first second : UInt8) : Nat :=
  if bigEndian then 256 * first.toNat + second.toNat else 256 * second.toNat + first.toNat

/-- The characters of bytes in UTF-16.  A leading surrogate forms a pair with whatever unit
    follows. -/
def utf16Characters (bigEndian : Bool) : List UInt8 → List Char
  | [] => []
  | [_] => [halfUnit]
  | first :: second :: rest =>
    let high := unit bigEndian first second
    if 0xD800 ≤ high ∧ high < 0xDC00 then
      match rest with
      | third :: fourth :: rest =>
        let low := unit bigEndian third fourth
        Char.ofNat (0x10000 + 0x400 * (high - 0xD800) + low % 0x400) ::
          utf16Characters bigEndian rest
      | _ => [cutOff]
    else if 0xDC00 ≤ high ∧ high < 0xE000 then malformed :: utf16Characters bigEndian rest
    else admitted (Char.ofNat high) :: utf16Characters bigEndian rest

def pageCharacters (page : CodePage) (bytes : List UInt8) : List Char :=
  bytes.map fun byte =>
    match page.character? byte with
    | some c => admitted c
    | none => malformed

def decode : Encoding → ByteArray → List Char
  | utf8, bytes => utf8Characters bytes 0
  | utf16 bigEndian, bytes => utf16Characters bigEndian bytes.toList
  | latin1, bytes => pageCharacters CodePage.latin1 bytes.toList
  | page table, bytes => pageCharacters table bytes.toList

@[reducible]
def naming : Encoding → Naming
  | latin1 => .latin1
  | _ => .standard

/-! ## The first bytes -/

/-- The encoding that the first bytes of a document show, and whether a byte order mark stands in
    front. -/
def ofStart (bytes : List UInt8) : Encoding × Bool :=
  match bytes with
  | 0xFE :: 0xFF :: _ => (utf16 true, true)
  | 0xFF :: 0xFE :: _ => (utf16 false, true)
  | 0xEF :: 0xBB :: 0xBF :: _ => (utf8, true)
  -- Documents open with characters of ASCII, and one byte of each is zero in UTF-16.
  | 0x00 :: _ :: _ => (utf16 true, false)
  | _ :: 0x00 :: _ => (utf16 false, false)
  | _ => (utf8, false)

/-- Whether the bytes are all there is of a document and do not show its encoding yet. -/
def isUndecided (bytes : List UInt8) : Bool :=
  match bytes with
  | [0xEF, 0xBB] => true
  | [byte] => byte == 0x00 || byte == 0x3C || byte == 0xEF || byte == 0xFE || byte == 0xFF
  | _ => false

/-! ## The declared encoding -/

inductive Fault where
  /-- It contradicts the first bytes. -/
  | conflicting
  /-- It does not agree with ASCII where markup needs it. -/
  | foreign
  /-- It uses several bytes for some characters. -/
  | wide
  /-- Some bytes cannot be decoded at all. -/
  | incomplete
  | broken
  | unknown
deriving DecidableEq

/-- The encoding of a document that starts out in one encoding and declares another by name. -/
def declared (start : Encoding) (name : String) : Except Fault Encoding :=
  let isWide := match start with
    | utf16 _ => true
    | _ => false
  let narrow (encoding : Encoding) := if isWide then .error .conflicting else .ok encoding
  let ordered (bigEndian : Bool) := match start with
    | utf16 actual => if actual = bigEndian then .ok start else .error .conflicting
    | _ => .error .conflicting
  match String.ofList (name.toList.map Char.toLower) with
  | "utf-8" => narrow utf8
  | "iso-8859-1" => narrow latin1
  | "us-ascii" => narrow (page CodePage.ascii)
  | "utf-16" => if isWide then .ok start else .error .conflicting
  | "utf-16be" => ordered true
  | "utf-16le" => ordered false
  | _ =>
    let name := CodePage.normal name
    match CodePage.ofName? name with
    -- Such an encoding is taken whatever the first bytes show.
    | some table => .ok (page table)
    | none =>
      if CodePage.wideNames.contain name then .error .wide
      else if CodePage.foreignNames.contain name then .error .foreign
      else if CodePage.incompleteNames.contain name then .error .incomplete
      else if CodePage.brokenNames.contain name then .error .broken
      else .error .unknown

end Encoding

end XmlSettings.Xml
