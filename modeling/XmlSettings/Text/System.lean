import XmlSettings.Text.Basic

/-! # Texts for the operating system

Names and values go to the operating system as bytes in UTF-8 and come back from it as texts.  A byte
that UTF-8 does not explain comes back as a surrogate, its escape, and goes out again as that byte.
Other surrogates cannot go out, and escapes that UTF-8 does explain come back as the character that
they spell.
-/

namespace XmlSettings.Text

/-- The bytes of a code point, unless it is a surrogate that escapes no byte. -/
def systemBytes? : Rune → Option (List UInt8)
  | .char c => some (String.utf8EncodeChar c)
  | .surrogate n => if 0x480 ≤ n.val ∧ n.val < 0x500 then some [UInt8.ofNat (n.val - 0x400)] else none

def escape (byte : UInt8) : Rune := .surrogate ⟨0x400 + byte.toNat, by have := byte.toNat_lt; omega⟩

def ofSystem (bytes : ByteArray) (i : Nat) : List Rune :=
  if inside : i < bytes.size then
    match bytes.utf8DecodeChar? i with
    | some c =>
      have := c.utf8Size_pos
      .char c :: ofSystem bytes (i + c.utf8Size)
    | none => escape bytes[i] :: ofSystem bytes (i + 1)
  else []
termination_by bytes.size - i

/-- How a text comes back from the operating system, if it can go there. -/
def systemForm? (t : Text) : Option Text :=
  (t.toList.mapM systemBytes?).map fun bytes => ofList (ofSystem bytes.flatten.toByteArray 0)

def systemSize (t : Text) : Nat := (t.toList.flatMap fun c => (systemBytes? c).getD []).length

end XmlSettings.Text
