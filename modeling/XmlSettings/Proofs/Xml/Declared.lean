import XmlSettings.Proofs.Outcome
import XmlSettings.Proofs.Xml.WrittenDocument

/-! # Encodings that bytes declare

What bytes say about their encoding is read in the encoding that the first of them show.  If the encoding
that they name cannot be used, there is neither a root element nor a fault that could be pointed out
(`exists_not_isRefused`), and only then (`namesUnsupported_of_root`).  For text it is its own encoding
that may fail, which it does if there are surrogates in it (`root_text_of_hasSurrogate`).
-/

namespace XmlSettings.Xml

/-- Whether a document that starts out in one encoding cannot be read in the one of a name, because
    nothing is known by that name, because it takes several bytes for some characters, or because it
    fails to decode some bytes or all of them. -/
def Encoding.isUnsupported (start : Encoding) (name : String) : Bool :=
  match start.declared name with
  | .error .unknown | .error .wide | .error .incomplete | .error .broken => true
  | _ => false

namespace Document

/-- Whether an error is a fault in a document. -/
def ReadError.isRefused : ReadError → Bool
  | refused _ => true
  | unencodable | unknownEncoding | wideEncoding | incompleteEncoding | brokenEncoding => false

/-- Whether bytes start out in an encoding and declare one by name. -/
inductive Declares (content : ByteArray) (encoding : Encoding) (name : String) : Prop where
  | intro {hasMark : Bool} {declaration : Declaration} {rest place : List Char}
      (decided : Encoding.isUndecided content.toList = false)
      (shown : Encoding.ofStart content.toList = (encoding, hasMark))
      (read : Declaration.read? ((characters encoding hasMark content).1.drop
        (characters encoding hasMark content).2) = .ok (some (declaration, rest)))
      (named : declaration.encoding? = some (name, place))

/-- Whether bytes declare an encoding that cannot be used. -/
def NamesUnsupported (content : ByteArray) : Prop :=
  ∃ encoding name, Declares content encoding name ∧ encoding.isUnsupported name = true

theorem isRefused_of_mapError {α : Type} {first : Except Failure α} {place : Failure → Refusal}
    {e : ReadError} (failed : first.mapError (fun failure => .refused (place failure)) = .error e) :
    e.isRefused = true := by
  obtain ⟨failure, _, rfl⟩ := mapError_eq_error.1 failed
  rfl

/-- For a text without surrogates only faults in it are left, since the encoding that it declares means
    nothing. -/
theorem isRefused_of_root_text {t : Text} {e : ReadError} (plain : t.hasSurrogate = false)
    (failed : (text t).root = .error e) : e.isRefused = true := by
  obtain ⟨s, rfl⟩ := Text.exists_of_not_hasSurrogate plain
  simp only [root, content?, Text.string?_ofString, Option.map_some] at failed
  split at failed
  next => cases failed; rfl
  next =>
    simp only [rootFrom] at failed
    split at failed
    next => cases failed; rfl
    next => exact isRefused_of_mapError failed
    next => exact isRefused_of_mapError failed

theorem root_text_of_hasSurrogate {t : Text} (surrogate : t.hasSurrogate = true) :
    (text t).root = .error .unencodable := by
  have none : (text t).content? = none := by
    rw [content?, Text.string?_eq_none_iff.2 surrogate, Option.map_none]
  rw [root, none]

theorem namesUnsupported_of_root {content : ByteArray} {e : ReadError}
    (failed : (bytes content).root = .error e) (noFault : e.isRefused = false) :
    NamesUnsupported content := by
  have fault {P : Prop} (said : e.isRefused = true) : P := by simp [said] at noFault
  obtain ⟨encoding, hasMark, shown⟩ :
    ∃ encoding hasMark, Encoding.ofStart content.toList = (encoding, hasMark) := ⟨_, _, rfl⟩
  simp only [root, content?, shown] at failed
  split at failed
  next => cases failed; cases noFault
  next decided =>
    simp only [rootFrom] at failed
    split at failed
    next => cases failed; cases noFault
    next => exact fault (isRefused_of_mapError failed)
    next declaration rest read =>
      split at failed
      next same named =>
        cases same
        refine ⟨encoding, _, .intro (Bool.eq_false_iff.2 decided) shown read named, ?_⟩
        rw [Encoding.isUnsupported]
        split at failed
        next unknown => rw [unknown]
        next wide => rw [wide]
        next incomplete => rw [incomplete]
        next broken => rw [broken]
        next => cases failed; cases noFault
        next => cases failed; cases noFault
        next => exact fault (isRefused_of_mapError failed)
      next => exact fault (isRefused_of_mapError failed)

theorem exists_not_isRefused {content : ByteArray} (names : NamesUnsupported content) :
    ∃ e, (bytes content).root = .error e ∧ e.isRefused = false := by
  obtain ⟨encoding, name, ⟨decided, shown, read, named⟩, unsupported⟩ := names
  simp only [root, content?, decided, shown, rootFrom, read, named]
  rw [Encoding.isUnsupported] at unsupported
  split at unsupported
  next unknown =>
    rw [unknown]
    exact ⟨_, rfl, rfl⟩
  next wide =>
    rw [wide]
    exact ⟨_, rfl, rfl⟩
  next incomplete =>
    rw [incomplete]
    exact ⟨_, rfl, rfl⟩
  next broken =>
    rw [broken]
    exact ⟨_, rfl, rfl⟩
  next => cases unsupported

/-- A clean text with a declaration, as bytes. -/
theorem declares_of_opening {s name : String} {declaration : Declaration}
    {inside rest place : List Char} (opened : s.toList = '<' :: '?' :: inside) (clean : IsClean s.toList)
    (read : Declaration.read? s.toList = .ok (some (declaration, rest)))
    (named : declaration.encoding? = some (name, place)) : Declares s.toByteArray .utf8 name := by
  obtain ⟨more, bytes⟩ := Encoding.toList_utf8Encode_opening inside
  rw [← opened, String.utf8Encode_toList] at bytes
  have decided : Encoding.isUndecided s.toByteArray.toList = false := by
    rw [bytes, Encoding.isUndecided_opening]
  have shown : Encoding.ofStart s.toByteArray.toList = (.utf8, false) := by
    rw [bytes, Encoding.ofStart_opening]
  have all : (characters .utf8 false s.toByteArray).1.drop
      (characters .utf8 false s.toByteArray).2 = s.toList := by
    rw [characters_of_isClean clean, List.drop_zero]
  exact .intro decided shown (all ▸ read) named

end Document

end XmlSettings.Xml
