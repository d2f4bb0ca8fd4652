import Mathlib.Data.List.Forall2
import XmlSettings.Proofs.Xml.WrittenText

/-! # Reading tags that were written

Every code point of an attribute value is written as it is, or as a reference that stands for it
(`writtenInside_escape`), so the reader takes the value as it is written and makes the same value of it
if it has no surrogates.  The tag of an element whose names the reader knows is read back whole; a name
that it does not know makes the tag a fault.
-/

namespace XmlSettings.Xml

/-! ## Code points of attribute values -/

/-- A reference that stands for a code point; the one to a surrogate stands for no character. -/
inductive StandsFor : Scan.Reference → Rune → Prop where
  | character (c : Char) : StandsFor (.character (some c)) c
  | entity (name : String) {c : Char} (known : Doctype.predefined? name = some c) :
      StandsFor (.entity name) c
  | surrogate (n : Fin 0x800) : StandsFor (.character none) (.surrogate n)

/-- Whether a character between quotes goes on the value as it is. -/
def isPlainInside (c : Char) : Bool := c != '"' && c != '<' && c != '&' && !isForbidden c

/-- The ways to write a code point of an attribute value. -/
inductive WrittenInside : Rune → List Char → Prop where
  | plain {c : Char} (plain : isPlainInside c = true) (blank : isBlank c = true → c = ' ') :
      WrittenInside c [c]
  | reference {c : Rune} {run : List Char} {target : Scan.Reference}
      (plain : run.all isPlainInside = true) (reads : ∀ s, Scan.reference (run ++ s) = .ok (target, s))
      (stands : StandsFor target c) : WrittenInside c ('&' :: run)

theorem writtenInside_escapeValueChar {c : Char} (allowed : isForbidden c = false) :
    WrittenInside c (Writer.escapeValueChar c) := by
  unfold Writer.escapeValueChar Writer.escapeChar
  split
  next same => exact same ▸ .reference (by decide) (fun _ => rfl) (.entity "quot" rfl)
  next quote =>
    split
    next same => exact same ▸ .reference (by decide) (fun _ => rfl) (.character '\r')
    next return_ =>
      split
      next same => exact same ▸ .reference (by decide) (fun _ => rfl) (.character '\n')
      next feed =>
        split
        next same => exact same ▸ .reference (by decide) (fun _ => rfl) (.character '\t')
        next tab =>
          split
          next same => exact same ▸ .reference (by decide) (fun _ => rfl) (.entity "amp" rfl)
          next ampersand =>
            split
            next same => exact same ▸ .reference (by decide) (fun _ => rfl) (.entity "lt" rfl)
            next bracket =>
              split
              next same =>
                exact same ▸ .reference (by decide) (fun _ => rfl) (.entity "gt" rfl)
              next =>
                refine .plain (by simp [isPlainInside, quote, bracket, ampersand, allowed]) ?_
                simp [isBlank, feed, tab, return_]

theorem isPlainInside_of_isDigit {c : Char} (digit : c.isDigit = true) : isPlainInside c = true := by
  have bounds := Char.isDigit_iff_toNat.1 digit
  simp only [Char.reduceToNat] at bounds
  have other {d : Char} (outside : d.toNat < 48 ∨ 57 < d.toNat) : c ≠ d := by
    rintro rfl
    omega
  have low : ¬c.toNat < 0x20 := by omega
  simp [isPlainInside, isForbidden, low, other (d := '"') (by decide), other (d := '<') (by decide),
    other (d := '&') (by decide), other (d := '\ufffe') (by decide), other (d := '\uffff') (by decide)]

theorem writtenInside_escape {c : Rune} (allowed : isForbidden c.toChar = false) :
    WrittenInside c (Writer.escape Writer.escapeValueChar c) := by
  cases c with
  | char c => exact writtenInside_escapeValueChar allowed
  | surrogate n =>
    refine .reference ?_ (reference_surrogate n) (.surrogate n)
    have semicolon : ∀ c ∈ [';'], isPlainInside c = true := List.forall_mem_singleton.2 (by decide)
    refine List.all_eq_true.2 (List.forall_mem_append.2
      ⟨List.forall_mem_cons.2 ⟨by decide, ?_⟩, semicolon⟩)
    exact fun c member => isPlainInside_of_isDigit (Decimal.isDigit_of_mem_naturalText c member)

/-! ## Values between quotes -/

namespace Scan

variable {s value behind : List Char}

theorem quotedValue_plain {run : List Char} (plain : run.all isPlainInside = true)
    (inner : quotedValue '"' s = .ok (value, behind)) :
    quotedValue '"' (run ++ s) = .ok (run ++ value, behind) := by
  induction run with
  | nil => exact inner
  | cons c run ih =>
    simp only [List.all_cons, Bool.and_eq_true] at plain
    have first := plain.1
    simp only [isPlainInside, Bool.and_eq_true, bne_iff_ne, Bool.not_eq_true'] at first
    simp [quotedValue, checkReference, first, ih plain.2]

theorem quotedValue_writtenInside {c : Rune} {written : List Char} (h : WrittenInside c written)
    (inner : quotedValue '"' s = .ok (value, behind)) :
    quotedValue '"' (written ++ s) = .ok (written ++ value, behind) := by
  cases h with
  | plain plain _ => exact quotedValue_plain (by simp [plain]) inner
  | @reference _ run target plain reads _ =>
    rw [List.cons_append, quotedValue]
    simp [checkReference, reads, quotedValue_plain plain inner, show isForbidden '&' = false from rfl]

theorem quotedValue_written {text : List Rune} (clean : IsClean (text.map (·.toChar)))
    (behind : List Char) :
    quotedValue '"' (Writer.quoted text ++ '"' :: behind) = .ok (Writer.quoted text, '"' :: behind) := by
  induction text with
  | nil => simp [quotedValue, Writer.quoted]
  | cons c text ih =>
    obtain ⟨allowed, clean⟩ := IsClean.cons_iff.1 clean
    rw [Writer.quoted, List.flatMap_cons, ← Writer.quoted, List.append_assoc]
    exact quotedValue_writtenInside (writtenInside_escape allowed) (ih clean)

end Scan

namespace AttributeValue

variable {doctype : Doctype} {closed : Entries String Entity} {written : List Char} {text : List Rune}

theorem expand_writtenInside {c : Char} (h : WrittenInside c written) (s : List Char) :
    expand doctype closed .document (written ++ s) = (expand doctype closed .document s).map (c :: ·) := by
  cases h with
  | plain plain blank =>
    simp only [isPlainInside, Bool.and_eq_true, bne_iff_ne] at plain
    -- The only blank that is written plainly is a space, and blanks are read as spaces.
    have noReturn : c ≠ '\r' := by
      rintro rfl
      exact absurd (blank rfl) (by decide)
    have kept : (if isBlank c = true then ' ' else c) = c := by
      split
      next isBlank => exact (blank isBlank).symm
      next => rfl
    rw [List.cons_append, List.nil_append, expand, if_neg plain.1.2, if_neg plain.1.1.2,
      if_neg (fun h => noReturn h.1), kept]
    cases expand doctype closed .document s <;> rfl
  | @reference _ run target _ reads stands =>
    rw [List.cons_append, expand, if_pos rfl]
    split
    next failed => simp [reads] at failed
    next failed => simp [reads] at failed
    next taken =>
      cases (reads s).symm.trans taken
      cases stands with
      | character => cases expand doctype closed .document s <;> rfl
      | entity _ known => cases expand doctype closed .document s <;> simp only [known] <;> rfl

theorem expand_surrogate {n : Fin 0x800} (h : WrittenInside (.surrogate n) written) (s : List Char) :
    ∃ fault, expand doctype closed .document (written ++ s) = .error fault := by
  cases h with
  | @reference _ run target _ reads stands =>
    cases stands
    rw [List.cons_append, expand, if_pos rfl]
    split
    next failed => simp [reads] at failed
    next failed => simp [reads] at failed
    next taken =>
      cases (reads s).symm.trans taken
      exact ⟨_, rfl⟩

theorem expand_written (clean : IsClean (text.map (·.toChar))) (plain : text.any (·.isSurrogate) = false) :
    expand doctype closed .document (Writer.quoted text) = .ok (text.map (·.toChar)) := by
  induction text with
  | nil => simp [expand, Writer.quoted]
  | cons c text ih =>
    obtain ⟨allowed, cleanRest⟩ := IsClean.cons_iff.1 clean
    rw [List.any_cons, Bool.or_eq_false_iff] at plain
    rw [Writer.quoted, List.flatMap_cons, ← Writer.quoted]
    cases c with
    | char c =>
      rw [expand_writtenInside (writtenInside_escape allowed), ih cleanRest plain.2]
      rfl
    | surrogate n => cases plain.1

/-- A value with a surrogate is a fault. -/
theorem expand_of_hasSurrogate (clean : IsClean (text.map (·.toChar)))
    (some : text.any (·.isSurrogate) = true) :
    ∃ fault, expand doctype closed .document (Writer.quoted text) = .error fault := by
  induction text with
  | nil => cases some
  | cons c text ih =>
    obtain ⟨allowed, cleanRest⟩ := IsClean.cons_iff.1 clean
    rw [Writer.quoted, List.flatMap_cons, ← Writer.quoted]
    cases c with
    | char c =>
      obtain ⟨fault, failed⟩ := ih cleanRest some
      exact ⟨fault, by rw [expand_writtenInside (writtenInside_escape allowed), failed]; rfl⟩
    | surrogate n => exact expand_surrogate (writtenInside_escape allowed) _

end AttributeValue

/-! ## Attributes of a tag -/

/-- An attribute of a tag that is written for a name and a value. -/
def RawAttribute.Writes (raw : RawAttribute) (found : String × Text) : Prop :=
  raw.name = ⟨none, found.1⟩ ∧ raw.value = Writer.quoted found.2.toList

namespace Scan

theorem oneAttribute_append (name : String) (value : Text) (behind : List Char) :
    Writer.oneAttribute name value ++ behind = ' ' :: (name.toList ++ '=' :: '"' ::
      (Writer.quoted value.toList ++ '"' :: behind)) := by
  simp [Writer.oneAttribute]

theorem oneAttribute_written {name : String} {value : Text} (readable : isReadableName name = true)
    (clean : IsClean value.chars) (behind : List Char) :
    ∃ raw : RawAttribute, raw.Writes (name, value) ∧
      oneAttribute (name.toList ++ '=' :: '"' :: (Writer.quoted value.toList ++ '"' :: behind)) =
        .ok (raw, behind) := by
  have quoted := quotedValue_written clean behind
  obtain ⟨inside, eq⟩ : ∃ inside, inside = Writer.quoted value.toList ++ '"' :: behind := ⟨_, rfl⟩
  rw [← eq] at quoted ⊢
  have named := qualifiedName_of_isReadableName readable ('=' :: '"' :: inside)
    (by rintro _ ⟨⟩; decide)
  have signed : expect '=' (skipBlanks ('=' :: '"' :: inside)) = .ok ('"' :: inside) := rfl
  have opened : skipBlanks ('"' :: inside) = '"' :: inside := rfl
  simp only [oneAttribute, named, signed, opened, bind, Except.bind, true_or, if_true, quoted,
    List.tail_cons]
  exact ⟨_, ⟨rfl, rfl⟩, rfl⟩

theorem oneAttribute_of_not_isReadableName {name : String} (written : Settings.isName name = true)
    (unreadable : isReadableName name = false) (rest : List Char) :
    ∃ halt, oneAttribute (name.toList ++ rest) = .error halt := by
  rcases qualifiedName_of_not_isReadableName written unreadable rest with
    ⟨halt, eq⟩ | ⟨short, c, more, eq, char⟩
  · exact ⟨halt, by rw [oneAttribute, eq]; rfl⟩
  · have kept : skipBlanks (c :: more) = c :: more :=
      List.dropWhile_cons_of_neg (by simp [isBlank_of_isWrittenChar char])
    have sign : c ≠ '=' := ne_of_isWrittenChar char (by decide)
    refine ⟨.before (c :: more), ?_⟩
    simp [oneAttribute, eq, kept, expect, sign, bind, Except.bind]

/-- A character that a tag goes on with, behind a blank, is the start of an attribute. -/
theorem attributes_blank {c : Char} (blank : isBlank c = false) (bracket : c ≠ '>') (slash : c ≠ '/')
    (s : List Char) : attributes (' ' :: c :: s) =
      (match oneAttribute (c :: s) with
      | .error halt => .error halt
      | .ok (first, behind) =>
        match attributes behind with
        | .error halt => .error halt
        | .ok (more, isClosed, rest) => .ok (first :: more, isClosed, rest)) := by
  have shown : skipBlanks (' ' :: c :: s) = c :: s := by
    rw [skipBlanks, List.dropWhile_cons_of_pos (by decide), List.dropWhile_cons_of_neg (by simp [blank])]
  rw [attributes]
  split
  next empty => simp [shown] at empty
  next closed => simp [shown, bracket] at closed
  next closed => simp [shown, slash] at closed
  next d more _ _ eq =>
    cases shown.symm.trans eq
    rw [if_neg (by simp)]
    split
    next failed => simp only [failed]
    next behind taken => cases inside : attributes behind <;> simp only [taken, inside]

theorem attributes_end (rest : List Char) : attributes ('>' :: rest) = .ok ([], false, rest) := by
  have shown : skipBlanks ('>' :: rest) = '>' :: rest := rfl
  rw [attributes]
  split <;> simp_all

theorem attributes_closedEnd (rest : List Char) :
    attributes (' ' :: '/' :: '>' :: rest) = .ok ([], true, rest) := by
  have shown : skipBlanks (' ' :: '/' :: '>' :: rest) = '/' :: '>' :: rest := rfl
  rw [attributes]
  split
  next empty => simp [shown] at empty
  next closed => simp [shown] at closed
  next eq =>
    cases shown.symm.trans eq
    rfl
  next other eq =>
    cases shown.symm.trans eq
    exact (other rfl).elim

/-- What is left of a name is neither a blank nor an end of a tag. -/
theorem attributes_of_isWrittenChar {c : Char} (char : isWrittenChar c = true) (more : List Char) :
    attributes (c :: more) = .error (.before (c :: more)) := by
  have shown : skipBlanks (c :: more) = c :: more :=
    List.dropWhile_cons_of_neg (by simp [isBlank_of_isWrittenChar char])
  rw [attributes]
  split
  next empty => simp [shown] at empty
  next closed => simp [shown, ne_of_isWrittenChar (d := '>') char (by decide)] at closed
  next closed => simp [shown, ne_of_isWrittenChar (d := '/') char (by decide)] at closed
  next eq =>
    cases shown.symm.trans eq
    rw [if_pos rfl]

/-- What is written of attributes is a blank and a character of a name, or nothing. -/
theorem attributes_name {name : String} (written : Settings.isName name = true) (s : List Char) :
    attributes (' ' :: (name.toList ++ s)) =
      (match oneAttribute (name.toList ++ s) with
      | .error halt => .error halt
      | .ok (first, behind) =>
        match attributes behind with
        | .error halt => .error halt
        | .ok (more, isClosed, rest) => .ok (first :: more, isClosed, rest)) := by
  obtain ⟨first, rest, eq, chars⟩ := isWrittenChar_of_isName written
  have char := chars first List.mem_cons_self
  rw [eq]
  exact attributes_blank (isBlank_of_isWrittenChar char) (ne_of_isWrittenChar char (by decide))
    (ne_of_isWrittenChar char (by decide)) _

/-- The attributes of a tag are read back, each with its value as it is written. -/
theorem attributes_written {found : List (String × Text)}
    (written : ∀ a ∈ found, Settings.isName a.1 = true ∧ IsClean a.2.chars)
    (readable : ∀ a ∈ found, isReadableName a.1 = true) {tail rest : List Char} {isClosed : Bool}
    (closing : attributes tail = .ok ([], isClosed, rest)) :
    ∃ raws, List.Forall₂ RawAttribute.Writes raws found ∧
      attributes (Writer.attributes found ++ tail) = .ok (raws, isClosed, rest) := by
  induction found with
  | nil => exact ⟨[], .nil, closing⟩
  | cons first found ih =>
    obtain ⟨⟨isName, clean⟩, written⟩ := List.forall_mem_cons.1 written
    obtain ⟨isReadable, readable⟩ := List.forall_mem_cons.1 readable
    obtain ⟨raws, same, more⟩ := ih written readable
    obtain ⟨raw, writes, one⟩ := oneAttribute_written isReadable clean (Writer.attributes found ++ tail)
    refine ⟨raw :: raws, .cons writes same, ?_⟩
    rw [Writer.attributes, List.flatMap_cons, List.append_assoc, ← Writer.attributes,
      oneAttribute_append, attributes_name isName, one]
    simp only [more]

/-- A name that the reader does not know makes the attributes of a tag a fault. -/
theorem attributes_of_not_isReadableName {found : List (String × Text)}
    (written : ∀ a ∈ found, Settings.isName a.1 = true ∧ IsClean a.2.chars)
    (unreadable : ∃ a ∈ found, isReadableName a.1 = false) (tail : List Char) :
    ∃ halt, attributes (Writer.attributes found ++ tail) = .error halt := by
  induction found with
  | nil => simp at unreadable
  | cons first found ih =>
    obtain ⟨⟨isName, clean⟩, written⟩ := List.forall_mem_cons.1 written
    rw [Writer.attributes, List.flatMap_cons, List.append_assoc, ← Writer.attributes,
      oneAttribute_append, attributes_name isName]
    cases isReadable : isReadableName first.1 with
    | false =>
      obtain ⟨halt, eq⟩ := oneAttribute_of_not_isReadableName isName isReadable
        ('=' :: '"' :: (Writer.quoted first.2.toList ++ '"' :: (Writer.attributes found ++ tail)))
      exact ⟨halt, by rw [eq]⟩
    | true =>
      obtain ⟨raw, _, one⟩ := oneAttribute_written isReadable clean (Writer.attributes found ++ tail)
      obtain ⟨halt, eq⟩ := ih written (by simpa [isReadable] using unreadable)
      exact ⟨halt, by rw [one]; simp only [eq]⟩

end Scan

/-! ## The attributes of an element -/

/-- The attribute that sets the namespace of unqualified elements. -/
def bindingName : String := "xmlns"

/-- Whether a value may be the namespace of unqualified elements. -/
def isAllowedNamespace (value : String) : Bool :=
  !value.toList.contains Scope.separator && value != Scope.xmlNamespace &&
    value != Scope.bindingNamespace

theorem bind_default_of_isAllowedNamespace {value : String} (allowed : isAllowedNamespace value = true)
    (scope : Scope) : scope.bind .default value = .ok scope := by
  simp only [isAllowedNamespace, Bool.and_eq_true, Bool.not_eq_true', bne_iff_ne] at allowed
  rw [Scope.bind, if_neg (by rw [allowed.1.1]; decide), if_neg (by simp [allowed])]

theorem bind_default_of_not_isAllowedNamespace {value : String}
    (refused : isAllowedNamespace value = false) (scope : Scope) :
    ∃ fault, scope.bind .default value = .error fault := by
  by_cases separated : value.toList.contains Scope.separator = true
  · exact ⟨_, by rw [Scope.bind, if_pos separated]⟩
  · by_cases reserved : value = Scope.xmlNamespace ∨ value = Scope.bindingNamespace
    · exact ⟨_, by rw [Scope.bind, if_neg separated, if_pos reserved]⟩
    · simp_all [isAllowedNamespace]

/-- Whether the reader takes an attribute. -/
def isReadableAttribute (found : String × Text) : Bool :=
  isReadableName found.1 && !found.2.hasSurrogate &&
    (found.1 != bindingName || isAllowedNamespace (String.ofList found.2.chars))

theorem isReadableAttribute_iff {found : String × Text} : isReadableAttribute found = true ↔
    isReadableName found.1 = true ∧ found.2.hasSurrogate = false ∧
      (found.1 = bindingName → isAllowedNamespace (String.ofList found.2.chars) = true) := by
  simp [isReadableAttribute, and_assoc, imp_iff_not_or]

/-- The attributes that are read back: the one that sets a namespace is none of an element. -/
def ownAttributes (found : List (String × Text)) : List (String × Text) :=
  found.filter fun a => a.1 != bindingName

namespace OpenTag

variable {raws : List RawAttribute} {found : List (String × Text)} {seen : List QualifiedName}

theorem ofWritten_of_writes {raw : RawAttribute} {a : String × Text} (writes : raw.Writes a)
    (clean : IsClean a.2.chars) (plain : a.2.hasSurrogate = false) :
    AttributeValue.ofWritten Doctype.empty [] .document false raw.value = .ok a.2.chars := by
  rw [AttributeValue.ofWritten, writes.2, AttributeValue.expand_written clean plain]
  rfl

/-- One attribute that was written: it belongs to the element, or sets a namespace. -/
theorem writtenAttributes_cons {raw : RawAttribute} {a : String × Text} (writes : raw.Writes a)
    (clean : IsClean a.2.chars) (plain : a.2.hasSurrogate = false) (fresh : ⟨none, a.1⟩ ∉ seen)
    (start : List Char) (element : String) (scope : Scope) :
    writtenAttributes Doctype.empty [] .document start element scope seen (raw :: raws) =
      if a.1 = bindingName then
        match scope.bind .default (String.ofList a.2.chars) with
        | .error fault => .error ⟨fault, start⟩
        | .ok scope =>
          writtenAttributes Doctype.empty [] .document start element scope (⟨none, a.1⟩ :: seen) raws
      else
        match writtenAttributes Doctype.empty [] .document start element scope (⟨none, a.1⟩ :: seen)
          raws with
        | .error failure => .error failure
        | .ok (more, scope) => .ok (⟨⟨none, a.1⟩, a.2.chars⟩ :: more, scope) := by
  have untyped : ((Doctype.empty.rule? element ⟨none, a.1⟩).map (·.isTokenized)).getD false = false :=
    rfl
  rw [writtenAttributes, if_neg (by simpa [writes.1] using fresh)]
  simp only [writes.1, untyped, ofWritten_of_writes writes clean plain, Scope.Binding.ofName?]
  by_cases binding : a.1 = bindingName
  · cases bound : scope.bind .default (String.ofList a.2.chars) <;>
      simp only [binding, bindingName, if_true, bound]
  · simp only [if_neg binding, show ¬a.1 = "xmlns" from binding, if_false, bind, Except.bind]
    split <;> simp_all

/-- An attribute with a surrogate in its value is a fault. -/
theorem writtenAttributes_of_hasSurrogate {raw : RawAttribute} {a : String × Text} (writes : raw.Writes a)
    (clean : IsClean a.2.chars) (some : a.2.hasSurrogate = true) (fresh : ⟨none, a.1⟩ ∉ seen)
    (start : List Char) (element : String) (scope : Scope) :
    ∃ failure, writtenAttributes Doctype.empty [] .document start element scope seen (raw :: raws) =
      .error failure := by
  obtain ⟨fault, failed⟩ : ∃ fault, AttributeValue.expand Doctype.empty [] .document
      (Writer.quoted a.2.toList) = .error fault := AttributeValue.expand_of_hasSurrogate clean some
  have untyped : ((Doctype.empty.rule? element ⟨none, a.1⟩).map (·.isTokenized)).getD false = false :=
    rfl
  have refused : AttributeValue.ofWritten Doctype.empty [] .document false raw.value = .error fault := by
    rw [AttributeValue.ofWritten, writes.2, failed]
    rfl
  rw [writtenAttributes, if_neg (by simpa [writes.1] using fresh)]
  simp only [writes.1, untyped, refused]
  exact ⟨_, rfl⟩

theorem not_mem_seen {a : String × Text} (first : a.1 ∉ found.map (·.1))
    (fresh : ∀ b ∈ found, ⟨none, b.1⟩ ∉ seen) :
    ∀ b ∈ found, (⟨none, b.1⟩ : QualifiedName) ∉ ⟨none, a.1⟩ :: seen := by
  intro b member known
  rcases List.mem_cons.1 known with eq | known
  · injection eq with _ eq
    exact first (eq ▸ List.mem_map_of_mem member)
  · exact fresh b member known

theorem writtenAttributes_written (same : List.Forall₂ RawAttribute.Writes raws found)
    (clean : ∀ a ∈ found, IsClean a.2.chars) (distinct : (found.map (·.1)).Nodup)
    (fresh : ∀ a ∈ found, ⟨none, a.1⟩ ∉ seen)
    (readable : ∀ a ∈ found, isReadableAttribute a = true)
    (start : List Char) (element : String) (scope : Scope) :
    writtenAttributes Doctype.empty [] .document start element scope seen raws =
      .ok ((ownAttributes found).map fun a => ⟨⟨none, a.1⟩, a.2.chars⟩, scope) := by
  induction same generalizing seen with
  | nil => rfl
  | @cons raw a raws found writes _ ih =>
    obtain ⟨isClean, clean⟩ := List.forall_mem_cons.1 clean
    obtain ⟨isFresh, fresh⟩ := List.forall_mem_cons.1 fresh
    obtain ⟨isReadable, readable⟩ := List.forall_mem_cons.1 readable
    rw [List.map_cons, List.nodup_cons] at distinct
    have more := ih clean distinct.2 (not_mem_seen distinct.1 fresh) readable
    obtain ⟨_, plain, namespaces⟩ := isReadableAttribute_iff.1 isReadable
    rw [writtenAttributes_cons writes isClean plain isFresh]
    split
    next binding =>
      have allowed := namespaces binding
      simp only [bind_default_of_isAllowedNamespace allowed, more, ownAttributes, List.filter_cons]
      simp [binding]
    next own =>
      simp only [more, ownAttributes, List.filter_cons]
      simp [own]

/-- A value that the reader does not take makes the attributes of an element a fault. -/
theorem writtenAttributes_of_not_isReadableAttribute
    (same : List.Forall₂ RawAttribute.Writes raws found)
    (clean : ∀ a ∈ found, IsClean a.2.chars) (distinct : (found.map (·.1)).Nodup)
    (fresh : ∀ a ∈ found, ⟨none, a.1⟩ ∉ seen) (named : ∀ a ∈ found, isReadableName a.1 = true)
    (refused : ∃ a ∈ found, isReadableAttribute a = false)
    (start : List Char) (element : String) (scope : Scope) :
    ∃ failure, writtenAttributes Doctype.empty [] .document start element scope seen raws =
      .error failure := by
  induction same generalizing seen scope with
  | nil => simp at refused
  | @cons raw a raws found writes _ ih =>
    obtain ⟨isClean, clean⟩ := List.forall_mem_cons.1 clean
    obtain ⟨isFresh, fresh⟩ := List.forall_mem_cons.1 fresh
    obtain ⟨isNamed, named⟩ := List.forall_mem_cons.1 named
    rw [List.map_cons, List.nodup_cons] at distinct
    have later (taken : isReadableAttribute a = true) (scope : Scope) := by
      refine ih clean distinct.2 (not_mem_seen distinct.1 fresh) named ?_ scope
      simpa [taken] using refused
    cases plain : a.2.hasSurrogate with
    | true => exact writtenAttributes_of_hasSurrogate writes isClean plain isFresh start element scope
    | false =>
      rw [writtenAttributes_cons writes isClean plain isFresh]
      split
      next binding =>
        cases allowed : isAllowedNamespace (String.ofList a.2.chars) with
        | false =>
          obtain ⟨fault, eq⟩ := bind_default_of_not_isAllowedNamespace allowed scope
          exact ⟨⟨fault, start⟩, by simp only [eq]⟩
        | true =>
          have taken := isReadableAttribute_iff.2 ⟨isNamed, plain, fun _ => allowed⟩
          simp only [bind_default_of_isAllowedNamespace allowed]
          exact later taken scope
      next own =>
        have taken := isReadableAttribute_iff.2 ⟨isNamed, plain, fun binding => absurd binding own⟩
        obtain ⟨failure, eq⟩ := later taken scope
        exact ⟨failure, by simp only [eq]⟩

theorem checkQualified_of_unqualified {attributes : List Attribute}
    (unqualified : ∀ a ∈ attributes, a.name.qualifier? = none) (scope : Scope)
    (seen : List (String × String)) : checkQualified scope seen attributes = .ok () := by
  induction attributes with
  | nil => rfl
  | cons a attributes ih =>
    obtain ⟨first, more⟩ := List.forall_mem_cons.1 unqualified
    simp only [checkQualified, first]
    exact ih more

/-- The attributes of an element that was written, and the scope inside it, which is the one
    around it. -/
theorem resolve_written {name : String} {isClosed : Bool}
    (same : List.Forall₂ RawAttribute.Writes raws found) (clean : ∀ a ∈ found, IsClean a.2.chars)
    (distinct : (found.map (·.1)).Nodup) (readable : ∀ a ∈ found, isReadableAttribute a = true)
    (start : List Char) (scope : Scope) :
    resolve Doctype.empty [] .document start scope ⟨⟨none, name⟩, raws, isClosed⟩ =
      .ok ((ownAttributes found).map fun a => ⟨⟨none, a.1⟩, a.2.chars⟩, scope) := by
  have fresh : ∀ a ∈ found, (⟨none, a.1⟩ : QualifiedName) ∉ [] := fun _ _ => List.not_mem_nil
  have written := writtenAttributes_written same clean distinct fresh readable start (QualifiedName.written ⟨none, name⟩) scope
  have unqualified : ∀ b ∈ (ownAttributes found).map fun a => (⟨⟨none, a.1⟩, a.2.chars⟩ : Attribute),
      b.name.qualifier? = none := by
    intro b member
    obtain ⟨a, _, rfl⟩ := List.mem_map.1 member
    rfl
  have checked := checkQualified_of_unqualified unqualified scope []
  have noRules : Doctype.empty.attributes.filter (·.element == QualifiedName.written ⟨none, name⟩) = [] :=
    rfl
  rw [resolve]
  simp only [written, noRules, bind, Except.bind, defaultAttributes, List.append_nil, checked]

end OpenTag

/-! ## Whole tags -/

section Tags

variable {name : String} {found : List (String × Text)} {tail rest : List Char} {isClosed : Bool}

/-- Nothing behind the name of a tag goes on with it. -/
theorem endsName_attributes (found : List (String × Text))
    (ends : tail.head? = some ' ' ∨ tail.head? = some '>') :
    ∀ c ∈ (Writer.attributes found ++ tail).head?, isNameChar c = false ∧ c ≠ ':' := by
  have first : (Writer.attributes found ++ tail).head? = some ' ' ∨
      (Writer.attributes found ++ tail).head? = some '>' := by
    cases found with
    | nil => exact ends
    | cons => exact .inl rfl
  intro c member
  rcases first with eq | eq <;> cases eq.symm.trans member <;> decide

namespace Scan

theorem openTag_written (isReadable : isReadableName name = true)
    (written : ∀ a ∈ found, Settings.isName a.1 = true ∧ IsClean a.2.chars)
    (readable : ∀ a ∈ found, isReadableName a.1 = true)
    (ends : tail.head? = some ' ' ∨ tail.head? = some '>')
    (closing : attributes tail = .ok ([], isClosed, rest)) :
    ∃ raws, List.Forall₂ RawAttribute.Writes raws found ∧
      openTag (name.toList ++ (Writer.attributes found ++ tail)) =
        .ok (⟨⟨none, name⟩, raws, isClosed⟩, rest) := by
  obtain ⟨raws, same, taken⟩ := attributes_written written readable closing
  have named := qualifiedName_of_isReadableName isReadable _ (endsName_attributes found ends)
  refine ⟨raws, same, ?_⟩
  simp only [openTag, named, taken, bind, Except.bind]

/-- A name that the reader does not know makes a tag a fault. -/
theorem openTag_of_not_isReadableName (isWritten : Settings.isName name = true)
    (written : ∀ a ∈ found, Settings.isName a.1 = true ∧ IsClean a.2.chars)
    (unreadable : isReadableName name = false ∨ ∃ a ∈ found, isReadableName a.1 = false)
    (ends : tail.head? = some ' ' ∨ tail.head? = some '>') :
    ∃ halt, openTag (name.toList ++ (Writer.attributes found ++ tail)) = .error halt := by
  cases isReadable : isReadableName name with
  | false =>
    rcases qualifiedName_of_not_isReadableName isWritten isReadable (Writer.attributes found ++ tail) with
      ⟨halt, eq⟩ | ⟨short, c, more, eq, char⟩
    · exact ⟨halt, by simp only [openTag, eq, bind, Except.bind]⟩
    · exact ⟨.before (c :: more), by
        simp only [openTag, eq, attributes_of_isWrittenChar char, bind, Except.bind]⟩
  | true =>
    obtain ⟨halt, eq⟩ :=
      attributes_of_not_isReadableName written (unreadable.resolve_left (by simp [isReadable])) tail
    have named := qualifiedName_of_isReadableName isReadable _ (endsName_attributes found ends)
    exact ⟨halt, by simp only [openTag, named, eq, bind, Except.bind]⟩

theorem closeTag_written (readable : isReadableName name = true) (rest : List Char) :
    closeTag (name.toList ++ '>' :: rest) = .ok (name, rest) := by
  obtain ⟨first, more, eq, start, all⟩ := isReadableName_iff.1 readable
  have inside : ∀ c ∈ more, isClosingNameChar c = true := fun c member => by
    simp [isClosingNameChar, all c member]
  have taken : (more ++ '>' :: rest).takeWhile isClosingNameChar = more := by
    rw [List.takeWhile_append_of_pos inside, List.takeWhile_cons_of_neg (by decide), List.append_nil]
  have left : (more ++ '>' :: rest).dropWhile isClosingNameChar = '>' :: rest := by
    rw [List.dropWhile_append_of_pos inside, List.dropWhile_cons_of_neg (by decide)]
  have closing : expect '>' (skipBlanks ('>' :: rest)) = .ok rest := rfl
  rw [eq, List.cons_append, closeTag]
  simp only [start, if_true, taken, left, closing, ← eq, String.ofList_toList, bind, Except.bind]

end Scan

namespace Token

theorem next_opening (written : Settings.isName name = true) (s : List Char) :
    next ('<' :: (name.toList ++ s)) =
      (match Scan.openTag (name.toList ++ s) with
      | .ok (tag, rest) => .ok (opening tag, rest)
      | .error halt => .error (halt.failure ('<' :: (name.toList ++ s)))) := by
  obtain ⟨first, more, eq, chars⟩ := isWrittenChar_of_isName written
  have char := chars first List.mem_cons_self
  have slash : first ≠ '/' := ne_of_isWrittenChar char (by decide)
  have mark : first ≠ '!' := ne_of_isWrittenChar char (by decide)
  have question : first ≠ '?' := ne_of_isWrittenChar char (by decide)
  rw [eq, List.cons_append, next]
  · cases Scan.openTag (first :: (more ++ s)) <;> rfl
  all_goals simp_all

theorem next_closing (readable : isReadableName name = true) (rest : List Char) :
    next ('<' :: '/' :: (name.toList ++ '>' :: rest)) = .ok (closing name, rest) := by
  rw [next, Scan.closeTag_written readable]
  rfl

end Token

end Tags

end XmlSettings.Xml
