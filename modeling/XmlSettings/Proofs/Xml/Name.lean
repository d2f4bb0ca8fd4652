import Mathlib.Data.List.TakeWhile
import XmlSettings.Settings.ToElement
import XmlSettings.Xml.Tag

/-! # Names that are written and names that are read

The writer lets a key pass as a name by the letters, digits and marks of Unicode (`Settings.isName`),
the reader by tables of its own (`isReadableName`).  A name of the reader is read back whole.  Any other
name that the writer lets pass is either refused at once, or cut off in front of a character that
no markup may go on with.
-/

namespace XmlSettings.Xml

/-- Whether a text is a name to the reader, without a qualifier. -/
def isReadableName [Naming] (name : String) : Bool :=
  match name.toList with
  | [] => false
  | first :: rest => isNameStart first && rest.all isNameChar

/-- Whether a text is a name in documents of some kind. -/
def IsReadName (name : String) : Prop := ∃ _naming : Naming, isReadableName name = true

/-- Whether a character may stand in a name that is written. -/
def isWrittenChar (c : Char) : Bool :=
  Text.isWord c || c == '.' || c == '-'

/-! ## Characters -/

theorem ne_of_isWrittenChar {c d : Char} (h : isWrittenChar c = true)
    (other : isWrittenChar d = false) : c ≠ d := by
  rintro rfl
  simp [h] at other

theorem isBlank_of_isWrittenChar {c : Char} (h : isWrittenChar c = true) : isBlank c = false := by
  simp [isBlank, ne_of_isWrittenChar (d := ' ') h rfl, ne_of_isWrittenChar (d := '\n') h rfl,
    ne_of_isWrittenChar (d := '\t') h rfl, ne_of_isWrittenChar (d := '\r') h rfl]

/-! ## Names -/

theorem isReadableName_iff [Naming] {name : String} : isReadableName name = true ↔
    ∃ first rest, name.toList = first :: rest ∧ isNameStart first = true ∧
      ∀ c ∈ rest, isNameChar c = true := by
  unfold isReadableName
  cases name.toList with
  | nil => simp
  | cons first rest =>
    simp only [Bool.and_eq_true, List.all_eq_true]
    exact ⟨fun h => ⟨first, rest, rfl, h⟩, fun ⟨_, _, rfl, h⟩ => h⟩

theorem chars_of_isName {key : Text} (written : Settings.isName key = true) :
    ∃ first rest, key.chars = first :: rest ∧ ∀ c ∈ first :: rest, isWrittenChar c = true := by
  rw [Settings.isName] at written
  cases eq : key.chars with
  | nil => simp [eq] at written
  | cons first rest =>
    simp only [eq, Bool.and_eq_true, List.all_eq_true] at written
    refine ⟨first, rest, rfl, List.forall_mem_cons.2 ⟨?_, written.2⟩⟩
    simp [isWrittenChar, written.1.1]

theorem isWrittenChar_of_isName {name : String} (written : Settings.isName name = true) :
    ∃ first rest, name.toList = first :: rest ∧ ∀ c ∈ first :: rest, isWrittenChar c = true := by
  simpa only [Text.chars_ofString] using chars_of_isName written

/-! ## Names in ASCII -/

/-- Whether a text is a name in ASCII: a letter or underscore first, then letters, digits, underscores,
    dots and hyphens. -/
def isAsciiName (name : String) : Bool :=
  match name.toList with
  | [] => false
  | first :: rest =>
    (first.isAlpha || first == '_') && rest.all fun c => c.isAlphanum || c == '_' || c == '.' || c == '-'

theorem bounds_of_isAlpha {c : Char} (letter : c.isAlpha = true) :
    0x41 ≤ c.toNat ∧ c.toNat ≤ 0x5A ∨ 0x61 ≤ c.toNat ∧ c.toNat ≤ 0x7A := by
  cases Bool.or_eq_true_iff.1 letter with
  | inl upper => exact .inl (of_decide_eq_true upper)
  | inr lower =>
    obtain ⟨least, greatest⟩ := Bool.and_eq_true_iff.1 lower
    exact .inr ⟨of_decide_eq_true least, of_decide_eq_true greatest⟩

theorem bounds_of_isAlphanum {c : Char} (h : c.isAlphanum = true) : 0x30 ≤ c.toNat ∧ c.toNat < 0x80 := by
  cases Bool.or_eq_true_iff.1 h with
  | inl letter =>
    have bounds := bounds_of_isAlpha letter
    omega
  | inr digit =>
    have bounds := Char.isDigit_iff_toNat.1 digit
    simp only [Char.reduceToNat] at bounds
    omega

theorem isAscii_of_isAlphanum {c : Char} (h : c.isAlphanum = true) : c.toNat < 0x80 :=
  (bounds_of_isAlphanum h).2

theorem isAscii_of_isAlpha {c : Char} (letter : c.isAlpha = true) : c.toNat < 0x80 := by
  have bounds := bounds_of_isAlpha letter
  omega

/-- A letter or underscore of ASCII is no digit of any script. -/
theorem isDigit_of_ascii {c : Char} (start : c.isAlpha = true ∨ c = '_') : Text.isDigit c = false := by
  rcases start with letter | rfl
  · have bounds := bounds_of_isAlpha letter
    simp only [Text.isDigit, Text.digitValue?, Text.digitIntervals, Text.Intervals.start?]
    rw [if_neg (by omega), if_neg (by omega), if_pos (by omega)]
    rfl
  · decide

/-- A digit of ASCII is one of the decimal digits. -/
theorem isDigit_of_asciiDigit {c : Char} (digit : c.isDigit = true) : Text.isDigit c = true := by
  have bounds := Char.isDigit_iff_toNat.1 digit
  simp only [Char.reduceToNat] at bounds
  simp only [Text.isDigit, Text.digitValue?, Text.digitIntervals, Text.Intervals.start?]
  rw [if_neg (by omega), if_pos bounds.2]
  rfl

theorem chars_of_isAsciiName {name : String} (ascii : isAsciiName name = true) :
    ∃ first rest, name.toList = first :: rest ∧ (first.isAlpha = true ∨ first = '_') ∧
      ∀ c ∈ rest, c.isAlphanum = true ∨ c = '_' ∨ c = '.' ∨ c = '-' := by
  unfold isAsciiName at ascii
  cases chars : name.toList with
  | nil => simp [chars] at ascii
  | cons first rest =>
    simp only [chars, Bool.and_eq_true, Bool.or_eq_true, beq_iff_eq, List.all_eq_true, or_assoc] at ascii
    exact ⟨first, rest, rfl, ascii⟩

theorem isName_of_isAsciiName {name : String} (ascii : isAsciiName name = true) :
    Settings.isName name = true := by
  obtain ⟨first, rest, chars, start, more⟩ := chars_of_isAsciiName ascii
  rw [Settings.isName, Text.chars_ofString]
  simp only [chars, Bool.and_eq_true, Bool.or_eq_true, beq_iff_eq, List.all_eq_true]
  refine ⟨⟨?_, by simp [isDigit_of_ascii start]⟩, ?_⟩
  · rcases start with letter | rfl
    · simp [Text.isWord, isAscii_of_isAlpha letter, Char.isAlphanum, letter]
    · decide
  · intro c member
    rcases more c member with letter | rfl | rfl | rfl
    · simp [Text.isWord, isAscii_of_isAlphanum letter, letter]
    all_goals decide

theorem isReadableName_of_isAsciiName [Naming] {name : String} (ascii : isAsciiName name = true) :
    isReadableName name = true := by
  obtain ⟨first, rest, chars, start, more⟩ := chars_of_isAsciiName ascii
  refine isReadableName_iff.2 ⟨first, rest, chars, ?_, ?_⟩
  · rcases start with letter | rfl
    · simp [isNameStart, isAscii_of_isAlpha letter, letter]
    · rfl
  · intro c member
    rcases more c member with letter | rfl | rfl | rfl
    · simp [isNameChar, isAscii_of_isAlphanum letter, letter]
    all_goals rfl

/-- Whether a text consists of characters of ASCII. -/
def isAscii (text : String) : Bool := text.toList.all fun c => c.toNat < 0x80

theorem isAscii_of_isAsciiName {name : String} (ascii : isAsciiName name = true) :
    isAscii name = true := by
  obtain ⟨first, rest, chars, start, more⟩ := chars_of_isAsciiName ascii
  simp only [isAscii, chars, List.all_cons, Bool.and_eq_true, List.all_eq_true, decide_eq_true_eq]
  constructor
  · rcases start with letter | rfl
    · exact isAscii_of_isAlpha letter
    · decide
  · intro c member
    rcases more c member with letter | rfl | rfl | rfl
    · exact isAscii_of_isAlphanum letter
    all_goals decide

theorem isAsciiName_of_isReadableName [Naming] {name : String} (readable : isReadableName name = true)
    (ascii : isAscii name = true) : isAsciiName name = true := by
  obtain ⟨first, rest, chars, start, more⟩ := isReadableName_iff.1 readable
  rw [isAscii, chars, List.all_cons, Bool.and_eq_true, decide_eq_true_eq] at ascii
  obtain ⟨low, later⟩ := ascii
  rw [isAsciiName, chars]
  simp only [Bool.and_eq_true, List.all_eq_true]
  refine ⟨by simpa [isNameStart, low] using start, fun c member => ?_⟩
  have below := List.all_eq_true.1 later c member
  have char := more c member
  simp only [decide_eq_true_eq] at below
  simp only [isNameChar, below, if_true, Bool.or_eq_true, beq_iff_eq] at char ⊢
  rcases char with ((letter | line) | hyphen) | dot
  · exact .inl (.inl (.inl letter))
  · exact .inl (.inl (.inr line))
  · exact .inr hyphen
  · exact .inl (.inr dot)

theorem isAsciiName_of_isName {name : String} (written : Settings.isName name = true)
    (ascii : isAscii name = true) : isAsciiName name = true := by
  rw [Settings.isName, Text.chars_ofString] at written
  unfold isAsciiName
  cases chars : name.toList with
  | nil => simp [chars] at written
  | cons first rest =>
    rw [isAscii, chars, List.all_cons, Bool.and_eq_true, decide_eq_true_eq] at ascii
    obtain ⟨low, later⟩ := ascii
    simp only [chars, Bool.and_eq_true, List.all_eq_true, Bool.not_eq_true'] at written ⊢
    obtain ⟨⟨word, noDigit⟩, more⟩ := written
    refine ⟨?_, fun c member => ?_⟩
    · have plain : first.isDigit = false := by
        cases digit : first.isDigit with
        | false => rfl
        | true => simp [isDigit_of_asciiDigit digit] at noDigit
      simpa [Text.isWord, low, Char.isAlphanum, plain] using word
    · have below := List.all_eq_true.1 later c member
      simp only [decide_eq_true_eq] at below
      simpa [Text.isWord, below] using more c member

/-! ## Reading them -/

namespace Scan

theorem name_of_isReadableName {name : String} (readable : isReadableName name = true)
    (rest : List Char) (ends : ∀ c ∈ rest.head?, isNameChar c = false) :
    Scan.name (name.toList ++ rest) = .ok (name, rest) := by
  obtain ⟨first, more, eq, start, all⟩ := isReadableName_iff.1 readable
  have taken : (more ++ rest).takeWhile isNameChar = more := by
    rw [List.takeWhile_append_of_pos all]
    cases rest with
    | nil => simp
    | cons c rest => simp [ends c rfl]
  have left : (more ++ rest).dropWhile isNameChar = rest := by
    rw [List.dropWhile_append_of_pos all]
    cases rest with
    | nil => rfl
    | cons c rest => simp [ends c rfl]
  rw [eq, List.cons_append, Scan.name, if_pos start, taken, left, ← eq, String.ofList_toList]

theorem qualifiedName_of_isReadableName {name : String} (readable : isReadableName name = true)
    (rest : List Char) (ends : ∀ c ∈ rest.head?, isNameChar c = false ∧ c ≠ ':') :
    qualifiedName (name.toList ++ rest) = .ok (⟨none, name⟩, rest) := by
  rw [qualifiedName, name_of_isReadableName readable rest fun c first => (ends c first).1]
  cases rest with
  | nil => rfl
  | cons c rest =>
    simp only [bind, Except.bind]
    split
    next behind eq =>
      cases eq
      exact absurd rfl (ends ':' rfl).2
    next => rfl

/-- A reader that stops inside a name that is written, in front of a character of it. -/
def StopsShort {α : Type} (result : Scan (α × List Char)) : Prop :=
  (∃ halt, result = .error halt) ∨
    ∃ found c more, result = .ok (found, c :: more) ∧ isWrittenChar c = true

theorem name_of_not_isReadableName {name : String} (written : Settings.isName name = true)
    (unreadable : isReadableName name = false) (rest : List Char) :
    StopsShort (Scan.name (name.toList ++ rest)) := by
  obtain ⟨first, more, eq, all⟩ := isWrittenChar_of_isName written
  rw [eq, List.cons_append, Scan.name]
  split
  next start =>
    have : ¬ ∀ c ∈ more, isNameChar c = true := fun every => by
      rw [isReadableName_iff.2 ⟨first, more, eq, start, every⟩] at unreadable
      exact absurd unreadable (by decide)
    obtain ⟨c, behind, left⟩ : ∃ c behind, more.dropWhile isNameChar = c :: behind :=
      List.exists_cons_of_ne_nil fun none => this (List.dropWhile_eq_nil_iff.1 none)
    have member : c ∈ more := (List.dropWhile_suffix isNameChar).subset (left ▸ List.mem_cons_self)
    rw [List.dropWhile_append, left]
    exact .inr ⟨_, c, _, rfl, all c (List.mem_cons_of_mem _ member)⟩
  next => exact .inl ⟨_, rfl⟩

theorem qualifiedName_of_not_isReadableName {name : String} (written : Settings.isName name = true)
    (unreadable : isReadableName name = false) (rest : List Char) :
    StopsShort (qualifiedName (name.toList ++ rest)) := by
  rw [qualifiedName]
  rcases name_of_not_isReadableName written unreadable rest with
    ⟨halt, eq⟩ | ⟨short, c, more, eq, char⟩
  · exact .inl ⟨halt, by rw [eq]; rfl⟩
  · refine .inr ⟨⟨none, short⟩, c, more, ?_, char⟩
    rw [eq]
    simp only [bind, Except.bind]
    split
    next same =>
      cases same
      exact absurd char (by decide)
    next => rfl

end Scan

end XmlSettings.Xml
