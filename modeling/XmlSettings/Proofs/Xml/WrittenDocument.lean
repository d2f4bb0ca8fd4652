import XmlSettings.Proofs.Xml.WrittenElement

/-! # Reading documents that were written

A document that is written holds no forbidden character, declares UTF-8 and nothing else, and ends
with its root element.  Reading its bytes gives the root element back as `Element.reread` says
(`root_of_readable`), unless a name in it is none to the reader (`root_of_unreadable`).
-/

namespace XmlSettings.Xml

/-! ## Characters of names -/

theorem isForbidden_of_isWrittenChar {c : Char} (char : isWrittenChar c = true) :
    isForbidden c = false := by
  have low : ¬c.toNat < 0x20 := by
    intro low
    have ascii : c.toNat < 0x80 := by omega
    have noDot : c ≠ '.' := by
      rintro rfl
      exact absurd low (by decide)
    have noHyphen : c ≠ '-' := by
      rintro rfl
      exact absurd low (by decide)
    have noLine : c ≠ '_' := by
      rintro rfl
      exact absurd low (by decide)
    have word : c.isAlphanum = true := by
      simpa [isWrittenChar, Text.isWord, ascii, noDot, noHyphen, noLine] using char
    have bounds := bounds_of_isAlphanum word
    omega
  have cut : c ≠ '\ufffe' := ne_of_isWrittenChar char (by decide +kernel)
  have bad : c ≠ '\uffff' := ne_of_isWrittenChar char (by decide +kernel)
  simp [isForbidden, low, cut, bad]

theorem isClean_of_isName {name : String} (written : Settings.isName name = true) :
    IsClean name.toList := by
  obtain ⟨first, rest, eq, chars⟩ := isWrittenChar_of_isName written
  rw [eq]
  intro c member
  exact isForbidden_of_isWrittenChar (chars c member)

/-- A name that is written starts with a letter, or beyond ASCII. -/
theorem isKeywordChar_of_isName {name : String} (written : Settings.isName name = true) :
    ∃ first rest, name.toList = first :: rest ∧
      (Mark.isKeywordChar first = true ∨ 0x80 ≤ first.toNat ∧ ¬isForbidden first = true) := by
  obtain ⟨first, rest, eq, chars⟩ := isWrittenChar_of_isName written
  refine ⟨first, rest, eq, ?_⟩
  simp only [Settings.isName, Text.chars_ofString, eq, Bool.and_eq_true, Bool.not_eq_true'] at written
  by_cases ascii : first.toNat < 0x80
  · left
    have noDigit : first.isDigit = false := by
      cases digit : first.isDigit with
      | false => rfl
      | true =>
        have := isDigit_of_asciiDigit digit
        simp [this] at written
    have word := written.1.1
    simpa [Text.isWord, ascii, Char.isAlphanum, noDigit, Mark.isKeywordChar] using word
  · right
    exact ⟨by omega, by simp [isForbidden_of_isWrittenChar (chars first List.mem_cons_self)]⟩

/-! ## Written documents hold nothing forbidden -/

namespace Writer

theorem isClean_flatMap {escape : Rune → List Char}
    (keeps : ∀ c : Rune, isForbidden c.toChar = false → IsClean (escape c)) {cs : List Rune}
    (clean : IsClean (cs.map (·.toChar))) : IsClean (cs.flatMap escape) := by
  intro d member
  obtain ⟨c, inside, written⟩ := List.mem_flatMap.1 member
  exact keeps c (clean _ (List.mem_map_of_mem inside)) d written

theorem isClean_of_writtenInside {c : Rune} {written : List Char} (h : WrittenInside c written) :
    IsClean written := by
  have allowed {d : Char} (plain : isPlainInside d = true) : isForbidden d = false := by
    simp only [isPlainInside, Bool.and_eq_true, Bool.not_eq_true'] at plain
    exact plain.2
  cases h with
  | plain plain _ => exact List.forall_mem_singleton.2 (allowed plain)
  | reference plain =>
    exact IsClean.cons_iff.2 ⟨by decide, fun d member => allowed (List.all_eq_true.1 plain d member)⟩

theorem isClean_escapeChar {c : Char} (forbidden : isForbidden c = false) : IsClean (escapeChar c) := by
  unfold escapeChar
  split
  · decide
  · split
    · decide
    · split
      · decide
      · exact IsClean.cons_iff.2 ⟨forbidden, IsClean.nil⟩

theorem isClean_text {cs : List Rune} (clean : IsClean (cs.map (·.toChar))) : IsClean (text cs) := by
  refine isClean_flatMap (fun c allowed => ?_) clean
  cases c with
  | char c => exact isClean_escapeChar allowed
  | surrogate n => exact isClean_of_writtenInside (writtenInside_escape allowed)

theorem isClean_quoted {cs : List Rune} (clean : IsClean (cs.map (·.toChar))) : IsClean (quoted cs) :=
  isClean_flatMap (fun _ allowed => isClean_of_writtenInside (writtenInside_escape allowed)) clean

theorem isClean_attributes {found : List (String × Text)}
    (written : ∀ a ∈ found, Settings.isName a.1 = true ∧ IsClean a.2.chars) :
    IsClean (attributes found) := by
  intro c member
  obtain ⟨⟨name, value⟩, inside, char⟩ := List.mem_flatMap.1 member
  obtain ⟨isName, clean⟩ := written _ inside
  have parts : IsClean (oneAttribute name value) :=
    IsClean.append_iff.2 ⟨IsClean.append_iff.2 ⟨IsClean.cons_iff.2 ⟨by decide, isClean_of_isName isName⟩,
      IsClean.cons_iff.2 ⟨by decide, IsClean.cons_iff.2 ⟨by decide, isClean_quoted clean⟩⟩⟩, by decide⟩
  exact parts c char

/-- The closing tag of an element. -/
theorem isClean_closing {name : String} (isName : Settings.isName name = true) :
    IsClean ('<' :: '/' :: (name.toList ++ ['>'])) :=
  IsClean.cons_iff.2 ⟨by decide, IsClean.cons_iff.2 ⟨by decide,
    IsClean.append_iff.2 ⟨isClean_of_isName isName, by decide⟩⟩⟩

mutual

theorem isClean_element {e : Element Text} (writable : e.IsWritable) {step : List Rune}
    (isStep : IsStep step) (depth : Nat) : IsClean (element step depth e) := by
  cases writable with
  | @mk name content found children isName attributes distinct cleanText children' =>
    rw [← List.append_nil (element _ _ _), element_append]
    refine IsClean.cons_iff.2 ⟨by decide, IsClean.append_iff.2 ⟨isClean_of_isName isName,
      IsClean.append_iff.2 ⟨isClean_attributes attributes, ?_⟩⟩⟩
    by_cases isEmpty : children.isEmpty = true ∧ content = ""
    · rw [inside_closed _ _ _ _ _ _ isEmpty]
      decide
    · rw [inside_open _ _ _ _ _ _ isEmpty]
      exact IsClean.cons_iff.2 ⟨by decide, IsClean.append_iff.2
        ⟨isClean_text (isClean_front isStep depth cleanText children),
          IsClean.append_iff.2 ⟨isClean_elements children' isStep depth, isClean_closing isName⟩⟩⟩
termination_by sizeOf e

theorem isClean_elements {children : List (Element Text × Text)}
    (writable : Element.AreWritable children) {step : List Rune} (isStep : IsStep step) (depth : Nat) :
    IsClean (elements step depth children) := by
  cases writable with
  | nil => exact IsClean.nil
  | @cons child rest first later =>
    obtain ⟨further, line⟩ := behind_empty step depth rest
    rw [← List.append_nil (elements _ _ _), elements_cons, List.append_nil, line]
    exact IsClean.append_iff.2 ⟨isClean_element first isStep _, IsClean.append_iff.2
      ⟨isClean_text (isClean_lineStart isStep further), isClean_elements later isStep depth⟩⟩
termination_by sizeOf children

end

end Writer

/-! ## In front of the root element -/

/-- What the line that every document opens with holds behind `<?`. -/
def Writer.openingInside : List Char := "xml version='1.0' encoding='utf-8'?>".toList

theorem Writer.opening_append (s : List Char) :
    opening.toList ++ s = '<' :: '?' :: (openingInside ++ '\n' :: s) := rfl

theorem read?_opening (s : List Char) : ∃ place,
    Declaration.read? ('<' :: '?' :: (Writer.openingInside ++ s)) =
      .ok (some (⟨some ("utf-8", place), false⟩, s)) := by
  have kind : Scan.instruction (Writer.openingInside ++ s) = .ok (.declaration, s) := rfl
  have length : (Writer.openingInside ++ s).length - 3 - s.length - 2 = 31 := by
    simp [show Writer.openingInside.length = 36 from rfl]
    omega
  obtain ⟨place, settings⟩ : ∃ place, Declaration.ofSettings
      (((Writer.openingInside ++ s).drop 3).take 31) = .ok ⟨some ("utf-8", place), false⟩ := ⟨_, rfl⟩
  refine ⟨place ++ ('?' :: '>' :: s), ?_⟩
  simp only [Declaration.read?, kind, length, settings, Option.map]

namespace Doctype

theorem read_of_blanks {state : State} {c : Char} {tail rest : List Char}
    (h : Mark.next (c :: tail) = .ok (.blanks, rest)) : read state (c :: tail) = read state rest := by
  rw [read]
  split
  next failed => simp [h] at failed
  next mark behind taken =>
    obtain ⟨rfl, rfl⟩ : Mark.blanks = mark ∧ rest = behind := by simpa [h] using taken
    rfl

theorem read_of_element {doctype : Doctype} {isReading declared : Bool} {c : Char}
    {tail rest : List Char} (h : Mark.next (c :: tail) = .ok (.element, rest)) :
    read ⟨doctype, isReading, .root declared⟩ (c :: tail) = .ok (doctype, c :: tail) := by
  rw [read]
  split
  next failed => simp [h] at failed
  next mark behind taken =>
    obtain ⟨rfl, rfl⟩ : Mark.element = mark ∧ rest = behind := by simpa [h] using taken
    rfl

/-- No declaration stands in front of the root element. -/
theorem read_written {name : String} (written : Settings.isName name = true) (s : List Char) :
    read ⟨empty, true, .root false⟩ ('\n' :: '<' :: (name.toList ++ s)) =
      .ok (empty, '<' :: (name.toList ++ s)) := by
  obtain ⟨first, rest, eq, keyword⟩ := isKeywordChar_of_isName written
  have blanks : Mark.next ('\n' :: '<' :: (name.toList ++ s)) =
    .ok (.blanks, '<' :: (name.toList ++ s)) := rfl
  have element : Mark.next ('<' :: (name.toList ++ s)) = .ok (.element, name.toList ++ s) := by
    rw [eq, List.cons_append, Mark.next, Mark.scan]
    · rw [if_pos keyword]
      rfl
    all_goals
      rintro rfl
      exact absurd keyword (by decide)
  rw [read_of_blanks blanks, read_of_element element]

end Doctype

/-! ## The document -/

namespace Document

theorem characters_of_isClean {s : String} (clean : IsClean s.toList) :
    characters .utf8 false s.toByteArray = (s.toList, 0) := by
  rw [characters, Encoding.decode_toByteArray, clean.map_admitted]

section Opening

variable {document : Document} {s : String} {rest : List Char}
  (opened : s.toList = '<' :: '?' :: (Writer.openingInside ++ rest))

include opened

theorem root_eq_rootFrom (same : document.content? = some s.toByteArray) :
    document.root = document.rootFrom s.toByteArray .utf8 false := by
  have encoded : s.toByteArray = ('<' :: '?' :: (Writer.openingInside ++ rest)).utf8Encode := by
    rw [← opened, String.utf8Encode_toList]
  obtain ⟨more, bytes⟩ := Encoding.toList_utf8Encode_opening (Writer.openingInside ++ rest)
  simp only [root, same, encoded, bytes, Encoding.isUndecided_opening, Encoding.ofStart_opening]
  rfl

variable (clean : IsClean s.toList)

include clean

/-- A clean text with the opening line is read in UTF-8, and what follows that line is its body. -/
theorem root_of_opening :
    (bytes s.toByteArray).root =
      (body false rest).mapError fun failure => .refused (failure.locate s.toList) := by
  obtain ⟨place, declaration⟩ := read?_opening rest
  have declared : Encoding.utf8.declared "utf-8" = .ok .utf8 := rfl
  have behind : s.toList.drop (s.toList.length - rest.length) = rest := by
    have length : s.toList.length - rest.length = ('<' :: '?' :: Writer.openingInside).length := by
      rw [opened]
      simp
      omega
    rw [length, opened]
    exact List.drop_left
  -- The declared encoding is UTF-8 again, so the same characters are decoded a second time.
  rw [root_eq_rootFrom opened rfl]
  simp only [rootFrom, characters_of_isClean clean, List.drop_zero]
  rw [opened] at behind ⊢
  simp only [declaration, declared, Nat.sub_zero]
  rw [characters_of_isClean clean, opened]
  simp only [Nat.zero_add, behind]

/-- For a text the encoding that it declares means nothing. -/
theorem root_text_of_opening :
    (text s).root = (body false rest).mapError fun failure => .refused (failure.locate s.toList) := by
  obtain ⟨place, declaration⟩ := read?_opening rest
  have content : (text s).content? = some s.toByteArray := by rw [content?, Text.string?_ofString]; rfl
  rw [root_eq_rootFrom opened content]
  simp only [rootFrom, characters_of_isClean clean, List.drop_zero]
  rw [opened]
  simp only [declaration]

end Opening

variable {step : Text} {e : Element Text}

/-- A document that was written opens with the line for UTF-8 and holds no forbidden character. -/
theorem opening_document (writable : e.IsWritable) (isStep : Writer.IsStep step.toList) :
    (Writer.document step e).toList =
        '<' :: '?' :: (Writer.openingInside ++ '\n' :: Writer.element step.toList 0 e) ∧
      IsClean (Writer.document step e).toList := by
  have opened : (Writer.document step e).toList =
      '<' :: '?' :: (Writer.openingInside ++ '\n' :: Writer.element step.toList 0 e) := by
    rw [Writer.document, String.toList_append, String.toList_ofList, Writer.opening_append]
  refine ⟨opened, ?_⟩
  have front : IsClean ('<' :: '?' :: (Writer.openingInside ++ ['\n'])) := by decide
  rw [opened]
  simpa [IsClean] using IsClean.append_iff.2 ⟨front, Writer.isClean_element writable isStep 0⟩

/-- The body of a document that was written is its root element, in front of which nothing is
    declared. -/
theorem root_document (writable : e.IsWritable) (isStep : Writer.IsStep step.toList) :
    ∃ locate : Failure → ReadError, (bytes (Writer.document step e).toByteArray).root =
      ((do
        let (root, rest) ← rootElement Doctype.empty (Writer.element step.toList 0 e)
        checkEnd rest
        .ok root).mapError locate) := by
  obtain ⟨opened, cleanAll⟩ := opening_document writable isStep
  obtain ⟨name, found, content, children⟩ := e
  have isName : Settings.isName name = true := by
    cases writable
    assumption
  have written := Writer.element_append step.toList 0 name content found children []
  rw [List.append_nil] at written
  refine ⟨fun failure => .refused
    (failure.locate (Writer.document step ⟨name, found, content, children⟩).toList), ?_⟩
  rw [root_of_opening opened cleanAll, body]
  have empty : { Doctype.empty with isStandalone := false } = Doctype.empty := rfl
  rw [written, empty, Doctype.read_written isName]
  rfl

/-- A document that was written is the same as text. -/
theorem root_text_document (writable : e.IsWritable) (isStep : Writer.IsStep step.toList) :
    (text (Writer.document step e)).root = (bytes (Writer.document step e).toByteArray).root := by
  obtain ⟨opened, cleanAll⟩ := opening_document writable isStep
  rw [root_text_of_opening opened cleanAll, root_of_opening opened cleanAll]

theorem root_of_readable (writable : e.IsWritable) (readable : e.isReadable = true)
    (isStep : Writer.IsStep step.toList) :
    (bytes (Writer.document step e).toByteArray).root = .ok (e.reread step.toList 0) := by
  obtain ⟨locate, root⟩ := root_document writable isStep
  have read := rootElement_written writable readable isStep []
  have ended : checkEnd [] = .ok () := by rw [checkEnd]
  rw [List.append_nil] at read
  rw [root, read]
  simp only [bind, Except.bind, ended, Except.mapError]

theorem root_of_unreadable (writable : e.IsWritable) (unreadable : e.isReadable = false)
    (isStep : Writer.IsStep step.toList) :
    ∃ error, (bytes (Writer.document step e).toByteArray).root = .error error := by
  obtain ⟨locate, root⟩ := root_document writable isStep
  obtain ⟨failure, refused⟩ := rootElement_of_unreadable writable unreadable isStep []
  rw [List.append_nil] at refused
  refine ⟨locate failure, ?_⟩
  rw [root, refused]
  rfl

end Document

end XmlSettings.Xml
