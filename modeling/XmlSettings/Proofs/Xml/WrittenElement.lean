import XmlSettings.Proofs.Xml.WrittenTag

/-! # Reading elements that were written

An element that is written is read back as `Element.reread` says: with the blanks that were put in
front of its children, with line feeds for line ends, and without the attribute that sets a
namespace (`content_element`).  A name that the reader does not take is a fault wherever it stands, and so
is a surrogate (`content_of_unreadable`).
-/

namespace XmlSettings.Xml

/-! ## Texts beside children -/

namespace Writer

/-- What is written in front of the children of an element. -/
def front (step : List Rune) (depth : Nat) (content : Text) (children : List (Element Text × Text)) :
    List Rune :=
  if children.isEmpty then content.toList else beside step depth content

/-- What is written behind a child that others may follow. -/
def behind (step : List Rune) (depth : Nat) (text : Text) (rest : List (Element Text × Text)) :
    List Rune :=
  if rest.isEmpty then behindLast step depth text else beside step depth text

/-- A step that a document may hold. -/
structure IsStep (step : List Rune) : Prop where
  clean : IsClean (step.map (·.toChar))
  plain : step.any (·.isSurrogate) = false

variable {step : List Rune} {text : Text}

theorem isClean_lineStart (isStep : IsStep step) (depth : Nat) :
    IsClean ((lineStart step depth).map (·.toChar)) := by
  refine IsClean.cons_iff.2 ⟨by decide, ?_⟩
  intro c member
  obtain ⟨rune, inside, rfl⟩ := List.mem_map.1 member
  obtain ⟨_, again, inside⟩ := List.mem_flatten.1 inside
  exact isStep.clean _ (List.mem_map_of_mem (List.eq_of_mem_replicate again ▸ inside))

theorem not_isSurrogate_lineStart (isStep : IsStep step) (depth : Nat) :
    (lineStart step depth).any (·.isSurrogate) = false := by
  refine List.any_eq_false.2 (List.forall_mem_cons.2 ⟨by decide, fun c member => ?_⟩)
  obtain ⟨_, again, inside⟩ := List.mem_flatten.1 member
  exact List.any_eq_false.1 isStep.plain c (List.eq_of_mem_replicate again ▸ inside)

theorem isClean_beside (isStep : IsStep step) (depth : Nat) (inner : IsClean text.chars) :
    IsClean ((beside step depth text).map (·.toChar)) := by
  unfold beside
  split
  · exact isClean_lineStart isStep _
  · exact inner

theorem isClean_front (isStep : IsStep step) (depth : Nat) (inner : IsClean text.chars)
    (children : List (Element Text × Text)) :
    IsClean ((front step depth text children).map (·.toChar)) := by
  unfold front
  split
  · exact inner
  · exact isClean_beside isStep depth inner

theorem isSurrogate_of_isBlankRune {c : Rune} (blank : Text.isBlankRune c = true) :
    c.isSurrogate = false := by
  cases c with
  | char c => rfl
  | surrogate n =>
    have low : 0xD800 ≤ (Rune.surrogate n).toNat := Nat.le_add_right _ _
    simp only [Text.isBlankRune, Text.blankIntervals, Text.Intervals.covers, Text.Intervals.start?] at blank
    iterate 10 rw [if_neg (by omega), if_neg (by omega)] at blank
    cases blank

/-- A surrogate is no blank, so a text that holds one stays as it is. -/
theorem hasSurrogate_front (isStep : IsStep step) (depth : Nat) (text : Text)
    (children : List (Element Text × Text)) :
    (front step depth text children).any (·.isSurrogate) = text.hasSurrogate := by
  unfold front beside
  split
  · rfl
  · split
    next blank =>
      have plain : text.hasSurrogate = false := List.any_eq_false.2 fun c member => by
        simp [isSurrogate_of_isBlankRune (List.all_eq_true.1 blank c member)]
      rw [not_isSurrogate_lineStart isStep, plain]
    next => rfl

/-- Behind a child that no text follows stands the start of a line. -/
theorem behind_empty (step : List Rune) (depth : Nat) (rest : List (Element Text × Text)) :
    ∃ further, behind step depth "" rest = lineStart step further := by
  have blank : beside step depth "" = lineStart step (depth + 1) := rfl
  unfold behind behindLast
  split
  · simp only [blank]
    split
    · exact ⟨depth, rfl⟩
    · exact ⟨depth + 1, rfl⟩
  · exact ⟨depth + 1, rfl⟩

end Writer

namespace Element

mutual

/-- An element as settings are written: its names pass as names, its texts hold nothing forbidden, and
    no text stands behind a child. -/
inductive IsWritable : Element Text → Prop where
  | mk {name : String} {content : Text} {found : List (String × Text)}
      {children : List (Element Text × Text)} (isName : Settings.isName name = true)
      (attributes : ∀ a ∈ found, Settings.isName a.1 = true ∧ IsClean a.2.chars)
      (distinct : (found.map (·.1)).Nodup) (clean : IsClean content.chars)
      (inside : AreWritable children) : IsWritable ⟨name, found, content, children⟩

inductive AreWritable : List (Element Text × Text) → Prop where
  | nil : AreWritable []
  | cons {child : Element Text} {rest : List (Element Text × Text)} (first : IsWritable child)
      (more : AreWritable rest) : AreWritable ((child, "") :: rest)

end

theorem IsWritable.inside {name : String} {content : Text} {found : List (String × Text)}
    {children : List (Element Text × Text)} (writable : IsWritable ⟨name, found, content, children⟩) :
    AreWritable children := by
  cases writable
  assumption

mutual

/-- Whether the reader takes every name and every text in an element. -/
def isReadable : Element Text → Bool
  | mk name found content children =>
    isReadableName name && found.all isReadableAttribute && !content.hasSurrogate && areReadable children
termination_by structural e => e

/-- Whether the reader takes every name and every text in some elements. -/
def areReadable : List (Element Text × Text) → Bool
  | [] => true
  | (child, _) :: rest => isReadable child && areReadable rest
termination_by structural children => children

end

theorem isReadable_iff {name : String} {content : Text} {found : List (String × Text)}
    {children : List (Element Text × Text)} : isReadable ⟨name, found, content, children⟩ = true ↔
      isReadableName name = true ∧ (∀ a ∈ found, isReadableAttribute a = true) ∧
        content.hasSurrogate = false ∧ areReadable children = true := by
  simp [isReadable, and_assoc]

/-- What is read where a text was written. -/
def rereadText (cs : List Rune) : String := String.ofList (lineFeeds (cs.map (·.toChar)))

def rereadAttributes (found : List (String × Text)) : List (String × String) :=
  (ownAttributes found).map fun (name, value) => (name, String.ofList value.chars)

mutual

/-- The element that is read where one is written some steps in. -/
def reread (step : List Rune) (depth : Nat) : Element Text → Element String
  | mk name found content children =>
    ⟨name, rereadAttributes found, rereadText (Writer.front step depth content children),
      rereadAll step depth children⟩
termination_by structural e => e

/-- The children that are read, with the texts behind them. -/
def rereadAll (step : List Rune) (depth : Nat) :
    List (Element Text × Text) → List (Element String × String)
  | [] => []
  | (child, behind) :: rest =>
    (reread step (depth + 1) child, rereadText (Writer.behind step depth behind rest)) ::
      rereadAll step depth rest
termination_by structural children => children

end

end Element

/-! ## The tag in front -/

namespace Writer

/-- What is written of an element behind its attributes. -/
def inside (step : List Rune) (depth : Nat) (name : String) (content : Text)
    (children : List (Element Text × Text)) : List Char :=
  if children.isEmpty ∧ content = "" then " />".toList
  else
    '>' :: text (front step depth content children) ++
      (elements step depth children ++ '<' :: '/' :: (name.toList ++ ['>']))

theorem element_append (step : List Rune) (depth : Nat) (name : String) (content : Text)
    (found : List (String × Text)) (children : List (Element Text × Text)) (rest : List Char) :
    element step depth ⟨name, found, content, children⟩ ++ rest =
      '<' :: (name.toList ++ (attributes found ++ (inside step depth name content children ++ rest))) := by
  cases children with
  | nil => by_cases empty : content = "" <;> simp [element, inside, front, elements, empty]
  | cons => simp [element, inside, front]

theorem elements_cons (step : List Rune) (depth : Nat) (child : Element Text) (text : Text)
    (rest : List (Element Text × Text)) (tail : List Char) :
    elements step depth ((child, text) :: rest) ++ tail =
      element step (depth + 1) child ++
        (Writer.text (behind step depth text rest) ++ (elements step depth rest ++ tail)) := by
  simp only [elements, behind, List.append_assoc]

theorem elements_append_tag (step : List Rune) (depth : Nat) (children : List (Element Text × Text))
    (rest : List Char) : ∃ more, elements step depth children ++ '<' :: rest = '<' :: more := by
  cases children with
  | nil => exact ⟨rest, rfl⟩
  | cons first later =>
    obtain ⟨⟨name, found, content, inner⟩, text⟩ := first
    rw [elements_cons, element_append]
    exact ⟨_, rfl⟩

theorem head?_inside (step : List Rune) (depth : Nat) (name : String) (content : Text)
    (children : List (Element Text × Text)) (rest : List Char) :
    (inside step depth name content children ++ rest).head? = some ' ' ∨
      (inside step depth name content children ++ rest).head? = some '>' := by
  unfold inside
  split
  · exact .inl rfl
  · exact .inr rfl

end Writer

section Opening

variable {name : String} {found : List (String × Text)} {tail rest : List Char} {isClosed : Bool}

/-- The tag that opens a readable element. -/
theorem next_of_readable (isName : Settings.isName name = true)
    (written : ∀ a ∈ found, Settings.isName a.1 = true ∧ IsClean a.2.chars)
    (distinct : (found.map (·.1)).Nodup) (readableName : isReadableName name = true)
    (readable : ∀ a ∈ found, isReadableAttribute a = true)
    (ends : tail.head? = some ' ' ∨ tail.head? = some '>')
    (closing : Scan.attributes tail = .ok ([], isClosed, rest)) :
    ∃ tag : OpenTag, tag.isClosed = isClosed ∧
      Token.next ('<' :: (name.toList ++ (Writer.attributes found ++ tail))) = .ok (.opening tag, rest) ∧
      ∀ start scope, ∃ attributes,
        tag.resolve Doctype.empty [] .document start scope = .ok (attributes, scope) ∧
        Frame.ofTag tag attributes scope =
          ⟨name, name, Element.rereadAttributes found, scope, [], []⟩ := by
  have readableNames : ∀ a ∈ found, isReadableName a.1 = true := fun a member => by
    exact (isReadableAttribute_iff.1 (readable a member)).1
  obtain ⟨raws, same, taken⟩ := Scan.openTag_written readableName written readableNames ends closing
  refine ⟨_, rfl, by rw [Token.next_opening isName, taken], fun start scope => ?_⟩
  refine ⟨_, OpenTag.resolve_written same (fun a member => (written a member).2) distinct readable start
    scope, ?_⟩
  simp [Frame.ofTag, QualifiedName.written, Function.comp_def, Element.rereadAttributes]

/-- The tag that opens an element with a name that the reader does not take. -/
theorem next_of_unreadable (isName : Settings.isName name = true)
    (written : ∀ a ∈ found, Settings.isName a.1 = true ∧ IsClean a.2.chars)
    (distinct : (found.map (·.1)).Nodup)
    (unreadable : isReadableName name = false ∨ ∃ a ∈ found, isReadableAttribute a = false)
    (ends : tail.head? = some ' ' ∨ tail.head? = some '>')
    (closing : Scan.attributes tail = .ok ([], isClosed, rest)) :
    (∃ failure, Token.next ('<' :: (name.toList ++ (Writer.attributes found ++ tail))) = .error failure) ∨
      ∃ tag : OpenTag,
        Token.next ('<' :: (name.toList ++ (Writer.attributes found ++ tail))) =
          .ok (.opening tag, rest) ∧
        ∀ start scope, ∃ failure,
          tag.resolve Doctype.empty [] .document start scope = .error failure := by
  -- Names are refused while the tag is scanned, values only when it is resolved.
  by_cases names : isReadableName name = true ∧ ∀ a ∈ found, isReadableName a.1 = true
  · obtain ⟨raws, same, taken⟩ := Scan.openTag_written names.1 written names.2 ends closing
    obtain ⟨a, member, refused⟩ := unreadable.resolve_left (by simp [names.1])
    refine .inr ⟨_, by rw [Token.next_opening isName, taken], fun start scope => ?_⟩
    have fresh : ∀ a ∈ found, (⟨none, a.1⟩ : QualifiedName) ∉ [] := fun _ _ => List.not_mem_nil
    obtain ⟨failure, eq⟩ := OpenTag.writtenAttributes_of_not_isReadableAttribute same
      (fun a member => (written a member).2) distinct fresh names.2 ⟨a, member, refused⟩ start
      (QualifiedName.written ⟨none, name⟩) scope
    exact ⟨failure, by simp only [OpenTag.resolve, eq, bind, Except.bind]⟩
  · have unread : isReadableName name = false ∨ ∃ a ∈ found, isReadableName a.1 = false := by
      by_cases readable : isReadableName name = true
      · simpa [readable] using names
      · exact .inl (by simpa using readable)
    obtain ⟨halt, eq⟩ := Scan.openTag_of_not_isReadableName isName written unread ends
    exact .inl ⟨_, by rw [Token.next_opening isName, eq]⟩

end Opening

/-! ## Content -/

section Steps

variable {doctype : Doctype} {closed : Entries String Entity} {tree : Tree} {s rest : List Char}

theorem content_of_opening {tag : OpenTag} (h : Token.next s = .ok (.opening tag, rest)) :
    content doctype closed .document tree s =
      (match tag.resolve doctype closed .document s tree.inner.scope with
      | .error failure => .error failure
      | .ok (attributes, scope) =>
        let frame := Frame.ofTag tag attributes scope
        if tag.isClosed then content doctype closed .document (tree.addChild frame.element) rest
        else content doctype closed .document (tree.push frame) rest) := by
  cases s with
  | nil => simp [Token.next] at h
  | cons c tail =>
    rw [content]
    split
    next failed => simp [h] at failed
    next taken =>
      cases h.symm.trans taken
      cases resolved : tag.resolve doctype closed .document (c :: tail) tree.inner.scope <;>
        simp only [Level.origin, resolved]

theorem content_of_closing {name : String} {frame parent : Frame} {outer : List Frame}
    (h : Token.next s = .ok (.closing name, rest)) (same : name = frame.written) :
    content doctype closed .document ⟨frame, parent :: outer⟩ s =
      content doctype closed .document ⟨parent.addChild frame.element, outer⟩ rest := by
  cases s with
  | nil => simp [Token.next] at h
  | cons c tail =>
    rw [content]
    split
    next failed => simp [h] at failed
    next taken =>
      cases h.symm.trans taken
      simp only [same, reduceCtorEq, if_false, ne_eq, not_true]

theorem content_of_lastClosing {name : String} {frame : Frame}
    (h : Token.next s = .ok (.closing name, rest)) (same : name = frame.written) :
    content doctype closed .document ⟨frame, []⟩ s = .ok (.closed frame.element rest) := by
  cases s with
  | nil => simp [Token.next] at h
  | cons c tail =>
    rw [content]
    split
    next failed => simp [h] at failed
    next taken =>
      cases h.symm.trans taken
      simp only [same, reduceCtorEq, if_false, ne_eq, not_true]

end Steps

/-- Add children with the texts behind them. -/
def Frame.addChildren (frame : Frame) (children : List (Element String × String)) : Frame :=
  { frame with
    children := (children.map fun (child, behind) => (child, behind.toList)).reverse ++ frame.children }

theorem Frame.addChildren_cons (frame : Frame) (child : Element String) (behind : List Char)
    (rest : List (Element String × String)) :
    frame.addChildren ((child, String.ofList behind) :: rest) =
      ((frame.addChild child).addText behind).addChildren rest := by
  simp [Frame.addChildren, Frame.addChild, Frame.addText]

/-- The element of a frame that was opened just now and got a text and children. -/
theorem Frame.element_addChildren (written name : String) (attributes : List (String × String))
    (scope : Scope) (text : List Char) (children : List (Element String × String)) :
    (Frame.addChildren ⟨written, name, attributes, scope, text, []⟩ children).element =
      ⟨name, attributes, String.ofList text, children⟩ := by
  simp [Frame.element, Frame.addChildren, Function.comp_def]

namespace Writer

theorem inside_closed (step : List Rune) (depth : Nat) (name : String) (content : Text)
    (children : List (Element Text × Text)) (rest : List Char)
    (isEmpty : children.isEmpty = true ∧ content = "") :
    inside step depth name content children ++ rest = ' ' :: '/' :: '>' :: rest := by
  rw [inside, if_pos isEmpty]
  rfl

theorem inside_open (step : List Rune) (depth : Nat) (name : String) (content : Text)
    (children : List (Element Text × Text)) (rest : List Char)
    (filled : ¬(children.isEmpty = true ∧ content = "")) :
    inside step depth name content children ++ rest =
      '>' :: (text (front step depth content children) ++
        (elements step depth children ++ '<' :: '/' :: (name.toList ++ '>' :: rest))) := by
  rw [inside, if_neg filled]
  simp

end Writer

section Texts

variable {step : List Rune} (isStep : Writer.IsStep step) {depth : Nat} {text : Text}
  {children : List (Element Text × Text)} {tree : Tree} {rest : List Char}

include isStep

/-- Reading what stands in front of the children of an element. -/
theorem content_front (clean : IsClean text.chars) (plain : text.hasSurrogate = false) :
    content Doctype.empty [] .document tree (Writer.text (Writer.front step depth text children) ++
        (Writer.elements step depth children ++ '<' :: rest)) =
      content Doctype.empty [] .document
        (tree.addText (lineFeeds ((Writer.front step depth text children).map (·.toChar))))
        (Writer.elements step depth children ++ '<' :: rest) := by
  obtain ⟨more, behind⟩ := Writer.elements_append_tag step depth children rest
  rw [behind]
  refine content_text (Writer.isClean_front isStep depth clean children) ?_ (.inl rfl)
  rw [Writer.hasSurrogate_front isStep, plain]

theorem content_of_front (clean : IsClean text.chars) (some : text.hasSurrogate = true) :
    ∃ failure, content Doctype.empty [] .document tree
      (Writer.text (Writer.front step depth text children) ++ rest) = .error failure := by
  refine content_of_hasSurrogate (Writer.isClean_front isStep depth clean children) ?_ rest
  rw [Writer.hasSurrogate_front isStep, some]

/-- Reading what stands behind a child. -/
theorem content_behind :
    content Doctype.empty [] .document tree (Writer.text (Writer.behind step depth "" children) ++
        (Writer.elements step depth children ++ '<' :: rest)) =
      content Doctype.empty [] .document
        (tree.addText (lineFeeds ((Writer.behind step depth "" children).map (·.toChar))))
        (Writer.elements step depth children ++ '<' :: rest) := by
  obtain ⟨more, behind⟩ := Writer.elements_append_tag step depth children rest
  obtain ⟨further, line⟩ := Writer.behind_empty step depth children
  rw [behind, line]
  exact content_text (Writer.isClean_lineStart isStep further)
    (Writer.not_isSurrogate_lineStart isStep further) (.inl rfl)

end Texts

/-- The tag that opens an element which was written, and what reading goes on with behind it: nothing,
    or the closing tag once the children are read. -/
theorem next_written {name : String} {text : Text} {found : List (String × Text)}
    {children : List (Element Text × Text)} (writable : Element.IsWritable ⟨name, found, text, children⟩)
    (readableName : isReadableName name = true)
    (readableAttributes : ∀ a ∈ found, isReadableAttribute a = true)
    (plain : text.hasSurrogate = false) {step : List Rune}
    (isStep : Writer.IsStep step) (depth : Nat) (rest : List Char)
    (inner : ∀ frame outer rest, content Doctype.empty [] .document ⟨frame, outer⟩
        (Writer.elements step depth children ++ '<' :: rest) =
      content Doctype.empty [] .document
        ⟨frame.addChildren (Element.rereadAll step depth children), outer⟩ ('<' :: rest)) :
    ∃ tag behind,
      Token.next (Writer.element step depth ⟨name, found, text, children⟩ ++ rest) =
        .ok (.opening tag, behind) ∧
      ∀ start scope, ∃ attributes,
        tag.resolve Doctype.empty [] .document start scope = .ok (attributes, scope) ∧
        (tag.isClosed = true ∧ behind = rest ∧ (Frame.ofTag tag attributes scope).element =
            Element.reread step depth ⟨name, found, text, children⟩ ∨
          tag.isClosed = false ∧ ∃ frame : Frame, frame.written = name ∧
            frame.element = Element.reread step depth ⟨name, found, text, children⟩ ∧
            ∀ outer, content Doctype.empty [] .document ⟨Frame.ofTag tag attributes scope, outer⟩ behind =
              content Doctype.empty [] .document ⟨frame, outer⟩
                ('<' :: '/' :: (name.toList ++ '>' :: rest))) := by
  obtain ⟨isName, attributes, distinct, cleanText, inside⟩ := writable
  have ends := Writer.head?_inside step depth name text children rest
  rw [Writer.element_append]
  by_cases isEmpty : children.isEmpty = true ∧ text = ""
  · rw [Writer.inside_closed _ _ _ _ _ _ isEmpty] at ends ⊢
    obtain ⟨tag, isClosed, next, resolves⟩ := next_of_readable isName attributes distinct readableName
      readableAttributes ends (Scan.attributes_closedEnd rest)
    refine ⟨tag, rest, next, fun start scope => ?_⟩
    obtain ⟨found', resolved, frame⟩ := resolves start scope
    refine ⟨found', resolved, .inl ⟨isClosed, rfl, ?_⟩⟩
    obtain ⟨rfl, rfl⟩ := And.intro (List.isEmpty_iff.1 isEmpty.1) isEmpty.2
    rw [frame]
    rfl
  · rw [Writer.inside_open _ _ _ _ _ _ isEmpty] at ends ⊢
    obtain ⟨tag, isClosed, next, resolves⟩ := next_of_readable isName attributes distinct readableName
      readableAttributes ends (Scan.attributes_end _)
    refine ⟨tag, _, next, fun start scope => ?_⟩
    obtain ⟨found', resolved, frame⟩ := resolves start scope
    let started : Frame := ⟨name, name, Element.rereadAttributes found, scope,
      lineFeeds ((Writer.front step depth text children).map (·.toChar)), []⟩
    refine ⟨found', resolved, .inr ⟨isClosed,
      started.addChildren (Element.rereadAll step depth children), rfl, ?_, fun outer => ?_⟩⟩
    · exact Frame.element_addChildren _ _ _ _ _ _
    · rw [frame, content_front isStep cleanText plain]
      exact inner started outer _

mutual

/-- Reading an element that was written adds it to the innermost element that is open. -/
theorem content_element {e : Element Text} (writable : e.IsWritable) (readable : e.isReadable = true)
    {step : List Rune} (isStep : Writer.IsStep step) (depth : Nat) (tree : Tree) (rest : List Char) :
    content Doctype.empty [] .document tree (Writer.element step depth e ++ rest) =
      content Doctype.empty [] .document (tree.addChild (e.reread step depth)) rest := by
  cases e with
  | mk name found text children =>
    obtain ⟨readableName, readableAttributes, plain, readableChildren⟩ := Element.isReadable_iff.1 readable
    have inside := writable.inside
    obtain ⟨tag, behind, next, resolves⟩ := next_written writable readableName readableAttributes plain
      isStep depth rest (content_elements inside readableChildren isStep depth)
    obtain ⟨attributes, resolved, closed | opened⟩ := resolves
      (Writer.element step depth ⟨name, found, text, children⟩ ++ rest) tree.inner.scope
    · obtain ⟨isClosed, rfl, read⟩ := closed
      rw [content_of_opening next, resolved]
      simp only [isClosed, if_true, read]
    · obtain ⟨isOpen, frame, written, read, inner⟩ := opened
      rw [content_of_opening next, resolved]
      simp only [isOpen, Bool.false_eq_true, if_false, Tree.push]
      rw [inner, content_of_closing (Token.next_closing readableName rest) written.symm, read]
      rfl
termination_by sizeOf e

theorem content_elements {children : List (Element Text × Text)} (writable : Element.AreWritable children)
    (readable : Element.areReadable children = true) {step : List Rune} (isStep : Writer.IsStep step)
    (depth : Nat) (frame : Frame) (outer : List Frame) (rest : List Char) :
    content Doctype.empty [] .document ⟨frame, outer⟩
        (Writer.elements step depth children ++ '<' :: rest) =
      content Doctype.empty [] .document
        ⟨frame.addChildren (Element.rereadAll step depth children), outer⟩ ('<' :: rest) := by
  cases writable with
  | nil => rfl
  | @cons child more first later =>
    simp only [Element.areReadable, Bool.and_eq_true] at readable
    rw [Writer.elements_cons, content_element first readable.1 isStep, content_behind isStep]
    simp only [Tree.addChild, Tree.addText]
    rw [content_elements later readable.2 isStep, Element.rereadAll, Element.rereadText,
      Frame.addChildren_cons]
termination_by sizeOf children

end

/-! ## Faults -/

/-- What makes an element that was written a fault: its tag, its text, or a child. -/
theorem next_of_fault {name : String} {text : Text} {found : List (String × Text)}
    {children : List (Element Text × Text)} (writable : Element.IsWritable ⟨name, found, text, children⟩)
    (unreadable : Element.isReadable ⟨name, found, text, children⟩ = false) {step : List Rune}
    (isStep : Writer.IsStep step) (depth : Nat) (rest : List Char)
    (inner : Element.areReadable children = false → ∀ tree rest, ∃ failure,
      content Doctype.empty [] .document tree (Writer.elements step depth children ++ '<' :: rest) =
        .error failure) :
    (∃ failure, Token.next (Writer.element step depth ⟨name, found, text, children⟩ ++ rest) =
        .error failure) ∨
      ∃ tag behind,
        Token.next (Writer.element step depth ⟨name, found, text, children⟩ ++ rest) =
          .ok (.opening tag, behind) ∧
        ∀ start scope,
          (∃ failure, tag.resolve Doctype.empty [] .document start scope = .error failure) ∨
            ∃ attributes, tag.resolve Doctype.empty [] .document start scope = .ok (attributes, scope) ∧
              tag.isClosed = false ∧ ∀ outer, ∃ failure, content Doctype.empty [] .document
                ⟨Frame.ofTag tag attributes scope, outer⟩ behind = .error failure := by
  obtain ⟨isName, attributes, distinct, cleanText, inside⟩ := writable
  have ends := Writer.head?_inside step depth name text children rest
  rw [Writer.element_append]
  by_cases here : isReadableName name = false ∨ ∃ a ∈ found, isReadableAttribute a = false
  · obtain ⟨isClosed, behind, closing⟩ : ∃ isClosed behind, Scan.attributes
        (Writer.inside step depth name text children ++ rest) = .ok ([], isClosed, behind) := by
      by_cases isEmpty : children.isEmpty = true ∧ text = ""
      · rw [Writer.inside_closed _ _ _ _ _ _ isEmpty]
        exact ⟨true, _, Scan.attributes_closedEnd _⟩
      · rw [Writer.inside_open _ _ _ _ _ _ isEmpty]
        exact ⟨false, _, Scan.attributes_end _⟩
    rcases next_of_unreadable isName attributes distinct here ends closing with
      failed | ⟨tag, next, refused⟩
    · exact .inl failed
    · exact .inr ⟨tag, behind, next, fun start scope => .inl (refused start scope)⟩
  · -- the tag is taken, so the fault is in the text or in a child
    have readableName : isReadableName name = true := by simpa using mt .inl here
    have readableAttributes : ∀ a ∈ found, isReadableAttribute a = true := by simpa using mt .inr here
    have later : text.hasSurrogate = true ∨ Element.areReadable children = false := by
      have := mt Element.isReadable_iff.2 (Bool.eq_false_iff.1 unreadable)
      by_contra none
      exact this ⟨readableName, readableAttributes, by simpa using none⟩
    have isEmpty : ¬(children.isEmpty = true ∧ text = "") := by
      rintro ⟨none, rfl⟩
      rw [List.isEmpty_iff.1 none] at later
      exact absurd later (by decide)
    rw [Writer.inside_open _ _ _ _ _ _ isEmpty] at ends ⊢
    obtain ⟨tag, isClosed, next, resolves⟩ := next_of_readable isName attributes distinct readableName
      readableAttributes ends (Scan.attributes_end _)
    refine .inr ⟨tag, _, next, fun start scope => ?_⟩
    obtain ⟨found', resolved, frame⟩ := resolves start scope
    refine .inr ⟨found', resolved, isClosed, fun outer => ?_⟩
    cases plain : text.hasSurrogate with
    | true => exact content_of_front isStep cleanText plain
    | false =>
      rw [content_front isStep cleanText plain]
      exact inner (later.resolve_left (by simp [plain])) _ _

mutual

/-- A name or a text that the reader does not take is a fault wherever it stands in an element. -/
theorem content_of_unreadable {e : Element Text} (writable : e.IsWritable) (unreadable : e.isReadable = false)
    {step : List Rune} (isStep : Writer.IsStep step) (depth : Nat) (tree : Tree) (rest : List Char) :
    ∃ failure, content Doctype.empty [] .document tree (Writer.element step depth e ++ rest) =
      .error failure := by
  cases e with
  | mk name found text children =>
    have inside := writable.inside
    rcases next_of_fault writable unreadable isStep depth rest fun later =>
        content_of_unreadables inside later isStep depth with
      ⟨failure, failed⟩ | ⟨tag, behind, next, resolves⟩
    · exact ⟨failure, content_of_error failed (by simp [Writer.element])⟩
    · rcases resolves _ tree.inner.scope with ⟨failure, refused⟩ | ⟨attributes, resolved, isOpen, failed⟩
      · exact ⟨failure, by rw [content_of_opening next, refused]⟩
      · obtain ⟨failure, failed⟩ := failed (tree.inner :: tree.outer)
        refine ⟨failure, ?_⟩
        rw [content_of_opening next, resolved]
        simp only [isOpen, Bool.false_eq_true, if_false]
        exact failed
termination_by sizeOf e

theorem content_of_unreadables {children : List (Element Text × Text)}
    (writable : Element.AreWritable children) (unreadable : Element.areReadable children = false)
    {step : List Rune} (isStep : Writer.IsStep step) (depth : Nat) (tree : Tree) (rest : List Char) :
    ∃ failure, content Doctype.empty [] .document tree
      (Writer.elements step depth children ++ '<' :: rest) = .error failure := by
  cases writable with
  | nil => exact absurd unreadable (by decide)
  | @cons child more first later =>
    rw [Writer.elements_cons]
    -- The first child that is not readable stops the reader; those before it are added.
    cases readable : child.isReadable with
    | false => exact content_of_unreadable first readable isStep _ tree _
    | true =>
      have unread : Element.areReadable more = false := by
        simpa [Element.areReadable, readable] using unreadable
      rw [content_element first readable isStep, content_behind isStep]
      exact content_of_unreadables later unread isStep depth _ rest
termination_by sizeOf children

end

/-! ## The root element -/

theorem rootElement_of_opening {s rest : List Char} {tag : OpenTag}
    (h : Token.next s = .ok (.opening tag, rest)) :
    rootElement Doctype.empty s =
      (match tag.resolve Doctype.empty [] .document s Scope.initial with
      | .error failure => .error failure
      | .ok (attributes, scope) =>
        let frame := Frame.ofTag tag attributes scope
        if tag.isClosed then .ok (frame.element, rest)
        else
          match content Doctype.empty [] .document ⟨frame, []⟩ rest with
          | .error failure => .error failure
          | .ok (.closed root rest) => .ok (root, rest)
          | .ok (.unclosed _) => .error ⟨.noElement, if s.getLast? = some '\r' then ['\r'] else []⟩) := by
  rw [rootElement, h]
  simp only [Doctype.empty, bind, Except.bind]
  split
  next failed => simp only [failed]
  next resolved =>
    simp only [resolved]
    split
    next closed => rfl
    next closed =>
      split
      next failed => simp only [failed]
      next read =>
        simp only [read]
        split <;> rfl

theorem rootElement_written {e : Element Text} (writable : e.IsWritable) (readable : e.isReadable = true)
    {step : List Rune} (isStep : Writer.IsStep step) (rest : List Char) :
    rootElement Doctype.empty (Writer.element step 0 e ++ rest) = .ok (e.reread step 0, rest) := by
  cases e with
  | mk name found text children =>
    obtain ⟨readableName, readableAttributes, plain, readableChildren⟩ := Element.isReadable_iff.1 readable
    have inside := writable.inside
    obtain ⟨tag, behind, next, resolves⟩ := next_written writable readableName readableAttributes plain
      isStep 0 rest (content_elements inside readableChildren isStep 0)
    obtain ⟨attributes, resolved, closed | opened⟩ := resolves
      (Writer.element step 0 ⟨name, found, text, children⟩ ++ rest) Scope.initial
    · obtain ⟨isClosed, rfl, read⟩ := closed
      rw [rootElement_of_opening next, resolved]
      simp only [isClosed, if_true, read]
    · obtain ⟨isOpen, frame, written, read, inner⟩ := opened
      rw [rootElement_of_opening next, resolved]
      simp only [isOpen, Bool.false_eq_true, if_false]
      rw [inner, content_of_lastClosing (Token.next_closing readableName rest) written.symm, read]

theorem rootElement_of_unreadable {e : Element Text} (writable : e.IsWritable)
    (unreadable : e.isReadable = false) {step : List Rune} (isStep : Writer.IsStep step) (rest : List Char) :
    ∃ failure, rootElement Doctype.empty (Writer.element step 0 e ++ rest) = .error failure := by
  cases e with
  | mk name found text children =>
    have inside := writable.inside
    rcases next_of_fault writable unreadable isStep 0 rest fun later =>
        content_of_unreadables inside later isStep 0 with
      ⟨failure, failed⟩ | ⟨tag, behind, next, resolves⟩
    · exact ⟨failure, by simp only [rootElement, failed, bind, Except.bind]⟩
    · rcases resolves _ Scope.initial with ⟨failure, refused⟩ | ⟨attributes, resolved, isOpen, failed⟩
      · exact ⟨failure, by rw [rootElement_of_opening next, refused]⟩
      · obtain ⟨failure, failed⟩ := failed []
        refine ⟨failure, ?_⟩
        rw [rootElement_of_opening next, resolved]
        simp only [isOpen, Bool.false_eq_true, if_false, failed]

end XmlSettings.Xml
