import XmlSettings.Proofs.Xml.ReadDoctype
import XmlSettings.Proofs.Xml.WrittenText
import XmlSettings.Xml.Document

/-! # What elements hold that were read

Whatever a document says, the elements in it have names to the reader, and no text or attribute value
in it holds a forbidden character (`Document.isRead_of_root`).  The elements that are open carry this
through the content.
-/

namespace XmlSettings.Xml

mutual

/-- An element as reading gives it. -/
inductive Element.IsRead : Element String → Prop where
  | mk {name : String} {attributes : List (String × String)} {text : String}
      {children : List (Element String × String)} (named : IsReadName name)
      (attributesClean : ∀ a ∈ attributes, IsClean a.2.toList) (clean : IsClean text.toList)
      (inside : Element.AreRead children) : Element.IsRead (.mk name attributes text children)

/-- Children as reading gives them. -/
inductive Element.AreRead : List (Element String × String) → Prop where
  | nil : Element.AreRead []
  | cons {child : Element String} {behind : String} {rest : List (Element String × String)} (first : child.IsRead)
      (more : Element.AreRead rest) : Element.AreRead ((child, behind) :: rest)

end

theorem Element.areRead_map {children : List (Element String × List Char)}
    (read : ∀ child ∈ children, child.1.IsRead) :
    Element.AreRead (children.map fun (child, behind) => (child, String.ofList behind)) := by
  induction children with
  | nil => exact .nil
  | cons child rest ih =>
    obtain ⟨first, more⟩ := List.forall_mem_cons.1 read
    exact .cons first (ih more)

/-! ## Attributes -/

namespace OpenTag

variable {doctype : Doctype} {closed : Entries String Entity} {origin : AttributeValue.Origin}
  {start : List Char} {scope after : Scope} {found : List Attribute}

theorem isClean_of_writtenAttributes [Naming] {element : String} {seen : List QualifiedName}
    {raws : List RawAttribute}
    (h : writtenAttributes doctype closed origin start element scope seen raws = .ok (found, after))
    (clean : ∀ raw ∈ raws, IsClean raw.value) (entities : Entity.AreClean closed) :
    ∀ a ∈ found, IsClean a.value := by
  induction raws generalizing scope seen found with
  | nil =>
    cases h
    exact nofun
  | cons raw rest ih =>
    obtain ⟨first, more⟩ := List.forall_mem_cons.1 clean
    unfold writtenAttributes at h
    split at h
    next => cases h
    next =>
      simp only at h
      split at h
      next => cases h
      next value written =>
        split at h
        next =>
          obtain ⟨⟨others, _⟩, later, h⟩ := bind_eq_ok.1 h
          cases h
          have inside := AttributeValue.isClean_of_ofWritten written first entities
          exact List.forall_mem_cons.2 ⟨inside, ih later more⟩
        next =>
          split at h
          next => cases h
          next => exact ih h more

theorem isClean_of_defaultAttributes {written : List QualifiedName} {rules : List AttributeRule}
    (h : defaultAttributes start written scope rules = .ok (found, after))
    (clean : ∀ rule ∈ rules, ∀ value ∈ rule.default?, IsClean value) :
    ∀ a ∈ found, IsClean a.value := by
  induction rules generalizing scope found with
  | nil =>
    cases h
    exact nofun
  | cons rule rest ih =>
    obtain ⟨first, more⟩ := List.forall_mem_cons.1 clean
    unfold defaultAttributes at h
    split at h
    next => exact ih h more
    next value given =>
      split at h
      next => exact ih h more
      next =>
        split at h
        next =>
          obtain ⟨⟨others, _⟩, later, h⟩ := bind_eq_ok.1 h
          cases h
          exact List.forall_mem_cons.2 ⟨first value given, ih later more⟩
        next =>
          split at h
          next => cases h
          next => exact ih h more

/-- The attributes of an element hold no forbidden character. -/
theorem isClean_of_resolve [Naming] {tag : OpenTag}
    (h : resolve doctype closed origin start scope tag = .ok (found, after))
    (clean : ∀ raw ∈ tag.attributes, IsClean raw.value) (entities : Entity.AreClean closed)
    (declared : doctype.IsClean) : ∀ a ∈ found, IsClean a.value := by
  obtain ⟨⟨written, inner⟩, first, h⟩ := bind_eq_ok.1 h
  obtain ⟨⟨defaults, last⟩, second, h⟩ := bind_eq_ok.1 h
  have joined : ∀ a ∈ written ++ defaults, IsClean a.value := by
    refine List.forall_mem_append.2 ⟨isClean_of_writtenAttributes first clean entities, ?_⟩
    refine isClean_of_defaultAttributes second fun rule member => ?_
    exact declared.defaults rule (List.mem_filter.1 member).1
  simp only at h
  split at h
  next => cases h
  next =>
    split at h
    next =>
      cases h
      exact joined
    next =>
      split at h
      next =>
        cases h
        exact joined
      next => cases h

end OpenTag

/-! ## Open elements -/

/-- What is known of an element that is open. -/
structure Frame.IsRead (frame : Frame) : Prop where
  named : IsReadName frame.localName
  attributes : ∀ a ∈ frame.attributes, IsClean a.2.toList
  clean : IsClean frame.text
  children : ∀ child ∈ frame.children, child.1.IsRead

namespace Frame.IsRead

variable {frame : Frame}

theorem ofTag {tag : OpenTag} {attributes : List Attribute} (scope : Scope)
    (named : IsReadName tag.name.localName) (clean : ∀ a ∈ attributes, IsClean a.value) :
    (Frame.ofTag tag attributes scope).IsRead where
  named := named
  attributes := by
    intro a member
    obtain ⟨b, inside, rfl⟩ := List.mem_map.1 member
    rw [String.toList_ofList]
    exact clean b inside
  clean := .nil
  children := nofun

theorem addText (read : frame.IsRead) {text : List Char} (clean : IsClean text) :
    (frame.addText text).IsRead := by
  unfold Frame.addText
  split
  next => exact { read with clean := IsClean.append_iff.2 ⟨read.clean, clean⟩ }
  next child behind earlier inside =>
    refine { read with children := ?_ }
    have children := read.children
    rw [inside] at children
    exact List.forall_mem_cons.2 (List.forall_mem_cons.1 children)

theorem addChild (read : frame.IsRead) {child : Element String} (childRead : child.IsRead) :
    (frame.addChild child).IsRead :=
  { read with children := List.forall_mem_cons.2 ⟨childRead, read.children⟩ }

theorem element (read : frame.IsRead) : frame.element.IsRead := by
  refine .mk read.named read.attributes ?_ (Element.areRead_map ?_)
  · rw [String.toList_ofList]
    exact read.clean
  · intro child member
    exact read.children child (List.mem_reverse.1 member)

end Frame.IsRead

/-- What is known of the elements that are open. -/
structure Tree.IsRead (tree : Tree) : Prop where
  inner : tree.inner.IsRead
  outer : ∀ frame ∈ tree.outer, frame.IsRead

namespace Tree.IsRead

variable {tree : Tree}

theorem addText (read : tree.IsRead) {text : List Char} (clean : IsClean text) :
    (tree.addText text).IsRead :=
  { read with inner := read.inner.addText clean }

theorem addChild (read : tree.IsRead) {child : Element String} (childRead : child.IsRead) :
    (tree.addChild child).IsRead :=
  { read with inner := read.inner.addChild childRead }

theorem push (read : tree.IsRead) {frame : Frame} (frameRead : frame.IsRead) :
    (tree.push frame).IsRead where
  inner := frameRead
  outer := List.forall_mem_cons.2 ⟨read.inner, read.outer⟩

end Tree.IsRead

/-! ## Content -/

theorem isClean_lineFeeds {s : List Char} (clean : IsClean s) : IsClean (lineFeeds s) := by
  fun_induction lineFeeds s with
  | case1 => exact .nil
  | case2 rest ih =>
    exact IsClean.cons_iff.2 ⟨by decide, ih (IsClean.cons_iff.1 (IsClean.cons_iff.1 clean).2).2⟩
  | case3 c rest _ ih =>
    obtain ⟨first, more⟩ := IsClean.cons_iff.1 clean
    refine IsClean.cons_iff.2 ⟨?_, ih more⟩
    split
    next => decide
    next => exact first

theorem Level.isClean_data (level : Level) {text : List Char} (clean : IsClean text) :
    IsClean (level.data text) := by
  cases level with
  | document => exact isClean_lineFeeds clean
  | entity depth => exact clean

/-- What is known of what reading content comes to. -/
inductive Progress.IsRead : Progress → Prop where
  | closed {root : Element String} {rest : List Char} (read : root.IsRead) : IsRead (.closed root rest)
  | unclosed {tree : Tree} (read : tree.IsRead) : IsRead (.unclosed tree)

section Content

variable {doctype : Doctype} {closed : Entries String Entity} {s rest : List Char} {tag : OpenTag}

/-- The element that a tag opens is one as reading gives it. -/
theorem isRead_of_opening [Naming] {origin : AttributeValue.Origin} {start : List Char} {scope after : Scope}
    {attributes : List Attribute} (taken : Token.next s = .ok (.opening tag, rest))
    (resolved : tag.resolve doctype closed origin start scope = .ok (attributes, after))
    (declared : doctype.IsClean) (entities : Entity.AreClean closed) :
    (Frame.ofTag tag attributes after).IsRead := by
  cases Token.isRead_of_next taken with
  | opening named clean =>
    exact .ofTag after ⟨_, named⟩ (OpenTag.isClean_of_resolve resolved clean entities declared)

/-- Content keeps what is known of the open elements. -/
theorem isRead_of_content [Naming] {level : Level} {tree : Tree} {progress : Progress}
    (h : content doctype closed level tree s = .ok progress) (declared : doctype.IsClean)
    (entities : Entity.AreClean closed) (read : tree.IsRead) : progress.IsRead := by
  -- One case for each kind of token.  The content of an entity is read with the same open elements,
  -- and leaves them for what stands behind the reference.
  fun_induction content doctype closed level tree s generalizing progress with
  | case1 =>
    cases h
    exact .unclosed read
  | case3 closed level tree c tail behind _ _ _ ih => exact ih h entities read
  | case4 closed level tree c tail behind text taken _ _ ih =>
    cases Token.isRead_of_next taken with
    | data clean => exact ih h entities (read.addText (level.isClean_data clean))
  | case5 closed level tree c tail behind text taken _ _ ih =>
    cases Token.isRead_of_next taken with
    | verbatim clean => exact ih h entities (read.addText (level.isClean_data clean))
  | case7 closed level tree c tail behind d taken _ _ ih =>
    cases Token.isRead_of_next taken with
    | reference allowed =>
      exact ih h entities (read.addText (IsClean.cons_iff.2 ⟨allowed d rfl, .nil⟩))
  | case8 closed level tree c tail behind name _ d known _ _ ih =>
    have clean : IsClean [d] := IsClean.cons_iff.2 ⟨isForbidden_of_predefined? known, .nil⟩
    exact ih h entities (read.addText clean)
  | case16 =>
    rename_i replaced _ _ _ ihText ih
    cases ihText replaced (entities.erase _) read with
    | unclosed grownRead => exact ih h entities grownRead
  | case18 closed level tree c tail behind tag _ failure refused =>
    rw [refused] at h
    cases h
  | case19 =>
    rename_i taken _ _ _ isClosed resolved _ _ ih
    rw [resolved] at h
    simp only [if_pos isClosed] at h
    have opened := isRead_of_opening taken resolved declared entities
    exact ih h entities (read.addChild opened.element)
  | case20 =>
    rename_i taken _ _ _ isOpen resolved _ _ ih
    rw [resolved] at h
    simp only [if_neg isOpen] at h
    have opened := isRead_of_opening taken resolved declared entities
    exact ih h entities (read.push opened)
  | case23 closed level tree =>
    cases h
    exact .closed read.inner.element
  | case24 closed level tree c tail behind name _ _ _ parent outer enclosed _ _ ih =>
    have frames := read.outer
    rw [enclosed] at frames
    obtain ⟨parentRead, outerRead⟩ := List.forall_mem_cons.1 frames
    exact ih h entities ⟨parentRead.addChild read.inner.element, outerRead⟩
  | _ => cases h

theorem isRead_of_rootElement [Naming] {root : Element String} (h : rootElement doctype s = .ok (root, rest))
    (declared : doctype.IsClean) : root.IsRead := by
  obtain ⟨⟨token, behind⟩, taken, h⟩ := bind_eq_ok.1 h
  cases token with
  | opening tag =>
    obtain ⟨⟨attributes, scope⟩, resolved, h⟩ := bind_eq_ok.1 h
    have opened := isRead_of_opening taken resolved declared declared.entities
    simp only at h
    split at h
    next =>
      cases h
      exact opened.element
    next =>
      obtain ⟨progress, filled, h⟩ := bind_eq_ok.1 h
      have read : Tree.IsRead ⟨_, []⟩ := ⟨opened, nofun⟩
      cases isRead_of_content filled declared declared.entities read with
      | closed rootRead =>
        cases h
        exact rootRead
      | unclosed => cases h
  | _ => cases h

end Content

/-! ## Documents -/

namespace Document

variable {root : Element String}

theorem isRead_of_body [Naming] {isStandalone : Bool} {s : List Char} (h : body isStandalone s = .ok root) :
    root.IsRead := by
  obtain ⟨⟨doctype, behind⟩, declared, h⟩ := bind_eq_ok.1 h
  obtain ⟨⟨found, after⟩, taken, h⟩ := bind_eq_ok.1 h
  obtain ⟨_, _, h⟩ := bind_eq_ok.1 h
  cases h
  exact isRead_of_rootElement taken (Doctype.isClean_of_read declared ⟨nofun, nofun⟩)

/-- The root element of any document has readable names and no forbidden character in it. -/
theorem isRead_of_root {document : Document} (h : document.root = .ok root) : root.IsRead := by
  unfold Document.root at h
  split at h
  next => cases h
  next =>
    simp only at h
    split at h
    next => cases h
    next =>
      unfold rootFrom at h
      simp only at h
      split at h
      next => cases h
      next => exact isRead_of_body (mapError_eq_ok.1 h)
      next =>
        split at h
        next =>
          split at h
          next => cases h
          next => cases h
          next => cases h
          next => cases h
          next => cases h
          next => cases h
          next actual _ => exact @isRead_of_body root actual.naming _ _ (mapError_eq_ok.1 h)
        next => exact isRead_of_body (mapError_eq_ok.1 h)

end Document

end XmlSettings.Xml
