import XmlSettings.Proofs.Settings.RoundTrip

/-! # Trees of texts

Settings as documents hold them: texts that documents may hold, tables with names in ASCII for keys, and lists as the values of such tables only.  Each of them can be written, and is read back in
its normal form (`read_written_tree`).
-/

namespace XmlSettings.Settings

open XmlSettings.Xml (Document IsClean isAsciiName isReadableAttribute isReadableName)

/-! ## The shape of a tree -/

/-- Whether a value is a text that documents may hold. -/
def isCleanText : Value → Bool
  | .text s => isDocumentText s
  | _ => false

/-- Whether a value may stand under a key that is not that of children.  The attribute that sets a
    namespace is left out. -/
def isBeside (key : Text) (value : Value) : Bool :=
  isCleanText value &&
    (key == textKey || isAsciiName (stringOf (attributeName key)) && key != bindingKey)

mutual

/-- Whether a value is a text, or a table of trees. -/
def isTree : Value → Bool
  | .text s => isCleanText (.text s)
  | .table entries => decide (Entries.keys entries).Nodup && areTrees entries
  | _ => false
termination_by structural value => value

/-- Whether the values of entries are trees, or lists of them under the keys of children. -/
def areTrees : List (Text × Value) → Bool
  | [] => true
  | (key, .list items) :: rest =>
    isChildKey key && isAsciiName (stringOf key) && itemsAreTrees items && areTrees rest
  | (key, value) :: rest =>
    (if isChildKey key then isAsciiName (stringOf key) && isTree value else isBeside key value) &&
      areTrees rest
termination_by structural entries => entries

/-- Whether the items of a list are trees. -/
def itemsAreTrees : List Value → Bool
  | [] => true
  | item :: rest => isTree item && itemsAreTrees rest
termination_by structural items => items

end

/-! ## Trees can be written and read -/

theorem isCleanText_eq_true_iff {value : Value} :
    isCleanText value = true ↔ ∃ s, value = .text s ∧ s.hasSurrogate = false ∧ IsClean s.chars := by
  cases value with
  | text s => simp [isCleanText, isDocumentText_iff]
  | _ => simp [isCleanText]

/-- A name in ASCII is one for both sides. -/
theorem names_of_isAsciiName {key : Text} (ascii : isAsciiName (stringOf key) = true) :
    key = stringOf key ∧ isName (stringOf key) = true ∧ isReadableName (stringOf key) = true := by
  have named := Xml.isName_of_isAsciiName ascii
  have spelled := ofString_stringOf (isName_stringOf key ▸ named)
  exact ⟨spelled.symm, named, Xml.isReadableName_of_isAsciiName ascii⟩

/-- What is known of a value that can be written. -/
structure IsWrittenAndRead (value : Value) : Prop where
  written : ∃ made, parts value = .ok made
  distinct : value.hasDistinctKeys = true
  readable : isReadable value = true

structure AreWrittenAndRead (entries : List (Text × Value)) : Prop where
  written : ∀ sofar, ∃ made, addEntries sofar entries = .ok made
  distinct : Value.haveDistinctKeys entries = true
  readable : areReadable entries = true

structure ItemsAreWrittenAndRead (key : Text) (items : List Value) : Prop where
  written : ∃ made, elements key items = .ok made
  distinct : Value.itemsHaveDistinctKeys items = true
  readable : itemsAreReadable key items = true

/-- What stands beside children is added to an element and taken by the reader. -/
theorem adds_of_isBeside {key : Text} {value : Value} (other : isChildKey key = false)
    (beside : isBeside key value = true) (sofar : Parts) :
    (∃ next, Adds sofar key value next) ∧ value.hasDistinctKeys = true ∧
      isReadableBeside key value = true := by
  simp only [isBeside, Bool.and_eq_true, Bool.or_eq_true, beq_iff_eq, bne_iff_ne] at beside
  obtain ⟨isText, keys⟩ := beside
  obtain ⟨s, rfl, plain, clean⟩ := isCleanText_eq_true_iff.1 isText
  have given := hasText_text clean
  by_cases noText : key = textKey
  · exact ⟨⟨_, .setText noText given⟩, rfl, by simp [isReadableBeside, noText, Value.plainText, plain]⟩
  · obtain ⟨ascii, noBinding⟩ := keys.resolve_left noText
    have isAttribute : isAttributeKey key = true := by simpa [isChildKey, noText] using other
    obtain ⟨spelled, named, readable⟩ := names_of_isAsciiName ascii
    have noName : stringOf (attributeName key) ≠ Xml.bindingName := fun same =>
      noBinding ((attributeName_eq_bindingName_iff isAttribute).1 (spelled.trans (congrArg _ same)))
    refine ⟨⟨_, .putAttribute noText isAttribute spelled named given⟩, rfl, ?_⟩
    simp [isReadableBeside, isReadableAttribute, noText, readable, noName, Value.plainText, plain]

/-- A list of children before other entries. -/
theorem AreWrittenAndRead.cons_items {key : Text} {items : List Value} {rest : List (Text × Value)}
    (isChild : isChildKey key = true) (inside : ItemsAreWrittenAndRead key items)
    (later : AreWrittenAndRead rest) : AreWrittenAndRead ((key, .list items) :: rest) where
  written := by
    intro sofar
    obtain ⟨noText, noAttribute⟩ := isChildKey_eq_true_iff.1 isChild
    obtain ⟨children, made⟩ := inside.written
    obtain ⟨all, added⟩ := later.written { sofar with children := sofar.children ++ children }
    exact ⟨all, addEntries_of_adds (.addItems noText noAttribute made) added⟩
  distinct := by simp [Value.haveDistinctKeys, Value.hasDistinctKeys, inside.distinct, later.distinct]
  readable := by simp [areReadable, isChild, inside.readable, later.readable]

/-- One child before other entries. -/
theorem AreWrittenAndRead.cons_child {key : Text} {value : Value} {rest : List (Text × Value)}
    (isChild : isChildKey key = true) (ascii : isAsciiName (stringOf key) = true)
    (single : ∀ items, value ≠ .list items) (inside : IsWrittenAndRead value)
    (later : AreWrittenAndRead rest) : AreWrittenAndRead ((key, value) :: rest) where
  written := by
    intro sofar
    obtain ⟨noText, noAttribute⟩ := isChildKey_eq_true_iff.1 isChild
    obtain ⟨spelled, named, _⟩ := names_of_isAsciiName ascii
    obtain ⟨inner, made⟩ := inside.written
    obtain ⟨all, added⟩ := later.written
      { sofar with children := sofar.children ++ [inner.element (stringOf key)] }
    exact ⟨all, addEntries_of_adds (.addChild noText noAttribute single spelled named made) added⟩
  distinct := by simp [Value.haveDistinctKeys, inside.distinct, later.distinct]
  readable := by
    rw [areReadable_child isChild single, Xml.isReadableName_of_isAsciiName ascii, inside.readable,
      later.readable]
    rfl

/-- What stands beside children before other entries. -/
theorem AreWrittenAndRead.cons_beside {key : Text} {value : Value} {rest : List (Text × Value)}
    (other : isChildKey key = false) (beside : isBeside key value = true)
    (later : AreWrittenAndRead rest) : AreWrittenAndRead ((key, value) :: rest) where
  written := by
    intro sofar
    obtain ⟨⟨next, added⟩, _⟩ := adds_of_isBeside other beside sofar
    obtain ⟨all, made⟩ := later.written next
    exact ⟨all, addEntries_of_adds added made⟩
  distinct := by
    obtain ⟨_, distinct, _⟩ := adds_of_isBeside other beside Parts.empty
    simp [Value.haveDistinctKeys, distinct, later.distinct]
  readable := by
    obtain ⟨_, _, readable⟩ := adds_of_isBeside other beside Parts.empty
    rw [areReadable_beside other, readable, later.readable]
    rfl

mutual

theorem isWrittenAndRead_of_isTree {value : Value} (tree : isTree value = true) :
    IsWrittenAndRead value := by
  match value with
  | .text s =>
    rw [isTree] at tree
    obtain ⟨_, same, plain, clean⟩ := isCleanText_eq_true_iff.1 tree
    cases same
    exact ⟨⟨_, parts_text clean⟩, rfl, by simp [isReadable, Value.plainText, plain]⟩
  | .table entries =>
    simp only [isTree, Bool.and_eq_true, decide_eq_true_eq] at tree
    have inside := areWrittenAndRead_of_areTrees tree.2
    refine ⟨?_, by simp [Value.hasDistinctKeys, tree.1, inside.distinct], inside.readable⟩
    obtain ⟨made, written⟩ := inside.written Parts.empty
    exact ⟨made, parts_table.trans written⟩
termination_by sizeOf value

theorem areWrittenAndRead_of_areTrees {entries : List (Text × Value)}
    (trees : areTrees entries = true) : AreWrittenAndRead entries := by
  match entries with
  | [] => exact ⟨fun sofar => ⟨sofar, addEntries_nil sofar⟩, rfl, rfl⟩
  | (key, value) :: rest =>
    by_cases list : ∃ items, value = .list items
    · obtain ⟨items, rfl⟩ := list
      simp only [areTrees, Bool.and_eq_true] at trees
      obtain ⟨⟨⟨isChild, ascii⟩, items⟩, more⟩ := trees
      exact .cons_items isChild (itemsAreWrittenAndRead_of_itemsAreTrees ascii items)
        (areWrittenAndRead_of_areTrees more)
    · have single := not_exists.1 list
      cases isChild : isChildKey key with
      | true =>
        obtain ⟨ascii, tree, more⟩ : isAsciiName (stringOf key) = true ∧ isTree value = true ∧
            areTrees rest = true := by
          cases value with
          | list items => exact absurd rfl (single items)
          | _ => simpa [areTrees, isChild, and_assoc] using trees
        exact .cons_child isChild ascii single (isWrittenAndRead_of_isTree tree)
          (areWrittenAndRead_of_areTrees more)
      | false =>
        obtain ⟨beside, more⟩ : isBeside key value = true ∧ areTrees rest = true := by
          cases value with
          | list items => exact absurd rfl (single items)
          | _ => simpa [areTrees, isChild] using trees
        exact .cons_beside isChild beside (areWrittenAndRead_of_areTrees more)
termination_by sizeOf entries

theorem itemsAreWrittenAndRead_of_itemsAreTrees {key : Text} {items : List Value}
    (ascii : isAsciiName (stringOf key) = true) (trees : itemsAreTrees items = true) :
    ItemsAreWrittenAndRead key items := by
  match items with
  | [] => exact ⟨⟨[], elements_nil key⟩, rfl, rfl⟩
  | item :: rest =>
    simp only [itemsAreTrees, Bool.and_eq_true] at trees
    have first := isWrittenAndRead_of_isTree trees.1
    have later := itemsAreWrittenAndRead_of_itemsAreTrees ascii trees.2
    refine ⟨?_, by simp [Value.itemsHaveDistinctKeys, first.distinct, later.distinct], ?_⟩
    · obtain ⟨spelled, named, _⟩ := names_of_isAsciiName ascii
      obtain ⟨inner, made⟩ := first.written
      obtain ⟨more, others⟩ := later.written
      rw [spelled] at others ⊢
      exact ⟨_, elements_cons_of named made others⟩
    · simp [itemsAreReadable, Xml.isReadableName_of_isAsciiName ascii, first.readable, later.readable]
termination_by sizeOf items

end

/-! ## The way there and back -/

theorem toDocument_of_parts {root : String} {value : Value} {made : Parts}
    (named : isName root = true) (h : parts value = .ok made) (step : Text) :
    toDocument root step value = .ok (Xml.Writer.document step (made.element root)) := by
  rw [toDocument, toElement, checkName_eq_ok_iff.2 ⟨named, rfl⟩, h]
  rfl

/-- Whether a code point may stand in the step by which children are indented. -/
def isIndent (c : Rune) : Bool := c == ' ' || c == '\t' || c == '\n'

theorem isStepChar_of_isIndent {c : Rune} (indent : isIndent c = true) : isStepChar c = true := by
  simp only [isIndent, Bool.or_eq_true, beq_iff_eq] at indent
  rcases indent with (rfl | rfl) | rfl <;> decide

/-- A tree of texts is written, and read back in its normal form. -/
theorem read_written_tree {root : String} {step : Text} {entries : Entries Text Value}
    (tree : isTree (.table entries) = true) (named : isAsciiName root = true)
    (indent : step.toList.all isIndent = true) :
    ∃ text, toDocument root step (.table entries) = .ok text ∧
      (Document.bytes text.toByteArray).root.map ofRoot =
        .ok (.table [((root : Text), normal (.table entries))]) := by
  have settled := isWrittenAndRead_of_isTree tree
  obtain ⟨made, built⟩ := settled.written
  have written := toDocument_of_parts (Xml.isName_of_isAsciiName named) built step
  have blank : step.toList.all isStepChar = true :=
    List.all_eq_true.2 fun c member => isStepChar_of_isIndent (List.all_eq_true.1 indent c member)
  refine ⟨_, written, read_written written settled.distinct blank ⟨?_, settled.readable⟩⟩
  rw [stringOf_ofString]
  exact Xml.isReadableName_of_isAsciiName named

theorem read_written_tree_nested :
    ∃ text, toDocument "config" "\t" (.table [("a", .text " x\r\n"), ("-b", .text " 1 "),
        ("#text", .text "t"), ("c", .list [.text "<", .table [("d", .list [.text ""])]])]) = .ok text ∧
      (Document.bytes text.toByteArray).root.map ofRoot = .ok (.table [("config",
        .table [("-b", .text " 1 "), ("a", .text "x"),
          ("c", .list [.text "<", .table [("d", .text "")]]), ("#text", .text "t")])]) :=
  read_written_tree (by decide) (by decide) (by decide)

end XmlSettings.Settings
