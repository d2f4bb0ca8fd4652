import XmlSettings.Proofs.Settings.NormalForm

/-! # Writing settings and reading them back

Settings that were written are read back in their normal form exactly if the reader takes every name
and every text that is written for them (`read_written_iff`).  It takes names in ASCII and texts
without surrogates, so that any tree of such texts with such names survives (`read_written_tree`).
-/

namespace XmlSettings.Settings

open XmlSettings.Xml (Document Element isForbidden isReadableAttribute isReadableName)

/-! ## What is written for a value -/

/-- Whether the reader takes what is written under a key that is not that of children. -/
def isReadableBeside (key : Text) (value : Value) : Bool :=
  if key = textKey then !value.plainText.hasSurrogate
  else isReadableAttribute (stringOf (attributeName key), value.plainText)

mutual

/-- Whether the reader takes every name and every text that is written for a value. -/
def isReadable : Value → Bool
  | .table entries => areReadable entries
  | value => !value.plainText.hasSurrogate
termination_by structural value => value

/-- Whether the reader takes every name and every text that is written for entries. -/
def areReadable : List (Text × Value) → Bool
  | [] => true
  | (key, .list items) :: rest =>
    (if isChildKey key then itemsAreReadable key items else isReadableBeside key (.list items)) &&
      areReadable rest
  | (key, value) :: rest =>
    (if isChildKey key then isReadableName (stringOf key) && isReadable value
      else isReadableBeside key value) && areReadable rest
termination_by structural entries => entries

/-- Whether the reader takes every name and every text that is written for the items of a list. -/
def itemsAreReadable (key : Text) : List Value → Bool
  | [] => true
  | item :: rest => isReadableName (stringOf key) && isReadable item && itemsAreReadable key rest
termination_by structural items => items

end

theorem areReadable_child {key : Text} {value : Value} {rest : List (Text × Value)}
    (isChild : isChildKey key = true) (single : ∀ items, value ≠ .list items) :
    areReadable ((key, value) :: rest) =
      (isReadableName (stringOf key) && isReadable value && areReadable rest) := by
  cases value with
  | list items => exact absurd rfl (single items)
  | _ => simp [areReadable, isChild]

theorem areReadable_beside {key : Text} {value : Value} {rest : List (Text × Value)}
    (other : isChildKey key = false) :
    areReadable ((key, value) :: rest) = (isReadableBeside key value && areReadable rest) := by
  cases value <;> simp [areReadable, other]

theorem areReadable_map (children : List (Element Text)) :
    Element.areReadable (children.map fun child => (child, "")) = children.all Element.isReadable := by
  induction children with
  | nil => rfl
  | cons child rest ih => rw [List.map_cons, Element.areReadable, ih, List.all_cons]

theorem isReadable_element (made : Parts) (name : String) :
    (made.element name).isReadable = (isReadableName name && (!made.text.hasSurrogate &&
      (made.attributes.all isReadableAttribute && made.children.all Element.isReadable))) := by
  rw [Parts.element, Element.isReadable, areReadable_map, Bool.and_assoc, Bool.and_assoc,
    Bool.and_left_comm (made.attributes.all _)]

theorem textOf_cons_of_ne {key : Text} (other : key ≠ textKey) (value : Value)
    (rest : List (Text × Value)) : textOf ((key, value) :: rest) = textOf rest := by
  rw [textOf, Entries.get?, if_neg other, textOf]

mutual

theorem isReadable_of_parts {value : Value} {made : Parts} (h : parts value = .ok made)
    (distinct : value.hasDistinctKeys = true) (name : String) :
    (made.element name).isReadable = (isReadableName name && isReadable value) := by
  rw [isReadable_element]
  cases value with
  | table entries =>
    rw [parts_table] at h
    simp only [Value.hasDistinctKeys, Bool.and_eq_true, decide_eq_true_eq] at distinct
    obtain ⟨attributes, text⟩ := beside_of_addEntries h distinct.1
    obtain ⟨_, rfl, read⟩ := areReadable_of_addEntries h distinct.1 distinct.2
    rw [attributes, text, read, isReadable]
  | _ =>
    rcases parts_eq_ok h (by simp) with ⟨same, rfl⟩ | ⟨_, _, rfl⟩
    · cases same <;> rfl
    · simp [isReadable, Parts.empty]
termination_by sizeOf value

theorem areReadable_of_addEntries {sofar made : Parts} {entries : List (Text × Value)}
    (h : addEntries sofar entries = .ok made) (keys : (Entries.keys entries).Nodup)
    (distinct : Value.haveDistinctKeys entries = true) :
    ∃ more, made.children = sofar.children ++ more ∧
      (!(textOf entries).hasSurrogate &&
        ((writtenAttributes entries).all isReadableAttribute && more.all Element.isReadable)) =
        areReadable entries := by
  match entries with
  | [] =>
    rw [addEntries_nil] at h
    cases h
    exact ⟨[], by simp, rfl⟩
  | (key, value) :: rest =>
    obtain ⟨next, added, more⟩ := adds_of_addEntries h
    rw [Entries.keys_cons, List.nodup_cons] at keys
    simp only [Value.haveDistinctKeys, Bool.and_eq_true] at distinct
    -- What the entry adds is compared with the front of what is read of the entries.
    obtain ⟨later, grown, read⟩ := areReadable_of_addEntries more keys.2 distinct.2
    cases added with
    | setText isText =>
      have other : isChildKey key = false := by simp [isChildKey, isText]
      have noAttribute : isAttributeKey key = false := by
        rw [isText]
        rfl
      have unset : textOf rest = "" := by
        rw [textOf, Entries.get?_eq_none_iff.2 (isText ▸ keys.1)]
        rfl
      have set : textOf ((key, value) :: rest) = value.plainText := by simp [textOf, Entries.get?, isText]
      refine ⟨later, grown, ?_⟩
      rw [writtenAttributes_cons_of_not noAttribute, areReadable_beside other, ← read, set, unset]
      simp [isReadableBeside, isText]
    | putAttribute noText isAttribute =>
      have other : isChildKey key = false := by simp [isChildKey, isAttribute]
      refine ⟨later, grown, ?_⟩
      rw [writtenAttributes_cons_of_isAttributeKey isAttribute, areReadable_beside other, ← read,
        List.all_cons, Bool.and_assoc, isReadableBeside, if_neg noText, textOf_cons_of_ne noText,
        Bool.and_left_comm]
    | @addItems items children noText noAttribute made =>
      have isChild := isChildKey_eq_true_iff.2 ⟨noText, noAttribute⟩
      have first := isReadable_of_elements made distinct.1
      refine ⟨children ++ later, by rw [grown, List.append_assoc], ?_⟩
      rw [writtenAttributes_cons_of_not noAttribute, areReadable, if_pos isChild, ← read, List.all_append,
        first, textOf_cons_of_ne noText, Bool.and_left_comm (itemsAreReadable key items),
        Bool.and_left_comm (itemsAreReadable key items)]
    | @addChild _ name inner noText noAttribute single spelled named made =>
      have isChild := isChildKey_eq_true_iff.2 ⟨noText, noAttribute⟩
      have first := isReadable_of_parts made distinct.1 name
      refine ⟨inner.element name :: later, by rw [grown, List.append_assoc]; rfl, ?_⟩
      rw [writtenAttributes_cons_of_not noAttribute, areReadable_child isChild single, ← read,
        List.all_cons, first, textOf_cons_of_ne noText, spelled, stringOf_ofString,
        Bool.and_left_comm (isReadableName name && isReadable value),
        Bool.and_left_comm (isReadableName name && isReadable value)]
termination_by sizeOf entries

theorem isReadable_of_elements {key : Text} {items : List Value} {made : List (Element Text)}
    (h : elements key items = .ok made) (distinct : Value.itemsHaveDistinctKeys items = true) :
    made.all Element.isReadable = itemsAreReadable key items := by
  match items with
  | [] =>
    rw [elements_nil] at h
    cases h
    rfl
  | item :: rest =>
    obtain ⟨name, inner, more, rfl, _, first, later, rfl⟩ := elements_eq_ok h
    simp only [Value.itemsHaveDistinctKeys, Bool.and_eq_true] at distinct
    rw [List.all_cons, isReadable_of_parts first distinct.1, isReadable_of_elements later distinct.2,
      itemsAreReadable, stringOf_ofString]
termination_by sizeOf items

end

/-! ## The way there and back -/

section RoundTrip

variable {root step : Text} {text : String} {value : Value}

/-- Blanks that a document may hold. -/
def isStepChar (c : Rune) : Bool := Text.isBlankRune c && !isForbidden c.toChar

theorem isStepChar_iff {c : Rune} :
    isStepChar c = true ↔ Text.isBlankRune c = true ∧ isForbidden c.toChar = false := by
  simp [isStepChar]

theorem isBlank_of_isStepChar (blank : step.toList.all isStepChar = true) :
    ∀ c ∈ step.toList, Text.isBlankRune c = true :=
  fun c member => (isStepChar_iff.1 (List.all_eq_true.1 blank c member)).1

theorem isStep_of_isStepChar (blank : step.toList.all isStepChar = true) :
    Xml.Writer.IsStep step.toList where
  clean := by
    intro c member
    obtain ⟨rune, inside, rfl⟩ := List.mem_map.1 member
    exact (isStepChar_iff.1 (List.all_eq_true.1 blank rune inside)).2
  plain := List.any_eq_false.2 fun c member => by
    simp [Xml.Writer.isSurrogate_of_isBlankRune (isBlank_of_isStepChar blank c member)]

theorem toDocument_eq_ok (h : toDocument root step value = .ok text) :
    ∃ name made, root = Text.ofString name ∧ parts value = .ok made ∧ (made.element name).IsWritable ∧
      text = Xml.Writer.document step (made.element name) := by
  obtain ⟨element, made, h⟩ := bind_eq_ok.1 h
  cases h
  have writable := isWritable_of_toElement made
  obtain ⟨name, named, made⟩ := bind_eq_ok.1 made
  obtain ⟨inner, built, joined⟩ := bind_eq_ok.1 made
  obtain ⟨isName, rfl⟩ := checkName_eq_ok_iff.1 named
  cases joined
  exact ⟨name, inner, rfl, built, writable, rfl⟩

/-- What was written is read back in its normal form if the reader takes every name and every text in
    it. -/
theorem read_written (h : toDocument root step value = .ok text)
    (distinct : value.hasDistinctKeys = true) (blank : step.toList.all isStepChar = true)
    (readable : isReadableName (stringOf root) = true ∧ isReadable value = true) :
    (Document.bytes text.toByteArray).root.map ofRoot = .ok (.table [(root, normal value)]) := by
  obtain ⟨name, made, rfl, built, writable, rfl⟩ := toDocument_eq_ok h
  rw [stringOf_ofString] at readable
  have taken : (made.element name).isReadable = true := by
    rw [isReadable_of_parts built distinct, readable.1, readable.2]
    rfl
  have root := Document.root_of_readable writable taken (isStep_of_isStepChar blank)
  rw [root, Except.map, ofRoot, ofElement_of_parts built distinct (isBlank_of_isStepChar blank)]
  rfl

/-- What was written is the same to the reader as text and as bytes. -/
theorem root_text_written (h : toDocument root step value = .ok text)
    (blank : step.toList.all isStepChar = true) :
    (Document.text text).root = (Document.bytes text.toByteArray).root := by
  obtain ⟨name, made, _, _, writable, rfl⟩ := toDocument_eq_ok h
  exact Document.root_text_document writable (isStep_of_isStepChar blank)

/-- What was written is not read if there is a name or a text in it that the reader does not take. -/
theorem not_read_written (h : toDocument root step value = .ok text)
    (distinct : value.hasDistinctKeys = true) (blank : step.toList.all isStepChar = true)
    (unreadable : ¬(isReadableName (stringOf root) = true ∧ isReadable value = true)) :
    ∃ error, (Document.bytes text.toByteArray).root = .error error := by
  obtain ⟨name, made, rfl, built, writable, rfl⟩ := toDocument_eq_ok h
  have refused : (made.element name).isReadable = false := by
    rw [isReadable_of_parts built distinct]
    simpa using unreadable
  exact Document.root_of_unreadable writable refused (isStep_of_isStepChar blank)

/-- A document that was written for a table is read again, under the name of its root element, exactly
    if every name in it is one that the reader takes and no text in it holds surrogates; otherwise it is
    refused. -/
theorem read_written_iff {entries : Entries Text Value}
    (h : toDocument root defaultStep (.table entries) = .ok text)
    (distinct : (Value.table entries).hasDistinctKeys = true) :
    ((∃ value, (Document.bytes text.toByteArray).root.map ofRoot = .ok (.table [(root, value)])) ↔
        isReadableName (stringOf root) = true ∧ isReadable (.table entries) = true) ∧
      (¬(isReadableName (stringOf root) = true ∧ isReadable (.table entries) = true) →
        ∃ error, (Document.bytes text.toByteArray).root = .error error) := by
  have blank : defaultStep.toList.all isStepChar = true := by decide
  refine ⟨⟨?_, fun readable => ⟨_, read_written h distinct blank readable⟩⟩,
    not_read_written h distinct blank⟩
  rintro ⟨value, read⟩
  by_cases readable : isReadableName (stringOf root) = true ∧ isReadable (.table entries) = true
  · exact readable
  · obtain ⟨error, refused⟩ := not_read_written h distinct blank readable
    rw [refused] at read
    cases read

end RoundTrip

/-- A letter that keys may hold and documents may not. -/
theorem not_read_written_ordinal : ∃ text,
    toDocument "config" defaultStep (.table [("ª", .text "x")]) = .ok text ∧
      ¬∃ value, (Document.bytes text.toByteArray).root.map ofRoot = .ok (.table [("config", value)]) := by
  have written : toDocument "config" defaultStep (.table [("ª", .text "x")]) =
    .ok "<?xml version='1.0' encoding='utf-8'?>\n<config>\n    <ª>x</ª>\n</config>" := rfl
  refine ⟨_, written, fun read => ?_⟩
  have readable := ((read_written_iff written (by decide)).1.1 read).2
  exact absurd readable (by decide)

end XmlSettings.Settings
