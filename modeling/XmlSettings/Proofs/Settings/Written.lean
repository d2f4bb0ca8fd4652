import XmlSettings.Proofs.Entries
import XmlSettings.Proofs.Outcome
import XmlSettings.Proofs.Xml.WrittenDocument
import XmlSettings.Settings.ToElement

/-! # What is written for settings

Every step of writing a table adds one entry to the parts of its element (`Adds`), and all that is
known of written elements follows from what such a step can be.  An element that is made of settings
can be written (`isWritable_of_toElement`), since keys and texts are checked on the way.
-/

namespace XmlSettings.Settings

open XmlSettings.Xml (Element IsClean isForbidden)

/-! ## Checks -/

/-- What is read where a text was written: nothing that is read holds surrogates. -/
def stringOf (t : Text) : String := String.ofList t.chars

@[simp] theorem stringOf_ofString (s : String) : stringOf s = s := by
  rw [stringOf, Text.chars_ofString, String.ofList_toList]

/-- A key that passes as a name has no surrogates. -/
theorem ofString_stringOf {key : Text} (isName : isName key = true) : (stringOf key : Text) = key := by
  obtain ⟨first, rest, chars, written⟩ := Xml.chars_of_isName isName
  refine Text.ofString_ofList_chars (Text.hasSurrogate_of_not_mem_chars fun member => ?_)
  exact absurd (written _ (chars ▸ member)) (by decide +kernel)

theorem isName_stringOf (key : Text) : isName (stringOf key) = isName key := by
  simp [isName, stringOf]

theorem checkName_eq_ok_iff {key : Text} {name : String} :
    checkName key = .ok name ↔ isName key = true ∧ key = name := by
  unfold checkName
  split
  next isName =>
    have same : String.ofList key.chars = name ↔ key = name := by
      rw [← Text.ofString_inj]
      exact Eq.congr_left (ofString_stringOf isName)
    simp only [isName, true_and, Except.ok.injEq, same]
  next other => simp [other]

theorem isRefused_eq (c : Rune) : isRefused c = isForbidden c.toChar := by
  cases c with
  | char c => rfl
  | surrogate n => exact (show isForbidden '\ufffd' = false by decide).symm

theorem isClean_iff_any {text : Text} : IsClean text.chars ↔ ¬text.toList.any isRefused = true := by
  simp [IsClean, Text.chars, isRefused_eq]

/-- Whether a text is one that documents may hold. -/
def isDocumentText (s : Text) : Bool := !s.hasSurrogate && !s.chars.any isForbidden

theorem isDocumentText_iff {s : Text} :
    isDocumentText s = true ↔ s.hasSurrogate = false ∧ IsClean s.chars := by
  simp [isDocumentText, IsClean]

/-- Whether a value has a text that is written. -/
structure HasText (value : Value) : Prop where
  showable : value.isShowable = true
  clean : IsClean value.plainText.chars

theorem hasText_text {s : Text} (clean : IsClean s.chars) : HasText (.text s) := ⟨rfl, clean⟩

theorem checkText_eq_ok_iff {value : Value} {text : Text} :
    checkText value = .ok text ↔ HasText value ∧ text = value.plainText := by
  unfold checkText
  cases written : value.written with
  | error e =>
    have hidden := (Value.written_eq_error_iff.1 written).1
    simp only [reduceCtorEq, false_iff, not_and]
    intro given
    rw [given.showable] at hidden
    cases hidden
  | ok found =>
    obtain ⟨showable, rfl⟩ := Value.written_eq_ok_iff.1 written
    simp only
    split
    next any =>
      simp only [reduceCtorEq, false_iff, not_and]
      intro given
      exact absurd any (isClean_iff_any.1 given.clean)
    next none =>
      have given : HasText value := ⟨showable, isClean_iff_any.2 none⟩
      simp only [Except.ok.injEq, given, true_and, eq_comm]

/-! ## One entry -/

/-- What an entry adds to the parts of an element. -/
inductive Adds (sofar : Parts) (key : Text) : Value → Parts → Prop where
  | setText {value : Value} (isText : key = textKey) (given : HasText value) :
      Adds sofar key value { sofar with text := value.plainText }
  | putAttribute {value : Value} {name : String} (noText : key ≠ textKey)
      (isAttribute : isAttributeKey key = true) (spelled : attributeName key = name)
      (named : isName name = true) (given : HasText value) :
      Adds sofar key value { sofar with attributes := sofar.attributes.put name value.plainText }
  | addItems {items : List Value} {children : List (Element Text)} (noText : key ≠ textKey)
      (noAttribute : isAttributeKey key = false) (made : elements key items = .ok children) :
      Adds sofar key (.list items) { sofar with children := sofar.children ++ children }
  | addChild {value : Value} {name : String} {inner : Parts} (noText : key ≠ textKey)
      (noAttribute : isAttributeKey key = false) (single : ∀ items, value ≠ .list items)
      (spelled : key = name) (named : isName name = true) (made : parts value = .ok inner) :
      Adds sofar key value { sofar with children := sofar.children ++ [inner.element name] }

/-- Whether an entry can be added does not depend on what was added before. -/
theorem Adds.anew {sofar next : Parts} {key : Text} {value : Value} (added : Adds sofar key value next) (other : Parts) :
    ∃ next, Adds other key value next := by
  cases added with
  | setText isText given => exact ⟨_, .setText isText given⟩
  | putAttribute noText isAttribute spelled named given =>
    exact ⟨_, .putAttribute noText isAttribute spelled named given⟩
  | addItems noText noAttribute made => exact ⟨_, .addItems noText noAttribute made⟩
  | addChild noText noAttribute single spelled named made =>
    exact ⟨_, .addChild noText noAttribute single spelled named made⟩

/-- Add one entry to the parts of an element. -/
def addEntry (sofar : Parts) (key : Text) (value : Value) : Except WriteError Parts :=
  if key = textKey then do
    let text ← checkText value
    .ok { sofar with text := text }
  else if isAttributeKey key then do
    let name ← checkName (attributeName key)
    let text ← checkText value
    .ok { sofar with attributes := sofar.attributes.put name text }
  else
    match value with
    | .list items => do
      let children ← elements key items
      .ok { sofar with children := sofar.children ++ children }
    | value => do
      let name ← checkName key
      let inner ← parts value
      .ok { sofar with children := sofar.children ++ [inner.element name] }

theorem addEntries_nil (sofar : Parts) : addEntries sofar [] = .ok sofar := by
  rw [addEntries]

theorem addEntries_cons (sofar : Parts) (key : Text) (value : Value)
    (rest : List (Text × Value)) :
    addEntries sofar ((key, value) :: rest) =
      (addEntry sofar key value >>= fun next => addEntries next rest) := by
  cases value
  all_goals
    simp only [addEntries, addEntry]
    split
    next => simp only [bind_assoc]
    next =>
      split
      next => simp only [bind_assoc]
      next => simp only [bind_assoc]

theorem adds_of_addEntry {sofar next : Parts} {key : Text} {value : Value}
    (h : addEntry sofar key value = .ok next) : Adds sofar key value next := by
  unfold addEntry at h
  split at h
  next isText =>
    obtain ⟨text, checked, h⟩ := bind_eq_ok.1 h
    obtain ⟨given, rfl⟩ := checkText_eq_ok_iff.1 checked
    cases h
    exact .setText isText given
  next noText =>
    split at h
    next isAttribute =>
      obtain ⟨name, named, h⟩ := bind_eq_ok.1 h
      obtain ⟨text, checked, h⟩ := bind_eq_ok.1 h
      obtain ⟨isName, spelled⟩ := checkName_eq_ok_iff.1 named
      obtain ⟨given, rfl⟩ := checkText_eq_ok_iff.1 checked
      cases h
      exact .putAttribute noText isAttribute spelled (spelled ▸ isName) given
    next noAttribute =>
      have noAttribute : isAttributeKey key = false := by simpa using noAttribute
      split at h
      next items =>
        obtain ⟨children, made, h⟩ := bind_eq_ok.1 h
        cases h
        exact .addItems noText noAttribute made
      next single =>
        obtain ⟨name, named, h⟩ := bind_eq_ok.1 h
        obtain ⟨inner, made, added⟩ := bind_eq_ok.1 h
        obtain ⟨isName, spelled⟩ := checkName_eq_ok_iff.1 named
        cases added
        exact .addChild noText noAttribute single spelled (spelled ▸ isName) made

theorem addEntry_of_adds {sofar next : Parts} {key : Text} {value : Value}
    (added : Adds sofar key value next) : addEntry sofar key value = .ok next := by
  cases added with
  | setText isText given =>
    unfold addEntry
    rw [if_pos isText, checkText_eq_ok_iff.2 ⟨given, rfl⟩]
    rfl
  | putAttribute noText isAttribute spelled named given =>
    unfold addEntry
    rw [if_neg noText, if_pos isAttribute, spelled, checkName_eq_ok_iff.2 ⟨named, rfl⟩,
      checkText_eq_ok_iff.2 ⟨given, rfl⟩]
    rfl
  | addItems noText noAttribute made =>
    simp only [addEntry, noText, noAttribute, made]
    rfl
  | addChild noText noAttribute single spelled named made =>
    subst spelled
    simp only [addEntry, noText, noAttribute, checkName_eq_ok_iff.2 ⟨named, rfl⟩, made]
    cases value with
    | list items => exact absurd rfl (single items)
    | _ => rfl

theorem adds_of_addEntries {sofar made : Parts} {key : Text} {value : Value}
    {rest : List (Text × Value)} (h : addEntries sofar ((key, value) :: rest) = .ok made) :
    ∃ next, Adds sofar key value next ∧ addEntries next rest = .ok made := by
  rw [addEntries_cons] at h
  obtain ⟨next, added, more⟩ := bind_eq_ok.1 h
  exact ⟨next, adds_of_addEntry added, more⟩

theorem addEntries_of_adds {sofar next made : Parts} {key : Text} {value : Value}
    {rest : List (Text × Value)} (added : Adds sofar key value next)
    (more : addEntries next rest = .ok made) : addEntries sofar ((key, value) :: rest) = .ok made := by
  rw [addEntries_cons, addEntry_of_adds added]
  exact more

/-! ## Other values -/

theorem parts_table {entries : List (Text × Value)} :
    parts (.table entries) = addEntries Parts.empty entries := by
  rw [parts]

/-- What is made of a value that is no table. -/
theorem parts_eq_ok {value : Value} {made : Parts} (h : parts value = .ok made)
    (noTable : ∀ entries, value ≠ .table entries) :
    value = .nothing ∧ made = Parts.empty ∨
      value ≠ .nothing ∧ HasText value ∧ made = { Parts.empty with text := value.plainText } := by
  cases value with
  | nothing =>
    rw [parts] at h
    exact .inl ⟨rfl, by cases h; rfl⟩
  | table entries => exact absurd rfl (noTable entries)
  | _ =>
    obtain ⟨text, checked, written⟩ := bind_eq_ok.1 h
    obtain ⟨given, rfl⟩ := checkText_eq_ok_iff.1 checked
    cases written
    exact .inr ⟨by simp, given, rfl⟩

theorem elements_nil (key : Text) : elements key [] = .ok [] := by
  rw [elements]

theorem elements_eq_ok {key : Text} {item : Value} {rest : List Value} {made : List (Element Text)}
    (h : elements key (item :: rest) = .ok made) :
    ∃ name inner more, key = Text.ofString name ∧ isName name = true ∧ parts item = .ok inner ∧
      elements key rest = .ok more ∧ made = inner.element name :: more := by
  rw [elements] at h
  obtain ⟨name, named, h⟩ := bind_eq_ok.1 h
  obtain ⟨inner, first, h⟩ := bind_eq_ok.1 h
  obtain ⟨more, later, joined⟩ := bind_eq_ok.1 h
  obtain ⟨isName, rfl⟩ := checkName_eq_ok_iff.1 named
  cases joined
  exact ⟨name, inner, more, rfl, isName, first, later, rfl⟩

theorem elements_cons_of {name : String} {item : Value} {rest : List Value} {inner : Parts}
    {more : List (Element Text)} (named : isName name = true) (first : parts item = .ok inner)
    (later : elements name rest = .ok more) :
    elements name (item :: rest) = .ok (inner.element name :: more) := by
  rw [elements, checkName_eq_ok_iff.2 ⟨named, rfl⟩, first, later]
  rfl

theorem parts_text {s : Text} (clean : IsClean s.chars) :
    parts (.text s) = .ok { Parts.empty with text := s } := by
  have checked : checkText (.text s) = .ok s := checkText_eq_ok_iff.2 ⟨hasText_text clean, rfl⟩
  rw [parts, checked]
  · rfl
  · exact nofun
  · exact nofun

/-! ## Elements that can be written -/

/-- Parts of an element as they are written. -/
structure Parts.AreWritable (made : Parts) : Prop where
  attributes : ∀ a ∈ made.attributes, isName a.1 = true ∧ IsClean a.2.chars
  distinct : made.attributes.keys.Nodup
  clean : IsClean made.text.chars
  children : ∀ child ∈ made.children, child.IsWritable

theorem Parts.AreWritable.empty : Parts.empty.AreWritable where
  attributes := nofun
  distinct := List.nodup_nil
  clean := IsClean.nil
  children := nofun

theorem areWritable_map {children : List (Element Text)} (writable : ∀ child ∈ children, child.IsWritable) :
    Element.AreWritable (children.map fun child => (child, "")) := by
  induction children with
  | nil => exact .nil
  | cons child rest ih =>
    obtain ⟨first, more⟩ := List.forall_mem_cons.1 writable
    exact .cons first (ih more)

theorem Parts.AreWritable.element {made : Parts} (writable : made.AreWritable) {name : String}
    (named : isName name = true) : (made.element name).IsWritable :=
  .mk named writable.attributes writable.distinct writable.clean (areWritable_map writable.children)

mutual

theorem areWritable_of_parts {value : Value} {made : Parts} (h : parts value = .ok made) :
    made.AreWritable := by
  cases value with
  | table entries => exact areWritable_of_addEntries (parts_table ▸ h) .empty
  | _ =>
    rcases parts_eq_ok h (by simp) with ⟨_, rfl⟩ | ⟨_, given, rfl⟩
    · exact .empty
    · exact { Parts.AreWritable.empty with clean := given.clean }
termination_by sizeOf value

theorem areWritable_of_addEntries {sofar made : Parts} {entries : List (Text × Value)}
    (h : addEntries sofar entries = .ok made) (before : sofar.AreWritable) : made.AreWritable := by
  match entries with
  | [] =>
    rw [addEntries_nil] at h
    cases h
    exact before
  | (key, value) :: rest =>
    obtain ⟨next, added, more⟩ := adds_of_addEntries h
    -- It is enough that one entry keeps the parts writable.
    refine areWritable_of_addEntries more ?_
    cases added with
    | setText _ given => exact { before with clean := given.clean }
    | putAttribute _ _ _ named given =>
      refine { before with attributes := ?_, distinct := Entries.nodup_keys_put before.distinct }
      intro a member
      rcases Entries.mem_put member with rfl | member
      · exact ⟨named, given.clean⟩
      · exact before.attributes a member
    | addItems _ _ inner =>
      refine { before with children := ?_ }
      exact List.forall_mem_append.2 ⟨before.children, isWritable_of_elements inner⟩
    | addChild _ _ _ _ named inner =>
      refine { before with children := ?_ }
      refine List.forall_mem_append.2 ⟨before.children, List.forall_mem_singleton.2 ?_⟩
      exact (areWritable_of_parts inner).element named
termination_by sizeOf entries

theorem isWritable_of_elements {key : Text} {items : List Value} {made : List (Element Text)}
    (h : elements key items = .ok made) : ∀ child ∈ made, child.IsWritable := by
  match items with
  | [] =>
    rw [elements_nil] at h
    cases h
    exact nofun
  | item :: rest =>
    obtain ⟨name, inner, more, _, named, first, later, rfl⟩ := elements_eq_ok h
    exact List.forall_mem_cons.2 ⟨(areWritable_of_parts first).element named, isWritable_of_elements later⟩
termination_by sizeOf items

end

theorem isWritable_of_toElement {name : Text} {value : Value} {made : Element Text}
    (h : toElement name value = .ok made) : made.IsWritable := by
  obtain ⟨found, named, h⟩ := bind_eq_ok.1 h
  obtain ⟨inner, built, joined⟩ := bind_eq_ok.1 h
  obtain ⟨isName, rfl⟩ := checkName_eq_ok_iff.1 named
  cases joined
  exact (areWritable_of_parts built).element isName

end XmlSettings.Settings
