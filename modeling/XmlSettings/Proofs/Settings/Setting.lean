import XmlSettings.Placeholder
import XmlSettings.Proofs.Settings.NormalForm
import XmlSettings.Proofs.Xml.ReadElement

/-! # The shape of settings

Settings as documents give them: a section has distinct keys, not only that of its text; every entry is
a text, a section or a list of at least two of those; and only texts stand under the keys of
attributes and of the text.  Which keys and which texts there may be is left open, so that further
facts about them can be carried along (`IsSetting.and_all`).  The settings of every element that was
read have this shape (`isSetting_ofElement`).
-/

namespace XmlSettings

/-! ## Every key and every text -/

mutual

/-- Whether every key and every text in a value passes a check. -/
def Value.all (ofKey ofText : Text → Bool) : Value → Bool
  | .text s => ofText s
  | .list items => Value.allItems ofKey ofText items
  | .table entries => Value.allEntries ofKey ofText entries
  | _ => true
termination_by structural value => value

/-- Whether every key and every text in the items of a list passes a check. -/
def Value.allItems (ofKey ofText : Text → Bool) : List Value → Bool
  | [] => true
  | item :: rest => Value.all ofKey ofText item && Value.allItems ofKey ofText rest
termination_by structural items => items

/-- Whether every key and every text in entries passes a check. -/
def Value.allEntries (ofKey ofText : Text → Bool) : List (Text × Value) → Bool
  | [] => true
  | (key, value) :: rest =>
    ofKey key && Value.all ofKey ofText value && Value.allEntries ofKey ofText rest
termination_by structural entries => entries

end

namespace Value

variable {ofKey ofText : Text → Bool}

theorem allItems_eq_true_iff {items : List Value} :
    allItems ofKey ofText items = true ↔ ∀ item ∈ items, item.all ofKey ofText = true := by
  induction items with
  | nil => simp [allItems]
  | cons item rest ih => simp [allItems, ih]

theorem allEntries_eq_true_iff {entries : List (Text × Value)} :
    allEntries ofKey ofText entries = true ↔
      ∀ key value, (key, value) ∈ entries → ofKey key = true ∧ value.all ofKey ofText = true := by
  induction entries with
  | nil => simp [allEntries]
  | cons entry rest ih =>
    obtain ⟨first, current⟩ := entry
    rw [allEntries, Bool.and_eq_true, Bool.and_eq_true, ih, Entries.forall_mem_cons]

end Value

namespace Settings

open XmlSettings.Xml (Element IsClean IsReadName)

/-! ## Settings, sections and entries -/

mutual

/-- A text or a section under a key. -/
inductive IsSetting (named : Text → Prop) (held : Text → Text → Prop) :
    Text → Value → Prop where
  | text {key s : Text} (holds : held key s) : IsSetting named held key (.text s)
  | table {key : Text} {entries : Entries Text Value} (isChild : isChildKey key = true)
      (inside : IsSection named held entries) : IsSetting named held key (.table entries)

/-- The entries of a section. -/
inductive IsSection (named : Text → Prop) (held : Text → Text → Prop) :
    Entries Text Value → Prop where
  | mk {entries : Entries Text Value} (distinct : entries.keys.Nodup)
      (notOnlyText : ∃ key ∈ entries.keys, key ≠ textKey)
      (inside : ∀ key value, (key, value) ∈ entries → IsEntry named held key value) :
      IsSection named held entries

/-- An entry of a section. -/
inductive IsEntry (named : Text → Prop) (held : Text → Text → Prop) :
    Text → Value → Prop where
  | single {key : Text} {value : Value} (known : named key)
      (setting : IsSetting named held key value) : IsEntry named held key value
  | several {key : Text} {items : List Value} (known : named key)
      (isChild : isChildKey key = true) (many : 2 ≤ items.length)
      (inside : ∀ item ∈ items, IsSetting named held key item) :
      IsEntry named held key (.list items)

end

section Shape

variable {named : Text → Prop} {held : Text → Text → Prop} {key : Text} {value : Value}
  {entries : Entries Text Value}

theorem IsSection.distinct (inside : IsSection named held entries) : entries.keys.Nodup := by
  cases inside with
  | mk distinct => exact distinct

theorem IsSection.notOnlyText (inside : IsSection named held entries) :
    ∃ key ∈ entries.keys, key ≠ textKey := by
  cases inside with
  | mk _ notOnlyText => exact notOnlyText

theorem IsSection.entry (inside : IsSection named held entries) (member : (key, value) ∈ entries) :
    IsEntry named held key value := by
  cases inside with
  | mk _ _ each => exact each key value member

theorem IsEntry.known (entry : IsEntry named held key value) : named key := by
  cases entry with
  | single known => exact known
  | several known => exact known

/-- Only a text stands under a key that is not that of children. -/
theorem IsEntry.text_of_beside (entry : IsEntry named held key value)
    (other : isChildKey key = false) : ∃ s, value = .text s ∧ held key s := by
  cases entry with
  | single _ setting =>
    cases setting with
    | text holds => exact ⟨_, rfl, holds⟩
    | table isChild => simp [other] at isChild
  | several _ isChild => simp [other] at isChild

theorem IsEntry.isSection (entry : IsEntry named held key (.table entries)) :
    isChildKey key = true ∧ IsSection named held entries := by
  cases entry with
  | single _ setting =>
    cases setting with
    | table isChild inside => exact ⟨isChild, inside⟩

theorem IsSetting.not_list {items : List Value} : ¬IsSetting named held key (.list items) := nofun

theorem IsSetting.ne_list (setting : IsSetting named held key value) :
    ∀ items, value ≠ .list items := by
  rintro items rfl
  exact setting.not_list

/-! ## More about keys and texts -/

section AndAll

variable {ofKey ofText : Text → Bool}

mutual

/-- What every key and every text passes is known of each of them. -/
theorem IsSetting.and_all {key : Text} {value : Value} :
    IsSetting named held key value → value.all ofKey ofText = true →
      IsSetting (fun key => named key ∧ ofKey key = true)
        (fun key s => held key s ∧ ofText s = true) key value
  | .text holds, every => .text ⟨holds, every⟩
  | .table isChild inside, every => .table isChild (inside.and_all every)

theorem IsSection.and_all {entries : Entries Text Value} :
    IsSection named held entries → Value.allEntries ofKey ofText entries = true →
      IsSection (fun key => named key ∧ ofKey key = true)
        (fun key s => held key s ∧ ofText s = true) entries
  | .mk distinct notOnlyText each, every => .mk distinct notOnlyText fun key value member =>
    (each key value member).and_all (Value.allEntries_eq_true_iff.1 every key value member)

theorem IsEntry.and_all {key : Text} {value : Value} :
    IsEntry named held key value → ofKey key = true ∧ value.all ofKey ofText = true →
      IsEntry (fun key => named key ∧ ofKey key = true)
        (fun key s => held key s ∧ ofText s = true) key value
  | .single before setting, ⟨known, every⟩ => .single ⟨before, known⟩ (setting.and_all every)
  | .several before isChild many inside, ⟨known, every⟩ =>
    .several ⟨before, known⟩ isChild many fun item member =>
      (inside item member).and_all (Value.allItems_eq_true_iff.1 every item member)

end

end AndAll

section Showable

variable {named : Text → Prop} {held : Text → Text → Prop}

mutual

/-- There are no integers in settings, so everything in them can be written. -/
theorem IsSetting.isShowable {key : Text} {value : Value} :
    IsSetting named held key value → value.isShowable = true
  | .text _ => rfl
  | .table _ inside => inside.isShowable

theorem IsSection.isShowable {entries : Entries Text Value} :
    IsSection named held entries → Value.isShowable (.table entries) = true
  | .mk _ _ each => Value.holdsShowable_iff.2 fun entry member =>
    (each entry.1 entry.2 member).isShowable

theorem IsEntry.isShowable {key : Text} {value : Value} :
    IsEntry named held key value → value.isShowable = true
  | .single _ setting => setting.isShowable
  | .several _ _ _ inside => Value.areShowable_iff.2 fun item member => (inside item member).isShowable

end

end Showable

/-! ## Writing entries -/

/-- Entries of a section that may still be empty. -/
structure AreEntries (named : Text → Prop) (held : Text → Text → Prop)
    (entries : Entries Text Value) : Prop where
  distinct : entries.keys.Nodup
  inside : ∀ key value, (key, value) ∈ entries → IsEntry named held key value

namespace AreEntries

theorem nil : AreEntries named held [] where
  distinct := List.nodup_nil
  inside := nofun

theorem put (before : AreEntries named held entries) (entry : IsEntry named held key value) :
    AreEntries named held (Entries.put key value entries) where
  distinct := Entries.nodup_keys_put before.distinct
  inside := by
    intro other current member
    rcases Entries.mem_put member with same | old
    · cases same
      exact entry
    · exact before.inside other current old

theorem putAll {additions : Entries Text Value} (before : AreEntries named held entries)
    (each : ∀ key value, (key, value) ∈ additions → IsEntry named held key value) :
    AreEntries named held (Entries.putAll entries additions) := by
  induction additions generalizing entries with
  | nil => exact before
  | cons addition rest ih =>
    obtain ⟨first, current⟩ := addition
    refine ih (before.put (each first current List.mem_cons_self)) fun key value member => ?_
    exact each key value (List.mem_cons_of_mem _ member)

/-- A further child goes on the list of its name, or makes one. -/
theorem addChild (before : AreEntries named held entries) (isChild : isChildKey key = true)
    (known : named key) (setting : IsSetting named held key value) :
    AreEntries named held (Settings.addChild entries key value) := by
  unfold Settings.addChild
  split
  next => exact before.put (.single known setting)
  -- What is a list already was made of several children, since no single one is read as a list.
  next items found =>
    cases before.inside _ _ (Entries.mem_of_get? found) with
    | single _ list => exact absurd list IsSetting.not_list
    | several _ _ many inside =>
      refine before.put (.several known isChild ?_ ?_)
      · rw [List.length_append]
        omega
      · exact List.forall_mem_append.2 ⟨inside, List.forall_mem_singleton.2 setting⟩
  next first noList found =>
    cases before.inside _ _ (Entries.mem_of_get? found) with
    | single _ old =>
      refine before.put (.several known isChild (Nat.le_refl 2) ?_)
      exact List.forall_mem_cons.2 ⟨old, List.forall_mem_singleton.2 setting⟩
    | several => exact absurd rfl (noList _)

end AreEntries

end Shape

/-! ## The settings of an element -/

/-- What is known of keys that were read: those of children are names to the reader. -/
def IsReadKey (key : Text) : Prop :=
  isChildKey key = true → ∃ name, key = Text.ofString name ∧ IsReadName name

/-- What is known of texts that were read.  The one beside children is not empty. -/
def IsReadText (key s : Text) : Prop := isDocumentText s = true ∧ (key = textKey → s ≠ "")

theorem isChildKey_of_isReadName {name : String} (readable : IsReadName name) :
    isChildKey name = true := by
  obtain ⟨_, readable⟩ := readable
  obtain ⟨first, rest, chars, start, _⟩ := Xml.isReadableName_iff.1 readable
  have noMark : first ≠ '#' := by
    rintro rfl
    exact absurd start Bool.false_ne_true
  have noHyphen : first ≠ '-' := by
    rintro rfl
    exact absurd start Bool.false_ne_true
  have noText : Text.ofString name ≠ textKey := by
    intro same
    have same := congrArg List.head? (chars.symm.trans (congrArg String.toList (Text.ofString_inj.1 same)))
    exact noMark (Option.some.inj same)
  simp [isChildKey, noText, isAttributeKey, chars, noHyphen]

theorem isChildKey_attribute (name : Text) : isChildKey (attributeMark ++ name) = false := by
  have isAttribute : isAttributeKey (attributeMark ++ name) = true := by
    rw [isAttributeKey, Text.toList_append]
    rfl
  simp [isChildKey, isAttribute]

theorem attribute_ne_textKey (name : Text) : attributeMark ++ name ≠ textKey := by
  intro same
  have chars := congrArg Text.toList same
  rw [Text.toList_append] at chars
  have head := congrArg List.head? chars
  exact absurd (Option.some.inj head) (by decide)

theorem isDocumentText_ofString {s : String} : isDocumentText s = true ↔ IsClean s.toList := by
  simp [isDocumentText_iff]

theorem isDocumentText_strip {s : String} (clean : IsClean s.toList) :
    isDocumentText (Text.strip s) = true := by
  rw [Text.strip_ofString, isDocumentText_ofString, String.toList_ofList]
  exact fun c member => clean c (Text.mem_of_mem_trimBoth member)

theorem AreEntries.addText {entries : Entries Text Value} {text : Text}
    (before : AreEntries IsReadKey IsReadText entries) (held : isDocumentText text = true) :
    AreEntries IsReadKey IsReadText (addText entries text) := by
  unfold Settings.addText
  split
  next => exact before
  next filled =>
    have known : IsReadKey textKey := fun isChild => absurd isChild (by decide)
    exact before.put (.single known (.text ⟨held, fun _ => filled⟩))

theorem mem_keys_addText {entries : Entries Text Value} {text key : Text}
    (member : key ∈ entries.keys) : key ∈ Entries.keys (addText entries text) := by
  unfold addText
  split
  next => exact member
  next => exact Entries.mem_keys_put.2 (.inr member)

theorem areEntries_ofAttributes {attributes : List (String × String)}
    (clean : ∀ a ∈ attributes, IsClean a.2.toList) :
    AreEntries IsReadKey IsReadText (ofAttributes attributes) := by
  refine AreEntries.nil.putAll fun key value member => ?_
  obtain ⟨⟨name, s⟩, inside, same⟩ := List.mem_map.1 member
  cases same
  refine .single ?_ (.text ⟨isDocumentText_ofString.2 (clean _ inside), ?_⟩)
  · intro isChild
    simp [isChildKey_attribute] at isChild
  · intro isText
    exact absurd isText (attribute_ne_textKey name)

theorem mem_keys_addChild {before : Entries Text Value} {name key : Text} {value : Value}
    (member : key = name ∨ key ∈ before.keys) : key ∈ Entries.keys (addChild before name value) := by
  unfold addChild
  split <;> exact Entries.mem_keys_put.2 member

theorem mem_keys_ofChildren {before : Entries Text Value} {children : List (Element String × String)} {key : Text}
    (member : key ∈ before.keys) : key ∈ Entries.keys (ofChildren before children) := by
  induction children generalizing before with
  | nil =>
    rw [ofChildren]
    exact member
  | cons child rest ih =>
    rw [ofChildren]
    exact ih (mem_keys_addChild (.inr member))

/-- An element with children or attributes has an entry besides that of its text. -/
theorem notOnlyText_ofElement {attributes : List (String × String)} {children : List (Element String × String)}
    (read : Element.AreRead children) (filled : ¬(children.isEmpty ∧ attributes.isEmpty)) :
    ∃ key ∈ Entries.keys (ofChildren (ofAttributes attributes) children), key ≠ textKey := by
  cases read with
  | nil =>
    cases attributes with
    | nil => simp at filled
    | cons a rest =>
      refine ⟨attributeMark ++ a.1, mem_keys_ofChildren ?_, attribute_ne_textKey a.1⟩
      rw [ofAttributes, Entries.ofPairs, Entries.mem_keys_putAll]
      exact .inr List.mem_cons_self
  | @cons child behind rest first more =>
    cases first with
    | @mk name _ _ _ named =>
      refine ⟨name, ?_, (isChildKey_eq_true_iff.1 (isChildKey_of_isReadName named)).1⟩
      rw [ofChildren]
      exact mem_keys_ofChildren (mem_keys_addChild (.inl rfl))

mutual

/-- The settings of an element that was read. -/
theorem isSetting_ofElement {key : Text} {element : Element String} (isChild : isChildKey key = true) :
    element.IsRead → IsSetting IsReadKey IsReadText key (ofElement element)
  | @Element.IsRead.mk name attributes text children named clean textClean inside => by
    rw [ofElement]
    split
    next =>
      refine .text ⟨isDocumentText_strip textClean, ?_⟩
      rintro rfl
      exact absurd isChild (by decide)
    next filled =>
      have entries := areEntries_ofChildren inside (areEntries_ofAttributes clean)
      obtain ⟨other, known, noText⟩ := notOnlyText_ofElement inside filled
      have added := entries.addText (isDocumentText_strip textClean)
      refine .table isChild (.mk added.distinct ⟨other, mem_keys_addText known, noText⟩ added.inside)

theorem areEntries_ofChildren {before : Entries Text Value} {children : List (Element String × String)} :
    Element.AreRead children → AreEntries IsReadKey IsReadText before →
      AreEntries IsReadKey IsReadText (ofChildren before children)
  | .nil, sofar => by
    rw [ofChildren]
    exact sofar
  | @Element.AreRead.cons child behind rest first more, sofar => by
    rw [ofChildren]
    have named : IsReadName child.name := by
      cases first with
      | mk named => exact named
    have isChild := isChildKey_of_isReadName named
    refine areEntries_ofChildren more (sofar.addChild isChild (fun _ => ⟨_, rfl, named⟩) ?_)
    exact isSetting_ofElement isChild first

end

end Settings

end XmlSettings
