import Mathlib.Logic.Relation
import XmlSettings.Proofs.Settings.Saved

/-! # Settings that were read once

Settings that were written are read back in their normal form.  A normal form is its own normal form
(`normal_normal`), and it can be written and read again if the settings could
(`IsWrittenAndRead.normal`).  So one way there and back leads to settings that every later one keeps
(`reread_fixed`).
-/

namespace XmlSettings.Settings

open XmlSettings.Xml (Document IsClean isReadableAttribute_iff isReadableName lineFeeds)
open XmlSettings.Text (isBlank trimBoth)

/-! ## Texts -/

theorem not_mem_lineFeeds (cs : List Char) : '\r' ∉ lineFeeds cs := by
  fun_induction lineFeeds cs with
  | case1 => simp
  | case2 rest ih => simp [ih]
  | case3 c rest _ ih =>
    by_cases isReturn : c = '\r' <;> simp [isReturn, ih, eq_comm]

theorem normalText_eq (s : Text) :
    normalText s = Text.ofString (String.ofList (trimBoth isBlank (lineFeeds s.chars))) := by
  rw [normalText, Text.strip_ofString, String.toList_ofList]

theorem chars_normalText (s : Text) : (normalText s).chars = trimBoth isBlank (lineFeeds s.chars) := by
  rw [normalText_eq, Text.chars_ofString, String.toList_ofList]

theorem normalText_normalText (s : Text) : normalText (normalText s) = normalText s := by
  have noReturn : '\r' ∉ (normalText s).chars := by
    rw [chars_normalText]
    exact fun member => not_mem_lineFeeds _ (Text.mem_of_mem_trimBoth member)
  rw [normalText_eq (normalText s), Xml.lineFeeds_of_not_mem noReturn, chars_normalText,
    Text.trimBoth_trimBoth, normalText_eq]

theorem isDocumentText_normalText {s : Text} (clean : IsClean s.chars) :
    isDocumentText (normalText s) = true := by
  rw [normalText_eq, isDocumentText_ofString, String.toList_ofList]
  exact fun c member => Xml.isClean_lineFeeds clean c (Text.mem_of_mem_trimBoth member)

/-! ## Normal forms -/

theorem normalAttributes_append (first second : Entries Text Value) :
    normalAttributes (first ++ second) = normalAttributes first ++ normalAttributes second := by
  simp [normalAttributes]

theorem normalChildren_append (first second : Entries Text Value) :
    normalChildren (first ++ second) = normalChildren first ++ normalChildren second := by
  induction first with
  | nil => rfl
  | cons entry rest ih =>
    rw [List.cons_append, normalChildren_cons, ih, normalChildren_cons entry.1 entry.2 rest,
      List.append_assoc]

theorem normalAttributes_normalAttributes (entries : Entries Text Value) :
    normalAttributes (normalAttributes entries) = normalAttributes entries := by
  simp [normalAttributes, List.filter_map, Function.comp_def, Value.plainText]

theorem normalAttributes_eq_nil {entries : Entries Text Value}
    (none : ∀ key ∈ entries.keys, isAttributeKey key = false) : normalAttributes entries = [] := by
  refine List.map_eq_nil_iff.2 (List.filter_eq_nil_iff.2 fun entry member => ?_)
  simp [none entry.1 (List.mem_map.2 ⟨entry, member, rfl⟩)]

theorem normalChildren_eq_nil {entries : Entries Text Value}
    (none : ∀ key ∈ entries.keys, isChildKey key = false) : normalChildren entries = [] := by
  induction entries with
  | nil => rfl
  | cons entry rest ih =>
    obtain ⟨first, later⟩ := List.forall_mem_cons.1 none
    rw [normalChildren_cons, normalChildren_of_not_isChildKey first, ih later, List.append_nil]

theorem normalItems_eq_map (items : List Value) : normalItems items = items.map normal := by
  induction items with
  | nil => rfl
  | cons item rest ih => rw [normalItems, ih, List.map_cons]

/-- What stands inside an element, with its text behind it. -/
theorem addText_eq_append {inside : Entries Text Value} (noText : textKey ∉ inside.keys) (text : Text) :
    addText inside text = inside ++ addText [] text := by
  unfold addText
  split
  next => exact (List.append_nil inside).symm
  next => exact Entries.put_of_not_mem noText

theorem mem_addText_nil {text key : Text} {value : Value} (member : (key, value) ∈ addText [] text) :
    key = textKey ∧ value = .text text := by
  unfold addText at member
  split at member
  next => cases member
  next => simpa [Entries.put] using member

theorem keys_addText_nil (text : Text) : ∀ key ∈ Entries.keys (addText [] text), key = textKey := by
  intro key known
  obtain ⟨entry, member, rfl⟩ := List.mem_map.1 known
  exact (mem_addText_nil member).1

theorem not_mem_readInside (entries : Entries Text Value) : textKey ∉ Entries.keys (readInside entries) :=
  fun member => (mem_keys_readInside member).2.1 rfl

theorem textOf_addText {inside : Entries Text Value} (noText : textKey ∉ inside.keys) (text : Text) :
    textOf (addText inside text) = text := by
  rw [textOf, get?_addText_textKey text noText]
  split
  next empty => exact empty.symm
  next => rfl

theorem normal_table (entries : Entries Text Value) :
    normal (.table entries) = ofInside (readInside entries) (normalText (textOf entries)) := by
  rw [normal, readInside]

/-- What stands inside an element that was read is read inside it again, if its children are. -/
theorem readInside_addText {entries : Entries Text Value}
    (children : normalChildren (normalChildren entries) = normalChildren entries) (text : Text) :
    readInside (addText (readInside entries) text) = readInside entries := by
  have text : ∀ key ∈ Entries.keys (addText [] text), key = textKey := keys_addText_nil text
  have noAttributes : normalAttributes (normalChildren entries) = [] :=
    normalAttributes_eq_nil fun key member =>
      (isChildKey_eq_true_iff.1 (mem_keys_normalChildren member).2).2
  have noChildren : normalChildren (normalAttributes entries) = [] :=
    normalChildren_eq_nil fun key member => by
      simp [isChildKey, (mem_keys_normalAttributes member).2.1]
  rw [addText_eq_append (not_mem_readInside entries), readInside, readInside]
  simp only [normalAttributes_append, normalChildren_append, normalAttributes_normalAttributes,
    noAttributes, noChildren, children]
  rw [normalAttributes_eq_nil fun key member => text key member ▸ rfl,
    normalChildren_eq_nil fun key member => text key member ▸ rfl]
  simp

theorem normal_table_normal {entries : Entries Text Value}
    (children : normalChildren (normalChildren entries) = normalChildren entries) :
    normal (normal (.table entries)) = normal (.table entries) := by
  rw [normal_table, ofInside]
  split
  next => exact congrArg Value.text (normalText_normalText _)
  next filled =>
    rw [normal_table, readInside_addText children, textOf_addText (not_mem_readInside entries),
      normalText_normalText, ofInside, if_neg filled]

theorem normalChildren_grouped {key : Text} {values : List Value} (isChild : isChildKey key = true)
    (single : ∀ value ∈ values, ∀ items, value ≠ .list items)
    (fixed : normalItems values = values) : normalChildren (grouped key values) = grouped key values := by
  match values with
  | [] => rfl
  | [value] =>
    rw [grouped, normalChildren_single (single value List.mem_cons_self), if_pos isChild]
    rw [normalItems, List.cons.injEq] at fixed
    rw [fixed.1]
  | first :: second :: rest =>
    show normalChildren [(key, .list (first :: second :: rest))] = _
    rw [normalChildren_list, if_pos isChild, fixed]

theorem normalChildren_fixed_of_list {key : Text} {items : List Value}
    (fixed : normalItems (normalItems items) = normalItems items) :
    normalChildren (normalChildren [(key, .list items)]) = normalChildren [(key, .list items)] := by
  rw [normalChildren_list]
  split
  next isChild =>
    refine normalChildren_grouped isChild (fun value member => ?_) fixed
    obtain ⟨item, rfl⟩ := mem_normalItems member
    exact normal_ne_list item
  next => rfl

theorem normalChildren_fixed_of_single {key : Text} {value : Value}
    (single : ∀ items, value ≠ .list items) (fixed : normal (normal value) = normal value) :
    normalChildren (normalChildren [(key, value)]) = normalChildren [(key, value)] := by
  rw [normalChildren_single single]
  split
  next isChild => rw [normalChildren_single (normal_ne_list value), if_pos isChild, fixed]
  next => rfl

mutual

/-- What was read back once is read back as it is. -/
theorem normal_normal (value : Value) : normal (normal value) = normal value := by
  match value with
  | .table entries => exact normal_table_normal (normalChildren_normalChildren entries)
  | .nothing => rfl
  | .text _ | .flag _ | .integer _ | .real _ | .list _ | .record _ _ =>
    exact congrArg Value.text (normalText_normalText _)
termination_by sizeOf value

theorem normalChildren_normalChildren (entries : List (Text × Value)) :
    normalChildren (normalChildren entries) = normalChildren entries := by
  match entries with
  | [] => rfl
  | (key, value) :: rest =>
    rw [normalChildren_cons, normalChildren_append, normalChildren_normalChildren rest]
    by_cases list : ∃ items, value = .list items
    · obtain ⟨items, rfl⟩ := list
      rw [normalChildren_fixed_of_list (normalItems_normalItems items)]
    · rw [normalChildren_fixed_of_single (not_exists.1 list) (normal_normal value)]
termination_by sizeOf entries

theorem normalItems_normalItems (items : List Value) :
    normalItems (normalItems items) = normalItems items := by
  match items with
  | [] => rfl
  | item :: rest =>
    rw [normalItems, normalItems, normal_normal item, normalItems_normalItems rest]
termination_by sizeOf items

end

/-! ## Normal forms can be written and read -/

section Rewritten

variable {key : Text} {value : Value} {entries : Entries Text Value}

/-- What is known of an entry that can be written and is read again. -/
structure IsEntryWrittenAndRead (key : Text) (value : Value) : Prop where
  written : ∀ sofar, ∃ next, Adds sofar key value next
  distinct : value.hasDistinctKeys = true
  readable : areReadable [(key, value)] = true

theorem areReadable_cons (key : Text) (value : Value) (rest : List (Text × Value)) :
    areReadable ((key, value) :: rest) = (areReadable [(key, value)] && areReadable rest) := by
  cases value <;> simp [areReadable]

theorem haveDistinctKeys_of_mem (distinct : Value.haveDistinctKeys entries = true)
    (member : (key, value) ∈ entries) : value.hasDistinctKeys = true := by
  induction entries with
  | nil => cases member
  | cons entry rest ih =>
    rw [Value.haveDistinctKeys, Bool.and_eq_true] at distinct
    cases member with
    | head => exact distinct.1
    | tail _ later => exact ih distinct.2 later

theorem areReadable_of_mem (readable : areReadable entries = true) (member : (key, value) ∈ entries) :
    areReadable [(key, value)] = true := by
  induction entries with
  | nil => cases member
  | cons entry rest ih =>
    rw [areReadable_cons, Bool.and_eq_true] at readable
    cases member with
    | head => exact readable.1
    | tail _ later => exact ih readable.2 later

theorem areWrittenAndRead_of_each
    (each : ∀ key value, (key, value) ∈ entries → IsEntryWrittenAndRead key value) :
    AreWrittenAndRead entries := by
  induction entries with
  | nil => exact ⟨fun sofar => ⟨sofar, addEntries_nil sofar⟩, rfl, rfl⟩
  | cons entry rest ih =>
    obtain ⟨key, value⟩ := entry
    have first := each key value List.mem_cons_self
    have later := ih fun key value member => each key value (List.mem_cons_of_mem _ member)
    refine ⟨fun sofar => ?_, ?_, ?_⟩
    · obtain ⟨next, added⟩ := first.written sofar
      obtain ⟨made, more⟩ := later.written next
      exact ⟨made, addEntries_of_adds added more⟩
    · rw [Value.haveDistinctKeys, first.distinct, later.distinct]
      rfl
    · rw [areReadable_cons, first.readable, later.readable]
      rfl

/-- A table can be written and is read again exactly if each entry of it can. -/
theorem isWrittenAndRead_table_iff : IsWrittenAndRead (.table entries) ↔
    entries.keys.Nodup ∧ ∀ key value, (key, value) ∈ entries → IsEntryWrittenAndRead key value := by
  constructor
  · rintro ⟨⟨made, written⟩, distinct, readable⟩
    simp only [Value.hasDistinctKeys, Bool.and_eq_true, decide_eq_true_eq] at distinct
    refine ⟨distinct.1, fun key value member => ?_⟩
    obtain ⟨sofar, next, added⟩ := adds_of_mem (parts_table ▸ written) member
    exact ⟨added.anew, haveDistinctKeys_of_mem distinct.2 member, areReadable_of_mem readable member⟩
  · rintro ⟨distinct, each⟩
    have inside := areWrittenAndRead_of_each each
    obtain ⟨made, written⟩ := inside.written Parts.empty
    refine ⟨⟨made, parts_table.trans written⟩, ?_, inside.readable⟩
    simp [Value.hasDistinctKeys, distinct, inside.distinct]

theorem isWrittenAndRead_text {s : Text} (held : isDocumentText s = true) : IsWrittenAndRead (.text s) := by
  obtain ⟨plain, clean⟩ := isDocumentText_iff.1 held
  exact ⟨⟨_, parts_text clean⟩, rfl, by simp [isReadable, Value.plainText, plain]⟩

/-! ### Entries -/

/-- A name that can be written and is read again. -/
def IsSafeName (name : Text) : Prop := isName name = true ∧ isReadableName (stringOf name) = true

theorem isEntryWrittenAndRead_child_iff (isChild : isChildKey key = true)
    (single : ∀ items, value ≠ .list items) :
    IsEntryWrittenAndRead key value ↔ IsSafeName key ∧ IsWrittenAndRead value := by
  obtain ⟨noText, noAttribute⟩ := isChildKey_eq_true_iff.1 isChild
  constructor
  · rintro ⟨written, distinct, readable⟩
    obtain ⟨_, added⟩ := written Parts.empty
    simp only [areReadable_child isChild single, Bool.and_eq_true] at readable
    cases added with
    | setText isText => exact absurd isText noText
    | putAttribute _ isAttribute => simp [noAttribute] at isAttribute
    | addItems => exact absurd rfl (single _)
    | addChild _ _ _ spelled named made =>
      exact ⟨⟨spelled ▸ named, readable.1.1⟩, ⟨_, made⟩, distinct, readable.1.2⟩
  · rintro ⟨⟨named, taken⟩, ⟨made, written⟩, distinct, readable⟩
    have spelled := (ofString_stringOf named).symm
    refine ⟨fun _ => ⟨_, .addChild noText noAttribute single spelled (spelled ▸ named) written⟩,
      distinct, ?_⟩
    rw [areReadable_child isChild single, taken, readable]
    rfl

theorem itemsAreWrittenAndRead_iff {items : List Value} : ItemsAreWrittenAndRead key items ↔
    ∀ item ∈ items, IsSafeName key ∧ IsWrittenAndRead item := by
  induction items with
  | nil => exact ⟨fun _ => nofun, fun _ => ⟨⟨[], elements_nil key⟩, rfl, rfl⟩⟩
  | cons item rest ih =>
    rw [List.forall_mem_cons, ← ih]
    constructor
    · rintro ⟨⟨made, written⟩, distinct, readable⟩
      obtain ⟨name, inner, more, rfl, named, first, later, _⟩ := elements_eq_ok written
      simp only [Value.itemsHaveDistinctKeys, Bool.and_eq_true] at distinct
      simp only [itemsAreReadable, Bool.and_eq_true] at readable
      exact ⟨⟨⟨named, readable.1.1⟩, ⟨_, first⟩, distinct.1, readable.1.2⟩,
        ⟨_, later⟩, distinct.2, readable.2⟩
    · rintro ⟨⟨⟨named, taken⟩, ⟨inner, first⟩, distinct, readable⟩, ⟨more, later⟩, others, readables⟩
      refine ⟨?_, ?_, ?_⟩
      · obtain ⟨name, rfl⟩ : ∃ name : String, key = name := ⟨_, (ofString_stringOf named).symm⟩
        exact ⟨_, elements_cons_of named first later⟩
      · rw [Value.itemsHaveDistinctKeys, distinct, others]
        rfl
      · rw [itemsAreReadable, taken, readable, readables]
        rfl

theorem isEntryWrittenAndRead_list_iff {items : List Value} (isChild : isChildKey key = true) :
    IsEntryWrittenAndRead key (.list items) ↔ ItemsAreWrittenAndRead key items := by
  obtain ⟨noText, noAttribute⟩ := isChildKey_eq_true_iff.1 isChild
  have names : areReadable [(key, .list items)] = itemsAreReadable key items := by
    simp [areReadable, isChild]
  constructor
  · rintro ⟨written, distinct, readable⟩
    obtain ⟨_, added⟩ := written Parts.empty
    cases added with
    | setText isText => exact absurd isText noText
    | putAttribute _ isAttribute => simp [noAttribute] at isAttribute
    | addItems _ _ made => exact ⟨⟨_, made⟩, distinct, names ▸ readable⟩
    | addChild _ _ single => exact absurd rfl (single items)
  · rintro ⟨⟨made, written⟩, distinct, readable⟩
    exact ⟨fun _ => ⟨_, .addItems noText noAttribute written⟩, distinct, names ▸ readable⟩

/-- The value of an attribute is written as a text. -/
theorem IsEntryWrittenAndRead.attribute (settled : IsEntryWrittenAndRead key value)
    (isAttribute : isAttributeKey key = true) :
    IsEntryWrittenAndRead key (.text (stringOf value.plainText)) := by
  have other : isChildKey key = false := by simp [isChildKey, isAttribute]
  obtain ⟨_, added⟩ := settled.written Parts.empty
  have readable := settled.readable
  rw [areReadable_beside other] at readable
  cases added with
  | setText isText => exact absurd isText (ne_textKey_of_isAttributeKey isAttribute)
  | addItems _ noAttribute => simp [isAttribute] at noAttribute
  | addChild _ noAttribute => simp [isAttribute] at noAttribute
  | putAttribute noText _ spelled named given =>
    have plain : value.plainText.hasSurrogate = false := by
      rw [isReadableBeside, if_neg noText] at readable
      exact (isReadableAttribute_iff.1 (Bool.and_eq_true_iff.1 readable).1).2.1
    rw [stringOf, Text.ofString_ofList_chars plain]
    refine ⟨fun _ => ⟨_, .putAttribute noText isAttribute spelled named (hasText_text given.clean)⟩, rfl, ?_⟩
    rw [areReadable_beside other]
    exact readable

theorem isEntryWrittenAndRead_text {s : Text} (held : isDocumentText s = true) :
    IsEntryWrittenAndRead textKey (.text s) := by
  obtain ⟨plain, clean⟩ := isDocumentText_iff.1 held
  refine ⟨fun _ => ⟨_, .setText rfl (hasText_text clean)⟩, rfl, ?_⟩
  rw [areReadable_beside (by decide)]
  simp [isReadableBeside, Value.plainText, plain, areReadable]

/-! ### Normal forms -/

theorem normalChildren_single_eq (key : Text) (value : Value) :
    normalChildren [(key, value)] = [] ∨
      isChildKey key = true ∧ normalChildren [(key, value)] = [(key, normalChild value)] := by
  cases isChild : isChildKey key with
  | false => exact .inl (normalChildren_of_not_isChildKey isChild)
  | true =>
    by_cases empty : value = .list []
    · subst empty
      rw [normalChildren_list, if_pos isChild]
      exact .inl rfl
    · exact .inr ⟨rfl, normalChildren_child isChild empty⟩

theorem mem_normalChildren (member : (key, value) ∈ normalChildren entries) :
    ∃ written, (key, written) ∈ entries ∧ isChildKey key = true ∧ value = normalChild written := by
  induction entries with
  | nil => cases member
  | cons entry rest ih =>
    obtain ⟨first, current⟩ := entry
    rw [normalChildren_cons, List.mem_append] at member
    rcases member with here | later
    · rcases normalChildren_single_eq first current with none | ⟨isChild, single⟩
      · rw [none] at here
        cases here
      · rw [single, List.mem_singleton] at here
        cases here
        exact ⟨current, List.mem_cons_self, isChild, rfl⟩
    · obtain ⟨written, member, found⟩ := ih later
      exact ⟨written, List.mem_cons_of_mem _ member, found⟩

theorem keys_normalChildren_sublist (entries : Entries Text Value) :
    List.Sublist (Entries.keys (normalChildren entries)) entries.keys := by
  induction entries with
  | nil => exact .slnil
  | cons entry rest ih =>
    obtain ⟨key, value⟩ := entry
    rw [normalChildren_cons, Entries.keys_append, Entries.keys_cons]
    rcases normalChildren_single_eq key value with none | ⟨_, single⟩
    · rw [none]
      exact ih.cons key
    · rw [single]
      exact ih.cons_cons key

theorem keys_normalAttributes_sublist (entries : Entries Text Value) :
    List.Sublist (Entries.keys (normalAttributes entries)) entries.keys := by
  rw [normalAttributes, Entries.keys, List.map_map]
  exact List.filter_sublist.map Prod.fst

theorem nodup_keys_readInside (distinct : entries.keys.Nodup) : (readInside entries).keys.Nodup := by
  rw [readInside, Entries.keys_append, List.nodup_append]
  refine ⟨(keys_normalAttributes_sublist entries).nodup distinct,
    (keys_normalChildren_sublist entries).nodup distinct, ?_⟩
  rintro key first _ second rfl
  have isChild := (mem_keys_normalChildren second).2
  simp [isChildKey, (mem_keys_normalAttributes first).2.1] at isChild

theorem mem_normalAttributes (member : (key, value) ∈ normalAttributes entries) :
    ∃ written, (key, written) ∈ entries ∧ isAttributeKey key = true ∧
      value = .text (stringOf written.plainText) := by
  obtain ⟨⟨_, written⟩, kept, same⟩ := List.mem_map.1 member
  cases same
  obtain ⟨found, passed⟩ := List.mem_filter.1 kept
  exact ⟨written, found, (Bool.and_eq_true_iff.1 passed).1, rfl⟩

/-- What is read for all children of one name can be written, if what is read for each of them can. -/
theorem IsEntryWrittenAndRead.normalChild (settled : IsEntryWrittenAndRead key value)
    (isChild : isChildKey key = true)
    (single : IsWrittenAndRead value → IsWrittenAndRead (normal value))
    (several : ∀ items, value = .list items → ∀ item ∈ items,
      IsWrittenAndRead item → IsWrittenAndRead (normal item)) :
    IsEntryWrittenAndRead key (normalChild value) := by
  have child {value : Value} (safe : IsSafeName key) (inside : IsWrittenAndRead (normal value)) :
      IsEntryWrittenAndRead key (normal value) :=
    (isEntryWrittenAndRead_child_iff isChild (normal_ne_list value)).2 ⟨safe, inside⟩
  by_cases list : ∃ items, value = .list items
  · obtain ⟨items, rfl⟩ := list
    have each := itemsAreWrittenAndRead_iff.1 ((isEntryWrittenAndRead_list_iff isChild).1 settled)
    have inside : ∀ item ∈ items, IsSafeName key ∧ IsWrittenAndRead (normal item) :=
      fun item member => ⟨(each item member).1, several items rfl item member (each item member).2⟩
    rcases items with _ | ⟨first, _ | ⟨second, rest⟩⟩
    · exact settled
    · obtain ⟨safe, settled⟩ := inside first List.mem_cons_self
      exact child safe settled
    · rw [normalChild_of_several (Nat.le_add_left 2 _), normalItems_eq_map,
        isEntryWrittenAndRead_list_iff isChild, itemsAreWrittenAndRead_iff]
      exact List.forall_mem_map.2 inside
  · have noList := not_exists.1 list
    obtain ⟨safe, written⟩ := (isEntryWrittenAndRead_child_iff isChild noList).1 settled
    rw [normalChild_of_single noList]
    exact child safe (single written)

theorem isClean_textOf (each : ∀ key value, (key, value) ∈ entries → IsEntryWrittenAndRead key value) :
    IsClean (textOf entries).chars := by
  rw [textOf]
  cases found : entries.get? textKey with
  | none => exact IsClean.nil
  | some value =>
    obtain ⟨_, added⟩ := (each _ _ (Entries.mem_of_get? found)).written Parts.empty
    cases added with
    | setText _ given => exact given.clean
    | putAttribute noText | addItems noText | addChild noText => exact absurd rfl noText

/-- A table can be written as it is read, if its children can. -/
theorem isWrittenAndRead_normal_table (settled : IsWrittenAndRead (.table entries))
    (children : ∀ key value, (key, value) ∈ entries → IsEntryWrittenAndRead key value →
      isChildKey key = true → IsEntryWrittenAndRead key (normalChild value)) :
    IsWrittenAndRead (normal (.table entries)) := by
  obtain ⟨distinct, each⟩ := isWrittenAndRead_table_iff.1 settled
  have held := isDocumentText_normalText (isClean_textOf each)
  rw [normal_table, ofInside]
  split
  next => exact isWrittenAndRead_text held
  next =>
    -- The entries that are read are attributes, children and the text, each from one that was written.
    refine isWrittenAndRead_table_iff.2 ⟨?_, fun key value member => ?_⟩
    · have inside := nodup_keys_readInside distinct
      unfold addText
      split
      next => exact inside
      next => exact Entries.nodup_keys_put inside
    · rw [addText_eq_append (not_mem_readInside entries), readInside, List.append_assoc] at member
      rcases List.mem_append.1 member with inAttributes | member
      · obtain ⟨written, found, isAttribute, rfl⟩ := mem_normalAttributes inAttributes
        exact (each key written found).attribute isAttribute
      · rcases List.mem_append.1 member with inChildren | inText
        · obtain ⟨written, found, isChild, rfl⟩ := mem_normalChildren inChildren
          exact children key written found (each key written found) isChild
        · obtain ⟨rfl, rfl⟩ := mem_addText_nil inText
          exact isEntryWrittenAndRead_text held

/-- What can be written and is read again can be so as it is read. -/
theorem IsWrittenAndRead.normal {value : Value} (settled : IsWrittenAndRead value) :
    IsWrittenAndRead (normal value) := by
  match value with
  | .table entries =>
    refine isWrittenAndRead_normal_table settled fun key value member settled isChild => ?_
    have smaller := Value.sizeOf_lt_of_entry member
    refine settled.normalChild isChild IsWrittenAndRead.normal fun items same item inside written => ?_
    have smallest : sizeOf item < sizeOf value := same ▸ Value.sizeOf_lt_of_item inside
    exact written.normal
  | .nothing => exact isWrittenAndRead_text rfl
  | .text _ | .flag _ | .integer _ | .real _ | .list _ | .record _ _ =>
    obtain ⟨made, written⟩ := settled.written
    rcases parts_eq_ok written (by simp) with ⟨nothing, _⟩ | ⟨_, given, _⟩
    · cases nothing
    · exact isWrittenAndRead_text (isDocumentText_normalText given.clean)
termination_by sizeOf value
decreasing_by
  · exact smaller
  · exact smallest.trans smaller

end Rewritten

/-! ## There and back again -/

/-- Whether settings are written, under the name of a root element, and read as others. -/
def IsReadAs (root : Text) (written read : Entries Text Value) : Prop :=
  ∃ text, toDocument root defaultStep (.table written) = .ok text ∧
    (Document.bytes text.toByteArray).root.map ofRoot = .ok (.table [(root, .table read)])

section Reread

variable {root : Text} {written read : Entries Text Value}

theorem IsReadAs.unique {other : Entries Text Value} (first : IsReadAs root written read)
    (second : IsReadAs root written other) : other = read := by
  obtain ⟨text, made, found⟩ := first
  obtain ⟨again, remade, refound⟩ := second
  cases made.symm.trans remade
  cases found.symm.trans refound
  rfl

theorem isName_of_toDocument {step : Text} {text : String} {value : Value}
    (made : toDocument root step value = .ok text) : isName root = true := by
  obtain ⟨element, built, _⟩ := bind_eq_ok.1 made
  obtain ⟨name, named, _⟩ := bind_eq_ok.1 built
  exact (checkName_eq_ok_iff.1 named).1

/-- What is read is the normal form of what was written, where that can be written and read at all. -/
theorem isReadAs_iff (distinct : (Value.table written).hasDistinctKeys = true) :
    IsReadAs root written read ↔ IsSafeName root ∧ IsWrittenAndRead (.table written) ∧
      normal (.table written) = .table read := by
  constructor
  · rintro ⟨text, made, found⟩
    have readable := (read_written_iff made distinct).1.1 ⟨_, found⟩
    have again := found.symm.trans (read_written made distinct (by decide) readable)
    simp only [Except.ok.injEq, Value.table.injEq, List.cons.injEq, Prod.mk.injEq] at again
    obtain ⟨_, inner, _, built, _⟩ := toDocument_eq_ok made
    exact ⟨⟨isName_of_toDocument made, readable.1⟩, ⟨⟨inner, built⟩, distinct, readable.2⟩, again.1.2.symm⟩
  · rintro ⟨⟨named, taken⟩, ⟨⟨made, built⟩, _, readable⟩, normal⟩
    obtain ⟨name, rfl⟩ : ∃ name : String, root = name := ⟨_, (ofString_stringOf named).symm⟩
    have rewritten := toDocument_of_parts named built defaultStep
    exact ⟨_, rewritten, normal ▸ read_written rewritten distinct (by decide) ⟨taken, readable⟩⟩

/-- What is read of settings that were written is written and read as the same settings, however
    often. -/
theorem reread_fixed (distinct : (Value.table written).hasDistinctKeys = true)
    (first : IsReadAs root written read) :
    IsReadAs root read read ∧
      ∀ later, Relation.ReflTransGen (IsReadAs root) read later → later = read := by
  obtain ⟨named, settled, normal⟩ := (isReadAs_iff distinct).1 first
  have again : IsWrittenAndRead (.table read) := normal ▸ settled.normal
  have fixed : Settings.normal (.table read) = .table read := normal ▸ normal_normal (.table written)
  have kept : IsReadAs root read read := (isReadAs_iff again.distinct).2 ⟨named, again, fixed⟩
  refine ⟨kept, fun later passes => ?_⟩
  induction passes with
  | refl => rfl
  | tail _ pass ih =>
    subst ih
    exact kept.unique pass

theorem reread_fixed_mixed : ∃ written read : Entries Text Value,
    written = ([("-xmlns", .text "urn:x"), ("ключ", .list [.text " a\r\nb "]), ("none", .list []),
      ("l", .list [.flag true, .nothing, .list [.text "x"]]), ("-é", .text "\r 1"),
      ("#text", .text "\u00a0t\r")] : Entries Text Value) ∧
    read = ([("-é", .text "\r 1"), ("ключ", .text "a\nb"),
      ("l", .list [.text "True", .text "", .text "['x']"]), ("#text", .text "t")] : Entries Text Value) ∧
    (Value.table written).hasDistinctKeys = true ∧ IsReadAs "config" written read ∧
    IsReadAs "config" read read ∧
      ∀ later, Relation.ReflTransGen (IsReadAs "config") read later → later = read := by
  refine ⟨_, _, rfl, rfl, ?distinct, ?first, reread_fixed ?distinct ?first⟩
  case distinct => decide
  case first =>
    refine (isReadAs_iff ?_).2 ⟨⟨?_, ?_⟩, ⟨⟨_, rfl⟩, ?_, ?_⟩, rfl⟩ <;> decide

end Reread

end XmlSettings.Settings
