import Mathlib.Data.List.Nodup
import XmlSettings.Proofs.Settings.Written
import XmlSettings.Proofs.Text.Strip
import XmlSettings.Settings.OfElement

/-! # The normal form of settings

Writing settings and reading them back gives their normal form: texts without the blanks around them
and with line feeds for line ends, lists only where they hold several items, tables only where they
hold more than a text.  The proof runs through the entries of a table in the order in which they are
written (`addAll_of_addEntries`), with the readings of the children so far as its invariant.
-/

namespace XmlSettings

/-! ## Tables with distinct keys -/

mutual

/-- Whether the keys of every table in a value are distinct. -/
def Value.hasDistinctKeys : Value → Bool
  | .table entries => decide (Entries.keys entries).Nodup && Value.haveDistinctKeys entries
  | .list items => Value.itemsHaveDistinctKeys items
  | _ => true
termination_by structural value => value

/-- Whether the keys of every table in the values of entries are distinct. -/
def Value.haveDistinctKeys : List (Text × Value) → Bool
  | [] => true
  | (_, value) :: rest => Value.hasDistinctKeys value && Value.haveDistinctKeys rest
termination_by structural entries => entries

/-- Whether the keys of every table in some items are distinct. -/
def Value.itemsHaveDistinctKeys : List Value → Bool
  | [] => true
  | item :: rest => Value.hasDistinctKeys item && Value.itemsHaveDistinctKeys rest
termination_by structural items => items

end

namespace Settings

open XmlSettings.Xml (Element lineFeeds)
open XmlSettings.Text (isBlank isBlankRune strip)

/-! ## Normal forms -/

/-- A text without the blanks around it, every line end a line feed. -/
def normalText (s : Text) : Text := strip (String.ofList (lineFeeds s.chars))

/-- The key of the attribute that sets a namespace. -/
def bindingKey : Text := attributeMark ++ Xml.bindingName

/-- The attributes among entries; the one that sets a namespace is not read as one. -/
def normalAttributes (entries : Entries Text Value) : Entries Text Value :=
  (entries.filter fun entry => isAttributeKey entry.1 && entry.1 != bindingKey).map
    fun (key, value) => (key, .text (stringOf value.plainText))

/-- The text among entries. -/
def textOf (entries : Entries Text Value) : Text :=
  ((entries.get? textKey).map Value.plainText).getD ""

/-- The table of what stands inside an element, or only its text if there is nothing else. -/
def ofInside (inside : Entries Text Value) (text : Text) : Value :=
  if inside.isEmpty then .text text else .table (addText inside text)

/-- The entry for the children of one name. -/
def grouped (key : Text) : List Value → Entries Text Value
  | [] => []
  | [single] => [(key, single)]
  | several => [(key, .list several)]

/-- Whether a key is that of children. -/
def isChildKey (key : Text) : Bool := key != textKey && !isAttributeKey key

theorem isChildKey_eq_true_iff {key : Text} :
    isChildKey key = true ↔ key ≠ textKey ∧ isAttributeKey key = false := by
  simp [isChildKey]

mutual

/-- The value that is read where one was written. -/
def normal : Value → Value
  | .table entries =>
    ofInside (normalAttributes entries ++ normalChildren entries) (normalText (textOf entries))
  | .nothing => .text ""
  | value => .text (normalText value.plainText)
termination_by structural value => value

/-- The entries that are read for the children among entries. -/
def normalChildren : List (Text × Value) → Entries Text Value
  | [] => []
  | (key, .list items) :: rest =>
    (if isChildKey key then grouped key (normalItems items) else []) ++ normalChildren rest
  | (key, value) :: rest =>
    (if isChildKey key then [(key, normal value)] else []) ++ normalChildren rest
termination_by structural entries => entries

/-- The values that are read for the items of a list. -/
def normalItems : List Value → List Value
  | [] => []
  | item :: rest => normal item :: normalItems rest
termination_by structural items => items

end

/-! ## Blank texts -/

theorem isBlank_toChar {c : Rune} (blank : isBlankRune c = true) : isBlank c.toChar = true := by
  cases c with
  | char c => exact blank
  | surrogate n => cases Xml.Writer.isSurrogate_of_isBlankRune blank

theorem isBlank_lineFeeds {cs : List Char} (blank : ∀ c ∈ cs, isBlank c = true) :
    ∀ c ∈ lineFeeds cs, isBlank c = true := by
  fun_induction lineFeeds cs with
  | case1 => simp
  | case2 rest ih =>
    have later := List.forall_mem_cons.1 (List.forall_mem_cons.1 blank).2
    exact List.forall_mem_cons.2 ⟨later.1, ih later.2⟩
  | case3 c rest _ ih =>
    obtain ⟨first, more⟩ := List.forall_mem_cons.1 blank
    refine List.forall_mem_cons.2 ⟨?_, ih more⟩
    split
    · decide
    · exact first

theorem strip_rereadText_of_blank {cs : List Rune} (blank : ∀ c ∈ cs, isBlankRune c = true) :
    strip (Element.rereadText cs) = "" := by
  have chars : ∀ c ∈ cs.map (·.toChar), isBlank c = true := by
    intro c member
    obtain ⟨rune, inside, rfl⟩ := List.mem_map.1 member
    exact isBlank_toChar (blank rune inside)
  rw [Element.rereadText, Text.strip_ofString, String.toList_ofList,
    Text.trimBoth_of_all (isBlank_lineFeeds chars)]

theorem isBlank_lineStart {step : List Rune} (blank : ∀ c ∈ step, isBlankRune c = true) (depth : Nat) :
    ∀ c ∈ Xml.Writer.lineStart step depth, isBlankRune c = true := by
  refine List.forall_mem_cons.2 ⟨by decide, ?_⟩
  intro c member
  obtain ⟨_, again, inside⟩ := List.mem_flatten.1 member
  exact blank c (List.eq_of_mem_replicate again ▸ inside)

/-- What is put in front of children is blank, so that the text there is read as it would be without
    them. -/
theorem strip_front {step : List Rune} (blank : ∀ c ∈ step, isBlankRune c = true) (depth : Nat)
    (text : Text) (children : List (Element Text × Text)) :
    strip (Element.rereadText (Xml.Writer.front step depth text children)) = normalText text := by
  unfold Xml.Writer.front Xml.Writer.beside
  split
  · rfl
  · split
    next isBlank =>
      rw [strip_rereadText_of_blank (isBlank_lineStart blank _)]
      exact (strip_rereadText_of_blank (List.all_eq_true.1 isBlank)).symm
    next => rfl

/-! ## Children of one name -/

/-- Add the values of several children. -/
def addAll (before : Entries Text Value) (children : List (Text × Value)) : Entries Text Value :=
  children.foldl (fun entries (name, value) => addChild entries name value) before

theorem addAll_cons (before : Entries Text Value) (key : Text) (value : Value)
    (rest : List (Text × Value)) :
    addAll before ((key, value) :: rest) = addAll (addChild before key value) rest := rfl

theorem addAll_append (before : Entries Text Value) (first second : List (Text × Value)) :
    addAll before (first ++ second) = addAll (addAll before first) second := List.foldl_append

theorem ofChildren_eq_addAll (before : Entries Text Value) (children : List (Element String × String)) :
    ofChildren before children =
      addAll before (children.map fun (child, _) => ((child.name : Text), ofElement child)) := by
  induction children generalizing before with
  | nil => rw [ofChildren]; rfl
  | cons first rest ih =>
    obtain ⟨child, behind⟩ := first
    rw [ofChildren, ih]
    rfl

theorem addChild_ne_nil (before : Entries Text Value) (name : Text) (value : Value) :
    addChild before name value ≠ [] := by
  have nonempty : ∀ value, Entries.put name value before ≠ [] := by
    intro value
    cases before with
    | nil => simp [Entries.put]
    | cons entry rest =>
      obtain ⟨old, current⟩ := entry
      rw [Entries.put]
      split <;> simp
  unfold addChild
  split <;> exact nonempty _

theorem addAll_ne_nil {before : Entries Text Value} (children : List (Text × Value)) (some : before ≠ []) :
    addAll before children ≠ [] := by
  induction children generalizing before with
  | nil => exact some
  | cons child rest ih => exact ih (addChild_ne_nil _ _ _)

variable {before : Entries Text Value} {key : Text}

theorem addChild_of_not_mem (new : key ∉ before.keys) (value : Value) :
    addChild before key value = before ++ [(key, value)] := by
  rw [addChild, Entries.get?_eq_none_iff.2 new]
  exact Entries.put_of_not_mem new

theorem get?_last (new : key ∉ before.keys) (value : Value) :
    Entries.get? (before ++ [(key, value)]) key = some value := by
  rw [Entries.get?_append, Entries.get?_eq_none_iff.2 new]
  simp [Entries.get?]

/-- Further children of a name go on its list. -/
theorem addAll_list (new : key ∉ before.keys) (items values : List Value) :
    addAll (before ++ [(key, .list items)]) (values.map fun value => (key, value)) =
      before ++ [(key, .list (items ++ values))] := by
  induction values generalizing items with
  | nil => simp [addAll]
  | cons value rest ih =>
    have added : addChild (before ++ [(key, .list items)]) key value =
        before ++ [(key, .list (items ++ [value]))] := by
      rw [addChild, get?_last new]
      exact Entries.put_last new _
    rw [List.map_cons, addAll_cons, added, ih]
    simp

theorem addAll_grouped (new : key ∉ before.keys) {values : List Value}
    (single : ∀ value ∈ values, ∀ items, value ≠ .list items) :
    addAll before (values.map fun value => (key, value)) = before ++ grouped key values := by
  match values with
  | [] => simp [addAll, grouped]
  | [value] => exact addChild_of_not_mem new value
  | first :: second :: rest =>
    have added : addChild (before ++ [(key, first)]) key second =
        before ++ [(key, .list [first, second])] := by
      rw [addChild, get?_last new]
      -- The second child makes a list of the first one, unless that is a list already.
      have := single first List.mem_cons_self
      split
      next => simp_all
      next => simp_all
      next found =>
        cases found
        exact Entries.put_last new _
    rw [List.map_cons, List.map_cons, addAll_cons, addAll_cons, addChild_of_not_mem new, added,
      addAll_list new]
    rfl

/-! ## What is written of a table -/

/-- The attributes that are written for entries. -/
def writtenAttributes (entries : List (Text × Value)) : Entries String Text :=
  (entries.filter fun entry => isAttributeKey entry.1).map
    fun (key, value) => (stringOf (attributeName key), value.plainText)

theorem writtenAttributes_cons_of_isAttributeKey {key : Text} (isAttribute : isAttributeKey key = true)
    (value : Value) (rest : List (Text × Value)) :
    writtenAttributes ((key, value) :: rest) =
      (stringOf (attributeName key), value.plainText) :: writtenAttributes rest := by
  simp [writtenAttributes, isAttribute]

theorem writtenAttributes_cons_of_not {key : Text} (other : isAttributeKey key = false)
    (value : Value) (rest : List (Text × Value)) :
    writtenAttributes ((key, value) :: rest) = writtenAttributes rest := by
  simp [writtenAttributes, other]

theorem ne_textKey_of_isAttributeKey {key : Text} (isAttribute : isAttributeKey key = true) :
    key ≠ textKey := by
  rintro rfl
  exact absurd isAttribute (by decide)

/-- The key of an attribute is its name behind a hyphen. -/
theorem attributeMark_append_attributeName {key : Text} (isAttribute : isAttributeKey key = true) :
    attributeMark ++ attributeName key = key := by
  rw [← Text.toList_inj, Text.toList_append, attributeName, Text.toList_ofList]
  unfold isAttributeKey at isAttribute
  cases chars : key.toList with
  | nil => simp [chars] at isAttribute
  | cons first rest =>
    simp only [chars, List.head?_cons, beq_iff_eq, Option.some.injEq] at isAttribute
    rw [isAttribute]
    rfl

theorem attributeName_inj {first second : Text} (isFirst : isAttributeKey first = true)
    (isSecond : isAttributeKey second = true) (same : attributeName first = attributeName second) :
    first = second := by
  rw [← attributeMark_append_attributeName isFirst, same, attributeMark_append_attributeName isSecond]

theorem attributes_of_addEntries {sofar made : Parts} {entries : List (Text × Value)}
    (h : addEntries sofar entries = .ok made) (distinct : (Entries.keys entries).Nodup)
    (new : ∀ name ∈ sofar.attributes.keys, ∀ key ∈ Entries.keys entries, isAttributeKey key = true →
      attributeName key ≠ name) :
    made.attributes = sofar.attributes ++ writtenAttributes entries := by
  induction entries generalizing sofar with
  | nil =>
    rw [addEntries_nil] at h
    cases h
    simp [writtenAttributes]
  | cons entry rest ih =>
    obtain ⟨key, value⟩ := entry
    obtain ⟨next, added, more⟩ := adds_of_addEntries h
    rw [Entries.keys_cons, List.nodup_cons] at distinct
    have newKey := fun name known => (List.forall_mem_cons.1 (new name known)).1
    have newRest := fun name known => (List.forall_mem_cons.1 (new name known)).2
    cases isAttribute : isAttributeKey key with
    | false =>
      have same : next.attributes = sofar.attributes := by
        cases added <;> simp_all
      rw [ih more distinct.2 (by rwa [same]), same, writtenAttributes_cons_of_not isAttribute]
    | true =>
      obtain ⟨name, spelled, put⟩ : ∃ name : String, attributeName key = name ∧
          next.attributes = sofar.attributes ++ [(name, value.plainText)] := by
        cases added with
        | @putAttribute _ name _ _ spelled =>
          exact ⟨name, spelled, Entries.put_of_not_mem fun known => newKey name known isAttribute spelled⟩
        | setText isText => exact absurd isText (ne_textKey_of_isAttributeKey isAttribute)
        | addItems _ noAttribute => simp [isAttribute] at noAttribute
        | addChild _ noAttribute => simp [isAttribute] at noAttribute
      have newNext : ∀ known ∈ next.attributes.keys, ∀ other ∈ Entries.keys rest,
          isAttributeKey other = true → attributeName other ≠ known := by
        intro known inside other member isOther same
        rw [put, Entries.keys_append, List.mem_append] at inside
        rcases inside with before | last
        · exact newRest known before other member isOther same
        · simp only [Entries.keys_cons, Entries.keys_nil, List.mem_singleton] at last
          subst last
          exact distinct.1 (attributeName_inj isOther isAttribute (same.trans spelled.symm) ▸ member)
      rw [ih more distinct.2 newNext, put, writtenAttributes_cons_of_isAttributeKey isAttribute, spelled]
      simp

theorem text_of_addEntries {sofar made : Parts} {entries : List (Text × Value)}
    (h : addEntries sofar entries = .ok made) (distinct : (Entries.keys entries).Nodup) :
    made.text = ((Entries.get? entries textKey).map Value.plainText).getD sofar.text := by
  induction entries generalizing sofar with
  | nil =>
    rw [addEntries_nil] at h
    cases h
    rfl
  | cons entry rest ih =>
    obtain ⟨key, value⟩ := entry
    obtain ⟨next, added, more⟩ := adds_of_addEntries h
    rw [Entries.keys_cons, List.nodup_cons] at distinct
    rw [ih more distinct.2]
    by_cases isText : key = textKey
    · have unset : Entries.get? rest textKey = none :=
        Entries.get?_eq_none_iff.2 (isText ▸ distinct.1)
      have set : next.text = value.plainText := by
        cases added <;> simp_all [textKey]
      simp [unset, set, Entries.get?, isText]
    · have same : next.text = sofar.text := by
        cases added <;> simp_all
      simp [same, Entries.get?, isText]

/-! ## Reading it back -/

/-- The children that are read where some were written, each with its value. -/
def readings (step : List Rune) (depth : Nat) (children : List (Element Text)) : List (Text × Value) :=
  children.map fun child => ((child.name : Text), ofElement (child.reread step depth))

theorem normal_ne_list (value : Value) (items : List Value) : normal value ≠ .list items := by
  cases value with
  | table entries =>
    rw [normal, ofInside]
    split <;> simp
  | _ => simp [normal]

theorem mem_normalItems {items : List Value} {value : Value} (member : value ∈ normalItems items) :
    ∃ item, value = normal item := by
  induction items with
  | nil => simp [normalItems] at member
  | cons item rest ih =>
    rw [normalItems, List.mem_cons] at member
    rcases member with rfl | member
    · exact ⟨item, rfl⟩
    · exact ih member

theorem rereadAll_map (step : List Rune) (depth : Nat) (children : List (Element Text)) :
    (Element.rereadAll step depth (children.map fun child => (child, ""))).map
        (fun (child, _) => ((child.name : Text), ofElement child)) =
      readings step (depth + 1) children := by
  induction children with
  | nil => rfl
  | cons child rest ih =>
    obtain ⟨name, found, content, inner⟩ := child
    rw [List.map_cons, Element.rereadAll, List.map_cons, ih]
    rfl

theorem ofAttributes_reread {found : Entries String Text} (distinct : found.keys.Nodup) :
    ofAttributes (Element.rereadAttributes found) =
      (Xml.ownAttributes found).map fun (name, value) => (attributeMark ++ name, .text (stringOf value)) := by
  have own : (Entries.keys (Xml.ownAttributes found)).Nodup :=
    (List.filter_sublist.map Prod.fst).nodup distinct
  have keys : Entries.keys ((Xml.ownAttributes found).map
      fun (name, value) => (attributeMark ++ name, Value.text (stringOf value))) =
        (Entries.keys (Xml.ownAttributes found)).map fun name : String => attributeMark ++ name := by
    simp [Entries.keys]
  rw [ofAttributes, Element.rereadAttributes, List.map_map]
  refine Entries.ofPairs_of_nodup ?_
  refine keys ▸ List.Nodup.map (fun first second same => ?_) own
  exact Text.ofString_inj.1 (Text.append_left_cancel same)

theorem attributeName_eq_bindingName_iff {key : Text} (isAttribute : isAttributeKey key = true) :
    attributeName key = Xml.bindingName ↔ key = bindingKey := by
  constructor
  · intro same
    rw [← attributeMark_append_attributeName isAttribute, same]
    rfl
  · rintro rfl
    rfl

theorem isName_of_addEntries {sofar made : Parts} {entries : List (Text × Value)}
    (h : addEntries sofar entries = .ok made) : ∀ key ∈ Entries.keys entries, isAttributeKey key = true →
      isName (attributeName key) = true := by
  induction entries generalizing sofar with
  | nil => exact nofun
  | cons entry rest ih =>
    obtain ⟨key, value⟩ := entry
    obtain ⟨next, added, more⟩ := adds_of_addEntries h
    refine List.forall_mem_cons.2 ⟨fun isAttribute => ?_, ih more⟩
    cases added with
    | putAttribute _ _ spelled named => exact spelled ▸ named
    | setText isText => exact absurd isText (ne_textKey_of_isAttributeKey isAttribute)
    | addItems _ noAttribute => simp [isAttribute] at noAttribute
    | addChild _ noAttribute => simp [isAttribute] at noAttribute

theorem normalAttributes_eq_map {entries : List (Text × Value)}
    (named : ∀ key ∈ Entries.keys entries, isAttributeKey key = true → isName (attributeName key) = true) :
    (Xml.ownAttributes (writtenAttributes entries)).map
        (fun (name, value) => (attributeMark ++ name, Value.text (stringOf value))) =
      normalAttributes entries := by
  induction entries with
  | nil => rfl
  | cons entry rest ih =>
    obtain ⟨key, value⟩ := entry
    obtain ⟨first, more⟩ := List.forall_mem_cons.1 named
    cases isAttribute : isAttributeKey key with
    | false => simpa [writtenAttributes, normalAttributes, isAttribute] using ih more
    | true =>
      have spelled := ofString_stringOf (first isAttribute)
      have binding : stringOf (attributeName key) = Xml.bindingName ↔ key = bindingKey := by
        rw [← Text.ofString_inj, spelled, attributeName_eq_bindingName_iff isAttribute]
      have key' := attributeMark_append_attributeName isAttribute
      by_cases isBinding : key = bindingKey
      · subst isBinding
        simpa [writtenAttributes, normalAttributes, Xml.ownAttributes, isAttribute, binding.2 rfl]
          using ih more
      · have other := mt binding.1 isBinding
        simpa [writtenAttributes, normalAttributes, Xml.ownAttributes, isAttribute, isBinding, other,
          spelled, key'] using ih more

/-- The value of an element that was written, by its parts. -/
theorem ofElement_reread (made : Parts) {step : List Rune}
    (blank : ∀ c ∈ step, isBlankRune c = true) (name : String) (depth : Nat) :
    ofElement ((made.element name).reread step depth) =
      if made.children.isEmpty ∧ (Xml.ownAttributes made.attributes).isEmpty then
        .text (normalText made.text)
      else
        .table (addText (addAll (ofAttributes (Element.rereadAttributes made.attributes))
          (readings step (depth + 1) made.children)) (normalText made.text)) := by
  have empty : (Element.rereadAll step depth (made.children.map fun child => (child, ""))).isEmpty =
      made.children.isEmpty := by
    cases made.children with
    | nil => rfl
    | cons child rest => rfl
  rw [Parts.element, Element.reread, ofElement, strip_front blank, ofChildren_eq_addAll, rereadAll_map,
    empty, Element.rereadAttributes, List.isEmpty_map]

theorem normal_of_scalar {value : Value} (noTable : ∀ entries, value ≠ .table entries)
    (some : value ≠ .nothing) : normal value = .text (normalText value.plainText) := by
  cases value with
  | table entries => exact absurd rfl (noTable entries)
  | nothing => exact absurd rfl some
  | _ => rfl

theorem normalChildren_cons (key : Text) (value : Value) (rest : List (Text × Value)) :
    normalChildren ((key, value) :: rest) = normalChildren [(key, value)] ++ normalChildren rest := by
  cases value <;> simp [normalChildren]

theorem normalChildren_list (key : Text) (items : List Value) :
    normalChildren [(key, .list items)] =
      if isChildKey key then grouped key (normalItems items) else [] := by
  simp [normalChildren]

theorem normalChildren_single {key : Text} {value : Value} (single : ∀ items, value ≠ .list items) :
    normalChildren [(key, value)] = if isChildKey key then [(key, normal value)] else [] := by
  cases value with
  | list items => exact absurd rfl (single items)
  | _ => simp [normalChildren]

theorem normalChildren_of_not_isChildKey {key : Text} {value : Value}
    (other : isChildKey key = false) : normalChildren [(key, value)] = [] := by
  cases value <;> simp [normalChildren, other]

/-- The value that is read for all children of one name. -/
def normalChild : Value → Value
  | .list [single] => normal single
  | .list items => .list (normalItems items)
  | value => normal value

theorem normalChild_of_single {value : Value} (single : ∀ items, value ≠ .list items) :
    normalChild value = normal value := by
  cases value with
  | list items => exact absurd rfl (single items)
  | _ => rfl

theorem normalChild_of_several {items : List Value} (several : 2 ≤ items.length) :
    normalChild (.list items) = .list (normalItems items) := by
  match items with
  | [] => simp at several
  | [_] => simp at several
  | _ :: _ :: _ => rfl

theorem normalChildren_child {key : Text} {value : Value} (isChild : isChildKey key = true)
    (filled : value ≠ .list []) : normalChildren [(key, value)] = [(key, normalChild value)] := by
  by_cases list : ∃ items, value = .list items
  · obtain ⟨items, rfl⟩ := list
    rw [normalChildren_list, if_pos isChild]
    match items with
    | [] => exact absurd rfl filled
    | [_] => rfl
    | _ :: _ :: _ => rfl
  · have single := not_exists.1 list
    rw [normalChildren_single single, if_pos isChild, normalChild_of_single single]

/-- Where there are children only, they are all that is read. -/
theorem normal_of_children {entries : List (Text × Value)}
    (children : ∀ key ∈ Entries.keys entries, isChildKey key = true)
    (filled : normalChildren entries ≠ []) : normal (.table entries) = .table (normalChildren entries) := by
  have noAttributes : normalAttributes entries = [] := by
    refine List.map_eq_nil_iff.2 (List.filter_eq_nil_iff.2 fun entry member => ?_)
    have isChild := children entry.1 (List.mem_map.2 ⟨entry, member, rfl⟩)
    simp [(isChildKey_eq_true_iff.1 isChild).2]
  have noText : textOf entries = "" := by
    have unset : Entries.get? entries textKey = none :=
      Entries.get?_eq_none_iff.2 fun member => absurd (children textKey member) (by decide)
    rw [textOf, unset]
    rfl
  rw [normal, noAttributes, noText, List.nil_append, ofInside, if_neg (by simpa using filled)]
  rfl

theorem not_mem_normalAttributes {entries : List (Text × Value)} {key : Text}
    (isChild : isChildKey key = true) : key ∉ Entries.keys (normalAttributes entries) := by
  intro member
  simp only [isChildKey, Bool.and_eq_true, Bool.not_eq_true'] at isChild
  obtain ⟨_, inside, rfl⟩ := List.mem_map.1 member
  obtain ⟨entry, kept, rfl⟩ := List.mem_map.1 inside
  have := (List.mem_filter.1 kept).2
  simp [isChild.2] at this

theorem keys_grouped (key : Text) (values : List Value) :
    ∀ known ∈ Entries.keys (grouped key values), known = key := by
  intro known member
  match values with
  | [] => cases member
  | [_] => simpa [grouped] using member
  | _ :: _ :: _ => simpa [grouped] using member

theorem keys_normalChildren_single {key : Text} {value : Value} :
    ∀ known ∈ Entries.keys (normalChildren [(key, value)]), known = key ∧ isChildKey key = true := by
  intro known member
  cases isChild : isChildKey key with
  | false =>
    rw [normalChildren_of_not_isChildKey isChild] at member
    cases member
  | true =>
    refine ⟨?_, rfl⟩
    by_cases list : ∃ items, value = .list items
    · obtain ⟨items, rfl⟩ := list
      rw [normalChildren_list, if_pos isChild] at member
      exact keys_grouped key _ known member
    · rw [normalChildren_single (not_exists.1 list), if_pos isChild] at member
      simpa using member

theorem isEmpty_addAll (children : List (Text × Value)) :
    (addAll [] children).isEmpty = children.isEmpty := by
  cases children with
  | nil => rfl
  | cons child rest =>
    have some := addAll_ne_nil rest (addChild_ne_nil [] child.1 child.2)
    simp only [List.isEmpty_cons, List.isEmpty_eq_false_iff]
    exact some

/-- What is written beside the children. -/
theorem beside_of_addEntries {made : Parts} {entries : List (Text × Value)}
    (h : addEntries .empty entries = .ok made) (keys : (Entries.keys entries).Nodup) :
    made.attributes = writtenAttributes entries ∧ made.text = textOf entries :=
  ⟨attributes_of_addEntries h keys (by simp [Parts.empty]), text_of_addEntries h keys⟩

mutual

theorem ofElement_of_parts {value : Value} {made : Parts} (h : parts value = .ok made)
    (distinct : value.hasDistinctKeys = true) {step : List Rune}
    (blank : ∀ c ∈ step, isBlankRune c = true) (name : String) (depth : Nat) :
    ofElement ((made.element name).reread step depth) = normal value := by
  cases value with
  | table entries =>
    rw [parts_table] at h
    simp only [Value.hasDistinctKeys, Bool.and_eq_true, decide_eq_true_eq] at distinct
    obtain ⟨attributes, text⟩ := beside_of_addEntries h distinct.1
    have distinctNames := (areWritable_of_addEntries h .empty).distinct
    have own := normalAttributes_eq_map (isName_of_addEntries h)
    rw [attributes] at distinctNames
    -- Children are read twice: behind the attributes, and alone to tell whether there are any.
    obtain ⟨_, rfl, read⟩ := addAll_of_addEntries h distinct.1 distinct.2 blank (depth + 1)
      (normalAttributes entries) fun _ _ => not_mem_normalAttributes
    obtain ⟨_, rfl, alone⟩ := addAll_of_addEntries h distinct.1 distinct.2 blank (depth + 1) []
      fun _ _ _ => List.not_mem_nil
    have noChildren : made.children.isEmpty = (normalChildren entries).isEmpty := by
      rw [← List.nil_append (normalChildren entries), ← alone, isEmpty_addAll]
      exact List.isEmpty_map.symm
    have noAttributes : (Xml.ownAttributes (writtenAttributes entries)).isEmpty =
        (normalAttributes entries).isEmpty := by
      rw [← own, List.isEmpty_map]
    rw [ofElement_reread made blank, attributes, ofAttributes_reread distinctNames, own, read, text,
      noChildren, noAttributes, normal, ofInside]
    simp only [List.isEmpty_iff, List.append_eq_nil_iff, and_comm]
  | _ =>
    rw [ofElement_reread made blank]
    rcases parts_eq_ok h (by simp) with ⟨same, rfl⟩ | ⟨other, clean, rfl⟩
    · cases same <;> rfl
    · rw [normal_of_scalar (by simp) other]
      rfl
termination_by sizeOf value

theorem addAll_of_addEntries {sofar made : Parts} {entries : List (Text × Value)}
    (h : addEntries sofar entries = .ok made) (keys : (Entries.keys entries).Nodup)
    (distinct : Value.haveDistinctKeys entries = true) {step : List Rune}
    (blank : ∀ c ∈ step, isBlankRune c = true) (depth : Nat)
    (before : Entries Text Value)
    (new : ∀ key ∈ Entries.keys entries, isChildKey key = true → key ∉ before.keys) :
    ∃ more, made.children = sofar.children ++ more ∧
      addAll before (readings step depth more) = before ++ normalChildren entries := by
  match entries with
  | [] =>
    rw [addEntries_nil] at h
    cases h
    exact ⟨[], by simp, by simp [readings, addAll, normalChildren]⟩
  | (key, value) :: rest =>
    obtain ⟨next, added, more⟩ := adds_of_addEntries h
    rw [Entries.keys_cons, List.nodup_cons] at keys
    simp only [Value.haveDistinctKeys, Bool.and_eq_true] at distinct
    obtain ⟨newKey, newRest⟩ := List.forall_mem_cons.1 new
    obtain ⟨first, grown, read⟩ : ∃ first, next.children = sofar.children ++ first ∧
        addAll before (readings step depth first) = before ++ normalChildren [(key, value)] := by
      cases added with
      | setText isText =>
        have other : isChildKey key = false := by simp [isChildKey, isText]
        exact ⟨[], by simp, by simp [readings, addAll, normalChildren_of_not_isChildKey other]⟩
      | putAttribute _ isAttribute =>
        have other : isChildKey key = false := by simp [isChildKey, isAttribute]
        exact ⟨[], by simp, by simp [readings, addAll, normalChildren_of_not_isChildKey other]⟩
      | @addItems items children noText noAttribute made =>
        have isChild := isChildKey_eq_true_iff.2 ⟨noText, noAttribute⟩
        have values := readings_of_elements made distinct.1 blank depth
        refine ⟨children, rfl, ?_⟩
        rw [values, addAll_grouped (newKey isChild), normalChildren_list, if_pos isChild]
        intro value member
        obtain ⟨item, rfl⟩ := mem_normalItems member
        exact normal_ne_list item
      | @addChild _ name inner noText noAttribute single spelled named made =>
        have isChild := isChildKey_eq_true_iff.2 ⟨noText, noAttribute⟩
        have value := ofElement_of_parts made distinct.1 blank name depth
        refine ⟨[inner.element name], rfl, ?_⟩
        rw [readings, List.map_singleton, value, normalChildren_single single, if_pos isChild, spelled]
        exact addChild_of_not_mem (spelled ▸ newKey isChild) _
    have newNext : ∀ other ∈ Entries.keys rest, isChildKey other = true →
        other ∉ Entries.keys (before ++ normalChildren [(key, value)]) := by
      intro other member isChild known
      rw [Entries.keys_append, List.mem_append] at known
      rcases known with known | known
      · exact newRest other member isChild known
      · exact keys.1 ((keys_normalChildren_single other known).1 ▸ member)
    obtain ⟨later, grownMore, readMore⟩ :=
      addAll_of_addEntries more keys.2 distinct.2 blank depth _ newNext
    refine ⟨first ++ later, by rw [grownMore, grown, List.append_assoc], ?_⟩
    have parted : readings step depth (first ++ later) =
        readings step depth first ++ readings step depth later := List.map_append
    rw [parted, addAll_append, read, readMore, normalChildren_cons key value rest, List.append_assoc]
termination_by sizeOf entries

theorem readings_of_elements {key : Text} {items : List Value} {made : List (Element Text)}
    (h : elements key items = .ok made) (distinct : Value.itemsHaveDistinctKeys items = true)
    {step : List Rune} (blank : ∀ c ∈ step, isBlankRune c = true) (depth : Nat) :
    readings step depth made = (normalItems items).map fun value => (key, value) := by
  match items with
  | [] =>
    rw [elements_nil] at h
    cases h
    rfl
  | item :: rest =>
    obtain ⟨name, inner, more, rfl, _, first, later, rfl⟩ := elements_eq_ok h
    simp only [Value.itemsHaveDistinctKeys, Bool.and_eq_true] at distinct
    have read := ofElement_of_parts first distinct.1 blank name depth
    have others := readings_of_elements later distinct.2 blank depth
    rw [readings] at others ⊢
    rw [List.map_cons, others, read, normalItems, List.map_cons]
    rfl
termination_by sizeOf items

end

end Settings

end XmlSettings
