import XmlSettings.Proofs.Settings.Expansion

/-! # Settings that are read back as they were

Values of documents are the same if they differ in the order of entries only (`Value.isSame`).  Settings
in their normal form, with the placeholders in it expanded, are the same as before exactly if every
text is its own normal form and no attribute sets a namespace (`isSame_expanded_normal`).
-/

namespace XmlSettings

/-! ## The same value -/

mutual

/-- Whether two values of documents are the same, whatever the order of entries. -/
def Value.isSame : Value → Value → Bool
  | .text s, .text other => s == other
  | .list items, .list others => Value.itemsAreSame items others
  | .table entries, .table others =>
    Value.areFoundIn others entries && others.all fun other => Entries.hasKey entries other.1
  | _, _ => false
termination_by structural value => value

/-- Whether two lists hold the same values, one by one. -/
def Value.itemsAreSame : List Value → List Value → Bool
  | [], [] => true
  | item :: rest, other :: others => Value.isSame item other && Value.itemsAreSame rest others
  | _, _ => false
termination_by structural items => items

/-- Whether every entry has the same value among others. -/
def Value.areFoundIn (others : List (Text × Value)) : List (Text × Value) → Bool
  | [] => true
  | (key, value) :: rest =>
    (match Entries.get? others key with
      | some other => Value.isSame value other
      | none => false) && Value.areFoundIn others rest
termination_by structural entries => entries

end

namespace Settings

open XmlSettings.Xml (isAscii)

/-! ## What is kept -/

mutual

/-- Whether every text in a value is read back as it was, and no attribute sets a namespace. -/
def isKept (env : Environment) : Value → Bool
  | .text s => Placeholder.expanded env (normalText s) == s
  | .list items => itemsAreKept env items
  | .table entries => areKept env entries
  | _ => false
termination_by structural value => value

/-- Whether everything in the items of a list is read back as it was. -/
def itemsAreKept (env : Environment) : List Value → Bool
  | [] => true
  | item :: rest => isKept env item && itemsAreKept env rest
termination_by structural items => items

/-- Whether everything in entries is read back as it was. -/
def areKept (env : Environment) : List (Text × Value) → Bool
  | [] => true
  | (key, value) :: rest =>
    (if isAttributeKey key then key != bindingKey else isKept env value) && areKept env rest
termination_by structural entries => entries

end

/-- Whether a text is no placeholder. -/
def isUnbraced (s : Text) : Bool := (Placeholder.body? s).isNone

/-- What is known of keys of settings that may be saved. -/
def IsPlainKey (key : Text) : Prop := IsReadKey key ∧ isAscii (stringOf key) = true

/-- What is known of texts of settings that may be saved. -/
def IsPlainText (key s : Text) : Prop := IsReadText key s ∧ isUnbraced s = true

theorem expanded_of_isUnbraced {s : Text} (unbraced : isUnbraced s = true) (env : Environment) :
    Placeholder.expanded env s = s :=
  Placeholder.expanded_of_expand (by rw [Placeholder.expand, Option.isNone_iff_eq_none.1 unbraced])

section Expand

variable {env : Environment} {ofKey : Text → Bool}

mutual

/-- A value without placeholders stands for itself. -/
theorem expanded_of_all {value : Value} (plain : value.all ofKey isUnbraced = true) :
    value.expanded env = value := by
  match value with
  | .text s => exact congrArg Value.text (expanded_of_isUnbraced plain env)
  | .list items => exact congrArg Value.list (expandedItems_of_all plain)
  | .table entries => exact congrArg Value.table (expandedEntries_of_all plain)
  | .flag _ | .nothing | .integer _ | .real _ | .record _ _ => rfl
termination_by sizeOf value

theorem expandedItems_of_all {items : List Value}
    (plain : Value.allItems ofKey isUnbraced items = true) : Value.expandedItems env items = items := by
  match items with
  | [] => rfl
  | item :: rest =>
    rw [Value.allItems, Bool.and_eq_true] at plain
    rw [Value.expandedItems, expanded_of_all plain.1, expandedItems_of_all plain.2]
termination_by sizeOf items

theorem expandedEntries_of_all {entries : List (Text × Value)}
    (plain : Value.allEntries ofKey isUnbraced entries = true) :
    Value.expandedEntries env entries = entries := by
  match entries with
  | [] => rfl
  | (key, value) :: rest =>
    simp only [Value.allEntries, Bool.and_eq_true] at plain
    rw [Value.expandedEntries, expanded_of_all plain.1.2, expandedEntries_of_all plain.2]
termination_by sizeOf entries

end

end Expand

/-! ## Looking up what is read back -/

section LookUp

variable {entries : Entries Text Value} {key : Text} {value : Value}

theorem expandedEntries_eq_map (env : Environment) (entries : Entries Text Value) :
    Value.expandedEntries env entries = entries.map fun (key, value) => (key, value.expanded env) := by
  induction entries with
  | nil => rfl
  | cons entry rest ih => rw [Value.expandedEntries, List.map_cons, ih]

theorem get?_expandedEntries (env : Environment) (entries : Entries Text Value) (key : Text) :
    Entries.get? (Value.expandedEntries env entries) key =
      (entries.get? key).map (Value.expanded env) := by
  rw [expandedEntries_eq_map]
  exact Entries.get?_map (Value.expanded env) entries key

theorem keys_expandedEntries (env : Environment) (entries : Entries Text Value) :
    Entries.keys (Value.expandedEntries env entries) = entries.keys := by
  rw [expandedEntries_eq_map, Entries.keys, List.map_map]
  rfl

theorem get?_addText_of_ne (text : Text) (noText : key ≠ textKey) :
    Entries.get? (addText entries text) key = entries.get? key := by
  unfold addText
  split
  next => rfl
  next => rw [Entries.get?_put, if_neg fun same => noText same.symm]

theorem get?_addText_textKey (text : Text) (new : textKey ∉ entries.keys) :
    Entries.get? (addText entries text) textKey = if text = "" then none else some (.text text) := by
  unfold addText
  split
  next => exact Entries.get?_eq_none_iff.2 new
  next => rw [Entries.get?_put, if_pos rfl]

theorem textOf_of_mem {s : Text} (distinct : entries.keys.Nodup)
    (member : (textKey, .text s) ∈ entries) : textOf entries = s := by
  rw [textOf, Entries.get?_of_mem distinct member]
  rfl

theorem textOf_of_not_mem (new : textKey ∉ entries.keys) : textOf entries = "" := by
  rw [textOf, Entries.get?_eq_none_iff.2 new]
  rfl

theorem mem_keys_normalAttributes (member : key ∈ Entries.keys (normalAttributes entries)) :
    key ∈ entries.keys ∧ isAttributeKey key = true ∧ key ≠ bindingKey := by
  obtain ⟨_, inside, rfl⟩ := List.mem_map.1 member
  obtain ⟨entry, kept, rfl⟩ := List.mem_map.1 inside
  obtain ⟨found, passed⟩ := List.mem_filter.1 kept
  simp only [Bool.and_eq_true, bne_iff_ne] at passed
  exact ⟨List.mem_map.2 ⟨entry, found, rfl⟩, passed⟩

theorem mem_keys_normalChildren (member : key ∈ Entries.keys (normalChildren entries)) :
    key ∈ entries.keys ∧ isChildKey key = true := by
  induction entries with
  | nil => cases member
  | cons entry rest ih =>
    obtain ⟨first, current⟩ := entry
    rw [normalChildren_cons, Entries.keys_append, List.mem_append] at member
    rw [Entries.keys_cons, List.mem_cons]
    rcases member with here | later
    · obtain ⟨same, isChild⟩ := keys_normalChildren_single key here
      exact ⟨.inl same, same ▸ isChild⟩
    · obtain ⟨found, isChild⟩ := ih later
      exact ⟨.inr found, isChild⟩

theorem get?_normalAttributes (distinct : entries.keys.Nodup) (member : (key, value) ∈ entries)
    (isAttribute : isAttributeKey key = true) (noBinding : key ≠ bindingKey) :
    Entries.get? (normalAttributes entries) key = some (.text (stringOf value.plainText)) := by
  have kept : (normalAttributes entries).keys.Nodup := by
    have same : (normalAttributes entries).keys = Entries.keys
        (entries.filter fun entry => isAttributeKey entry.1 && entry.1 != bindingKey) := by
      rw [normalAttributes, Entries.keys, List.map_map]
      rfl
    rw [same]
    exact (List.filter_sublist.map Prod.fst).nodup distinct
  refine Entries.get?_of_mem kept (List.mem_map.2 ⟨(key, value), List.mem_filter.2 ⟨member, ?_⟩, rfl⟩)
  simp [isAttribute, noBinding]

/-- What is read back for children of a name is all that was written under it. -/
theorem get?_normalChildren (distinct : entries.keys.Nodup) (member : (key, value) ∈ entries) :
    Entries.get? (normalChildren entries) key = Entries.get? (normalChildren [(key, value)]) key := by
  induction entries with
  | nil => cases member
  | cons entry rest ih =>
    obtain ⟨first, current⟩ := entry
    rw [Entries.keys_cons, List.nodup_cons] at distinct
    rw [normalChildren_cons, Entries.get?_append]
    cases member with
    | head =>
      have none : Entries.get? (normalChildren rest) key = none := by
        refine Entries.get?_eq_none_iff.2 fun known => ?_
        exact distinct.1 (mem_keys_normalChildren known).1
      rw [none, Option.or_none]
    | tail _ later =>
      have other : Entries.get? (normalChildren [(first, current)]) key = none := by
        refine Entries.get?_eq_none_iff.2 fun known => ?_
        rw [← (keys_normalChildren_single key known).1] at distinct
        exact distinct.1 (List.mem_map.2 ⟨_, later, rfl⟩)
      rw [other, Option.none_or, ih distinct.2 later]

end LookUp

/-! ## Comparing what is read back -/

section Compare

variable {env : Environment} {entries others : Entries Text Value} {key : Text} {value : Value}

/-- Whether a value is found again. -/
def isFoundAs (value : Value) : Option Value → Bool
  | some other => value.isSame other
  | none => false

/-- Whether an entry is read back as it was. -/
def isEntryKept (env : Environment) (key : Text) (value : Value) : Bool :=
  if isAttributeKey key then key != bindingKey else isKept env value

theorem areFoundIn_cons (others : Entries Text Value) (key : Text) (value : Value)
    (rest : List (Text × Value)) :
    Value.areFoundIn others ((key, value) :: rest) =
      (isFoundAs value (others.get? key) && Value.areFoundIn others rest) := rfl

theorem areKept_cons (env : Environment) (key : Text) (value : Value)
    (rest : List (Text × Value)) :
    areKept env ((key, value) :: rest) = (isEntryKept env key value && areKept env rest) := rfl

theorem areFoundIn_eq_areKept
    (each : ∀ key value, (key, value) ∈ entries →
      isFoundAs value (others.get? key) = isEntryKept env key value) :
    Value.areFoundIn others entries = areKept env entries := by
  induction entries with
  | nil => rfl
  | cons entry rest ih =>
    obtain ⟨key, value⟩ := entry
    rw [areFoundIn_cons, areKept_cons, each key value List.mem_cons_self,
      ih fun key value member => each key value (List.mem_cons_of_mem _ member)]

/-- What is read back inside the element that was written for entries. -/
def readInside (entries : Entries Text Value) : Entries Text Value :=
  normalAttributes entries ++ normalChildren entries

/-- The table that is read back for entries, with the placeholders in it expanded. -/
def readBack (env : Environment) (entries : Entries Text Value) : Entries Text Value :=
  Value.expandedEntries env (addText (readInside entries) (normalText (textOf entries)))

theorem get?_readBack_of_ne (noText : key ≠ textKey) :
    Entries.get? (readBack env entries) key =
      (Entries.get? (readInside entries) key).map (Value.expanded env) := by
  rw [readBack, get?_expandedEntries, get?_addText_of_ne _ noText]

theorem mem_keys_readInside (member : key ∈ Entries.keys (readInside entries)) :
    key ∈ entries.keys ∧ key ≠ textKey ∧ key ≠ bindingKey := by
  rw [readInside, Entries.keys_append, List.mem_append] at member
  rcases member with first | second
  · obtain ⟨known, isAttribute, noBinding⟩ := mem_keys_normalAttributes first
    exact ⟨known, ne_textKey_of_isAttributeKey isAttribute, noBinding⟩
  · obtain ⟨known, isChild⟩ := mem_keys_normalChildren second
    obtain ⟨noText, noAttribute⟩ := isChildKey_eq_true_iff.1 isChild
    refine ⟨known, noText, ?_⟩
    rintro rfl
    exact absurd noAttribute (by decide)

theorem isFoundAs_attribute (distinct : entries.keys.Nodup) (member : (key, value) ∈ entries)
    (entry : IsEntry IsPlainKey IsPlainText key value) (isAttribute : isAttributeKey key = true) :
    isFoundAs value (Entries.get? (readBack env entries) key) = (key != bindingKey) := by
  have noText := ne_textKey_of_isAttributeKey isAttribute
  have other : isChildKey key = false := by simp [isChildKey, isAttribute]
  rw [get?_readBack_of_ne noText]
  by_cases isBinding : key = bindingKey
  · have none : Entries.get? (readInside entries) key = none := by
      refine Entries.get?_eq_none_iff.2 fun known => ?_
      exact (mem_keys_readInside known).2.2 isBinding
    rw [none, isBinding]
    rfl
  · obtain ⟨s, rfl, read, unbraced⟩ := entry.text_of_beside other
    have same : Text.ofString (stringOf s) = s :=
      Text.ofString_ofList_chars (hasSurrogate_of_isReadText read)
    rw [readInside, Entries.get?_append, get?_normalAttributes distinct member isAttribute isBinding,
      Value.plainText, same]
    simp [isFoundAs, Value.expanded, Value.isSame, expanded_of_isUnbraced unbraced, isBinding]

theorem isFoundAs_text (distinct : entries.keys.Nodup) (member : (textKey, value) ∈ entries)
    (entry : IsEntry IsPlainKey IsPlainText textKey value) :
    isFoundAs value (Entries.get? (readBack env entries) textKey) = isKept env value := by
  obtain ⟨s, rfl, ⟨_, filled⟩, _⟩ := entry.text_of_beside (by decide)
  have new : textKey ∉ Entries.keys (readInside entries) := fun known =>
    (mem_keys_readInside known).2.1 rfl
  rw [readBack, get?_expandedEntries, get?_addText_textKey _ new, textOf_of_mem distinct member]
  split
  next empty =>
    have filled := filled rfl
    rw [isKept, empty]
    simp only [isFoundAs, Option.map_none]
    exact (beq_eq_false_iff_ne.2 fun same => filled same.symm).symm
  next =>
    rw [isKept]
    exact BEq.comm

theorem get?_readInside_child (distinct : entries.keys.Nodup) (member : (key, value) ∈ entries)
    (isChild : isChildKey key = true) :
    Entries.get? (readInside entries) key = Entries.get? (normalChildren [(key, value)]) key := by
  have none : Entries.get? (normalAttributes entries) key = none :=
    Entries.get?_eq_none_iff.2 (not_mem_normalAttributes isChild)
  rw [readInside, Entries.get?_append, none, Option.none_or, get?_normalChildren distinct member]

theorem normalChildren_entry {named : Text → Prop} {held : Text → Text → Prop}
    (entry : IsEntry named held key value) (isChild : isChildKey key = true) :
    normalChildren [(key, value)] = [(key, normalChild value)] := by
  refine normalChildren_child isChild ?_
  cases entry with
  | single _ setting => exact setting.ne_list []
  | several _ _ many =>
    rintro ⟨⟩
    simp at many

theorem get?_readInside_entry {named : Text → Prop} {held : Text → Text → Prop}
    (distinct : entries.keys.Nodup) (member : (key, value) ∈ entries)
    (entry : IsEntry named held key value) (isChild : isChildKey key = true) :
    Entries.get? (readInside entries) key = some (normalChild value) := by
  rw [get?_readInside_child distinct member isChild, normalChildren_entry entry isChild]
  simp [Entries.get?]

theorem isEntryKept_of_areKept (kept : areKept env entries = true) (member : (key, value) ∈ entries) :
    isEntryKept env key value = true := by
  induction entries with
  | nil => cases member
  | cons entry rest ih =>
    rw [areKept_cons, Bool.and_eq_true] at kept
    cases member with
    | head => exact kept.1
    | tail _ later => exact ih kept.2 later

theorem isKept_of_itemsAreKept {items : List Value} (kept : itemsAreKept env items = true) :
    ∀ item ∈ items, isKept env item = true := by
  induction items with
  | nil => exact nofun
  | cons item rest ih =>
    rw [itemsAreKept, Bool.and_eq_true] at kept
    exact List.forall_mem_cons.2 ⟨kept.1, ih kept.2⟩

/-- If nothing but a text is read back, there was an attribute that sets a namespace. -/
theorem areKept_of_readInside_nil {named : Text → Prop} {held : Text → Text → Prop}
    (inside : IsSection named held entries) (nothing : readInside entries = []) :
    areKept env entries = false := by
  -- A section has more than its text.  What else it has is read back if it is kept.
  obtain ⟨_, known, noText⟩ := inside.notOnlyText
  obtain ⟨⟨key, value⟩, member, rfl⟩ := List.mem_map.1 known
  rw [Bool.eq_false_iff]
  intro kept
  have entryKept := isEntryKept_of_areKept kept member
  have absent : Entries.get? (readInside entries) key = none := by
    rw [nothing]
    rfl
  cases isAttribute : isAttributeKey key with
  | true =>
    rw [isEntryKept, if_pos isAttribute, bne_iff_ne] at entryKept
    rw [readInside, Entries.get?_append,
      get?_normalAttributes inside.distinct member isAttribute entryKept] at absent
    cases absent
  | false =>
    have isChild : isChildKey key = true := isChildKey_eq_true_iff.2 ⟨noText, isAttribute⟩
    rw [get?_readInside_entry inside.distinct member (inside.entry member) isChild] at absent
    cases absent

/-- Nothing is read back under a key that was not written. -/
theorem mem_keys_of_readBack (member : key ∈ Entries.keys (readBack env entries)) :
    key ∈ entries.keys := by
  rw [readBack, keys_expandedEntries, addText] at member
  split at member
  next => exact (mem_keys_readInside member).1
  next filled =>
    rcases Entries.mem_keys_put.1 member with rfl | old
    · by_cases known : textKey ∈ entries.keys
      · exact known
      · rw [textOf_of_not_mem known] at filled
        exact absurd rfl filled
    · exact (mem_keys_readInside old).1

theorem itemsAreSame_expanded_normal {items : List Value}
    (each : ∀ item ∈ items, item.isSame ((normal item).expanded env) = isKept env item) :
    Value.itemsAreSame items (Value.expandedItems env (normalItems items)) = itemsAreKept env items := by
  induction items with
  | nil => rfl
  | cons item rest ih =>
    obtain ⟨first, more⟩ := List.forall_mem_cons.1 each
    rw [normalItems, Value.expandedItems, Value.itemsAreSame, itemsAreKept, first, ih more]

/-- A section is read back as the same section if everything in it is kept. -/
theorem isSame_of_isSection {named : Text → Prop} {held : Text → Text → Prop}
    (inside : IsSection named held entries)
    (each : ∀ key value, (key, value) ∈ entries →
      isFoundAs value (Entries.get? (readBack env entries) key) = isEntryKept env key value) :
    Value.isSame (.table entries) ((normal (.table entries)).expanded env) = areKept env entries := by
  have read : normal (.table entries) =
      ofInside (readInside entries) (normalText (textOf entries)) := rfl
  rw [read, ofInside]
  split
  next nothing =>
    rw [areKept_of_readInside_nil inside (List.isEmpty_iff.1 nothing)]
    rfl
  next =>
    have all : (readBack env entries).all (fun other => Entries.hasKey entries other.1) = true := by
      refine List.all_eq_true.2 fun other member => ?_
      exact Entries.hasKey_iff.2 (mem_keys_of_readBack (List.mem_map.2 ⟨other, member, rfl⟩))
    rw [Value.expanded, Value.isSame, ← readBack, areFoundIn_eq_areKept each, all, Bool.and_true]

mutual

/-- A value is read back as the same value exactly if everything in it is kept. -/
theorem isSame_expanded_normal {key : Text} {value : Value} :
    IsSetting IsPlainKey IsPlainText key value →
      value.isSame ((normal value).expanded env) = isKept env value
  | @IsSetting.text _ _ _ s _ => by
    show (s == Placeholder.expanded env (normalText s)) = (Placeholder.expanded env (normalText s) == s)
    exact BEq.comm
  | .table _ inside => isSame_table_expanded_normal inside

theorem isSame_table_expanded_normal {entries : Entries Text Value} :
    IsSection IsPlainKey IsPlainText entries →
      Value.isSame (.table entries) ((normal (.table entries)).expanded env) = areKept env entries
  | .mk distinct notOnlyText each => by
    refine isSame_of_isSection (.mk distinct notOnlyText each) fun key value member => ?_
    have entry := each key value member
    unfold isEntryKept
    split
    next isAttribute => exact isFoundAs_attribute distinct member entry isAttribute
    next noAttribute =>
      by_cases isText : key = textKey
      · subst isText
        exact isFoundAs_text distinct member entry
      · have isChild : isChildKey key = true :=
          isChildKey_eq_true_iff.2 ⟨isText, Bool.eq_false_iff.2 noAttribute⟩
        rw [get?_readBack_of_ne isText, get?_readInside_entry distinct member entry isChild]
        exact isSame_expanded_normalChild (each key value member)

theorem isSame_expanded_normalChild {key : Text} {value : Value} :
    IsEntry IsPlainKey IsPlainText key value →
      value.isSame ((normalChild value).expanded env) = isKept env value
  | .single _ setting => by
    rw [normalChild_of_single setting.ne_list]
    exact isSame_expanded_normal setting
  | .several _ _ many inside => by
    rw [normalChild_of_several many]
    exact itemsAreSame_expanded_normal fun item member => isSame_expanded_normal (inside item member)

end

end Compare

end Settings

end XmlSettings
