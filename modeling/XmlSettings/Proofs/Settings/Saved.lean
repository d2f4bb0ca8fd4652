import XmlSettings.Proofs.Settings.Kept
import XmlSettings.Proofs.Settings.TextTree
import XmlSettings.Settings.Load

/-! # Settings that are saved and loaded again

Settings of a document with names in ASCII are saved and loaded as the same settings exactly if every
attribute has a name that can be written and everything else in them is kept (`isSame_saved_iff`).
-/

namespace XmlSettings.Settings

open XmlSettings.Xml (Document Element isAscii isAsciiName)

variable {entries : Entries Text Value} {key : Text} {value : Value}

/-! ## Trees of texts -/

/-- Whether a key that is that of an attribute has a name that can be written. -/
def isSavableKey (key : Text) : Bool := !isAttributeKey key || isName (attributeName key)

/-- Whether every attribute in a value has a name that can be written. -/
def isSavable (value : Value) : Bool := value.all isSavableKey fun _ => true

theorem areTrees_of_each
    (each : ∀ key value, (key, value) ∈ entries → areTrees [(key, value)] = true) :
    areTrees entries = true := by
  induction entries with
  | nil => rfl
  | cons entry rest ih =>
    obtain ⟨first, current⟩ := entry
    have here := each first current List.mem_cons_self
    have later := ih fun key value member => each key value (List.mem_cons_of_mem _ member)
    cases current <;> simp_all [areTrees]

theorem itemsAreTrees_of_each {items : List Value} (each : ∀ item ∈ items, isTree item = true) :
    itemsAreTrees items = true := by
  induction items with
  | nil => rfl
  | cons item rest ih =>
    obtain ⟨first, more⟩ := List.forall_mem_cons.1 each
    rw [itemsAreTrees, first, ih more]
    rfl

theorem isAscii_attributeName {key : Text} (ascii : isAscii (stringOf key) = true) :
    isAscii (stringOf (attributeName key)) = true := by
  rw [isAscii, stringOf, String.toList_ofList, List.all_eq_true] at ascii ⊢
  intro c member
  rw [Text.chars, attributeName, Text.toList_ofList, List.map_drop] at member
  exact ascii c (List.mem_of_mem_drop member)

/-- What may stand beside children does, if it can be saved and is kept. -/
theorem isBeside_of_isEntry {env : Environment} (entry : IsEntry IsPlainKey IsPlainText key value)
    (other : isChildKey key = false) (savable : isSavableKey key = true)
    (kept : isEntryKept env key value = true) : isBeside key value = true := by
  obtain ⟨s, rfl, ⟨held, _⟩, _⟩ := entry.text_of_beside other
  rw [isBeside, isCleanText, held, Bool.true_and]
  by_cases isText : key = textKey
  · simp [isText]
  · have isAttribute : isAttributeKey key = true := by simpa [isChildKey, isText] using other
    rw [isEntryKept, if_pos isAttribute] at kept
    simp only [isSavableKey, isAttribute, Bool.not_true, Bool.false_or] at savable
    rw [← isName_stringOf] at savable
    have ascii := Xml.isAsciiName_of_isName savable (isAscii_attributeName entry.known.2)
    rw [ascii, kept]
    simp

theorem isAsciiName_of_isEntry {held : Text → Text → Prop}
    (entry : IsEntry IsPlainKey held key value) (isChild : isChildKey key = true) :
    isAsciiName (stringOf key) = true := by
  obtain ⟨name, rfl, _, readable⟩ := entry.known.1 isChild
  rw [stringOf_ofString]
  exact Xml.isAsciiName_of_isReadableName readable (stringOf_ofString name ▸ entry.known.2)

theorem areTrees_child {key : Text} {value : Value} (isChild : isChildKey key = true)
    (ascii : isAsciiName (stringOf key) = true) (single : ∀ items, value ≠ .list items)
    (tree : isTree value = true) : areTrees [(key, value)] = true := by
  cases value with
  | list items => exact absurd rfl (single items)
  | _ => simp [areTrees, isChild, ascii, tree]

theorem areTrees_beside {key : Text} {value : Value} (other : isChildKey key = false)
    (beside : isBeside key value = true) : areTrees [(key, value)] = true := by
  cases value with
  | list items => simp [isBeside, isCleanText] at beside
  | _ => simp [areTrees, other, beside]

section Trees

variable {env : Environment}

theorem isTree_table (distinct : entries.keys.Nodup)
    (each : ∀ key value, (key, value) ∈ entries → areTrees [(key, value)] = true) :
    isTree (.table entries) = true := by
  rw [isTree, areTrees_of_each each, decide_eq_true distinct]
  rfl

theorem areTrees_single (entry : IsEntry IsPlainKey IsPlainText key value)
    (single : ∀ items, value ≠ .list items) (savable : isSavableKey key = true)
    (kept : isEntryKept env key value = true)
    (tree : isKept env value = true → isTree value = true) : areTrees [(key, value)] = true := by
  cases isChild : isChildKey key with
  | false => exact areTrees_beside isChild (isBeside_of_isEntry entry isChild savable kept)
  | true =>
    obtain ⟨_, noAttribute⟩ := isChildKey_eq_true_iff.1 isChild
    rw [isEntryKept, noAttribute] at kept
    exact areTrees_child isChild (isAsciiName_of_isEntry entry isChild) single (tree kept)

theorem areTrees_several {items : List Value} (entry : IsEntry IsPlainKey IsPlainText key (.list items))
    (isChild : isChildKey key = true) (kept : isEntryKept env key (.list items) = true)
    (trees : ∀ item ∈ items, isKept env item = true → isTree item = true) :
    areTrees [(key, .list items)] = true := by
  obtain ⟨_, noAttribute⟩ := isChildKey_eq_true_iff.1 isChild
  rw [isEntryKept, noAttribute] at kept
  have inside : itemsAreTrees items = true := itemsAreTrees_of_each fun item member =>
    trees item member (isKept_of_itemsAreKept kept item member)
  simp [areTrees, isChild, isAsciiName_of_isEntry entry isChild, inside]

theorem isTree_text {s : Text} (held : isDocumentText s = true) : isTree (.text s) = true := held

mutual

/-- Settings that can be saved and are kept are trees of texts. -/
theorem isTree_of_isSetting {key : Text} {value : Value} :
    IsSetting IsPlainKey IsPlainText key value → isSavable value = true →
      isKept env value = true → isTree value = true
  | .text holds => fun _ _ => isTree_text holds.1.1
  | .table _ inside => fun savable kept => isTree_of_isSection inside savable kept

theorem isTree_of_isSection {entries : Entries Text Value} :
    IsSection IsPlainKey IsPlainText entries → isSavable (.table entries) = true →
      areKept env entries = true → isTree (.table entries) = true
  | .mk distinct _ each => fun savable kept => isTree_table distinct fun key value member =>
    areTrees_of_isEntry (each key value member)
      (Value.allEntries_eq_true_iff.1 savable key value member) (isEntryKept_of_areKept kept member)

theorem areTrees_of_isEntry {key : Text} {value : Value} :
    IsEntry IsPlainKey IsPlainText key value → isSavableKey key = true ∧ isSavable value = true →
      isEntryKept env key value = true → areTrees [(key, value)] = true
  | .single known setting => fun savable kept =>
    areTrees_single (.single known setting) setting.ne_list savable.1 kept
      (isTree_of_isSetting setting savable.2)
  | .several known isChild many inside => fun savable kept =>
    areTrees_several (.several known isChild many inside) isChild kept fun item member =>
      isTree_of_isSetting (inside item member) (Value.allItems_eq_true_iff.1 savable.2 item member)

end

end Trees

/-! ## Settings that were written -/

section Written

variable {named : Text → Prop} {held : Text → Text → Prop} {made before next : Parts}

theorem haveDistinctKeys_of_each
    (each : ∀ key value, (key, value) ∈ entries → value.hasDistinctKeys = true) :
    Value.haveDistinctKeys entries = true := by
  induction entries with
  | nil => rfl
  | cons entry rest ih =>
    obtain ⟨key, value⟩ := entry
    have later := ih fun key value member => each key value (List.mem_cons_of_mem _ member)
    rw [Value.haveDistinctKeys, each key value List.mem_cons_self, later]
    rfl

theorem itemsHaveDistinctKeys_of_each {items : List Value}
    (each : ∀ item ∈ items, item.hasDistinctKeys = true) :
    Value.itemsHaveDistinctKeys items = true := by
  induction items with
  | nil => rfl
  | cons item rest ih =>
    obtain ⟨first, more⟩ := List.forall_mem_cons.1 each
    rw [Value.itemsHaveDistinctKeys, first, ih more]
    rfl

mutual

theorem IsSetting.hasDistinctKeys {key : Text} {value : Value} :
    IsSetting named held key value → value.hasDistinctKeys = true
  | .text _ => rfl
  | .table _ inside => inside.hasDistinctKeys

theorem IsSection.hasDistinctKeys {entries : Entries Text Value} :
    IsSection named held entries → (Value.table entries).hasDistinctKeys = true
  | .mk distinct _ each => by
    have inner := haveDistinctKeys_of_each fun key value member => (each key value member).hasDistinctKeys
    rw [Value.hasDistinctKeys, decide_eq_true distinct, inner]
    rfl

theorem IsEntry.hasDistinctKeys {key : Text} {value : Value} :
    IsEntry named held key value → value.hasDistinctKeys = true
  | .single _ setting => setting.hasDistinctKeys
  | .several _ _ _ inside => itemsHaveDistinctKeys_of_each fun item member =>
    (inside item member).hasDistinctKeys

end

/-- Every entry that is written has been added at some step. -/
theorem adds_of_mem (written : addEntries before entries = .ok made) (member : (key, value) ∈ entries) :
    ∃ sofar next, Adds sofar key value next := by
  induction entries generalizing before with
  | nil => cases member
  | cons entry rest ih =>
    obtain ⟨first, current⟩ := entry
    obtain ⟨next, added, more⟩ := adds_of_addEntries written
    cases member with
    | head => exact ⟨before, next, added⟩
    | tail _ later => exact ih more later

theorem parts_of_mem {items : List Value} {children : List (Element Text)} {item : Value}
    (written : elements key items = .ok children) (member : item ∈ items) :
    ∃ inner, parts item = .ok inner := by
  induction items generalizing children with
  | nil => cases member
  | cons first rest ih =>
    obtain ⟨name, inner, more, _, _, here, later, _⟩ := elements_eq_ok written
    cases member with
    | head => exact ⟨inner, here⟩
    | tail _ behind => exact ih later behind

theorem isSavableKey_of_adds (added : Adds before key value next) : isSavableKey key = true := by
  cases added with
  | setText isText =>
    rw [isText]
    decide
  | putAttribute _ _ spelled named => simp [isSavableKey, spelled, named]
  | addItems _ noAttribute => simp [isSavableKey, noAttribute]
  | addChild _ noAttribute => simp [isSavableKey, noAttribute]

theorem isSavable_of_beside (entry : IsEntry named held key value) (other : isChildKey key = false) :
    isSavable value = true := by
  obtain ⟨s, rfl, _⟩ := entry.text_of_beside other
  rfl

theorem isSavable_of_single (setting : IsSetting named held key value) (known : named key)
    (added : Adds before key value next)
    (child : ∀ inner, parts value = .ok inner → isSavable value = true) : isSavable value = true := by
  cases added with
  | setText isText =>
    refine isSavable_of_beside (.single known setting) ?_
    simp [isChildKey, isText]
  | putAttribute _ isAttribute =>
    refine isSavable_of_beside (.single known setting) ?_
    simp [isChildKey, isAttribute]
  | addItems => exact absurd setting IsSetting.not_list
  | addChild _ _ _ _ _ made => exact child _ made

theorem isSavable_of_several {items : List Value} (isChild : isChildKey key = true)
    (added : Adds before key (.list items) next)
    (each : ∀ item ∈ items, ∀ inner, parts item = .ok inner → isSavable item = true) :
    isSavable (.list items) = true := by
  obtain ⟨noText, noAttribute⟩ := isChildKey_eq_true_iff.1 isChild
  refine Value.allItems_eq_true_iff.2 fun item member => ?_
  cases added with
  | setText isText => exact absurd isText noText
  | putAttribute _ isAttribute => simp [noAttribute] at isAttribute
  | addItems _ _ written =>
    obtain ⟨inner, made⟩ := parts_of_mem written member
    exact each item member inner made
  | addChild _ _ single => exact absurd rfl (single items)

mutual

/-- Settings that were written have names for their attributes. -/
theorem isSavable_of_isSetting {key : Text} {value : Value} :
    IsSetting named held key value → ∀ made, parts value = .ok made → isSavable value = true
  | .text _ => fun _ _ => rfl
  | .table _ inside => fun made written => isSavable_of_isSection inside made written

theorem isSavable_of_isSection {entries : Entries Text Value} :
    IsSection named held entries → ∀ made, parts (.table entries) = .ok made →
      isSavable (.table entries) = true
  | .mk _ _ each => fun _ written => Value.allEntries_eq_true_iff.2 fun key value member => by
    obtain ⟨sofar, next, added⟩ := adds_of_mem (parts_table ▸ written) member
    exact ⟨isSavableKey_of_adds added, isSavable_of_isEntry (each key value member) sofar next added⟩

theorem isSavable_of_isEntry {key : Text} {value : Value} :
    IsEntry named held key value → ∀ before next, Adds before key value next →
      isSavable value = true
  | .single known setting => fun _ _ added =>
    isSavable_of_single setting known added (isSavable_of_isSetting setting)
  | .several _ isChild _ inside => fun _ _ added =>
    isSavable_of_several isChild added fun item member =>
      isSavable_of_isSetting (inside item member)

end

end Written

/-! ## Saving and loading -/

theorem isAsciiName_rootName : isAsciiName "config" = true := by decide

theorem isIndent_defaultStep : defaultStep.toList.all isIndent = true := by decide

theorem raw_eq_ok_iff {document : Document} :
    raw document = .ok entries ↔
      document.root.map ofRoot = .ok (.table [(rootName, .table entries)]) := by
  unfold raw
  cases document.root with
  | error e => simp [Except.map]
  | ok root =>
    simp only [Except.map, ofRoot]
    split
    next named =>
      split
      next read found => simp [named, found]
      next noTable =>
        have other : ofElement root ≠ .table entries := fun same => noTable entries same
        simp [other]
    next other => simp [other]

/-- The settings in a document. -/
theorem isSection_of_raw {document : Document} (h : raw document = .ok entries) :
    IsSection IsReadKey IsReadText entries := by
  obtain ⟨root, read, same⟩ := map_eq_ok.1 (raw_eq_ok_iff.1 h)
  simp only [ofRoot, Value.table.injEq, List.cons.injEq, Prod.mk.injEq] at same
  have isChild : isChildKey rootName = true := by decide
  have setting := isSetting_ofElement isChild (Document.isRead_of_root read)
  rw [same.1.2] at setting
  cases setting with
  | table _ inside => exact inside

theorem exists_table_of_isSame {env : Environment}
    (same : Value.isSame (.table entries) (value.expanded env) = true) : ∃ read, value = .table read := by
  cases value with
  | table read => exact ⟨read, rfl⟩
  | _ => simp [Value.expanded, Value.isSame] at same

/-- The settings in the document that was written for a tree of texts, given as text. -/
theorem raw_text_written {text : String} {read : Entries Text Value}
    (written : toDocument rootName defaultStep (.table entries) = .ok text)
    (tree : isTree (.table entries) = true) (normal : normal (.table entries) = .table read) :
    raw (.text text) = .ok read := by
  obtain ⟨made, built, found⟩ := read_written_tree tree isAsciiName_rootName isIndent_defaultStep
  cases written.symm.trans built
  rw [raw_eq_ok_iff, root_text_written written (by decide), found, normal]
  rfl

/-- Settings are saved and loaded as the same settings exactly if every attribute in them has a name
    that can be written, none sets a namespace, and every text is its own normal form. -/
theorem isSame_saved_iff {env : Environment} (inside : IsSection IsPlainKey IsPlainText entries) :
    (∃ text read, toDocument rootName defaultStep (.table entries) = .ok text ∧
        raw (.bytes text.toByteArray) = .ok read ∧
        Value.isSame (.table entries) (.table (Value.expandedEntries env read)) = true) ↔
      isSavable (.table entries) = true ∧ isKept env (.table entries) = true := by
  have compared : Value.isSame (.table entries) ((normal (.table entries)).expanded env) =
    areKept env entries := isSame_table_expanded_normal inside
  constructor
  · rintro ⟨text, read, written, loaded, same⟩
    obtain ⟨_, made, _, built, _⟩ := toDocument_eq_ok written
    have found := raw_eq_ok_iff.1 loaded
    have readable := (read_written_iff written inside.hasDistinctKeys).1.1 ⟨_, found⟩
    have normal := read_written written inside.hasDistinctKeys (by decide) readable
    rw [found] at normal
    simp only [Except.ok.injEq, Value.table.injEq, List.cons.injEq, Prod.mk.injEq] at normal
    refine ⟨isSavable_of_isSection inside made built, ?_⟩
    rw [isKept, ← compared, ← normal.1.2]
    exact same
  · rintro ⟨savable, kept⟩
    rw [isKept] at kept
    have tree := isTree_of_isSection inside savable kept
    obtain ⟨text, written, read⟩ := read_written_tree tree isAsciiName_rootName isIndent_defaultStep
    rw [kept] at compared
    obtain ⟨table, normal⟩ := exists_table_of_isSame compared
    rw [normal] at read compared
    exact ⟨text, table, written, raw_eq_ok_iff.2 read, compared⟩

end XmlSettings.Settings
