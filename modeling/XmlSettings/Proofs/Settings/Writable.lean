import XmlSettings.Proofs.Settings.Saved

/-! # Settings that can be written

Settings can be written exactly if every key is that of the text or has a name in it, and no text holds
a character that is refused (`exists_toDocument_iff`).  Only settings in the shape that documents give are
meant here: the name of an empty list, for one, is never looked at.
-/

namespace XmlSettings.Settings

open XmlSettings.Xml (IsClean)

variable {named : Text → Prop} {held : Text → Text → Prop} {entries : Entries Text Value}
  {items : List Value} {key s : Text} {value : Value} {before : Parts}

/-- The name in a key: what stands behind the hyphen in front, if there is one. -/
def namePart (key : Text) : Text := if isAttributeKey key then attributeName key else key

/-- Whether a key is that of the text, or has a name in it. -/
def isWritableKey (key : Text) : Bool := key == textKey || isName (namePart key)

/-- Whether every key in a value has a name in it, and no text holds a character that is refused. -/
def isWritable (value : Value) : Bool := value.all isWritableKey fun s => !s.toList.any isRefused

theorem isWritable_text_iff : isWritable (.text s) = true ↔ IsClean s.chars := by
  simp [isWritable, Value.all, isClean_iff_any]

theorem isWritableKey_of_isChildKey (isChild : isChildKey key = true) :
    isWritableKey key = true ↔ isName key = true := by
  obtain ⟨noText, noAttribute⟩ := isChildKey_eq_true_iff.1 isChild
  simp [isWritableKey, namePart, noText, noAttribute]

/-! ## One entry -/

theorem exists_adds_text_iff (other : isChildKey key = false) :
    (∃ next, Adds before key (.text s) next) ↔ isWritableKey key = true ∧ isWritable (.text s) = true := by
  rw [isWritable_text_iff]
  constructor
  · rintro ⟨next, added⟩
    cases added with
    | setText isText given => exact ⟨by simp [isWritableKey, isText], given.clean⟩
    | putAttribute _ isAttribute spelled named given =>
      exact ⟨by simp [isWritableKey, namePart, isAttribute, spelled, named], given.clean⟩
    | addChild noText noAttribute => simp [isChildKey, noText, noAttribute] at other
  · rintro ⟨writable, clean⟩
    by_cases isText : key = textKey
    · exact ⟨_, .setText isText (hasText_text clean)⟩
    · have isAttribute : isAttributeKey key = true := by simpa [isChildKey, isText] using other
      have named : isName (attributeName key) = true := by
        simpa [isWritableKey, namePart, isText, isAttribute] using writable
      have spelled := (ofString_stringOf named).symm
      exact ⟨_, .putAttribute isText isAttribute spelled (spelled ▸ named) (hasText_text clean)⟩

theorem exists_adds_child_iff (isChild : isChildKey key = true) (single : ∀ items, value ≠ .list items) :
    (∃ next, Adds before key value next) ↔ isWritableKey key = true ∧ ∃ inner, parts value = .ok inner := by
  obtain ⟨noText, noAttribute⟩ := isChildKey_eq_true_iff.1 isChild
  rw [isWritableKey_of_isChildKey isChild]
  constructor
  · rintro ⟨next, added⟩
    cases added with
    | setText isText => exact absurd isText noText
    | putAttribute _ isAttribute => simp [noAttribute] at isAttribute
    | addItems => exact absurd rfl (single _)
    | addChild _ _ _ spelled named made => exact ⟨spelled ▸ named, _, made⟩
  · rintro ⟨named, inner, made⟩
    have spelled := (ofString_stringOf named).symm
    exact ⟨_, .addChild noText noAttribute single spelled (spelled ▸ named) made⟩

/-- The name of the items is checked once for each. -/
theorem exists_elements_iff (filled : items ≠ []) : (∃ made, elements key items = .ok made) ↔
    isName key = true ∧ ∀ item ∈ items, ∃ inner, parts item = .ok inner := by
  constructor
  · rintro ⟨made, written⟩
    refine ⟨?_, fun item member => parts_of_mem written member⟩
    cases items with
    | nil => exact absurd rfl filled
    | cons =>
      obtain ⟨_, _, _, rfl, named, _⟩ := elements_eq_ok written
      exact named
  · rintro ⟨named, each⟩
    obtain ⟨name, rfl⟩ : ∃ name : String, key = name := ⟨_, (ofString_stringOf named).symm⟩
    clear filled
    induction items with
    | nil => exact ⟨[], elements_nil _⟩
    | cons item rest ih =>
      obtain ⟨⟨inner, first⟩, each⟩ := List.forall_mem_cons.1 each
      obtain ⟨more, later⟩ := ih each
      exact ⟨_, elements_cons_of named first later⟩

theorem exists_adds_items_iff (isChild : isChildKey key = true) (filled : items ≠ []) :
    (∃ next, Adds before key (.list items) next) ↔
      isWritableKey key = true ∧ ∀ item ∈ items, ∃ inner, parts item = .ok inner := by
  obtain ⟨noText, noAttribute⟩ := isChildKey_eq_true_iff.1 isChild
  rw [isWritableKey_of_isChildKey isChild, ← exists_elements_iff filled]
  constructor
  · rintro ⟨next, added⟩
    cases added with
    | setText isText => exact absurd isText noText
    | putAttribute _ isAttribute => simp [noAttribute] at isAttribute
    | addItems _ _ made => exact ⟨_, made⟩
    | addChild _ _ single => exact absurd rfl (single items)
  · rintro ⟨made, written⟩
    exact ⟨_, .addItems noText noAttribute written⟩

theorem exists_addEntries_iff : (∃ made, addEntries before entries = .ok made) ↔
    ∀ key value, (key, value) ∈ entries → ∃ next, Adds Parts.empty key value next := by
  constructor
  · rintro ⟨made, written⟩ key value member
    obtain ⟨_, _, added⟩ := adds_of_mem written member
    exact added.anew Parts.empty
  · intro each
    induction entries generalizing before with
    | nil => exact ⟨before, addEntries_nil before⟩
    | cons entry rest ih =>
      obtain ⟨key, value⟩ := entry
      obtain ⟨_, added⟩ := each key value List.mem_cons_self
      obtain ⟨next, added⟩ := added.anew before
      obtain ⟨made, more⟩ := @ih next fun key value member => each key value (List.mem_cons_of_mem _ member)
      exact ⟨made, addEntries_of_adds added more⟩

/-! ## All entries -/

mutual

theorem IsSetting.exists_parts_iff {key : Text} {value : Value} :
    IsSetting named held key value → ((∃ made, parts value = .ok made) ↔ isWritable value = true)
  | .text _ => by
    rw [isWritable_text_iff]
    constructor
    · rintro ⟨made, written⟩
      rcases parts_eq_ok written nofun with ⟨none, _⟩ | ⟨_, given, _⟩
      · cases none
      · exact given.clean
    · exact fun clean => ⟨_, parts_text clean⟩
  | .table _ inside => inside.exists_parts_iff

theorem IsSection.exists_parts_iff {entries : Entries Text Value} :
    IsSection named held entries →
      ((∃ made, parts (.table entries) = .ok made) ↔ isWritable (.table entries) = true)
  | .mk _ _ each => by
    rw [parts_table, exists_addEntries_iff, isWritable, Value.all, Value.allEntries_eq_true_iff]
    exact forall_congr' fun key => forall_congr' fun value => forall_congr' fun member =>
      (each key value member).exists_adds_iff

theorem IsEntry.exists_adds_iff {key : Text} {value : Value} :
    IsEntry named held key value →
      ((∃ next, Adds Parts.empty key value next) ↔ isWritableKey key = true ∧ isWritable value = true)
  | .single known setting => by
    cases isChild : isChildKey key with
    | true =>
      rw [exists_adds_child_iff isChild setting.ne_list, setting.exists_parts_iff]
    | false =>
      obtain ⟨s, rfl, _⟩ := (IsEntry.single known setting).text_of_beside isChild
      exact exists_adds_text_iff isChild
  | @IsEntry.several _ _ _ items _ isChild many inside => by
    have filled : items ≠ [] := List.ne_nil_of_length_pos (by omega)
    rw [exists_adds_items_iff isChild filled, isWritable, Value.all, Value.allItems_eq_true_iff]
    exact and_congr_right fun _ => forall_congr' fun item => forall_congr' fun member =>
      (inside item member).exists_parts_iff

end

/-- There is a document for settings exactly if everything in them can be written. -/
theorem exists_toDocument_iff {root : String} (isRoot : isName root = true) (step : Text)
    (inside : IsSection named held entries) :
    (∃ text, toDocument root step (.table entries) = .ok text) ↔ isWritable (.table entries) = true := by
  rw [← inside.exists_parts_iff]
  constructor
  · rintro ⟨text, written⟩
    obtain ⟨_, made, _, built, _⟩ := toDocument_eq_ok written
    exact ⟨made, built⟩
  · rintro ⟨made, built⟩
    exact ⟨_, toDocument_of_parts isRoot built step⟩

end XmlSettings.Settings
