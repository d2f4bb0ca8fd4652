import XmlSettings.Proofs.Settings.Setting
import XmlSettings.Store

/-! # Settings in a store

What is known of the settings that were put into a store is known of every section of it, also after
texts have been written: a write touches one entry, and every section is looked at for itself
(`Store.HoldsSettings`).  Read as a table, each section has the shape of settings again
(`isSection_table`).
-/

namespace XmlSettings.Store

open Settings (IsSection IsSetting IsEntry isChildKey textKey)

variable {named : Text → Prop} {held : Text → Text → Prop} {store : Store} {id : SectionId}

/-! ## Sections one by one -/

/-- What may be held under a key: a plain value, or a section under the key of children. -/
inductive IsSlot (named : Text → Prop) (held : Text → Text → Prop) : Text → Slot → Prop where
  | plain {key : Text} {value : Value} (entry : IsEntry named held key value) :
      IsSlot named held key (.plain value)
  | nested {key : Text} {id : SectionId} (known : named key) (isChild : isChildKey key = true) :
      IsSlot named held key (.nested id)

/-- The entries of one section, whatever the sections inside it hold. -/
structure IsNode (named : Text → Prop) (held : Text → Text → Prop) (slots : Entries Text Slot) :
    Prop where
  distinct : slots.keys.Nodup
  notOnlyText : ∃ key ∈ slots.keys, key ≠ textKey
  inside : ∀ key slot, (key, slot) ∈ slots → IsSlot named held key slot

/-- Whether every section of a store has the shape of settings. -/
def HoldsSettings (named : Text → Prop) (held : Text → Text → Prop) (store : Store) : Prop :=
  ∀ id < store.next, IsNode named held (store.entries id)

theorem holdsSettings_empty : HoldsSettings named held empty :=
  fun _ inside => nomatch inside

/-! ## Reading -/

theorem keys_table (store : Store) (id : SectionId) :
    Entries.keys (store.table id) = (store.entries id).keys := by
  rw [table_eq_map, Entries.keys, List.map_map]
  rfl

theorem get?_table (store : Store) (id : SectionId) (key : Text) :
    Entries.get? (store.table id) key = ((store.entries id).get? key).map store.value := by
  rw [table_eq_map, Entries.get?_map]

/-- A section is a table of settings. -/
theorem isSection_table (holds : store.HoldsSettings named held) (inside : id < store.next) :
    IsSection named held (store.table id) := by
  -- Sections hold only sections that were added before them.
  induction id using Nat.strongRecOn with
  | ind id ih =>
    obtain ⟨distinct, notOnlyText, each⟩ := holds id inside
    refine .mk ?_ ?_ fun key value member => ?_
    · rw [keys_table]
      exact distinct
    · rw [keys_table]
      exact notOnlyText
    · rw [table_eq_map] at member
      obtain ⟨⟨first, slot⟩, found, same⟩ := List.mem_map.1 member
      cases same
      cases each _ _ found with
      | plain entry => exact entry
      | nested known isChild =>
        have below := store.entries_areBelow id _ found
        exact .single known (.table isChild (ih _ below (Nat.lt_trans below inside)))

/-- Sections with the same entries all the way down are the same table. -/
theorem table_congr {other : Store} (same : ∀ inner ≤ id, store.entries inner = other.entries inner) :
    store.table id = other.table id := by
  induction id using Nat.strongRecOn with
  | ind id ih =>
    rw [table_eq_map, table_eq_map, same id (Nat.le_refl id)]
    refine List.map_congr_left fun entry member => ?_
    obtain ⟨key, slot⟩ := entry
    cases slot with
    | plain value => rfl
    | nested child =>
      have below : child < id := other.entries_areBelow id _ member
      have inner := ih child below fun deeper le => same deeper (Nat.le_trans le (Nat.le_of_lt below))
      simp only [value, inner]

/-! ## Adding -/

theorem lt_next_add (store : Store) (entries : Entries Text Value) :
    (store.add entries).2 < (store.add entries).1.next := by
  simp [add, next]

theorem next_le_add (store : Store) (entries : Entries Text Value) :
    store.next ≤ (store.add entries).1.next := by
  have grows := (addSlots_descending store.descending entries).2.1
  simp only [add, next, Array.size_push]
  exact Nat.le_succ_of_le grows

theorem next_copy (store : Store) (id : SectionId) : (store.copy id).1.next = store.next + 1 := by
  simp [copy, next]

/-- Sections that were there are the same after others were added. -/
theorem table_add_of_lt (inside : id < store.next) (entries : Entries Text Value) :
    (store.add entries).1.table id = store.table id :=
  table_congr fun _ le => entries_add_of_lt (Nat.lt_of_le_of_lt le inside) entries

/-- Whether every section in a row has the shape of settings. -/
def AreNodes (named : Text → Prop) (held : Text → Text → Prop)
    (sections : Array (Entries Text Slot)) : Prop :=
  ∀ slots ∈ sections, IsNode named held slots

theorem AreNodes.push {sections : Array (Entries Text Slot)} {slots : Entries Text Slot}
    (before : AreNodes named held sections) (node : IsNode named held slots) :
    AreNodes named held (sections.push slots) := by
  intro other member
  rcases Array.mem_push.1 member with old | rfl
  · exact before other old
  · exact node

theorem keys_addSlots (sections : Array (Entries Text Slot)) (entries : Entries Text Value) :
    Entries.keys (addSlots sections entries).2 = entries.keys := by
  induction entries generalizing sections with
  | nil => rfl
  | cons entry rest ih =>
    obtain ⟨key, value⟩ := entry
    rw [addSlots, Entries.keys_cons, Entries.keys_cons, ih]

theorem isNode_addSlots (sections : Array (Entries Text Slot)) {entries : Entries Text Value}
    (inside : IsSection named held entries)
    (slots : ∀ key slot, (key, slot) ∈ (addSlots sections entries).2 → IsSlot named held key slot) :
    IsNode named held (addSlots sections entries).2 where
  distinct := by
    rw [keys_addSlots]
    exact inside.distinct
  notOnlyText := by
    rw [keys_addSlots]
    exact inside.notOnlyText
  inside := slots

mutual

/-- The sections of a value are added before those around them. -/
theorem areNodes_addSlot {sections : Array (Entries Text Slot)} {key : Text} {value : Value}
    (before : AreNodes named held sections) (entry : IsEntry named held key value) :
    AreNodes named held (addSlot sections value).1 ∧
      IsSlot named held key (addSlot sections value).2 := by
  cases value with
  | table entries =>
    obtain ⟨isChild, inside⟩ := entry.isSection
    obtain ⟨nodes, slots⟩ := areNodes_addSlots before fun key value => inside.entry
    rw [addSlot]
    exact ⟨nodes.push (isNode_addSlots sections inside slots), .nested entry.known isChild⟩
  | _ => exact ⟨before, .plain entry⟩
termination_by sizeOf value

theorem areNodes_addSlots {sections : Array (Entries Text Slot)} {entries : Entries Text Value}
    (before : AreNodes named held sections)
    (each : ∀ key value, (key, value) ∈ entries → IsEntry named held key value) :
    AreNodes named held (addSlots sections entries).1 ∧
      ∀ key slot, (key, slot) ∈ (addSlots sections entries).2 → IsSlot named held key slot := by
  match entries with
  | [] => exact ⟨before, nofun⟩
  | (key, value) :: rest =>
    obtain ⟨first, slot⟩ := areNodes_addSlot before (each key value List.mem_cons_self)
    obtain ⟨nodes, slots⟩ := areNodes_addSlots first fun key value member =>
      each key value (List.mem_cons_of_mem _ member)
    rw [addSlots]
    refine ⟨nodes, fun other found member => ?_⟩
    cases member with
    | head => exact slot
    | tail _ later => exact slots other found later
termination_by sizeOf entries

end

theorem holdsSettings_iff_areNodes : store.HoldsSettings named held ↔ AreNodes named held store.sections := by
  constructor
  · intro holds slots member
    obtain ⟨id, inside, rfl⟩ := Array.mem_iff_getElem.1 member
    have node := holds id inside
    rwa [Store.entries, Array.getElem?_eq_getElem inside] at node
  · intro nodes id inside
    have known : id < store.sections.size := inside
    rw [Store.entries, Array.getElem?_eq_getElem known]
    exact nodes _ (Array.getElem_mem known)

/-- Settings that are added keep their shape. -/
theorem holdsSettings_add {entries : Entries Text Value} (holds : store.HoldsSettings named held)
    (inside : IsSection named held entries) : (store.add entries).1.HoldsSettings named held := by
  have before := holdsSettings_iff_areNodes.1 holds
  obtain ⟨nodes, slots⟩ := areNodes_addSlots before fun key value => inside.entry
  exact holdsSettings_iff_areNodes.2 (nodes.push (isNode_addSlots store.sections inside slots))

/-! ## Writing -/

/-- A write leaves the sections inside alone. -/
theorem table_set_of_lt {child : SectionId} (below : child < id) (key text : Text) :
    (store.set id key text).table child = store.table child := by
  refine table_congr fun inner le => ?_
  rw [entries_set, if_neg]
  rintro ⟨rfl, _⟩
  exact absurd below (Nat.not_lt.2 le)

/-- A section holds what was written into it. -/
theorem table_set (inside : id < store.next) (key text : Text) :
    (store.set id key text).table id = Entries.put key (.text text) (store.table id) := by
  rw [table_eq_map, entries_set, if_pos ⟨rfl, inside⟩, Entries.map_put, table_eq_map]
  refine congrArg (Entries.put key _) (List.map_congr_left fun entry member => ?_)
  obtain ⟨other, slot⟩ := entry
  cases slot with
  | plain value => rfl
  | nested child => simp only [value, table_set_of_lt (store.entries_areBelow id _ member)]

/-- A text that may stand under its key keeps the shape. -/
theorem holdsSettings_set {key text : Text} (holds : store.HoldsSettings named held)
    (entry : IsEntry named held key (.text text)) :
    (store.set id key text).HoldsSettings named held := by
  intro other inside
  rw [next_set] at inside
  rw [entries_set]
  obtain ⟨distinct, ⟨known, member, noText⟩, each⟩ := holds other inside
  split
  next =>
    refine ⟨Entries.nodup_keys_put distinct, ⟨known, Entries.mem_keys_put.2 (.inr member), noText⟩, ?_⟩
    intro first slot found
    rcases Entries.mem_put found with same | old
    · cases same
      exact .plain entry
    · exact each first slot old
  next => exact ⟨distinct, ⟨known, member, noText⟩, each⟩

end XmlSettings.Store
