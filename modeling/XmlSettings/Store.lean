import XmlSettings.Value.Basic

/-! # Stores of sections

Sections are shared: whoever holds the number of a section sees what others write to it, also when
the entry that led to it has been overwritten since.  A store keeps the entries of every section by
number.  A table that is the value of an entry is a section of its own; tables inside lists are
plain values, since no number leads to them.

A section is added after the sections inside it, so numbers get smaller on the way down.  Every
operation keeps this, and `Store.table` reads a section as a table by recursion on its number.
-/

namespace XmlSettings

abbrev SectionId := Nat

inductive Slot where
  | plain (value : Value)
  | nested (id : SectionId)

namespace Slot

/-- Whether a slot leads to a section below a number only. -/
def IsBelow (bound : SectionId) : Slot → Prop
  | plain _ => True
  | nested id => id < bound

theorem IsBelow.mono {slot : Slot} {bound larger : SectionId} (h : slot.IsBelow bound)
    (le : bound ≤ larger) : slot.IsBelow larger := by
  cases slot with
  | plain _ => trivial
  | nested id => exact Nat.lt_of_lt_of_le h le

end Slot

def Entries.AreBelow (bound : SectionId) (entries : Entries Text Slot) : Prop :=
  ∀ entry ∈ entries, entry.2.IsBelow bound

/-- Sections whose numbers get smaller on the way down. -/
def Descending (sections : Array (Entries Text Slot)) : Prop :=
  ∀ (id : SectionId) (h : id < sections.size), sections[id].AreBelow id

structure Store where
  sections : Array (Entries Text Slot)
  descending : Descending sections

namespace Store

theorem descending_push {sections : Array (Entries Text Slot)} {entries : Entries Text Slot}
    (h : Descending sections) (below : entries.AreBelow sections.size) :
    Descending (sections.push entries) := by
  intro id bound
  rw [Array.getElem_push]
  split
  next old => exact h id old
  next new =>
    have bound : id < sections.size + 1 := by simpa using bound
    have : id = sections.size := Nat.le_antisymm (Nat.le_of_lt_succ bound) (Nat.le_of_not_lt new)
    exact this ▸ below

/-! ## Adding tables -/

mutual

def addSlot (sections : Array (Entries Text Slot)) : Value → Array (Entries Text Slot) × Slot
  | .table entries =>
    let (sections, slots) := addSlots sections entries
    -- The sections inside come first, so that their numbers are smaller.
    (sections.push slots, .nested sections.size)
  | value => (sections, .plain value)
termination_by structural value => value

def addSlots (sections : Array (Entries Text Slot)) :
    List (Text × Value) → Array (Entries Text Slot) × Entries Text Slot
  | [] => (sections, [])
  | (key, value) :: rest =>
    let (sections, slot) := addSlot sections value
    let (sections, slots) := addSlots sections rest
    (sections, (key, slot) :: slots)
termination_by structural entries => entries

end

mutual

theorem addSlot_descending {sections : Array (Entries Text Slot)} (h : Descending sections) :
    ∀ value : Value, Descending (addSlot sections value).1 ∧
      sections.size ≤ (addSlot sections value).1.size ∧
      (addSlot sections value).2.IsBelow (addSlot sections value).1.size
  | .table entries => by
    obtain ⟨descending, grows, below⟩ := addSlots_descending h entries
    simp only [addSlot, Array.size_push]
    exact ⟨descending_push descending below, by omega, Nat.lt_succ_self _⟩
  | .text _ | .flag _ | .nothing | .integer _ | .real _ | .list _ | .record _ _ =>
    ⟨h, Nat.le_refl _, trivial⟩
termination_by structural value => value

theorem addSlots_descending {sections : Array (Entries Text Slot)} (h : Descending sections) :
    ∀ entries : List (Text × Value), Descending (addSlots sections entries).1 ∧
      sections.size ≤ (addSlots sections entries).1.size ∧
      Entries.AreBelow (addSlots sections entries).1.size (addSlots sections entries).2
  | [] => ⟨h, Nat.le_refl _, fun _ member => nomatch member⟩
  | (key, value) :: rest => by
    obtain ⟨first, grows, slotBelow⟩ := addSlot_descending h value
    obtain ⟨second, growsMore, below⟩ := addSlots_descending first rest
    refine ⟨second, Nat.le_trans grows growsMore, fun entry member => ?_⟩
    cases member with
    | head => exact slotBelow.mono growsMore
    | tail _ member => exact below entry member
termination_by structural entries => entries

end

def empty : Store := ⟨#[], fun _ h => nomatch h⟩

def next (store : Store) : SectionId := store.sections.size

def add (store : Store) (entries : Entries Text Value) : Store × SectionId :=
  let added := addSlots store.sections entries
  have added_descending := addSlots_descending store.descending entries
  (⟨added.1.push added.2, descending_push added_descending.1 added_descending.2.2⟩, added.1.size)

/-! ## Reading -/

def entries (store : Store) (id : SectionId) : Entries Text Slot :=
  store.sections[id]?.getD []

theorem entries_areBelow (store : Store) (id : SectionId) : (store.entries id).AreBelow id := by
  unfold entries
  by_cases h : id < store.sections.size
  · simpa [Array.getElem?_eq_getElem h] using store.descending id h
  · rw [Array.getElem?_eq_none (Nat.le_of_not_lt h)]
    exact fun _ member => nomatch member

def table (store : Store) (id : SectionId) : Entries Text Value :=
  (store.entries id).attach.map fun ⟨(key, slot), member⟩ =>
    match slot, store.entries_areBelow id _ member with
    | .plain value, _ => (key, value)
    | .nested child, below =>
      -- The number gets smaller, which makes the recursion end.
      have : child < id := below
      (key, .table (store.table child))
termination_by id

/-- What a slot holds, with sections as tables. -/
def value (store : Store) : Slot → Value
  | .plain value => value
  | .nested id => .table (store.table id)

theorem table_eq_map (store : Store) (id : SectionId) :
    store.table id = (store.entries id).map fun (key, slot) => (key, store.value slot) := by
  rw [table]
  conv => rhs; rw [← List.attach_map_subtype_val (store.entries id), List.map_map]
  apply List.map_congr_left
  intro ⟨⟨key, slot⟩, member⟩ _
  cases slot <;> rfl

/-! ## Writing -/

def set (store : Store) (id : SectionId) (key text : Text) : Store where
  sections := store.sections.modify id (Entries.put key (.plain (.text text)))
  descending := by
    intro other bound entry member
    rw [Array.size_modify] at bound
    rw [Array.getElem_modify] at member
    split at member
    · rcases Entries.mem_put member with rfl | old
      · trivial
      · exact store.descending other bound entry old
    · exact store.descending other bound entry member

/-- Add a section with the entries of another one, which share the sections inside. -/
def copy (store : Store) (id : SectionId) : Store × SectionId :=
  (⟨store.sections.push (store.entries id), by
    refine descending_push store.descending ?_
    unfold entries
    by_cases h : id < store.sections.size
    · rw [Array.getElem?_eq_getElem h]
      exact fun entry member => (store.descending id h entry member).mono (Nat.le_of_lt h)
    · rw [Array.getElem?_eq_none (Nat.le_of_not_lt h)]
      exact fun _ member => nomatch member⟩, store.next)

/-! ## What the operations do to sections -/

theorem entries_of_le {store : Store} {id : SectionId} (h : store.next ≤ id) :
    store.entries id = [] := by
  unfold entries
  rw [Array.getElem?_eq_none h]
  rfl

/-- Writing changes one entry of one section. -/
theorem entries_set (store : Store) (id : SectionId) (key text : Text) (other : SectionId) :
    (store.set id key text).entries other =
      if id = other ∧ id < store.next then
        (store.entries other).put key (.plain (.text text))
      else store.entries other := by
  unfold entries set
  by_cases same : id = other
  · subst same
    by_cases known : id < store.next
    · have inside : id < store.sections.size := known
      simp [known, Array.getElem?_modify, Array.getElem?_eq_getElem inside]
    · have outside : store.sections.size ≤ id := Nat.le_of_not_lt known
      simp [known, Array.getElem?_modify, Array.getElem?_eq_none outside]
  · simp [same, Array.getElem?_modify]

theorem next_set (store : Store) (id : SectionId) (key text : Text) :
    (store.set id key text).next = store.next := by
  simp [next, set]

/-- Copying adds one section and keeps the others. -/
theorem entries_copy (store : Store) (id other : SectionId) :
    (store.copy id).1.entries other =
      if other = store.next then store.entries id else store.entries other := by
  unfold copy next
  simp only [entries, Array.getElem?_push]
  split <;> rfl

mutual

theorem addSlot_getElem? {sections : Array (Entries Text Slot)} {id : SectionId}
    (h : id < sections.size) : ∀ value : Value, (addSlot sections value).1[id]? = sections[id]?
  | .table entries => by
    have inner := addSlots_getElem? h entries
    have grows := (Array.getElem?_eq_some_iff.1 (inner.trans (Array.getElem?_eq_getElem h))).1
    rw [addSlot, Array.getElem?_push, if_neg (Nat.ne_of_lt grows)]
    exact inner
  | .text _ | .flag _ | .nothing | .integer _ | .real _ | .list _ | .record _ _ => rfl
termination_by structural value => value

theorem addSlots_getElem? {sections : Array (Entries Text Slot)} {id : SectionId}
    (h : id < sections.size) :
    ∀ entries : List (Text × Value), (addSlots sections entries).1[id]? = sections[id]?
  | [] => rfl
  | (_, value) :: rest => by
    have first := addSlot_getElem? h value
    have grows := (Array.getElem?_eq_some_iff.1 (first.trans (Array.getElem?_eq_getElem h))).1
    exact (addSlots_getElem? grows rest).trans first
termination_by structural entries => entries

end

theorem entries_add_of_lt {store : Store} {id : SectionId} (h : id < store.next)
    (added : Entries Text Value) : (store.add added).1.entries id = store.entries id := by
  have kept := addSlots_getElem? h added
  have grows := (Array.getElem?_eq_some_iff.1 (kept.trans (Array.getElem?_eq_getElem h))).1
  unfold add entries
  rw [Array.getElem?_push, if_neg (Nat.ne_of_lt grows), kept]

/-- Whether a store holds the given sections, and perhaps more behind them. -/
def Extends (store : Store) (sections : Array (Entries Text Slot)) : Prop :=
  ∀ (id : SectionId) (h : id < sections.size), store.sections[id]? = some sections[id]

mutual

theorem value_addSlot {store : Store} {sections : Array (Entries Text Slot)} :
    ∀ {value : Value}, store.Extends (addSlot sections value).1 →
      store.value (addSlot sections value).2 = value
  | .table entries, h => by
    rw [addSlot] at h ⊢
    have last := h (addSlots sections entries).1.size (by simp)
    have inner : store.Extends (addSlots sections entries).1 := fun id bound => by
      have := h id (by rw [Array.size_push]; exact Nat.lt_succ_of_lt bound)
      rwa [Array.getElem_push_lt bound] at this
    rw [value, table_eq_map, Store.entries, last, Array.getElem_push_eq]
    exact congrArg Value.table (value_addSlots inner)
  | .text _, _ | .flag _, _ | .nothing, _ | .integer _, _ | .real _, _ | .list _, _
  | .record _ _, _ => rfl
termination_by structural value => value

theorem value_addSlots {store : Store} {sections : Array (Entries Text Slot)} :
    ∀ {entries : List (Text × Value)}, store.Extends (addSlots sections entries).1 →
      (addSlots sections entries).2.map (fun (key, slot) => (key, store.value slot)) = entries
  | [], _ => rfl
  | (key, value) :: rest, h => by
    have inner : store.Extends (addSlot sections value).1 := fun id bound => by
      have kept := addSlots_getElem? bound rest
      have grows := (Array.getElem?_eq_some_iff.1 (kept.trans (Array.getElem?_eq_getElem bound))).1
      rw [h id grows, ← Array.getElem?_eq_getElem bound, ← kept]
      exact (Array.getElem?_eq_getElem grows).symm
    have first := value_addSlot inner
    simp only [addSlots, List.map_cons, first]
    exact congrArg ((key, value) :: ·) (value_addSlots h)
termination_by structural entries => entries

end

theorem table_add (store : Store) (added : Entries Text Value) :
    (store.add added).1.table (store.add added).2 = added := by
  rw [table_eq_map]
  have last : (store.add added).1.entries (store.add added).2 =
      (addSlots store.sections added).2 := by
    simp [add, entries]
  rw [last]
  refine value_addSlots fun id bound => ?_
  simp only [add]
  rw [Array.getElem?_push, if_neg (Nat.ne_of_lt bound)]
  exact Array.getElem?_eq_getElem bound

end Store

end XmlSettings
