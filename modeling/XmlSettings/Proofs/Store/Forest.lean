import Mathlib.Data.List.Nodup
import XmlSettings.Proofs.Store.Sections

/-! # Sections as a forest

A table that is added makes a section for itself and for every table under one of its keys.  The new
sections are found under one entry each, so no section is under two entries, and no table is left as a
plain value under a key (`Store.IsForest`).  Both hold forever, since a write puts a text over an entry
and leaves the others alone.
-/

namespace XmlSettings

/-! ## Slots -/

namespace Slot

/-- The section that a slot leads to, if there is one. -/
def ids : Slot → List SectionId
  | plain _ => []
  | nested id => [id]

/-- Whether a table in a slot has become a section. -/
def IsFolded : Slot → Prop
  | plain (.table _) => False
  | _ => True

end Slot

/-- The sections that entries lead to, once for each entry. -/
def Entries.ids (slots : Entries Text Slot) : List SectionId :=
  slots.flatMap fun entry => entry.2.ids

def Entries.AreFolded (slots : Entries Text Slot) : Prop :=
  ∀ entry ∈ slots, entry.2.IsFolded

theorem Entries.mem_ids {slots : Entries Text Slot} {key : Text} {id : SectionId}
    (member : (key, Slot.nested id) ∈ slots) : id ∈ slots.ids :=
  List.mem_flatMap.2 ⟨_, member, List.mem_singleton.2 rfl⟩

/-- A plain value that is written leads to no section. -/
theorem Entries.ids_put (key : Text) (value : Value) (slots : Entries Text Slot) :
    (slots.put key (.plain value)).ids.Sublist slots.ids := by
  induction slots with
  | nil => exact List.Sublist.refl _
  | cons entry rest ih =>
    obtain ⟨old, current⟩ := entry
    by_cases same : old = key
    · simp only [put, if_pos same, ids, List.flatMap_cons, Slot.ids, List.nil_append]
      exact List.sublist_append_right _ _
    · simp only [put, if_neg same]
      exact List.Sublist.append_left ih _

namespace Store

/-! ## Sections under one entry -/

/-- The sections that sections lead to, once for each entry. -/
def heldIds (sections : List (Entries Text Slot)) : List SectionId :=
  sections.flatMap Entries.ids

theorem heldIds_modify (key : Text) (value : Value) (sections : List (Entries Text Slot)) (id : SectionId) :
    (heldIds (sections.modify id (Entries.put key (.plain value)))).Sublist (heldIds sections) := by
  induction sections generalizing id with
  | nil => rw [List.modify_nil]
  | cons slots rest ih =>
    cases id with
    | zero => exact List.Sublist.append_right (slots.ids_put key value) _
    | succ id => exact List.Sublist.append_left (ih id) _

/-- Sections that are found once each, in one of them or in slots that are in none of them yet. -/
structure AreApart (sections : Array (Entries Text Slot)) (pending : List Slot) : Prop where
  distinct : (heldIds sections.toList ++ pending.flatMap Slot.ids).Nodup
  known : ∀ id ∈ heldIds sections.toList ++ pending.flatMap Slot.ids, id < sections.size
  folded : ∀ slots ∈ sections, slots.AreFolded
  foldedPending : ∀ slot ∈ pending, slot.IsFolded

section Adding

variable {sections : Array (Entries Text Slot)} {pending : List Slot} {slots : Entries Text Slot}

theorem AreApart.append_plain {value : Value} (apart : AreApart sections pending)
    (noTable : ∀ entries, value ≠ .table entries) : AreApart sections (pending ++ [.plain value]) := by
  obtain ⟨distinct, known, folded, foldedPending⟩ := apart
  have same : (pending ++ [Slot.plain value]).flatMap Slot.ids = pending.flatMap Slot.ids := by
    simp [Slot.ids]
  refine ⟨same ▸ distinct, same ▸ known, folded, ?_⟩
  apply List.forall_mem_append.2 ⟨foldedPending, List.forall_mem_singleton.2 ?_⟩
  cases value with
  | table entries => exact absurd rfl (noTable entries)
  | _ => trivial

/-- Entries become a section, which nothing leads to but the slot for it. -/
theorem AreApart.push (apart : AreApart sections (pending ++ slots.map Prod.snd)) :
    AreApart (sections.push slots) (pending ++ [.nested sections.size]) := by
  obtain ⟨distinct, known, folded, foldedPending⟩ := apart
  have pushed : (heldIds (sections.push slots).toList ++
      (pending ++ [Slot.nested sections.size]).flatMap Slot.ids).Perm
      (heldIds sections.toList ++ (pending ++ slots.map Prod.snd).flatMap Slot.ids ++ [sections.size]) := by
    simp only [heldIds, Array.toList_push, List.flatMap_append, List.flatMap_cons, List.flatMap_nil,
      List.flatMap_map, Slot.ids, List.append_nil, List.append_assoc]
    apply List.Perm.append_left
    rw [← List.append_assoc, ← List.append_assoc]
    exact List.Perm.append_right _ List.perm_append_comm
  refine ⟨pushed.nodup_iff.2 ?_, fun id member => ?_, ?_, ?_⟩
  · apply List.nodup_append.2 ⟨distinct, List.nodup_singleton _, ?_⟩
    intro id member last isLast same
    rw [same, List.mem_singleton.1 isLast] at member
    exact Nat.lt_irrefl _ (known _ member)
  · rw [Array.size_push]
    rcases List.mem_append.1 (pushed.mem_iff.1 member) with old | new
    · exact Nat.lt_succ_of_lt (known id old)
    · exact List.mem_singleton.1 new ▸ Nat.lt_succ_self _
  · intro other member
    rcases Array.mem_push.1 member with old | rfl
    · exact folded other old
    · intro entry inside
      exact foldedPending _ (List.mem_append_right _ (List.mem_map_of_mem inside))
  · intro slot member
    rcases List.mem_append.1 member with old | new
    · exact foldedPending slot (List.mem_append_left _ old)
    · rw [List.mem_singleton.1 new]
      trivial

mutual

/-- The sections that are made for a value are found once each. -/
theorem areApart_addSlot {sections : Array (Entries Text Slot)} {pending : List Slot}
    (apart : AreApart sections pending) : ∀ value : Value,
      AreApart (addSlot sections value).1 (pending ++ [(addSlot sections value).2])
  | .table entries => (areApart_addSlots apart entries).push
  | .text _ | .flag _ | .nothing | .integer _ | .real _ | .list _ | .record _ _ =>
    apart.append_plain nofun
termination_by structural value => value

theorem areApart_addSlots {sections : Array (Entries Text Slot)} {pending : List Slot}
    (apart : AreApart sections pending) : ∀ entries : List (Text × Value),
      AreApart (addSlots sections entries).1 (pending ++ (addSlots sections entries).2.map Prod.snd)
  | [] => by
    rw [addSlots, List.map_nil, List.append_nil]
    exact apart
  | (key, value) :: rest => by
    have later := areApart_addSlots (areApart_addSlot apart value) rest
    rw [List.append_assoc] at later
    exact later
termination_by structural entries => entries

end

end Adding

/-! ## Forests -/

/-- Whether no section of a store is under two entries, and no table under a key is a plain value. -/
structure IsForest (store : Store) : Prop where
  distinct : (heldIds store.sections.toList).Nodup
  folded : ∀ slots ∈ store.sections, slots.AreFolded

section Forests

variable {store : Store}

theorem isForest_empty : empty.IsForest where
  distinct := List.nodup_nil
  folded := nofun

theorem known_of_mem_heldIds {id : SectionId} (member : id ∈ heldIds store.sections.toList) :
    id < store.sections.size := by
  obtain ⟨slots, inside, held⟩ := List.mem_flatMap.1 member
  obtain ⟨⟨key, slot⟩, found, leads⟩ := List.mem_flatMap.1 held
  obtain ⟨outer, bound, rfl⟩ := List.getElem_of_mem inside
  rw [Array.getElem_toList] at found
  have below := store.descending outer bound _ found
  cases slot with
  | plain _ => cases leads
  | nested child =>
    rw [List.mem_singleton.1 leads]
    exact Nat.lt_trans below bound

theorem IsForest.add (forest : store.IsForest) (entries : Entries Text Value) :
    (store.add entries).1.IsForest := by
  have before : AreApart store.sections [] := by
    refine ⟨?_, ?_, forest.folded, nofun⟩
    · rw [List.flatMap_nil, List.append_nil]
      exact forest.distinct
    · rw [List.flatMap_nil, List.append_nil]
      exact fun _ => known_of_mem_heldIds
  obtain ⟨distinct, _, folded, _⟩ := (areApart_addSlots before entries).push
  exact ⟨(List.nodup_append.1 distinct).1, folded⟩

theorem IsForest.set (forest : store.IsForest) (id : SectionId) (key text : Text) :
    (store.set id key text).IsForest := by
  constructor
  · apply List.Sublist.nodup _ forest.distinct
    rw [Store.set, Array.toList_modify]
    exact heldIds_modify key (.text text) store.sections.toList id
  · intro slots member entry inside
    obtain ⟨other, bound, rfl⟩ := Array.getElem_of_mem member
    have known : other < store.sections.size := by
      rw [← next, ← store.next_set id key text]
      exact bound
    have old := forest.folded _ (Array.getElem_mem known)
    simp only [Store.set, Array.getElem_modify] at inside
    split at inside
    next =>
      rcases Entries.mem_put inside with rfl | kept
      · trivial
      · exact old entry kept
    next => exact old entry inside

/-- Values in a row without repetition come from one place each. -/
theorem index_eq_of_nodup {α β : Type} {f : α → List β} {items : List α} {value : β} {i j : Nat}
    (distinct : (items.flatMap f).Nodup) (hi : i < items.length) (hj : j < items.length)
    (first : value ∈ f items[i]) (second : value ∈ f items[j]) : i = j := by
  have apart := List.pairwise_iff_getElem.1 (List.nodup_flatMap.1 distinct).2
  rcases Nat.lt_trichotomy i j with less | same | more
  · exact absurd second (apart i j hi hj less first)
  · exact same
  · exact absurd first (apart j i hj hi more second)

theorem getElem_of_mem_entries {id : SectionId} {entry : Text × Slot}
    (member : entry ∈ store.entries id) :
    ∃ inside : id < store.sections.toList.length, store.sections.toList[id] = store.entries id := by
  by_cases inside : id < store.sections.size
  · refine ⟨inside, ?_⟩
    rw [Array.getElem_toList, entries, Array.getElem?_eq_getElem inside, Option.getD_some]
  · rw [entries_of_le (Nat.le_of_not_lt inside)] at member
    cases member

theorem IsForest.areFolded (forest : store.IsForest) (id : SectionId) :
    (store.entries id).AreFolded := by
  intro entry member
  obtain ⟨inside, same⟩ := getElem_of_mem_entries member
  have folded := forest.folded _ (Array.getElem_mem inside)
  rw [← Array.getElem_toList, same] at folded
  exact folded entry member

/-- A section is under one entry at most. -/
theorem IsForest.eq_of_mem (forest : store.IsForest) {first second child : SectionId}
    {key name : Text} (here : (key, .nested child) ∈ store.entries first)
    (there : (name, .nested child) ∈ store.entries second) : first = second ∧ key = name := by
  obtain ⟨hi, atFirst⟩ := getElem_of_mem_entries here
  obtain ⟨hj, atSecond⟩ := getElem_of_mem_entries there
  have same : first = second := by
    apply index_eq_of_nodup forest.distinct hi hj
    · rw [atFirst]
      exact Entries.mem_ids here
    · rw [atSecond]
      exact Entries.mem_ids there
  subst same
  have inside : (store.entries first).ids.Nodup := by
    apply (List.nodup_flatMap.1 forest.distinct).1
    rw [← atFirst]
    exact List.getElem_mem hi
  obtain ⟨i, hi, atKey⟩ := List.getElem_of_mem here
  obtain ⟨j, hj, atName⟩ := List.getElem_of_mem there
  have isChild (name : Text) : child ∈ Slot.ids (name, Slot.nested child).2 := List.mem_singleton.2 rfl
  cases index_eq_of_nodup inside hi hj (atKey ▸ isChild key) (atName ▸ isChild name)
  rw [atKey] at atName
  exact ⟨rfl, congrArg Prod.fst atName⟩

end Forests

end Store

end XmlSettings
