import Mathlib.Data.List.Perm.Basic
import XmlSettings.Proofs.Schema.Pointwise

/-! # Data in another order

The entries of a table come in some order, and a key may name a field in several spellings.  Two tables
say the same of the fields of a class if the values under keys of one normal form are the same up to
the order of the tables in them (`lastNamed_rearranged`).
-/

namespace XmlSettings

/-- Whether two entries have keys and values that are alike. -/
inductive Matches (sameKey : Text → Text → Prop) (same : Value → Value → Prop) :
    Text × Value → Text × Value → Prop where
  | mk {key other : Text} {value result : Value} (keys : sameKey key other)
      (values : same value result) : Matches sameKey same (key, value) (other, result)

theorem matches_iff {sameKey : Text → Text → Prop} {same : Value → Value → Prop}
    {entry other : Text × Value} :
    Matches sameKey same entry other ↔ sameKey entry.1 other.1 ∧ same entry.2 other.2 := by
  constructor
  · rintro ⟨keys, values⟩
    exact ⟨keys, values⟩
  · rintro ⟨keys, values⟩
    exact .mk keys values

/-- Whether two lists are alike one by one, up to their order. -/
def IsRearranged {α : Type} (R : α → α → Prop) (first second : List α) : Prop :=
  ∃ between, List.Forall₂ R first between ∧ between.Perm second

namespace IsRearranged

variable {α : Type} {R : α → α → Prop} {first second : List α} {a b : α}

theorem exists_of_mem (rearranged : IsRearranged R first second) (member : a ∈ first) :
    ∃ b ∈ second, R a b := by
  obtain ⟨between, each, moved⟩ := rearranged
  obtain ⟨b, inside, related⟩ := Schema.exists_of_forall₂ each member
  exact ⟨b, moved.subset inside, related⟩

theorem exists_of_mem_second (rearranged : IsRearranged R first second) (member : b ∈ second) :
    ∃ a ∈ first, R a b := by
  obtain ⟨between, each, moved⟩ := rearranged
  exact Schema.exists_of_forall₂ each.flip (moved.symm.subset member)

theorem mono {S : α → α → Prop} (weaker : ∀ a b, R a b → S a b)
    (rearranged : IsRearranged R first second) :
    IsRearranged S first second := by
  obtain ⟨between, each, moved⟩ := rearranged
  exact ⟨between, each.imp weaker, moved⟩

end IsRearranged

/-- Whether two values are the same up to the order of the entries in tables. -/
inductive Value.IsReordered : Value → Value → Prop where
  | refl (value : Value) : IsReordered value value
  | list {items others : List Value} (each : List.Forall₂ IsReordered items others) :
      IsReordered (.list items) (.list others)
  | table {entries between others : List (Text × Value)}
      (each : List.Forall₂ (Matches Eq IsReordered) entries between) (moved : between.Perm others) :
      IsReordered (.table entries) (.table others)
  | record {className : Text} {fields others : List (Text × Value)}
      (each : List.Forall₂ (Matches Eq IsReordered) fields others) :
      IsReordered (.record className fields) (.record className others)

mutual

/-- Whether no two keys of a table in a value have one normal form. -/
def Value.isUnambiguous : Value → Bool
  | .table entries =>
    decide ((Entries.keys entries).map Schema.normal).Nodup && Value.areUnambiguous entries
  | .list items => Value.itemsAreUnambiguous items
  | _ => true
termination_by structural value => value

def Value.itemsAreUnambiguous : List Value → Bool
  | [] => true
  | item :: rest => Value.isUnambiguous item && Value.itemsAreUnambiguous rest
termination_by structural items => items

/-- Whether no two keys of a table in the values of entries have one normal form. -/
def Value.areUnambiguous : List (Text × Value) → Bool
  | [] => true
  | (_, value) :: rest => Value.isUnambiguous value && Value.areUnambiguous rest
termination_by structural entries => entries

end

namespace Value

variable {raw other : Value} {items others : List Value} {entries : List (Text × Value)}

theorem itemsAreUnambiguous_iff :
    itemsAreUnambiguous items = true ↔ ∀ item ∈ items, item.isUnambiguous = true := by
  induction items with
  | nil => simp [itemsAreUnambiguous]
  | cons item rest ih => simp [itemsAreUnambiguous, ih]

theorem areUnambiguous_iff :
    areUnambiguous entries = true ↔ ∀ key raw, (key, raw) ∈ entries → raw.isUnambiguous = true := by
  induction entries with
  | nil => simp [areUnambiguous]
  | cons entry rest ih =>
    obtain ⟨key, raw⟩ := entry
    rw [areUnambiguous, Bool.and_eq_true, ih, Entries.forall_mem_cons]

theorem isUnambiguous_table : (table entries).isUnambiguous = true ↔
    ((Entries.keys entries).map Schema.normal).Nodup ∧
      ∀ key raw, (key, raw) ∈ entries → raw.isUnambiguous = true := by
  rw [isUnambiguous, Bool.and_eq_true, decide_eq_true_iff, areUnambiguous_iff]

theorem areOfTexts_iff : areOfTexts items = true ↔ ∀ item ∈ items, item.isOfTexts = true := by
  induction items with
  | nil => simp [areOfTexts]
  | cons item rest ih => simp [areOfTexts, ih]

theorem holdsTexts_iff :
    holdsTexts entries = true ↔ ∀ key raw, (key, raw) ∈ entries → raw.isOfTexts = true := by
  induction entries with
  | nil => simp [holdsTexts]
  | cons entry rest ih =>
    obtain ⟨key, raw⟩ := entry
    rw [holdsTexts, Bool.and_eq_true, ih, Entries.forall_mem_cons]

namespace IsReordered

theorem of_text {s : Text} (reordered : IsReordered (.text s) other) : other = .text s := by
  cases reordered
  rfl

theorem of_list (reordered : IsReordered (.list items) other) :
    ∃ others, other = .list others ∧ List.Forall₂ IsReordered items others := by
  cases reordered with
  | refl => exact ⟨items, rfl, List.forall₂_same.2 fun item _ => .refl item⟩
  | list each => exact ⟨_, rfl, each⟩

theorem of_table (reordered : IsReordered (.table entries) other) :
    ∃ others, other = .table others ∧ IsRearranged (Matches Eq IsReordered) entries others := by
  cases reordered with
  | refl =>
    refine ⟨entries, rfl, entries, List.forall₂_same.2 fun entry _ => ?_, .refl _⟩
    exact .mk rfl (.refl entry.2)
  | table each moved => exact ⟨_, rfl, _, each, moved⟩

/-- What is made of texts is so in any order. -/
theorem isOfTexts {raw other : Value} (reordered : IsReordered raw other)
    (ofTexts : raw.isOfTexts = true) : other.isOfTexts = true := by
  cases raw with
  | text s =>
    rw [reordered.of_text]
    rfl
  | list items =>
    obtain ⟨others, rfl, each⟩ := reordered.of_list
    rw [Value.isOfTexts, areOfTexts_iff] at ofTexts ⊢
    intro other inside
    obtain ⟨item, member, related⟩ := Schema.exists_of_forall₂ each.flip inside
    have := sizeOf_lt_of_item member
    exact isOfTexts related (ofTexts item member)
  | table entries =>
    obtain ⟨others, rfl, rearranged⟩ := reordered.of_table
    rw [Value.isOfTexts, holdsTexts_iff] at ofTexts ⊢
    intro key other inside
    obtain ⟨⟨first, raw⟩, member, related⟩ := rearranged.exists_of_mem_second inside
    have := sizeOf_lt_of_entry member
    exact isOfTexts (matches_iff.1 related).2 (ofTexts first raw member)
  | _ => cases ofTexts
termination_by sizeOf raw

end IsReordered

end Value

namespace Schema

open Value (IsReordered)

variable {name : Text} {raw : Value} {entries others : List (Text × Value)}

/-- Whether two keys have one normal form. -/
def SameName (key other : Text) : Prop := normal key = normal other

theorem names_of_matches (each : List.Forall₂ (Matches SameName IsReordered) entries others) :
    (Entries.keys entries).map normal = (Entries.keys others).map normal := by
  induction each with
  | nil => rfl
  | @cons entry other rest more here _ ih =>
    have same : normal entry.1 = normal other.1 := (matches_iff.1 here).1
    rw [Entries.keys_cons, Entries.keys_cons, List.map_cons, List.map_cons, same, ih]

theorem nodup_names_of_rearranged
    (rearranged : IsRearranged (Matches SameName IsReordered) entries others)
    (distinct : ((Entries.keys entries).map normal).Nodup) :
    ((Entries.keys others).map normal).Nodup := by
  obtain ⟨between, each, moved⟩ := rearranged
  rw [names_of_matches each] at distinct
  exact ((moved.map _).map normal).nodup distinct

theorem lastNamed_eq_none_iff :
    lastNamed name entries = none ↔ ∀ key ∈ Entries.keys entries, ¬SameName key name := by
  induction entries with
  | nil => simp [lastNamed]
  | cons entry rest ih =>
    obtain ⟨key, first⟩ := entry
    by_cases same : normal key = normal name <;> simp [lastNamed, ih, same, SameName]

/-- Of keys with different normal forms only one names a field. -/
theorem lastNamed_of_mem {key : Text} (distinct : ((Entries.keys entries).map normal).Nodup)
    (member : (key, raw) ∈ entries) (names : SameName key name) : lastNamed name entries = some raw := by
  induction entries with
  | nil => cases member
  | cons entry rest ih =>
    obtain ⟨first, value⟩ := entry
    rw [Entries.keys_cons, List.map_cons, List.nodup_cons] at distinct
    rw [lastNamed]
    cases member with
    | head =>
      have none : lastNamed name rest = none := by
        refine lastNamed_eq_none_iff.2 fun other inside again => ?_
        exact distinct.1 (List.mem_map.2 ⟨other, inside, again.trans names.symm⟩)
      rw [none, Option.none_or]
      exact if_pos names
    | tail _ later => rw [ih distinct.2 later, Option.some_or]

theorem exists_of_lastNamed (found : lastNamed name entries = some raw) :
    ∃ key, (key, raw) ∈ entries ∧ SameName key name := by
  induction entries with
  | nil => cases found
  | cons entry rest ih =>
    obtain ⟨key, first⟩ := entry
    rw [lastNamed] at found
    cases later : lastNamed name rest with
    | some value =>
      rw [later, Option.some_or] at found
      obtain ⟨other, inside, names⟩ := ih (later.trans found)
      exact ⟨other, List.mem_cons_of_mem _ inside, names⟩
    | none =>
      rw [later, Option.none_or] at found
      split at found
      next names =>
        cases found
        exact ⟨key, List.mem_cons_self, names⟩
      next => cases found

/-- What a field is given does not depend on the order of the keys and on their spelling. -/
theorem lastNamed_rearranged (rearranged : IsRearranged (Matches SameName IsReordered) entries others)
    (distinct : ((Entries.keys entries).map normal).Nodup) (name : Text) :
    (lastNamed name entries = none ∧ lastNamed name others = none) ∨
      ∃ key raw other, (key, raw) ∈ entries ∧ raw.IsReordered other ∧
        lastNamed name entries = some raw ∧ lastNamed name others = some other := by
  cases found : lastNamed name entries with
  | some raw =>
    obtain ⟨key, inside, names⟩ := exists_of_lastNamed found
    obtain ⟨⟨again, other⟩, member, related⟩ := rearranged.exists_of_mem inside
    obtain ⟨same, reordered⟩ := matches_iff.1 related
    refine .inr ⟨key, raw, other, inside, reordered, rfl, ?_⟩
    exact lastNamed_of_mem (nodup_names_of_rearranged rearranged distinct) member (same.symm.trans names)
  | none =>
    refine .inl ⟨rfl, lastNamed_eq_none_iff.2 fun key inside names => ?_⟩
    obtain ⟨⟨_, other⟩, member, rfl⟩ := List.mem_map.1 inside
    obtain ⟨⟨first, raw⟩, known, related⟩ := rearranged.exists_of_mem_second member
    refine lastNamed_eq_none_iff.1 found first (List.mem_map.2 ⟨_, known, rfl⟩) ?_
    exact (matches_iff.1 related).1.trans names

end Schema

end XmlSettings
