import XmlSettings.Proofs.Outcome
import XmlSettings.Proofs.Placeholder
import XmlSettings.Proofs.Settings.Setting

/-! # Expanding settings that were read

A placeholder in a text without surrogates names a variable that there may be, so that settings that were
read are expanded in every environment (`expandEntries_eq_ok`).  What they are expanded to is given by a
function, which leaves alone what cannot be expanded (`Value.expanded`).
-/

namespace XmlSettings

namespace Placeholder

/-- The text that a text stands for, or the text itself where the variable cannot be asked for. -/
def expanded (env : Environment) (t : Text) : Text := (expand env t).toOption.getD t

theorem expanded_of_expand {env : Environment} {t s : Text} (h : expand env t = .ok s) :
    expanded env t = s := by
  rw [expanded, h]
  rfl

theorem hasSurrogate_key {t : Text} {body : List Rune} (plain : t.hasSurrogate = false)
    (wrapped : body? t = some body) : (Text.ofList (split body).1).hasSurrogate = false := by
  refine List.any_eq_false.2 fun c member => List.any_eq_false.1 plain c ?_
  rw [(body?_eq_some_iff.1 wrapped).1]
  exact List.mem_cons_of_mem _ (List.mem_cons_of_mem _ ((prefix_split wrapped).subset member))

theorem expand_eq_ok_expanded {t : Text} (plain : t.hasSurrogate = false) (env : Environment) :
    expand env t = .ok (expanded env t) := by
  suffices ∃ s, expand env t = .ok s by
    obtain ⟨s, same⟩ := this
    rw [same, expanded_of_expand same]
  cases wrapped : body? t with
  | none => exact ⟨t, by rw [expand, wrapped]⟩
  | some body =>
    obtain ⟨name, named⟩ := Text.exists_of_not_hasSurrogate (hasSurrogate_key plain wrapped)
    simp only [expand, wrapped, named, Environment.lookup_ofString, bind, Except.bind]
    split <;> exact ⟨_, rfl⟩

end Placeholder

namespace Value

mutual

/-- A value with every text in it replaced by what it stands for. -/
def expanded (env : Environment) : Value → Value
  | text t => text (Placeholder.expanded env t)
  | list items => list (expandedItems env items)
  | table entries => table (expandedEntries env entries)
  | value => value
termination_by structural value => value

def expandedItems (env : Environment) : List Value → List Value
  | [] => []
  | item :: rest => expanded env item :: expandedItems env rest
termination_by structural items => items

def expandedEntries (env : Environment) : List (Text × Value) → List (Text × Value)
  | [] => []
  | (key, value) :: rest => (key, expanded env value) :: expandedEntries env rest
termination_by structural entries => entries

end

mutual

/-- All texts in a value. -/
def texts : Value → List Text
  | text s => [s]
  | list items => textsOfItems items
  | table entries => textsOfEntries entries
  | _ => []
termination_by structural value => value

def textsOfItems : List Value → List Text
  | [] => []
  | item :: rest => texts item ++ textsOfItems rest
termination_by structural items => items

def textsOfEntries : List (Text × Value) → List Text
  | [] => []
  | (_, value) :: rest => texts value ++ textsOfEntries rest
termination_by structural entries => entries

end

section Plain

variable {env : Environment}

mutual

/-- A value without surrogates in its texts is expanded. -/
theorem expand_eq_ok_expanded : ∀ {value : Value}, (∀ s ∈ value.texts, s.hasSurrogate = false) →
    value.expand env = .ok (value.expanded env)
  | .text s, plain => by
    rw [expand, Placeholder.expand_eq_ok_expanded (plain s List.mem_cons_self)]
    rfl
  | .list _, plain => by
    rw [expand, expandItems_eq_ok_expanded plain]
    rfl
  | .table _, plain => by
    rw [expand, expandEntries_eq_ok_expanded plain]
    rfl
  | .flag _, _ | .nothing, _ | .integer _, _ | .real _, _ | .record _ _, _ => rfl
termination_by structural value => value

theorem expandItems_eq_ok_expanded : ∀ {items : List Value},
    (∀ s ∈ textsOfItems items, s.hasSurrogate = false) →
      expandItems env items = .ok (expandedItems env items)
  | [], _ => rfl
  | _ :: _, plain => by
    obtain ⟨here, later⟩ := List.forall_mem_append.1 plain
    rw [expandItems, expand_eq_ok_expanded here, expandItems_eq_ok_expanded later]
    rfl
termination_by structural items => items

theorem expandEntries_eq_ok_expanded : ∀ {entries : List (Text × Value)},
    (∀ s ∈ textsOfEntries entries, s.hasSurrogate = false) →
      expandEntries env entries = .ok (expandedEntries env entries)
  | [], _ => rfl
  | _ :: _, plain => by
    obtain ⟨here, later⟩ := List.forall_mem_append.1 plain
    rw [expandEntries, expand_eq_ok_expanded here, expandEntries_eq_ok_expanded later]
    rfl
termination_by structural entries => entries

end

end Plain

theorem mem_textsOfItems_iff {s : Text} {items : List Value} :
    s ∈ textsOfItems items ↔ ∃ item ∈ items, s ∈ item.texts := by
  induction items with
  | nil => simp [textsOfItems]
  | cons item rest ih => simp [textsOfItems, ih]

theorem mem_textsOfEntries_iff {s : Text} {entries : List (Text × Value)} :
    s ∈ textsOfEntries entries ↔ ∃ key value, (key, value) ∈ entries ∧ s ∈ value.texts := by
  induction entries with
  | nil => simp [textsOfEntries]
  | cons entry rest ih =>
    obtain ⟨key, value⟩ := entry
    simp only [textsOfEntries, List.mem_append, ih, List.mem_cons]
    grind

end Value

namespace Settings

section Texts

variable {named : Text → Prop} {held : Text → Text → Prop}

mutual

/-- What is known of texts is known of all texts in a setting. -/
theorem IsSetting.held_of_mem_texts {key : Text} {value : Value} : IsSetting named held key value →
    ∀ s ∈ value.texts, ∃ key, held key s
  | .text holds => fun _ member => ⟨_, List.mem_singleton.1 member ▸ holds⟩
  | .table _ inside => inside.held_of_mem_texts

theorem IsSection.held_of_mem_texts {entries : Entries Text Value} : IsSection named held entries →
    ∀ s ∈ Value.textsOfEntries entries, ∃ key, held key s
  | .mk _ _ each => fun s member => by
    obtain ⟨key, value, inside, found⟩ := Value.mem_textsOfEntries_iff.1 member
    exact (each key value inside).held_of_mem_texts s found

theorem IsEntry.held_of_mem_texts {key : Text} {value : Value} : IsEntry named held key value →
    ∀ s ∈ value.texts, ∃ key, held key s
  | .single _ setting => setting.held_of_mem_texts
  | .several _ _ _ inside => fun s member => by
    obtain ⟨item, here, found⟩ := Value.mem_textsOfItems_iff.1 member
    exact (inside item here).held_of_mem_texts s found

end

end Texts

variable {entries : Entries Text Value}

theorem hasSurrogate_of_isReadText {key s : Text} (read : IsReadText key s) : s.hasSurrogate = false :=
  (isDocumentText_iff.1 read.1).1

theorem hasSurrogate_of_mem_texts (inside : IsSection IsReadKey IsReadText entries) :
    ∀ s ∈ Value.textsOfEntries entries, s.hasSurrogate = false := by
  intro s member
  obtain ⟨key, read⟩ := inside.held_of_mem_texts s member
  exact hasSurrogate_of_isReadText read

/-- Settings that were read are expanded in every environment. -/
theorem expandEntries_eq_ok (inside : IsSection IsReadKey IsReadText entries) (env : Environment) :
    Value.expandEntries env entries = .ok (Value.expandedEntries env entries) :=
  Value.expandEntries_eq_ok_expanded (hasSurrogate_of_mem_texts inside)

end Settings

end XmlSettings
