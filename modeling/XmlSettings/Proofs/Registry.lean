import XmlSettings.Proofs.Entries
import XmlSettings.Registry

/-! # First come, first served

A registry with distinct names finds each adapter that has been registered, and lists their names in order.
An adapter is refused exactly if there is none or if its name is taken (`register_eq_ok_iff`,
`register_eq_error_iff`); otherwise it is found from then on, and the others are found as before
(`get?_of_register`).
-/

namespace XmlSettings.Registry

variable {registry later : Registry} {name : Text} {adapter? : Option Adapter} {adapter : Adapter}
  {refusal : Refusal}

/-! ## Looking up -/

theorem find_eq (registry : Registry) (name : Text) : registry.find name =
    match registry.adapters.get? name with
    | some adapter => .ok adapter
    | none => .error (.unknown name) := rfl

theorem find_eq_ok_iff :
    registry.find name = .ok adapter ↔ registry.adapters.get? name = some adapter := by
  rw [find_eq]
  cases registry.adapters.get? name <;> simp

theorem contains_iff : registry.contains name = true ↔ name ∈ registry.adapters.keys :=
  Entries.hasKey_iff

/-- The names that a registry holds are the ones under which something is found. -/
theorem contains_iff_find :
    registry.contains name = true ↔ registry.find name ≠ .error (.unknown name) := by
  rw [contains, Entries.hasKey, find_eq]
  cases registry.adapters.get? name <;> simp

theorem mem_names_iff : name ∈ registry.names ↔ registry.contains name = true := by
  rw [contains_iff, names, List.mem_mergeSort]

/-- Distinct names are listed in order. -/
theorem pairwise_names (distinct : registry.adapters.keys.Nodup) :
    registry.names.Pairwise (· < ·) := by
  have sorted : registry.names.Pairwise fun first second => decide (first ≤ second) = true :=
    List.pairwise_mergeSort (fun a b c => by simpa using Text.le_trans)
      (fun a b => by simpa using Text.le_total a b) _
  have apart : registry.names.Pairwise (· ≠ ·) :=
    (List.mergeSort_perm registry.adapters.keys _).nodup_iff.2 distinct
  exact sorted.imp₂ (fun first second le => Text.lt_of_le_of_ne (of_decide_eq_true le)) apart

/-! ## Registering -/

theorem register_eq_ok_iff : registry.register name adapter? = .ok later ↔
    registry.contains name = false ∧
      ∃ adapter, adapter? = some adapter ∧ ⟨registry.adapters.put name adapter⟩ = later := by
  cases adapter? with
  | none => simp [register]
  | some adapter => cases known : registry.contains name <;> simp [register, known]

theorem register_eq_error_iff : registry.register name adapter? = .error refusal ↔
    adapter? = none ∧ .noAdapter = refusal ∨
      adapter? ≠ none ∧ registry.contains name = true ∧ .taken name = refusal := by
  cases adapter? with
  | none => simp [register]
  | some adapter => cases known : registry.contains name <;> simp [register, known]

theorem get?_of_register (registered : registry.register name adapter? = .ok later) (wanted : Text) :
    later.adapters.get? wanted =
      (registry.adapters.get? wanted).or (if name = wanted then adapter? else none) := by
  obtain ⟨new, adapter, rfl, rfl⟩ := register_eq_ok_iff.1 registered
  rw [Entries.get?_put]
  split
  next same =>
    subst same
    rw [contains, Entries.hasKey, Option.isSome_eq_false_iff, Option.isNone_iff_eq_none] at new
    rw [new, Option.none_or]
  next => rw [Option.or_none]

theorem nodup_of_register (registered : registry.register name adapter? = .ok later)
    (distinct : registry.adapters.keys.Nodup) : later.adapters.keys.Nodup := by
  obtain ⟨_, adapter, _, rfl⟩ := register_eq_ok_iff.1 registered
  exact Entries.nodup_keys_put distinct

end XmlSettings.Registry
