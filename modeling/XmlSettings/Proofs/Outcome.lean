/-! # Steps that may fail

A sequence of steps gives a result exactly if every step of it does.
-/

namespace XmlSettings

variable {ε α β : Type} {result : β}

theorem exists_ok_of_isOk {first : Except ε α} (succeeded : first.isOk = true) : ∃ a, first = .ok a := by
  cases first with
  | error e => cases succeeded
  | ok a => exact ⟨a, rfl⟩

theorem exists_error_of_isOk {first : Except ε α} (failed : first.isOk = false) :
    ∃ e, first = .error e := by
  cases first with
  | error e => exact ⟨e, rfl⟩
  | ok a => cases failed

theorem bind_eq_ok {first : Except ε α} {next : α → Except ε β} :
    first.bind next = .ok result ↔ ∃ a, first = .ok a ∧ next a = .ok result := by
  cases first <;> simp [Except.bind]

theorem mapError_eq_ok {δ : Type} {first : Except ε β} {wrap : ε → δ} :
    first.mapError wrap = .ok result ↔ first = .ok result := by
  cases first with
  | error e => constructor <;> intro failed <;> cases failed
  | ok a => constructor <;> intro taken <;> cases taken <;> rfl

theorem mapError_eq_error {δ : Type} {first : Except ε β} {wrap : ε → δ} {failure : δ} :
    first.mapError wrap = .error failure ↔ ∃ e, first = .error e ∧ wrap e = failure := by
  cases first with
  | error e =>
    constructor
    · intro failed
      cases failed
      exact ⟨e, rfl, rfl⟩
    · rintro ⟨_, same, rfl⟩
      cases same
      rfl
  | ok a =>
    constructor
    · intro failed
      cases failed
    · rintro ⟨_, same, _⟩
      cases same

theorem map_eq_ok {first : Except ε α} {f : α → β} :
    first.map f = .ok result ↔ ∃ a, first = .ok a ∧ f a = result := by
  cases first <;> simp [Except.map]

theorem map_eq_error {first : Except ε α} {f : α → β} {e : ε} :
    first.map f = .error e ↔ first = .error e := by
  cases first <;> simp [Except.map]

theorem functorMap_eq_ok {first : Except ε α} {f : α → β} :
    f <$> first = .ok result ↔ ∃ a, first = .ok a ∧ f a = result :=
  map_eq_ok

theorem functorMap_eq_error {first : Except ε α} {f : α → β} {e : ε} :
    f <$> first = .error e ↔ first = .error e :=
  map_eq_error

end XmlSettings
