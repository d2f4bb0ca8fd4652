import Mathlib.Data.List.Basic
import XmlSettings.Environment
import XmlSettings.Proofs.Text.System

/-! # Asking an environment

A variable is asked for by a name that can go to the operating system, which is one whose surrogates
escape bytes (`lookup_eq_error_iff`), and one without surrogates stands for itself (`lookup_ofString`).
-/

namespace XmlSettings

/-- Whether each surrogate of a text escapes a byte. -/
def Text.IsSendable (t : Text) : Prop :=
  ∀ n, Rune.surrogate n ∈ t.toList → 0x480 ≤ n.val ∧ n.val < 0x500

namespace Text

theorem systemBytes?_eq_none_iff {c : Rune} :
    systemBytes? c = none ↔ ∃ n, c = .surrogate n ∧ ¬(0x480 ≤ n.val ∧ n.val < 0x500) := by
  cases c with
  | char c => simp [systemBytes?]
  | surrogate n =>
    rw [systemBytes?]
    split <;> simp_all

theorem mapM_systemBytes?_eq_none_iff {cs : List Rune} :
    cs.mapM systemBytes? = none ↔ ∃ c ∈ cs, systemBytes? c = none := by
  induction cs with
  | nil => simp
  | cons c rest ih =>
    cases first : systemBytes? c with
    | none => simp [first]
    | some bytes =>
      cases others : rest.mapM systemBytes? with
      | none => simpa [first, others] using ih.1 others
      | some parts => simp [first, others, ← ih]

theorem systemForm?_eq_none_iff {t : Text} : t.systemForm? = none ↔ ¬t.IsSendable := by
  simp only [systemForm?, Option.map_eq_none_iff, mapM_systemBytes?_eq_none_iff,
    systemBytes?_eq_none_iff, IsSendable, not_forall]
  constructor
  · rintro ⟨_, member, n, rfl, outside⟩
    exact ⟨n, member, outside⟩
  · rintro ⟨n, member, outside⟩
    exact ⟨_, member, n, rfl, outside⟩

end Text

namespace Environment

variable {env later : Environment} {name value default : Text} {e : Unencodable}

theorem lookup_eq_error_iff : env.lookup name = .error e ↔ ¬name.IsSendable ∧ e = ⟨name⟩ := by
  rw [lookup, ← Text.systemForm?_eq_none_iff]
  cases name.systemForm? <;> simp [eq_comm]

@[simp] theorem lookup_ofString (name : String) : env.lookup name = .ok (env.get? name) := by
  rw [lookup, Text.systemForm?_ofString]

/-- The value of a variable, or a default if it is unset or empty. -/
def valueOr (env : Environment) (name default : Text) : Except Unencodable Text :=
  (env.lookup name).map fun found => (found.filter (· ≠ ("" : Text))).getD default

theorem valueOr_eq_error_iff :
    env.valueOr name default = .error e ↔ ¬name.IsSendable ∧ e = ⟨name⟩ := by
  rw [← @lookup_eq_error_iff env, valueOr]
  cases env.lookup name <;> simp [Except.map]

theorem valueOr_of_systemForm {sent : Text} (form : name.systemForm? = some sent) :
    env.valueOr name default = .ok (((env.get? sent).filter (· ≠ ("" : Text))).getD default) := by
  rw [valueOr, lookup, form]
  rfl

theorem valueOr_ofString (name : String) :
    env.valueOr name default = .ok (((env.get? name).filter (· ≠ ("" : Text))).getD default) :=
  valueOr_of_systemForm (Text.systemForm?_ofString name)

/-- What is looked up depends on the one variable only. -/
theorem exists_lookup_eq (name : Text) :
    (∀ env : Environment, env.lookup name = .error ⟨name⟩) ∨
      ∃ sent, name.systemForm? = some sent ∧ ∀ env : Environment, env.lookup name = .ok (env.get? sent) := by
  cases form : name.systemForm? with
  | none => exact .inl fun env => by rw [lookup, form]
  | some sent => exact .inr ⟨sent, rfl, fun env => by rw [lookup, form]⟩

theorem eq_put_of_assign (assigned : env.assign name value = .ok later) :
    ∃ written sent, name.systemForm? = some written ∧ value.systemForm? = some sent ∧
      later = env.put written sent := by
  unfold assign at assigned
  split at assigned
  next => cases assigned
  next => cases assigned
  next written sent named form =>
    refine ⟨written, sent, named, form, ?_⟩
    split at assigned
    next => cases assigned
    next =>
      split at assigned
      next => cases assigned
      next =>
        split at assigned
        next => cases assigned
        next => exact (Except.ok.inj assigned).symm

end Environment

end XmlSettings
