import XmlSettings.Dotenv.Loader
import XmlSettings.Proofs.Entries

/-! # Loaders that only add

What is relied on of a loader is that it writes variables of the file that have a value and are new,
and all of these where it succeeds (`Loader.IsLawful`).  Then no variable is changed (`IsLawful.kept`), and
it is known what each stands for behind a success (`IsLawful.get?_environment`).
-/

namespace XmlSettings

namespace Environment

variable {env : Environment} {name value : Text}

/-- Whether all variables have the same values in another environment. -/
def IsKeptIn (env later : Environment) : Prop :=
  ∀ name value, env.get? name = some value → later.get? name = some value

theorem IsKeptIn.refl (env : Environment) : env.IsKeptIn env := fun _ _ found => found

/-- An environment after some variables were written, one after another. -/
def writeAll (env : Environment) (written : List (Text × Text)) : Environment :=
  written.foldl (fun env entry => env.put entry.1 entry.2) env

theorem get?_writeAll_of_not_mem {written : List (Text × Text)} (other : ∀ entry ∈ written, entry.1 ≠ name) :
    (env.writeAll written).get? name = env.get? name := by
  induction written generalizing env with
  | nil => rfl
  | cons entry rest ih =>
    simp only [List.forall_mem_cons] at other
    have first : (env.put entry.1 entry.2).get? name = env.get? name := by
      rw [Entries.get?_put, if_neg other.1]
    exact (ih other.2).trans first

theorem get?_writeAll_of_mem {written : List (Text × Text)} (given : (name, value) ∈ written)
    (same : ∀ entry ∈ written, entry.1 = name → entry.2 = value) :
    (env.writeAll written).get? name = some value := by
  induction written generalizing env with
  | nil => cases given
  | cons entry rest ih =>
    simp only [List.forall_mem_cons] at same
    by_cases again : (name, value) ∈ rest
    · exact ih again same.2
    · obtain rfl : (name, value) = entry := (List.mem_cons.1 given).resolve_right again
      have only : ∀ entry ∈ rest, entry.1 ≠ name := by
        rintro ⟨name', value'⟩ member rfl
        exact again (same.2 _ member rfl ▸ member)
      refine (get?_writeAll_of_not_mem only).trans ?_
      rw [Entries.get?_put, if_pos rfl]

end Environment

namespace Dotenv

/-- The value that a variable has in an environment if it was written there. -/
def Variables.value? (given : Variables) (name : Text) : Option Text :=
  (name.string?.bind given.get?).join.bind Text.systemForm?

variable {loader : Loader} {isDisabled : Environment → Bool}
  {defined : Environment → FileTree → Text → Variables} {env : Environment} {files : FileTree}
  {path name : Text}

/-- The value that a file offers for a variable, unless loading is turned off. -/
def offered (isDisabled : Environment → Bool) (defined : Environment → FileTree → Text → Variables)
    (env : Environment) (files : FileTree) (path name : Text) : Option Text :=
  if isDisabled env then none else (defined env files path).value? name

/-- Whether an environment comes of another one by writing variables that are new with the values that are
    offered for them, and all of these if nothing stands against it. -/
def Adds (env later : Environment) (offered : Text → Option Text) (isDone : Prop) : Prop :=
  ∃ written, later = env.writeAll written ∧
    (∀ name value, (name, value) ∈ written → env.get? name = none ∧ offered name = some value) ∧
    (isDone → ∀ name value, env.get? name = none → offered name = some value → (name, value) ∈ written)

/-- What is relied on of a loader. -/
def Loader.IsLawful (loader : Loader) (isDisabled : Environment → Bool)
    (defined : Environment → FileTree → Text → Variables) : Prop :=
  ∀ env files path, Adds env (loader env files path).environment
    (offered isDisabled defined env files path) ((loader env files path).result = .ok ())

theorem Adds.congr {later : Environment} {first second : Text → Option Text} {isDone : Prop}
    (same : ∀ name, env.get? name = none → first name = second name) (adds : Adds env later first isDone) :
    Adds env later second isDone := by
  obtain ⟨written, later, new, all⟩ := adds
  refine ⟨written, later, fun name value member => ?_, fun done name value absent given => ?_⟩
  · obtain ⟨absent, given⟩ := new name value member
    exact ⟨absent, same name absent ▸ given⟩
  · exact all done name value absent ((same name absent).trans given)

theorem Loader.IsLawful.kept (lawful : loader.IsLawful isDisabled defined) (env : Environment)
    (files : FileTree) (path : Text) : env.IsKeptIn (loader env files path).environment := by
  intro name value found
  obtain ⟨written, same, new, -⟩ := lawful env files path
  have other : ∀ entry ∈ written, entry.1 ≠ name := by
    rintro ⟨name, value⟩ member rfl
    simp [(new name value member).1] at found
  rw [same, Environment.get?_writeAll_of_not_mem other, found]

theorem Loader.IsLawful.get?_environment (lawful : loader.IsLawful isDisabled defined)
    (loaded : (loader env files path).result = .ok ()) (name : Text) :
    (loader env files path).environment.get? name =
      (env.get? name).or (offered isDisabled defined env files path name) := by
  obtain ⟨written, same, new, all⟩ := lawful env files path
  cases known : env.get? name with
  | some value => exact lawful.kept env files path name value known
  | none =>
    rw [Option.none_or, same]
    cases given : offered isDisabled defined env files path name with
    | some value =>
      refine Environment.get?_writeAll_of_mem (all loaded name value known given) ?_
      rintro ⟨name', value'⟩ member rfl
      exact Option.some.inj ((new _ _ member).2.symm.trans given)
    | none =>
      refine (Environment.get?_writeAll_of_not_mem ?_).trans known
      rintro ⟨name', value'⟩ member rfl
      cases given.symm.trans (new _ _ member).2

end Dotenv

end XmlSettings
