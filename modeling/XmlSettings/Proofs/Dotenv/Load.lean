import XmlSettings.Dotenv.Load
import XmlSettings.Proofs.Dotenv.Loader
import XmlSettings.Proofs.Environment
import XmlSettings.Proofs.Outcome

/-! # What a dotenv file adds

Whatever a dotenv file holds, loading it writes those of its variables that have a value and are new, up to
one that the environment cannot hold (`isLawful_load`).
-/

namespace XmlSettings

namespace Dotenv

open XmlSettings.Environment (AssignError)

variable {env : Environment}

theorem nodup_keys_resolve (env : Environment) (statements : List Statement) :
    (resolve env statements).keys.Nodup := by
  refine List.foldlRecOn (motive := fun earlier => (Entries.keys earlier).Nodup)
    statements _ List.nodup_nil ?_
  intro earlier distinct statement _
  split
  next => exact Entries.nodup_keys_put distinct
  next => exact Entries.nodup_keys_put distinct
  next => exact distinct

/-! ## Adding variables -/

theorem addTo_known {name : String} {old : Text} (known : env.get? name = some old)
    (value? : Option Text) (rest : Variables) : addTo env ((name, value?) :: rest) = addTo env rest := by
  simp [addTo, Entries.hasKey, known]

theorem addTo_new {later : Environment} {name : String} {value : Text} (new : env.get? name = none)
    (assigned : env.assign name value = .ok later) (rest : Variables) :
    addTo env ((name, some value) :: rest) = addTo later rest := by
  simp [addTo, Entries.hasKey, new, assigned]

theorem addTo_refused {name : String} {value : Text} {e : AssignError} (new : env.get? name = none)
    (refused : env.assign name value = .error e) (rest : Variables) :
    addTo env ((name, some value) :: rest) = (env, .error e) := by
  simp [addTo, Entries.hasKey, new, refused]

theorem addTo_bare (name : String) (rest : Variables) :
    addTo env ((name, none) :: rest) = addTo env rest := by
  simp [addTo]

theorem value?_cons (name : String) (value? : Option Text) (rest : Variables) (wanted : Text) :
    Variables.value? ((name, value?) :: rest) wanted =
      if wanted = name then value?.bind Text.systemForm? else rest.value? wanted := by
  split
  next same => simp [Variables.value?, same, Entries.get?]
  next other =>
    rw [Variables.value?, Variables.value?]
    cases part : wanted.string? with
    | none => rfl
    | some wanted' =>
      have apart : name ≠ wanted' := by
        rintro rfl
        exact other (Text.string?_eq_some_iff.1 part)
      simp [Entries.get?, apart]

theorem adds_addTo (env : Environment) {added : Variables} (distinct : added.keys.Nodup) :
    Adds env (addTo env added).1 added.value? ((addTo env added).2 = .ok ()) := by
  induction added generalizing env with
  | nil =>
    refine ⟨[], rfl, by simp, fun _ name value _ given => ?_⟩
    simp [Variables.value?, Entries.get?] at given
  | cons entry rest ih =>
    obtain ⟨name, value?⟩ := entry
    obtain ⟨once, more⟩ := List.nodup_cons.1 distinct
    have later : Variables.value? rest name = none := by
      simp [Variables.value?, Entries.get?_eq_none_iff.2 once]
    -- A variable that is known stays, one without a value adds nothing, and the others are added.
    cases known : env.get? name with
    | some old =>
      rw [addTo_known known]
      refine (ih env more).congr fun wanted absent => ?_
      rw [value?_cons, if_neg]
      rintro rfl
      cases absent.symm.trans known
    | none =>
      cases value? with
      | none =>
        rw [addTo_bare]
        refine (ih env more).congr fun wanted _ => ?_
        rw [value?_cons]
        split
        next same => rw [same, later, Option.bind_none]
        next => rfl
      | some value =>
        cases assigned : env.assign name value with
        | error e =>
          rw [addTo_refused known assigned]
          exact ⟨[], rfl, by simp, fun done => by cases done⟩
        | ok next =>
          rw [addTo_new known assigned]
          obtain ⟨written, sent, named, form, rfl⟩ := Environment.eq_put_of_assign assigned
          cases (Text.systemForm?_ofString name).symm.trans named
          obtain ⟨written, same, new, all⟩ := ih (env.put (.ofString name) sent) more
          refine ⟨(.ofString name, sent) :: written, same, ?_, fun done wanted value absent given => ?_⟩
          · rintro wanted value (_ | ⟨_, member⟩)
            · exact ⟨known, by rw [value?_cons, if_pos rfl, Option.bind_some, form]⟩
            · obtain ⟨absent, given⟩ := new wanted value member
              rw [Entries.get?_put] at absent
              split at absent
              next => cases absent
              next other => exact ⟨absent, by rw [value?_cons, if_neg fun same => other same.symm, given]⟩
          · rw [value?_cons] at given
            split at given
            next same =>
              rw [Option.bind_some, form] at given
              cases given
              exact same ▸ List.mem_cons_self
            next other =>
              refine List.mem_cons_of_mem _ (all done wanted value ?_ given)
              rw [Entries.get?_put, if_neg fun same => other same.symm, absent]

/-- The variables that a file defines, where there is such a file. -/
def defined (env : Environment) (files : FileTree) (path : Text) : Variables :=
  match text files path with
  | .ok (some text) => contents env text
  | _ => []

theorem isLawful_load : Loader.IsLawful load isDisabled defined := by
  intro env files path
  have nothing {done : Prop} (none : done → ∀ name, offered isDisabled defined env files path name = none) :
      Adds env env (offered isDisabled defined env files path) done :=
    ⟨[], rfl, by simp, fun given name value _ offered => by cases (none given name).symm.trans offered⟩
  unfold load
  split
  next disabled => exact nothing fun _ name => if_pos disabled
  next enabled =>
    split
    next => exact nothing fun done => by cases done
    next missing =>
      refine nothing fun _ name => (if_neg enabled).trans ?_
      simp [defined, missing, Variables.value?, Entries.get?]
    next text found =>
      have same (name : Text) : offered isDisabled defined env files path name =
          (contents env text).value? name := by
        rw [offered, if_neg enabled, defined, found]
      have adds : Adds env (addTo env (contents env text)).1 (contents env text).value?
          ((addTo env (contents env text)).2 = .ok ()) := adds_addTo env (nodup_keys_resolve ..)
      obtain ⟨written, later, new, all⟩ := adds.congr fun name _ => (same name).symm
      exact ⟨written, later, new, fun done => all (mapError_eq_ok.1 done)⟩

end Dotenv

end XmlSettings
