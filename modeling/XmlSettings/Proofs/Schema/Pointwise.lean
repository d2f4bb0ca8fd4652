import Mathlib.Data.List.Forall2
import XmlSettings.Proofs.Schema.Failures

/-! # Values one by one

What it says of the values in a list, a table or a record that the whole is decoded, or found not to
fit: each of them is decoded, or there is one that does not fit.
-/

namespace XmlSettings.Schema

variable {classes : Classes} {settings : Settings} {className key : Text} {field : Field} {path : Path}
  {raw : Value} {hint : Hint} {spelling : Spelling} {entries values before : List (Text × Value)}
  {items : List Value} {members : List Hint} {reason : DecodeError}

theorem exists_of_forall₂ {α β : Type} {R : α → β → Prop} {first : List α} {second : List β} {a : α}
    (each : List.Forall₂ R first second) (member : a ∈ first) : ∃ b ∈ second, R a b := by
  induction each with
  | nil => cases member
  | cons here _ ih =>
    cases member with
    | head => exact ⟨_, List.mem_cons_self, here⟩
    | tail _ later =>
      obtain ⟨b, inside, related⟩ := ih later
      exact ⟨b, List.mem_cons_of_mem _ inside, related⟩

/-! ## Unions -/

theorem decodeValue_union_of_filled (filled : raw = .nothing → members.any Hint.isNothing = false) :
    decodeValue classes settings path raw (.union spelling members) =
      decodeMember classes settings path raw (.union spelling members) [] members := by
  cases raw with
  | nothing => rw [decodeValue, if_neg (by simp [filled rfl])]
  | _ =>
    rw [decodeValue]
    exact nofun

theorem decodeValue_union_nothing (some : members.any Hint.isNothing = true) :
    decodeValue classes settings path .nothing (.union spelling members) = pure .nothing := by
  rw [decodeValue, if_pos some]

/-! ## Lists and tables -/

theorem forall₂_of_decodeItems {i : Nat} {results : List Value}
    (done : (decodeItems classes settings path i items hint).result = .ok results) :
    List.Forall₂ (fun item result =>
      ∃ path, (decodeValue classes settings path item hint).result = .ok result) items results := by
  induction items generalizing i results with
  | nil =>
    rw [decodeItems] at done
    cases done
    exact .nil
  | cons item rest ih =>
    rw [decodeItems, Run.result_bind_eq_ok] at done
    obtain ⟨value, here, done⟩ := done
    obtain ⟨others, later, rfl⟩ := Run.result_map_eq_ok.1 done
    exact .cons ⟨_, here⟩ (ih later)

theorem forall₂_of_decodeEntries {results : List (Text × Value)}
    (done : (decodeEntries classes settings path entries hint).result = .ok results) :
    List.Forall₂ (fun entry result => entry.1 = result.1 ∧
      ∃ path, (decodeValue classes settings path entry.2 hint).result = .ok result.2) entries results := by
  induction entries generalizing results with
  | nil =>
    rw [decodeEntries] at done
    cases done
    exact .nil
  | cons entry rest ih =>
    obtain ⟨key, raw⟩ := entry
    rw [decodeEntries, Run.result_bind_eq_ok] at done
    obtain ⟨value, here, done⟩ := done
    obtain ⟨others, later, rfl⟩ := Run.result_map_eq_ok.1 done
    exact .cons ⟨rfl, _, here⟩ (ih later)

/-! ## Records -/

theorem AreDecoded.isAccepted (decoded : AreDecoded classes settings path className entries values)
    (inside : (key, raw) ∈ entries) : IsAccepted classes settings path className key raw :=
  exists_areDecoded_iff.1 ⟨values, decoded⟩ key raw inside

/-- Whether a key names no field and has to, or the value under it does not fit the field. -/
def IsRefused (classes : Classes) (settings : Settings) (path : Path) (className key : Text)
    (raw : Value) : Prop :=
  match (fieldsOf classes className).get? (normal key) with
  | none => settings.rejectUnused = true
  | some field => ∃ reason,
    (decodeValue classes settings (.field field.name :: path) raw field.hint).result =
      .error (.rejected reason)

theorem exists_isRefused_of_decodeKeys
    (failed : (decodeKeys classes settings path className before entries).result =
      .error (.rejected reason)) :
    ∃ key raw, (key, raw) ∈ entries ∧ IsRefused classes settings path className key raw := by
  induction entries generalizing before with
  | nil =>
    rw [decodeKeys_nil] at failed
    cases failed
  | cons entry rest ih =>
    obtain ⟨key, raw⟩ := entry
    have later (before : Entries Text Value)
        (failed : (decodeKeys classes settings path className before rest).result =
          .error (.rejected reason)) :
        ∃ other inner, (other, inner) ∈ (key, raw) :: rest ∧
          IsRefused classes settings path className other inner := by
      obtain ⟨other, inner, inside, refused⟩ := ih failed
      exact ⟨other, inner, List.mem_cons_of_mem _ inside, refused⟩
    cases found : (fieldsOf classes className).get? (normal key) with
    | none =>
      rw [decodeKeys_unnamed found] at failed
      cases refused : settings.rejectUnused with
      | true => exact ⟨key, raw, List.mem_cons_self, by rw [IsRefused, found]; exact refused⟩
      | false =>
        rw [refused] at failed
        exact later _ failed
    | some field =>
      rw [decodeKeys_cons found, Run.result_bind_eq_error] at failed
      rcases failed with here | ⟨_, _, failed⟩
      · exact ⟨key, raw, List.mem_cons_self, by rw [IsRefused, found]; exact ⟨reason, here⟩⟩
      · exact later _ failed

theorem exists_of_checkGiven_eq_error {declared : List Field} {e : Failure}
    (failed : (checkGiven path values declared).result = .error e) :
    ∃ field ∈ declared, field.isRequired = true ∧ field.name ∉ Entries.keys values := by
  induction declared with
  | nil => cases failed
  | cons field rest ih =>
    rw [checkGiven] at failed
    split at failed
    next missing =>
      simp only [Bool.and_eq_true, Bool.not_eq_true', Bool.eq_false_iff, ne_eq, Entries.hasKey_iff] at missing
      exact ⟨field, List.mem_cons_self, missing⟩
    next =>
      obtain ⟨other, inside, missing⟩ := ih failed
      exact ⟨other, List.mem_cons_of_mem _ inside, missing⟩

/-- A table does not fit a class if it has a key that is refused, or lacks one for a field that has to be
    given. -/
theorem exists_of_decodeValue_record_eq_rejected
    (failed : (decodeValue classes settings path (.table entries) (.record className)).result =
      .error (.rejected reason)) :
    (∃ key raw, (key, raw) ∈ entries ∧ IsRefused classes settings path className key raw) ∨
      ∃ values, AreDecoded classes settings path className entries values ∧
        ∃ field ∈ (fieldsOf classes className).map (·.2), field.isRequired = true ∧
          field.name ∉ Entries.keys values := by
  rw [decodeValue_record, Run.result_bind_eq_error] at failed
  rcases failed with refused | ⟨_, done, failed⟩
  · exact .inl (exists_isRefused_of_decodeKeys refused)
  · obtain ⟨values, decoded, rfl⟩ := decodeKeys_eq_ok_iff.1 done
    rw [Run.result_bind_eq_error] at failed
    rcases failed with missing | ⟨_, _, failed⟩
    · obtain ⟨field, inside, required, absent⟩ := exists_of_checkGiven_eq_error missing
      rw [← Entries.ofPairs, Entries.mem_keys_ofPairs] at absent
      exact .inr ⟨values, decoded, field, inside, required, absent⟩
    · rw [construct] at failed
      split at failed <;> cases failed

end XmlSettings.Schema
