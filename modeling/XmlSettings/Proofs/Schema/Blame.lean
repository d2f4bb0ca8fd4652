import Mathlib.Logic.Relation
import XmlSettings.Proofs.Schema.Pointwise
import XmlSettings.Proofs.Schema.Recursion

/-! # Which value is blamed

When a value in a table does not fit, the error names a path.  It leads to the first value that does not
fit: what stands before it is decoded, and the value itself is refused on its own, for the reason that is
given (`blames_first_iff`).
-/

namespace XmlSettings.Schema

variable {classes : Classes} {settings : Settings} {className : Text} {path : Path} {raw : Value}
  {hint : Hint} {e : Failure} {reason : DecodeError} {entries : List (Text × Value)}
  {members : List Hint}

/-- The path to the value that does not fit.  A missing field and a key are no values. -/
def DecodeError.place? : DecodeError → Option Path
  | unexpected path _ _ => some path
  | unparsable path _ _ => some path
  | noMember path _ _ => some path
  | noTable path _ _ => some path
  | noClass _ | missing _ | unusedKey _ _ _ => none

/-- A message about a value begins with its path. -/
theorem DecodeError.message_of_place? (located : reason.place? = some path) (inside : path ≠ []) :
    ∃ rest, reason.message = "'" ++ path.text ++ "'" ++ rest := by
  cases reason with
  | unexpected _ type kind =>
    cases located
    have quote : ("': expected " : Text) = "'" ++ ": expected " := rfl
    refine ⟨": expected " ++ type ++ ", got " ++ kind, ?_⟩
    show "'" ++ path.text ++ "': expected " ++ type ++ ", got " ++ kind = _
    simp only [quote, Text.append_assoc]
  | unparsable _ value type =>
    cases located
    have quote : ("': cannot parse " : Text) = "'" ++ ": cannot parse " := rfl
    refine ⟨": cannot parse " ++ value.inMessage ++ " as " ++ type.name, ?_⟩
    show "'" ++ path.text ++ "': cannot parse " ++ value.inMessage ++ " as " ++ type.name = _
    simp only [quote, Text.append_assoc]
  | noMember _ hint errors =>
    cases located
    have quote : ("': no matching type in " : Text) = "'" ++ ": no matching type in " := rfl
    refine ⟨": no matching type in " ++ hint.shown ++ ": " ++ Text.intercalate "; " (messages errors), ?_⟩
    show "'" ++ path.text ++ "': no matching type in " ++ hint.shown ++ ": " ++
      Text.intercalate "; " (messages errors) = _
    simp only [quote, Text.append_assoc]
  | noTable _ className kind =>
    cases located
    have quote : ("': expected a mapping, got " : Text) = "'" ++ ": expected a mapping, got " := rfl
    have named : path.textOr className = path.text := if_neg (by simpa using inside)
    refine ⟨": expected a mapping, got " ++ kind, ?_⟩
    show "'" ++ path.textOr className ++ "': expected a mapping, got " ++ kind = _
    simp only [named, quote, Text.append_assoc]
  | _ => cases located

/-! ## Places -/

/-- A place in a value: the path to it, the type that is declared for it, and the value that stands there. -/
structure Place where
  path : Path
  hint : Hint
  value : Value

namespace Place

/-- Decode the value at a place. -/
def run (classes : Classes) (settings : Settings) (place : Place) : Run Value :=
  decodeValue classes settings place.path place.value place.hint

/-- Which places the decoder comes to directly from a place: what stands before them there is decoded. -/
inductive Enters (classes : Classes) (settings : Settings) : Place → Place → Prop where
  | item {path : Path} {spelling : Spelling} {hint : Hint} {items first rest decoded : List Value}
      {item : Value} (split : items = first ++ item :: rest)
      (each : (decodeItems classes settings path 0 first hint).result = .ok decoded) :
      Enters classes settings ⟨path, .list spelling hint, .list items⟩
        ⟨.index first.length :: path, hint, item⟩
  | only {path : Path} {spelling : Spelling} {hint : Hint} {raw : Value}
      (single : ∀ items, raw ≠ .list items) :
      Enters classes settings ⟨path, .list spelling hint, raw⟩ ⟨.index 0 :: path, hint, raw⟩
  | entry {path : Path} {spelling : Spelling} {hint : Hint}
      {entries first rest decoded : List (Text × Value)} {key : Text} {raw : Value}
      (split : entries = first ++ (key, raw) :: rest)
      (each : (decodeEntries classes settings path first hint).result = .ok decoded) :
      Enters classes settings ⟨path, .table spelling hint, .table entries⟩ ⟨.key key :: path, hint, raw⟩
  | field {path : Path} {className : Text} {entries first rest decoded : List (Text × Value)}
      {key : Text} {field : Field} {raw : Value} (split : entries = first ++ (key, raw) :: rest)
      (each : AreDecoded classes settings path className first decoded)
      (named : (fieldsOf classes className).get? (normal key) = some field) :
      Enters classes settings ⟨path, .record className, .table entries⟩
        ⟨.field field.name :: path, field.hint, raw⟩

/-- Which places the decoder comes to from a place. -/
def LeadsTo (classes : Classes) (settings : Settings) : Place → Place → Prop :=
  Relation.ReflTransGen (Enters classes settings)

variable {outer inner other : Place}

theorem Enters.calls (enters : Enters classes settings outer inner) :
    Calls classes outer.value outer.hint inner.value inner.hint := by
  cases enters with
  | item split =>
    subst split
    exact .item (List.mem_append_right _ List.mem_cons_self)
  | only single => exact .only single
  | entry split =>
    subst split
    exact .entry (List.mem_append_right _ List.mem_cons_self)
  | field split _ named =>
    subst split
    exact .field (List.mem_append_right _ List.mem_cons_self) named

theorem Enters.length_path (enters : Enters classes settings outer inner) :
    inner.path.length = outer.path.length + 1 := by
  cases enters <;> rfl

/-- Where a value inside fails, the whole fails in the same way. -/
theorem Enters.fails (enters : Enters classes settings outer inner)
    (failed : (inner.run classes settings).result = .error e) :
    (outer.run classes settings).result = .error e := by
  unfold run at failed ⊢
  cases enters with
  | item split each =>
    rw [split, decodeValue_items, Run.result_map_eq_error]
    exact decodeItems_append_eq_error each (by simpa using failed)
  | only single =>
    rw [decodeValue_only single, Run.result_map_eq_error]
    exact failed
  | entry split each =>
    rw [split, decodeValue_entries, Run.result_map_eq_error]
    exact decodeEntries_append_eq_error each failed
  | field split each named =>
    rw [split, decodeValue_record, Run.result_bind_eq_error]
    exact .inl (decodeKeys_append_eq_error each named failed)

/-! ## Errors about values inside -/

theorem place?_of_refuse {type : Scalar}
    (failed : (refuse path raw type).result = .error (.rejected reason)) : reason.place? = some path := by
  unfold refuse at failed
  split at failed <;> cases failed
  rfl

theorem place?_of_convertNumber {α : Type} {type : Scalar} {wrap : α → Value}
    {converted : Except NumberError α}
    (failed : (convertNumber path raw type wrap converted).result = .error (.rejected reason)) :
    reason.place? = some path := by
  unfold convertNumber at failed
  split at failed
  next => cases failed
  next => cases failed
  next => cases failed
  next => exact place?_of_refuse failed

theorem place?_of_decodeScalar {type : Scalar}
    (failed : (decodeScalar settings path raw type).result = .error (.rejected reason)) :
    reason.place? = some path := by
  unfold decodeScalar at failed
  split at failed
  next => cases failed
  next =>
    split at failed
    next =>
      cases failed
      rfl
    next =>
      cases type with
      | text =>
        simp only at failed
        split at failed <;> cases failed
      | flag =>
        simp only at failed
        split at failed
        next => cases failed
        next => exact place?_of_refuse failed
      | integer => exact place?_of_convertNumber failed
      | real => exact place?_of_convertNumber failed

/-- The members of a union are not blamed, but the value that is of none of their types. -/
theorem place?_of_decodeMember {whole : Hint} {errors : List DecodeError}
    (failed : (decodeMember classes settings path raw whole errors members).result =
      .error (.rejected reason)) : reason.place? = some path := by
  induction members generalizing errors with
  | nil =>
    rw [decodeMember] at failed
    cases failed
    rfl
  | cons member rest ih =>
    rw [decodeMember_cons] at failed
    split at failed
    next => exact ih failed
    next =>
      unfold Run.orElseRejected at failed
      split at failed
      next => exact ih failed
      next accepted => exact absurd failed (accepted reason)

theorem place?_of_checkGiven {values : Entries Text Value} {declared : List Field}
    (failed : (checkGiven path values declared).result = .error (.rejected reason)) :
    reason.place? = none := by
  induction declared with
  | nil => cases failed
  | cons field rest ih =>
    rw [checkGiven] at failed
    split at failed
    next =>
      cases failed
      rfl
    next => exact ih failed

/-- Of the errors about values, an instance leaves all to the values of its fields. -/
theorem exists_enters_field (located : reason.place? ≠ none)
    (failed : (decodeValue classes settings path (.table entries) (.record className)).result =
      .error (.rejected reason)) :
    ∃ inner, Enters classes settings ⟨path, .record className, .table entries⟩ inner ∧
      (inner.run classes settings).result = .error (.rejected reason) := by
  rw [decodeValue_record, Run.result_bind_eq_error] at failed
  rcases failed with failed | ⟨values, _, failed⟩
  · have used (key : Text) : Failure.rejected reason ≠ .rejected (.unusedKey path className key) := by
      rintro ⟨⟩
      exact located rfl
    obtain ⟨first, key, raw, rest, field, values, split, each, named, failed⟩ :=
      exists_of_decodeKeys_eq_error used failed
    exact ⟨_, .field split each named, failed⟩
  · rw [Run.result_bind_eq_error] at failed
    rcases failed with failed | ⟨_, _, failed⟩
    · exact absurd (place?_of_checkGiven failed) located
    · rw [construct] at failed
      split at failed <;> cases failed

/-- An error about a value is about the value that is decoded, or comes from one inside. -/
theorem exists_enters {place : Place} (located : reason.place? = some path)
    (failed : (place.run classes settings).result = .error (.rejected reason)) :
    path = place.path ∨ ∃ inner, Enters classes settings place inner ∧
      (inner.run classes settings).result = .error (.rejected reason) := by
  obtain ⟨outer, hint, raw⟩ := place
  have here (located' : reason.place? = some outer) : path = outer :=
    Option.some.inj (located.symm.trans located')
  unfold run at failed
  simp only at failed
  cases hint with
  | any | unchecked =>
    rw [decodeValue] at failed
    cases failed
  | scalar type =>
    rw [decodeValue_scalar] at failed
    exact .inl (here (place?_of_decodeScalar failed))
  | plain type =>
    rw [decodeValue] at failed
    split at failed
    next => cases failed
    next =>
      cases failed
      exact .inl (here rfl)
  | union spelling members =>
    exact .inl (here (place?_of_decodeMember (decodeValue_union_eq_error_iff.1 failed).2))
  | list spelling item =>
    right
    by_cases several : ∃ items, raw = .list items
    · obtain ⟨items, rfl⟩ := several
      rw [decodeValue_items, Run.result_map_eq_error] at failed
      obtain ⟨first, inner, rest, decoded, split, each, failed⟩ := exists_of_decodeItems_eq_error failed
      rw [Nat.zero_add] at failed
      exact ⟨_, .item split each, failed⟩
    · have single : ∀ items, raw ≠ .list items := fun items same => several ⟨items, same⟩
      rw [decodeValue_only single, Run.result_map_eq_error] at failed
      exact ⟨_, .only single, failed⟩
  | table spelling value =>
    cases raw with
    | table entries =>
      rw [decodeValue_entries, Run.result_map_eq_error] at failed
      obtain ⟨first, key, inner, rest, decoded, split, each, failed⟩ :=
        exists_of_decodeEntries_eq_error failed
      exact .inr ⟨_, .entry split each, failed⟩
    | _ =>
      rw [decodeValue] at failed
      · cases failed
        exact .inl (here rfl)
      · exact nofun
  | record className =>
    cases raw with
    | table entries => exact .inr (exists_enters_field (by simp [located]) failed)
    | _ =>
      rw [decodeValue_record_of_ne] at failed
      · cases failed
        exact .inl (here rfl)
      · exact nofun

/-- An error about a value is passed on unchanged from the place that it names. -/
theorem exists_leadsTo {place : Place} (located : reason.place? = some path)
    (failed : (place.run classes settings).result = .error (.rejected reason)) :
    ∃ inner, LeadsTo classes settings place inner ∧ inner.path = path ∧
      (inner.run classes settings).result = .error (.rejected reason) := by
  rcases exists_enters located failed with rfl | ⟨inner, enters, failed⟩
  · exact ⟨place, .refl, rfl, failed⟩
  · -- A class may lead back to itself, so no induction on the type or on the value alone is enough.
    have smaller := enters.calls.weight_lt
    obtain ⟨last, leads, found, failed⟩ := exists_leadsTo located failed
    exact ⟨last, .head enters leads, found, failed⟩
termination_by weight place.value place.hint
decreasing_by exact smaller

/-! ## The first value that fails -/

/-- Two lists that go on up to the first stop are the same up to there. -/
theorem eq_of_first {α : Type} (passes : List α → Prop) {first rest second more : List α} {a b : α}
    (same : first ++ a :: rest = second ++ b :: more) (passed : passes first)
    (stops : ∀ rest, ¬passes (first ++ a :: rest)) (passedToo : passes second)
    (stopsToo : ∀ rest, ¬passes (second ++ b :: rest)) : first = second ∧ a = b := by
  rcases List.append_eq_append_iff.1 same with ⟨between, rfl, tail⟩ | ⟨between, rfl, tail⟩
  · cases between with
    | nil =>
      cases tail
      exact ⟨(List.append_nil first).symm, rfl⟩
    | cons =>
      cases tail
      exact absurd passedToo (stops _)
  · cases between with
    | nil =>
      cases tail
      exact ⟨List.append_nil second, rfl⟩
    | cons =>
      cases tail
      exact absurd passed (stopsToo _)

theorem not_decodeItems_append {first decoded : List Value}
    (each : (decodeItems classes settings path 0 first hint).result = .ok decoded)
    (failed : (decodeValue classes settings (.index first.length :: path) raw hint).result = .error e)
    (rest : List Value) :
    ¬∃ decoded, (decodeItems classes settings path 0 (first ++ raw :: rest) hint).result = .ok decoded := by
  rintro ⟨_, done⟩
  cases done.symm.trans (decodeItems_append_eq_error each (by simpa using failed))

theorem not_decodeEntries_append {first decoded : List (Text × Value)} {key : Text}
    (each : (decodeEntries classes settings path first hint).result = .ok decoded)
    (failed : (decodeValue classes settings (.key key :: path) raw hint).result = .error e)
    (rest : List (Text × Value)) :
    ¬∃ decoded,
      (decodeEntries classes settings path (first ++ (key, raw) :: rest) hint).result = .ok decoded := by
  rintro ⟨_, done⟩
  cases done.symm.trans (decodeEntries_append_eq_error each failed)

theorem not_areDecoded_append {first : List (Text × Value)} {key : Text} {field : Field}
    (named : (fieldsOf classes className).get? (normal key) = some field)
    (failed : (decodeValue classes settings (.field field.name :: path) raw field.hint).result = .error e)
    (rest : List (Text × Value)) :
    ¬∃ values, AreDecoded classes settings path className (first ++ (key, raw) :: rest) values := by
  rintro ⟨_, decoded⟩
  have inside : (key, raw) ∈ first ++ (key, raw) :: rest := List.mem_append_right _ List.mem_cons_self
  have accepted := decoded.isAccepted inside
  rw [IsAccepted, named] at accepted
  obtain ⟨_, done⟩ := accepted
  cases done.symm.trans failed

/-- The decoder comes to one place only where it fails. -/
theorem Enters.unique (first : Enters classes settings outer inner)
    (second : Enters classes settings outer other) (failed : (inner.run classes settings).result = .error e)
    (failedToo : (other.run classes settings).result = .error e) : inner = other := by
  unfold run at failed failedToo
  -- What is decoded in front of the first value that fails is decoded in one way only.
  cases first with
  | @item path _ hint _ _ _ _ _ split each =>
    cases second with
    | item again eachToo =>
      obtain ⟨rfl, rfl⟩ := eq_of_first (fun items =>
        ∃ decoded, (decodeItems classes settings path 0 items hint).result = .ok decoded)
        (split.symm.trans again) ⟨_, each⟩ (not_decodeItems_append each failed)
        ⟨_, eachToo⟩ (not_decodeItems_append eachToo failedToo)
      rfl
    | only single => exact absurd rfl (single _)
  | only single =>
    cases second with
    | item => exact absurd rfl (single _)
    | only => rfl
  | @entry path _ hint _ _ _ _ _ _ split each =>
    cases second with
    | entry again eachToo =>
      obtain ⟨_, same⟩ := eq_of_first (fun entries =>
        ∃ decoded, (decodeEntries classes settings path entries hint).result = .ok decoded)
        (split.symm.trans again) ⟨_, each⟩ (not_decodeEntries_append each failed)
        ⟨_, eachToo⟩ (not_decodeEntries_append eachToo failedToo)
      cases same
      rfl
  | @field path className _ _ _ _ _ _ _ split each named =>
    cases second with
    | field again eachToo namedToo =>
      obtain ⟨_, same⟩ := eq_of_first (fun entries =>
        ∃ values, AreDecoded classes settings path className entries values)
        (split.symm.trans again) ⟨_, each⟩ (not_areDecoded_append named failed)
        ⟨_, eachToo⟩ (not_areDecoded_append namedToo failedToo)
      cases same
      cases named.symm.trans namedToo
      rfl

theorem LeadsTo.fails (leads : LeadsTo classes settings outer inner)
    (failed : (inner.run classes settings).result = .error e) :
    (outer.run classes settings).result = .error e := by
  induction leads using Relation.ReflTransGen.head_induction_on with
  | refl => exact failed
  | head enters _ ih => exact enters.fails ih

theorem LeadsTo.length_path (leads : LeadsTo classes settings outer inner) :
    outer.path.length ≤ inner.path.length := by
  induction leads using Relation.ReflTransGen.head_induction_on with
  | refl => exact Nat.le_refl _
  | head enters _ ih =>
    rw [enters.length_path] at ih
    exact Nat.le_of_succ_le ih

/-- The decoder comes to one place only with a path where it fails. -/
theorem LeadsTo.unique (first : LeadsTo classes settings outer inner)
    (second : LeadsTo classes settings outer other) (same : inner.path = other.path)
    (failed : (inner.run classes settings).result = .error e)
    (failedToo : (other.run classes settings).result = .error e) : inner = other := by
  -- Every step makes the path longer, so neither way can end while the other goes on.
  have longer {place next last : Place} (enters : Enters classes settings place next)
      (leads : LeadsTo classes settings next last) : place.path ≠ last.path := by
    intro same
    have grown := leads.length_path
    rw [enters.length_path, same] at grown
    exact Nat.not_succ_le_self _ grown
  induction first using Relation.ReflTransGen.head_induction_on with
  | refl =>
    rcases second.cases_head with rfl | ⟨next, enters, more⟩
    · rfl
    · exact absurd same (longer enters more)
  | head enters more ih =>
    rcases second.cases_head with rfl | ⟨next, entersToo, moreToo⟩
    · exact absurd same.symm (longer enters more)
    · cases enters.unique entersToo (LeadsTo.fails more failed) (LeadsTo.fails moreToo failedToo)
      exact ih moreToo

end Place

/-! ## Tables -/

/-- Where an error is about a value, the value is the only one that the decoder comes to after what it has
    decoded and that is refused for the reason that is given, and the message begins with the path to it. -/
theorem blames_first_iff (classes : Classes) (settings : Settings) (className : Text)
    (entries : List (Text × Value)) {reason : DecodeError} {path : Path}
    (located : reason.place? = some path) :
    (decode classes settings (.fresh className) (.table entries)).result = .error (.rejected reason) ↔
      (∃ rest, reason.message = "'" ++ path.text ++ "'" ++ rest) ∧
        ∃! place : Place,
          Place.LeadsTo classes settings ⟨[], .record className, .table entries⟩ place ∧
            place.path = path ∧ (place.run classes settings).result = .error (.rejected reason) := by
  constructor
  · intro failed
    obtain ⟨inner, enters, failed⟩ := Place.exists_enters_field (by simp [located]) failed
    obtain ⟨place, leads, rfl, failed⟩ := Place.exists_leadsTo located failed
    have inside : place.path ≠ [] := by
      intro outside
      have grown := leads.length_path
      rw [enters.length_path, outside] at grown
      exact absurd grown (Nat.not_succ_le_zero _)
    refine ⟨reason.message_of_place? located inside, place, ⟨.head enters leads, rfl, failed⟩, ?_⟩
    rintro other ⟨again, same, failedToo⟩
    exact again.unique (.head enters leads) same failedToo failed
  · rintro ⟨_, place, ⟨leads, _, failed⟩, _⟩
    exact leads.fails failed

/-- The second of two lists of ports, which stands for a list of one. -/
theorem blames_first_ports :
    let ports : Hint := .list .long (.list .long (.scalar .integer))
    let classes : Classes := [("Limits", [⟨"ports", ports, .value (.list []), true⟩]),
      ("Service", [⟨"name", .scalar .text, .required, true⟩,
        ⟨"limits", .record "Limits", .instance "Limits", true⟩])]
    let entries : Entries Text Value := [("name", .text "api"),
      ("Limits", .table [("owner", .text "ops"), ("PORTS", .list [.text "1", .text "many"])])]
    let path : Path := [.index 0, .index 1, .field "ports", .field "limits"]
    let reason : DecodeError := .unparsable path (.text "many") .integer
    reason.place? = some path ∧
      reason.message = "'limits.ports[1][0]': cannot parse 'many' as int" ∧
      (decode classes .standard (.fresh "Service") (.table entries)).result = .error (.rejected reason) ∧
      ∃! place : Place,
        Place.LeadsTo classes .standard ⟨[], .record "Service", .table entries⟩ place ∧
          place.path = path ∧ (place.run classes .standard).result = .error (.rejected reason) := by
  intro ports classes entries path reason
  have failed : (decode classes .standard (.fresh "Service") (.table entries)).result =
      .error (.rejected reason) := by
    simp only [classes, ports, entries, reason, path]
    cbv
  have shown : "'" ++ path.text ++ "': cannot parse " ++ (Value.text "many").inMessage ++ " as " ++ "int" =
      "'limits.ports[1][0]': cannot parse 'many' as int" := by decide +kernel
  exact ⟨rfl, shown, failed, ((blames_first_iff classes .standard "Service" entries rfl).1 failed).2⟩

end XmlSettings.Schema
