import XmlSettings.Proofs.Schema.Beyond
import XmlSettings.Proofs.Schema.Sound
import XmlSettings.Proofs.Schema.Update

/-! # How decoding fails

Decoding gives an instance or finds that a value does not fit, unless it comes to a number that is
beyond the wanted type or to a class of which no instance can be built (`gives_or_rejects_iff`).
-/

namespace XmlSettings.Schema

variable {classes : Classes} {settings : Settings} {className : Text} {declared : List Field}
  {field : Field} {path : Path} {raw inner : Value} {hint wanted : Hint} {spelling : Spelling}
  {e : Failure} {entries values before : List (Text × Value)} {items : List Value}
  {members : List Hint} {target : Target}

/-! ## One value after the other -/

namespace Run

variable {α β : Type} {run : Run α} {f : α → β}

theorem result_map_eq_ok {b : β} : (run >>= fun a => pure (f a)).result = .ok b ↔
    ∃ a, run.result = .ok a ∧ f a = b := by
  rw [result_bind_eq_ok]
  exact exists_congr fun a => and_congr_right fun _ => ⟨fun same => by cases same; rfl, fun same => same ▸ rfl⟩

theorem result_map_eq_error : (run >>= fun a => pure (f a)).result = .error e ↔ run.result = .error e := by
  rw [result_bind_eq_error]
  exact or_iff_left fun ⟨_, _, failed⟩ => by cases failed

theorem orElseRejected_eq_error {next : DecodeError → Run α} (other : e.IsOther) :
    (run.orElseRejected next).result = .error e ↔ run.result = .error e ∨
      ∃ reason, run.result = .error (.rejected reason) ∧ (next reason).result = .error e := by
  unfold orElseRejected
  split
  next reason rejected =>
    rw [rejected]
    constructor
    · exact fun failed => .inr ⟨reason, rfl, failed⟩
    · rintro (same | ⟨_, same, failed⟩)
      · cases same
        exact absurd rfl (other _)
      · cases same
        exact failed
  next accepted =>
    exact (or_iff_left fun ⟨reason, rejected, _⟩ => accepted reason rejected).symm

end Run

/-- The first item that is not decoded makes a list fail, and nothing else does. -/
theorem exists_of_decodeItems_eq_error {i : Nat}
    (failed : (decodeItems classes settings path i items hint).result = .error e) :
    ∃ first item rest values, items = first ++ item :: rest ∧
      (decodeItems classes settings path i first hint).result = .ok values ∧
      (decodeValue classes settings (.index (i + first.length) :: path) item hint).result = .error e := by
  induction items generalizing i with
  | nil =>
    rw [decodeItems] at failed
    cases failed
  | cons item rest ih =>
    rw [decodeItems, Run.result_bind_eq_error] at failed
    simp only [Run.result_map_eq_error] at failed
    rcases failed with here | ⟨value, decoded, later⟩
    · exact ⟨[], item, rest, [], rfl, by rw [decodeItems]; rfl, here⟩
    · obtain ⟨first, next, rest, values, rfl, each, failed⟩ := ih later
      refine ⟨item :: first, next, rest, value :: values, rfl, ?_, ?_⟩
      · rw [decodeItems, Run.result_bind_eq_ok]
        exact ⟨value, decoded, Run.result_map_eq_ok.2 ⟨values, each, rfl⟩⟩
      · rwa [List.length_cons, Nat.add_comm first.length, ← Nat.add_assoc]

theorem decodeItems_append_eq_error {i : Nat} {first rest decoded : List Value}
    (each : (decodeItems classes settings path i first hint).result = .ok decoded)
    (failed : (decodeValue classes settings (.index (i + first.length) :: path) raw hint).result = .error e) :
    (decodeItems classes settings path i (first ++ raw :: rest) hint).result = .error e := by
  induction first generalizing i decoded with
  | nil =>
    rw [List.nil_append, decodeItems, Run.result_bind_eq_error]
    exact .inl failed
  | cons head first ih =>
    rw [decodeItems, Run.result_bind_eq_ok] at each
    obtain ⟨value, done, each⟩ := each
    obtain ⟨values, each, _⟩ := Run.result_map_eq_ok.1 each
    rw [List.length_cons, Nat.add_comm first.length, ← Nat.add_assoc] at failed
    rw [List.cons_append, decodeItems, Run.result_bind_eq_error]
    exact .inr ⟨value, done, Run.result_map_eq_error.2 (ih each failed)⟩

theorem exists_of_decodeEntries_eq_error
    (failed : (decodeEntries classes settings path entries hint).result = .error e) :
    ∃ first key raw rest values, entries = first ++ (key, raw) :: rest ∧
      (decodeEntries classes settings path first hint).result = .ok values ∧
      (decodeValue classes settings (.key key :: path) raw hint).result = .error e := by
  induction entries with
  | nil =>
    rw [decodeEntries] at failed
    cases failed
  | cons entry rest ih =>
    obtain ⟨key, raw⟩ := entry
    rw [decodeEntries, Run.result_bind_eq_error] at failed
    simp only [Run.result_map_eq_error] at failed
    rcases failed with here | ⟨value, decoded, later⟩
    · exact ⟨[], key, raw, rest, [], rfl, by rw [decodeEntries]; rfl, here⟩
    · obtain ⟨first, next, inner, rest, values, rfl, each, failed⟩ := ih later
      refine ⟨(key, raw) :: first, next, inner, rest, (key, value) :: values, rfl, ?_, failed⟩
      rw [decodeEntries, Run.result_bind_eq_ok]
      exact ⟨value, decoded, Run.result_map_eq_ok.2 ⟨values, each, rfl⟩⟩

theorem decodeEntries_append_eq_error {first rest decoded : List (Text × Value)} {key : Text}
    (each : (decodeEntries classes settings path first hint).result = .ok decoded)
    (failed : (decodeValue classes settings (.key key :: path) raw hint).result = .error e) :
    (decodeEntries classes settings path (first ++ (key, raw) :: rest) hint).result = .error e := by
  induction first generalizing decoded with
  | nil =>
    rw [List.nil_append, decodeEntries, Run.result_bind_eq_error]
    exact .inl failed
  | cons entry first ih =>
    rw [decodeEntries, Run.result_bind_eq_ok] at each
    obtain ⟨value, done, each⟩ := each
    obtain ⟨values, each, _⟩ := Run.result_map_eq_ok.1 each
    rw [List.cons_append, decodeEntries, Run.result_bind_eq_error]
    exact .inr ⟨value, done, Run.result_map_eq_error.2 (ih each)⟩

theorem exists_of_decodeKeys_eq_error (used : ∀ key, e ≠ .rejected (.unusedKey path className key))
    (failed : (decodeKeys classes settings path className before entries).result = .error e) :
    ∃ first key raw rest field values, entries = first ++ (key, raw) :: rest ∧
      AreDecoded classes settings path className first values ∧
      (fieldsOf classes className).get? (normal key) = some field ∧
      (decodeValue classes settings (.field field.name :: path) raw field.hint).result = .error e := by
  induction entries generalizing before with
  | nil =>
    rw [decodeKeys_nil] at failed
    cases failed
  | cons entry rest ih =>
    obtain ⟨key, raw⟩ := entry
    cases found : (fieldsOf classes className).get? (normal key) with
    | none =>
      rw [decodeKeys_unnamed found] at failed
      cases refused : settings.rejectUnused with
      | true =>
        rw [refused] at failed
        cases failed
        exact absurd rfl (used _)
      | false =>
        rw [refused] at failed
        obtain ⟨first, next, inner, rest, field, values, rfl, decoded, named, failed⟩ := ih failed
        exact ⟨_, next, inner, rest, field, values, rfl, .passed found refused decoded, named, failed⟩
    | some field =>
      rw [decodeKeys_cons found, Run.result_bind_eq_error] at failed
      rcases failed with here | ⟨value, done, later⟩
      · exact ⟨[], key, raw, rest, field, [], rfl, .nil, found, here⟩
      · obtain ⟨first, next, inner, rest, _, values, rfl, decoded, named, failed⟩ := ih later
        exact ⟨_, next, inner, rest, _, _, rfl, .taken found done decoded, named, failed⟩

theorem decodeKeys_append_eq_error {first rest : List (Text × Value)} {key : Text}
    (decoded : AreDecoded classes settings path className first values)
    (named : (fieldsOf classes className).get? (normal key) = some field)
    (failed : (decodeValue classes settings (.field field.name :: path) raw field.hint).result = .error e) :
    (decodeKeys classes settings path className before (first ++ (key, raw) :: rest)).result = .error e := by
  induction decoded generalizing before with
  | nil =>
    rw [List.nil_append, decodeKeys_cons named, Run.result_bind_eq_error]
    exact .inl failed
  | passed unnamed allowed _ ih =>
    rw [List.cons_append, decodeKeys_unnamed unnamed, allowed]
    exact ih
  | taken taken done _ ih =>
    rw [List.cons_append, decodeKeys_cons taken, Run.result_bind_eq_error]
    exact .inr ⟨_, done, ih⟩

/-- Whether a member of a union is passed over: `nothing` always is. -/
def IsPassed (classes : Classes) (settings : Settings) (path : Path) (raw : Value) (member : Hint) : Prop :=
  member.isNothing = true ∨
    ∃ reason, (decodeValue classes settings path raw member).result = .error (.rejected reason)

theorem exists_of_decodeMember_eq_error (other : e.IsOther) {whole : Hint} {errors : List DecodeError}
    (failed : (decodeMember classes settings path raw whole errors members).result = .error e) :
    ∃ first member rest, members = first ++ member :: rest ∧
      (∀ passed ∈ first, IsPassed classes settings path raw passed) ∧ member.isNothing = false ∧
      (decodeValue classes settings path raw member).result = .error e := by
  induction members generalizing errors with
  | nil =>
    rw [decodeMember] at failed
    cases failed
    exact absurd rfl (other _)
  | cons member rest ih =>
    have extend {errors : List DecodeError} (passed : IsPassed classes settings path raw member)
        (later : (decodeMember classes settings path raw whole errors rest).result = .error e) :
        ∃ first next later, member :: rest = first ++ next :: later ∧
          (∀ passed ∈ first, IsPassed classes settings path raw passed) ∧ next.isNothing = false ∧
          (decodeValue classes settings path raw next).result = .error e := by
      obtain ⟨first, next, rest, rfl, each, isType, failed⟩ := ih later
      exact ⟨member :: first, next, rest, rfl, List.forall_mem_cons.2 ⟨passed, each⟩, isType, failed⟩
    rw [decodeMember_cons] at failed
    split at failed
    next isNothing => exact extend (.inl isNothing) failed
    next isType =>
      rcases (Run.orElseRejected_eq_error other).1 failed with here | ⟨reason, rejected, later⟩
      · exact ⟨[], member, rest, rfl, nofun, Bool.eq_false_iff.2 isType, here⟩
      · exact extend (.inr ⟨reason, rejected⟩) later

theorem decodeMember_append_eq_error (other : e.IsOther) {whole member : Hint} {errors : List DecodeError}
    {first rest : List Hint} (each : ∀ passed ∈ first, IsPassed classes settings path raw passed)
    (isType : member.isNothing = false)
    (failed : (decodeValue classes settings path raw member).result = .error e) :
    (decodeMember classes settings path raw whole errors (first ++ member :: rest)).result = .error e := by
  induction first generalizing errors with
  | nil =>
    rw [List.nil_append, decodeMember_cons, isType, if_neg Bool.false_ne_true,
      Run.orElseRejected_eq_error other]
    exact .inl failed
  | cons head first ih =>
    obtain ⟨passed, each⟩ := List.forall_mem_cons.1 each
    rw [List.cons_append, decodeMember_cons]
    split
    next => exact ih each
    next isType =>
      obtain ⟨reason, rejected⟩ := passed.resolve_left isType
      exact (Run.orElseRejected_eq_error other).2 (.inr ⟨reason, rejected, ih each⟩)

/-! ## What the decoder comes to -/

/-- What the decoder comes to while it decodes a value into a type: places inside, each with the value
    there and the type that is wanted for it.  Whatever stands before such a place was decoded, or did
    not fit where a union has other members. -/
inductive Reaches (classes : Classes) (settings : Settings) :
    Path → Hint → Value → Path → Hint → Value → Prop where
  | here (path : Path) (hint : Hint) (raw : Value) : Reaches classes settings path hint raw path hint raw
  | member {path inside : Path} {spelling : Spelling} {first rest : List Hint} {member wanted : Hint}
      {raw inner : Value} (each : ∀ passed ∈ first, IsPassed classes settings path raw passed)
      (isType : member.isNothing = false)
      (filled : raw = .nothing → (first ++ member :: rest).any Hint.isNothing = false)
      (reaches : Reaches classes settings path member raw inside wanted inner) :
      Reaches classes settings path (.union spelling (first ++ member :: rest)) raw inside wanted inner
  | item {path inside : Path} {spelling : Spelling} {hint wanted : Hint} {first rest decoded : List Value}
      {item inner : Value} (each : (decodeItems classes settings path 0 first hint).result = .ok decoded)
      (reaches : Reaches classes settings (.index first.length :: path) hint item inside wanted inner) :
      Reaches classes settings path (.list spelling hint) (.list (first ++ item :: rest)) inside wanted inner
  | only {path inside : Path} {spelling : Spelling} {hint wanted : Hint} {raw inner : Value}
      (single : ∀ items, raw ≠ .list items)
      (reaches : Reaches classes settings (.index 0 :: path) hint raw inside wanted inner) :
      Reaches classes settings path (.list spelling hint) raw inside wanted inner
  | entry {path inside : Path} {spelling : Spelling} {hint wanted : Hint}
      {first rest decoded : List (Text × Value)} {key : Text} {raw inner : Value}
      (each : (decodeEntries classes settings path first hint).result = .ok decoded)
      (reaches : Reaches classes settings (.key key :: path) hint raw inside wanted inner) :
      Reaches classes settings path (.table spelling hint) (.table (first ++ (key, raw) :: rest)) inside wanted
        inner
  | field {path inside : Path} {className : Text} {wanted : Hint}
      {first rest decoded : List (Text × Value)} {key : Text} {field : Field} {raw inner : Value}
      (each : AreDecoded classes settings path className first decoded)
      (named : (fieldsOf classes className).get? (normal key) = some field)
      (reaches : Reaches classes settings (.field field.name :: path) field.hint raw inside wanted inner) :
      Reaches classes settings path (.record className) (.table (first ++ (key, raw) :: rest)) inside wanted
        inner

/-- How the decoder fails at a place without finding that the value there does not fit: the value is beyond
    the type, or all is given that has to be given for an instance and still none is built. -/
inductive Stumbles (classes : Classes) (settings : Settings) (path : Path) :
    Hint → Value → Failure → Prop where
  | beyond {type : Scalar} {raw : Value} {seen : NumberError} (converts : settings.convert = true)
      (beyond : type.IsBeyond raw seen) : Stumbles classes settings path (.scalar type) raw (.number seen)
  | unbuilt {className : Text} {entries values : List (Text × Value)} {reason : ConstructError}
      (decoded : AreDecoded classes settings path className entries values)
      (given : ∀ field ∈ (fieldsOf classes className).map (·.2), field.isRequired = true →
        field.name ∈ Entries.keys values)
      (unbuilt : classes.build className (Entries.ofPairs values) = .error reason) :
      Stumbles classes settings path (.record className) (.table entries) (.unbuilt reason)

theorem Stumbles.isOther (stumbles : Stumbles classes settings path hint raw e) : e.IsOther := by
  intro reason same
  subst same
  cases stumbles

/-! ## The reason of a failure -/

theorem decodeValue_union_eq_error_iff :
    (decodeValue classes settings path raw (.union spelling members)).result = .error e ↔
      (raw = .nothing → members.any Hint.isNothing = false) ∧
        (decodeMember classes settings path raw (.union spelling members) [] members).result = .error e := by
  cases raw with
  | nothing =>
    rw [decodeValue]
    cases members.any Hint.isNothing with
    | true =>
      rw [if_pos rfl]
      constructor
      · intro failed
        cases failed
      · rintro ⟨filled, _⟩
        cases filled rfl
    | false => simp
  | _ =>
    rw [decodeValue]
    · simp
    · intro same
      cases same

theorem decodeValue_of_stumbles (stumbles : Stumbles classes settings path hint raw e) :
    (decodeValue classes settings path raw hint).result = .error e := by
  cases stumbles with
  | beyond converts beyond =>
    rw [decodeValue_scalar, decodeScalar_of_isBeyond converts beyond]
    rfl
  | @unbuilt className entries values reason decoded given unbuilt =>
    have keys : (decodeKeys classes settings path className [] entries).result =
        .ok (Entries.ofPairs values) := decodeKeys_eq_ok_iff.2 ⟨values, decoded, rfl⟩
    have given : checkGiven path (Entries.ofPairs values) ((fieldsOf classes className).map (·.2)) =
        pure ⟨⟩ := checkGiven_of_each fun field member required =>
      Entries.hasKey_iff.2 (Entries.mem_keys_ofPairs.2 (given field member required))
    rw [decodeValue_record, Run.result_bind_eq_error]
    refine .inr ⟨_, keys, ?_⟩
    rw [given, Run.pure_bind, construct, unbuilt]
    rfl

theorem Reaches.decodeValue_eq_error {inside : Path}
    (reaches : Reaches classes settings path hint raw inside wanted inner) (other : e.IsOther)
    (failed : (decodeValue classes settings inside inner wanted).result = .error e) :
    (decodeValue classes settings path raw hint).result = .error e := by
  induction reaches with
  | here => exact failed
  | member each isType filled _ ih =>
    exact decodeValue_union_eq_error_iff.2
      ⟨filled, decodeMember_append_eq_error other each isType (ih failed)⟩
  | item each _ ih =>
    rw [decodeValue_items, Run.result_map_eq_error]
    exact decodeItems_append_eq_error each (by simpa using ih failed)
  | only single _ ih =>
    rw [decodeValue_only single, Run.result_map_eq_error]
    exact ih failed
  | entry each _ ih =>
    rw [decodeValue_entries, Run.result_map_eq_error]
    exact decodeEntries_append_eq_error each (ih failed)
  | field each named _ ih =>
    rw [decodeValue_record, Run.result_bind_eq_error]
    exact .inl (decodeKeys_append_eq_error each named (ih failed))

/-- Whether a failure to decode a value, if there is one, comes from a place where the decoder stumbles. -/
def IsExplained (classes : Classes) (settings : Settings) (e : Failure) (path : Path) (raw : Value)
    (hint : Hint) : Prop :=
  (decodeValue classes settings path raw hint).result = .error e →
    ∃ inside wanted inner, Reaches classes settings path hint raw inside wanted inner ∧
      Stumbles classes settings inside wanted inner e

theorem isExplained_union (other : e.IsOther)
    (each : ∀ member ∈ members, IsExplained classes settings e path raw member) :
    IsExplained classes settings e path raw (.union spelling members) := by
  intro failed
  obtain ⟨filled, failed⟩ := decodeValue_union_eq_error_iff.1 failed
  obtain ⟨first, member, rest, rfl, passed, isType, failed⟩ := exists_of_decodeMember_eq_error other failed
  obtain ⟨inside, wanted, inner, reaches, stumbles⟩ := each member (by simp) failed
  exact ⟨inside, wanted, inner, .member passed isType filled reaches, stumbles⟩

theorem isExplained_list
    (each : ∀ items, raw = .list items → ∀ item ∈ items, ∀ path, IsExplained classes settings e path item hint)
    (only : IsExplained classes settings e (.index 0 :: path) raw hint) :
    IsExplained classes settings e path raw (.list spelling hint) := by
  intro failed
  by_cases several : ∃ items, raw = .list items
  · obtain ⟨items, rfl⟩ := several
    rw [decodeValue_items, Run.result_map_eq_error] at failed
    obtain ⟨first, item, rest, values, rfl, decoded, failed⟩ := exists_of_decodeItems_eq_error failed
    rw [Nat.zero_add] at failed
    obtain ⟨inside, wanted, inner, reaches, stumbles⟩ := each _ rfl item (by simp) _ failed
    exact ⟨inside, wanted, inner, .item decoded reaches, stumbles⟩
  · have single : ∀ items, raw ≠ .list items := fun items same => several ⟨items, same⟩
    rw [decodeValue_only single, Run.result_map_eq_error] at failed
    obtain ⟨inside, wanted, inner, reaches, stumbles⟩ := only failed
    exact ⟨inside, wanted, inner, .only single reaches, stumbles⟩

theorem isExplained_table (other : e.IsOther) (each : ∀ entries, raw = .table entries →
      ∀ key raw, (key, raw) ∈ entries → ∀ path, IsExplained classes settings e path raw hint) :
    IsExplained classes settings e path raw (.table spelling hint) := by
  intro failed
  cases raw with
  | table entries =>
    rw [decodeValue_entries, Run.result_map_eq_error] at failed
    obtain ⟨first, key, raw, rest, values, rfl, decoded, failed⟩ := exists_of_decodeEntries_eq_error failed
    obtain ⟨inside, wanted, inner, reaches, stumbles⟩ := each _ rfl key raw (by simp) _ failed
    exact ⟨inside, wanted, inner, .entry decoded reaches, stumbles⟩
  | _ =>
    rw [decodeValue] at failed
    · cases failed
      exact absurd rfl (other _)
    · intro _ same
      cases same

theorem isExplained_record (other : e.IsOther) (each : ∀ entries, raw = .table entries →
      ∀ key raw, (key, raw) ∈ entries → ∀ path hint, IsExplained classes settings e path raw hint) :
    IsExplained classes settings e path raw (.record className) := by
  intro failed
  cases raw with
  | table entries =>
    rw [decodeValue_record, Run.result_bind_eq_error] at failed
    rcases failed with failed | ⟨given, done, failed⟩
    · obtain ⟨first, key, raw, rest, field, values, rfl, decoded, named, failed⟩ :=
        exists_of_decodeKeys_eq_error (fun _ => other _) failed
      obtain ⟨inside, wanted, inner, reaches, stumbles⟩ := each _ rfl key raw (by simp) _ _ failed
      exact ⟨inside, wanted, inner, .field decoded named reaches, stumbles⟩
    · obtain ⟨values, decoded, rfl⟩ := decodeKeys_eq_ok_iff.1 done
      obtain ⟨gives, rejects⟩ := @checkGiven_meets path (Entries.ofPairs values)
        ((fieldsOf classes className).map (·.2)) True
      rw [Run.result_bind_eq_error] at failed
      rcases failed with missing | ⟨_, passed, failed⟩
      · obtain ⟨reason, rfl⟩ := rejects trivial e missing
        exact absurd rfl (other _)
      · have complete := gives _ passed
        rw [construct] at failed
        split at failed
        next => cases failed
        next reason unbuilt =>
          cases failed
          exact ⟨path, _, _, .here path _ _, .unbuilt decoded
            (fun field member required =>
              Entries.mem_keys_ofPairs.1 (Entries.hasKey_iff.1 (complete field member required))) unbuilt⟩
  | _ =>
    rw [decodeValue, decodeFields] at failed
    · cases failed
      exact absurd rfl (other _)
    · intro _ same
      cases same

theorem isExplained (other : e.IsOther) (path : Path) (raw : Value) (hint : Hint) :
    IsExplained classes settings e path raw hint := by
  cases hint with
  | any | unchecked =>
    intro failed
    rw [decodeValue] at failed
    cases failed
  | scalar type =>
    intro failed
    rw [decodeValue_scalar, decodeScalar_eq_error_iff other] at failed
    obtain ⟨seen, rfl, converts, beyond⟩ := failed
    exact ⟨path, _, raw, .here path _ raw, .beyond converts beyond⟩
  | plain type =>
    intro failed
    rw [decodeValue] at failed
    split at failed
    next => cases failed
    next =>
      cases failed
      exact absurd rfl (other _)
  | union spelling members =>
    exact isExplained_union other fun member inside => isExplained other path raw member
  | list spelling hint =>
    refine isExplained_list (fun items same item inside path => ?_) (isExplained other _ raw hint)
    have smaller : sizeOf item < sizeOf raw := same ▸ Value.sizeOf_lt_of_item inside
    exact isExplained other path item hint
  | table spelling hint =>
    refine isExplained_table other fun entries same key inner inside path => ?_
    have smaller : sizeOf inner < sizeOf raw := same ▸ Value.sizeOf_lt_of_entry inside
    exact isExplained other path inner hint
  | record className =>
    refine isExplained_record other fun entries same key inner inside path hint => ?_
    have smaller : sizeOf inner < sizeOf raw := same ▸ Value.sizeOf_lt_of_entry inside
    exact isExplained other path inner hint
-- For the members of a union and a single item the value stays, and the type gets smaller.
termination_by (sizeOf raw, sizeOf hint)

/-! ## Targets -/

/-- What the decoder comes to while it decodes a value into a target.  An instance that is there already
    is not built. -/
inductive Target.Reaches (classes : Classes) (settings : Settings) :
    Target → Value → Path → Hint → Value → Prop where
  | fresh {className : Text} {raw inner : Value} {inside : Path} {wanted : Hint}
      (reaches : Schema.Reaches classes settings [] (.record className) raw inside wanted inner) :
      Target.Reaches classes settings (.fresh className) raw inside wanted inner
  | existing {className : Text} {before first rest decoded : List (Text × Value)} {key : Text}
      {field : Field} {raw inner : Value} {inside : Path} {wanted : Hint}
      (each : AreDecoded classes settings [] className first decoded)
      (named : (fieldsOf classes className).get? (normal key) = some field)
      (reaches : Schema.Reaches classes settings [.field field.name] field.hint raw inside wanted inner) :
      Target.Reaches classes settings (.existing (.record className before))
        (.table (first ++ (key, raw) :: rest)) inside wanted inner

theorem decodeValue_eq_error_iff (other : e.IsOther) :
    (decodeValue classes settings path raw hint).result = .error e ↔
      ∃ inside wanted inner, Reaches classes settings path hint raw inside wanted inner ∧
        Stumbles classes settings inside wanted inner e := by
  constructor
  · exact isExplained other path raw hint
  · rintro ⟨inside, wanted, inner, reaches, stumbles⟩
    exact reaches.decodeValue_eq_error other (decodeValue_of_stumbles stumbles)

theorem decodeFields_eq_error_iff (other : e.IsOther) :
    (decodeFields classes settings [] className raw).result = .error e ↔
      ∃ inside wanted inner,
        Target.Reaches classes settings (.existing (.record className before)) raw inside wanted inner ∧
          Stumbles classes settings inside wanted inner e := by
  constructor
  · intro failed
    cases raw with
    | table entries =>
      rw [decodeFields] at failed
      obtain ⟨first, key, raw, rest, field, values, rfl, decoded, named, failed⟩ :=
        exists_of_decodeKeys_eq_error (fun _ => other _) failed
      obtain ⟨inside, wanted, inner, reaches, stumbles⟩ := (decodeValue_eq_error_iff other).1 failed
      exact ⟨inside, wanted, inner, .existing decoded named reaches, stumbles⟩
    | _ =>
      rw [decodeFields] at failed
      · cases failed
        exact absurd rfl (other _)
      · intro _ same
        cases same
  · rintro ⟨inside, wanted, inner, reaches, stumbles⟩
    cases reaches with
    | existing decoded named reaches =>
      rw [decodeFields]
      exact decodeKeys_append_eq_error decoded named
        ((decodeValue_eq_error_iff other).2 ⟨inside, wanted, inner, reaches, stumbles⟩)

theorem decode_eq_error_iff (other : e.IsOther) :
    (decode classes settings target raw).result = .error e ↔
      ∃ inside wanted inner, target.Reaches classes settings raw inside wanted inner ∧
        Stumbles classes settings inside wanted inner e := by
  cases target with
  | fresh className =>
    refine (decodeValue_eq_error_iff other).trans ⟨?_, ?_⟩
    · rintro ⟨inside, wanted, inner, reaches, stumbles⟩
      exact ⟨inside, wanted, inner, .fresh reaches, stumbles⟩
    · rintro ⟨inside, wanted, inner, ⟨reaches⟩, stumbles⟩
      exact ⟨inside, wanted, inner, reaches, stumbles⟩
  | existing value =>
    cases value with
    | record className before =>
      exact Target.decode_existing_eq_error_iff.trans (decodeFields_eq_error_iff other)
    | _ =>
      constructor
      · intro failed
        cases failed
        exact absurd rfl (other _)
      · rintro ⟨_, _, _, reaches, _⟩
        cases reaches
  | foreign name =>
    constructor
    · intro failed
      cases failed
      exact absurd rfl (other _)
    · rintro ⟨_, _, _, reaches, _⟩
      cases reaches

theorem exists_record_of_decode {value : Value}
    (decoded : (decode classes settings target raw).result = .ok value) :
    ∃ className fields, value = .record className fields := by
  cases target with
  | fresh className =>
    obtain ⟨_, _, _, fields, _, _, _, _, _, rfl⟩ := decodeValue_record_eq_ok_iff.1 decoded
    exact ⟨className, fields, rfl⟩
  | existing current =>
    cases current with
    | record className before =>
      obtain ⟨_, _, _, _, rfl⟩ := Target.decode_existing_eq_ok_iff.1 decoded
      exact ⟨className, _, rfl⟩
    | _ => cases decoded
  | foreign name => cases decoded

/-- A value is decoded into an instance, or found not to fit, exactly if the decoder does not stumble on
    its way. -/
theorem gives_or_rejects_iff (classes : Classes) (settings : Settings) (target : Target) (raw : Value) :
    ((∃ className fields, (decode classes settings target raw).result = .ok (.record className fields)) ∨
        ∃ reason, (decode classes settings target raw).result = .error (.rejected reason)) ↔
      ∀ path wanted inner e, target.Reaches classes settings raw path wanted inner →
        ¬Stumbles classes settings path wanted inner e := by
  constructor
  · intro settled path wanted inner e reaches stumbles
    have failed := (decode_eq_error_iff stumbles.isOther).2 ⟨path, wanted, inner, reaches, stumbles⟩
    rcases settled with ⟨_, _, decoded⟩ | ⟨reason, rejected⟩
    · cases failed.symm.trans decoded
    · cases failed.symm.trans rejected
      exact stumbles.isOther reason rfl
  · intro passes
    cases result : (decode classes settings target raw).result with
    | ok value =>
      obtain ⟨className, fields, rfl⟩ := exists_record_of_decode result
      exact .inl ⟨className, fields, rfl⟩
    | error e =>
      by_cases other : e.IsOther
      · obtain ⟨path, wanted, inner, reaches, stumbles⟩ := (decode_eq_error_iff other).1 result
        exact absurd stumbles (passes path wanted inner e reaches)
      · simp only [Failure.IsOther, ne_eq, not_forall, not_not] at other
        obtain ⟨reason, rfl⟩ := other
        exact .inr ⟨reason, rfl⟩

/-- Nothing is said of an infinite number where an integer is wanted. -/
theorem not_gives_or_rejects_infinite :
    let classes : Classes := [("Point", [⟨"x", .scalar .integer, .required, true⟩])]
    let result :=
      (decode classes .standard (.fresh "Point") (.table [("x", .real (.infinity false))])).result
    ¬((∃ className fields, result = .ok (.record className fields)) ∨
      ∃ reason, result = .error (.rejected reason)) := by
  intro classes result settled
  let x : Field := ⟨"x", .scalar .integer, .required, true⟩
  have named : (fieldsOf classes "Point").get? (normal "x") = some x := by cbv
  have here : Reaches classes .standard [.field "x"] x.hint (.real (.infinity false)) [.field "x"] x.hint
      (.real (.infinity false)) := .here _ _ _
  have reaches : Reaches classes .standard [] (.record "Point")
      (.table ([] ++ [(("x" : Text), Value.real (.infinity false))])) [.field "x"] x.hint (.real (.infinity false)) :=
    .field .nil named here
  exact (gives_or_rejects_iff classes .standard (.fresh "Point") _).1 settled _ _ _ _ (.fresh reaches)
    (.beyond rfl (.infinite rfl))

end XmlSettings.Schema
