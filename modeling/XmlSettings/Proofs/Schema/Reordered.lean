import XmlSettings.Proofs.Schema.Agree
import XmlSettings.Proofs.Schema.Rearranged

/-! # Decoding data in another order

The order of keys decides which of several values that do not fit is found first, and nothing else, as
long as decoding fails only because a value does not fit.  Two runs on data in different orders are
compared step by step (`Agree`).
-/

namespace XmlSettings.Schema

open Value (IsReordered)

variable {classes : Classes} {settings : Settings} {className : Text} {declared : List Field}
  {field : Field} {path again : Path} {raw other value : Value} {hint : Hint} {spelling : Spelling}
  {entries others values : List (Text × Value)} {items : List Value} {members : List Hint}

/-! ## Scalars and plain types -/

theorem refuse_agree (type : Scalar) (same : Value → Value → Prop) :
    Agree same (refuse path raw type).result (refuse again raw type).result := by
  unfold refuse
  split
  next => exact .rejected _ _
  next => exact .left nofun

theorem convertNumber_agree {α : Type} (type : Scalar) (wrap : α → Value)
    (converted : Except NumberError α) : Agree Eq (convertNumber path raw type wrap converted).result
      (convertNumber again raw type wrap converted).result := by
  unfold convertNumber
  split
  next => exact .given rfl
  next => exact .left nofun
  next => exact .left nofun
  next => exact refuse_agree type Eq

/-- Where a scalar stands makes no difference. -/
theorem decodeScalar_agree (type : Scalar) : Agree Eq (decodeScalar settings path raw type).result
    (decodeScalar settings again raw type).result := by
  unfold decodeScalar
  split
  next => exact .given rfl
  next =>
    split
    next => exact .rejected _ _
    next =>
      cases type with
      | text =>
        simp only
        split
        next => exact .given rfl
        next => exact .left nofun
      | flag =>
        cases raw.flag? with
        | some => exact .given rfl
        | none => exact refuse_agree .flag Eq
      | integer => exact convertNumber_agree .integer _ _
      | real => exact convertNumber_agree .real _ _

theorem decodeScalar_of_isComposite (composite : isComposite raw = true) (type : Scalar) :
    decodeScalar settings path raw type = Run.reject (.unexpected path type.name raw.kindName) := by
  have refused : type.accepts raw = false := by
    cases raw with
    | list | table => cases type <;> rfl
    | _ => cases composite
  unfold decodeScalar
  rw [refused, composite]
  rfl

/-- Whether what is decoded for a type does not depend on the order of the data. -/
def DecodesAlike (classes : Classes) (settings : Settings) (raw : Value) (hint : Hint) : Prop :=
  ∀ other, raw.IsReordered other → ∀ path again, Agree IsReordered
    (decodeValue classes settings path raw hint).result (decodeValue classes settings again other hint).result

namespace DecodesAlike

variable {result : Value} {reason : DecodeError}

theorem alike (same : DecodesAlike classes settings raw hint) (reordered : raw.IsReordered other)
    (done : (decodeValue classes settings path raw hint).result = .ok value)
    (doneToo : (decodeValue classes settings again other hint).result = .ok result) :
    value.IsReordered result := by
  have agree := same other reordered path again
  rw [done, doneToo] at agree
  exact agree.alike

theorem not_given (same : DecodesAlike classes settings raw hint) (reordered : raw.IsReordered other)
    (failed : (decodeValue classes settings path raw hint).result = .error (.rejected reason)) :
    (decodeValue classes settings again other hint).result ≠ .ok value := by
  intro done
  have agree := same other reordered path again
  rw [failed, done] at agree
  exact agree.not_given

theorem not_rejected (same : DecodesAlike classes settings raw hint) (reordered : raw.IsReordered other)
    (failed : (decodeValue classes settings again other hint).result = .error (.rejected reason)) :
    (decodeValue classes settings path raw hint).result ≠ .ok value := by
  intro done
  have agree := same other reordered path again
  rw [done, failed] at agree
  exact agree.not_rejected

end DecodesAlike

theorem decodesAlike_scalar (ofTexts : raw.isOfTexts = true) (type : Scalar) :
    DecodesAlike classes settings raw (.scalar type) := by
  intro other reordered path again
  rw [decodeValue_scalar, decodeValue_scalar]
  have composite {first second : Value} (isFirst : isComposite first = true)
      (isSecond : isComposite second = true) : Agree IsReordered
        (decodeScalar settings path first type).result (decodeScalar settings again second type).result := by
    rw [decodeScalar_of_isComposite isFirst, decodeScalar_of_isComposite isSecond]
    exact .rejected _ _
  cases raw with
  | text s =>
    rw [reordered.of_text]
    exact (decodeScalar_agree type).mono fun value _ same => same ▸ .refl value
  | list items =>
    obtain ⟨others, rfl, _⟩ := reordered.of_list
    exact composite rfl rfl
  | table entries =>
    obtain ⟨others, rfl, _⟩ := reordered.of_table
    exact composite rfl rfl
  | _ => cases ofTexts

theorem decodesAlike_plain (type : Plain) : DecodesAlike classes settings raw (.plain type) := by
  intro other reordered path again
  have same : type.accepts other = type.accepts raw := by
    cases reordered <;> cases type <;> rfl
  rw [decodeValue, decodeValue, same]
  split
  next => exact .given reordered
  next => exact .rejected _ _

/-! ## Unions and lists -/

theorem ne_nothing_of_isOfTexts (ofTexts : raw.isOfTexts = true) : raw ≠ .nothing := by
  rintro rfl
  cases ofTexts

theorem decodeMember_agree (reordered : raw.IsReordered other) (whole : Hint)
    (errors later : List DecodeError) (each : ∀ member ∈ members, DecodesAlike classes settings raw member) :
    Agree IsReordered (decodeMember classes settings path raw whole errors members).result
      (decodeMember classes settings again other whole later members).result := by
  induction members generalizing errors later with
  | nil =>
    rw [decodeMember, decodeMember]
    exact .rejected _ _
  | cons member rest ih =>
    obtain ⟨first, more⟩ := List.forall_mem_cons.1 each
    rw [decodeMember_cons, decodeMember_cons]
    split
    next => exact ih errors later more
    next => exact (first other reordered path again).orElseRejected fun d e => ih _ _ more

theorem decodesAlike_union (ofTexts : raw.isOfTexts = true)
    (each : ∀ member ∈ members, DecodesAlike classes settings raw member) :
    DecodesAlike classes settings raw (.union spelling members) := by
  intro other reordered path again
  rw [decodeValue_union_of_filled fun same => absurd same (ne_nothing_of_isOfTexts ofTexts),
    decodeValue_union_of_filled fun same =>
      absurd same (ne_nothing_of_isOfTexts (reordered.isOfTexts ofTexts))]
  exact decodeMember_agree reordered _ [] [] each

theorem decodeItems_agree {i : Nat} {others : List Value}
    (each : ∀ item ∈ items, DecodesAlike classes settings item hint)
    (reordered : List.Forall₂ IsReordered items others) :
    Agree (List.Forall₂ IsReordered) (decodeItems classes settings path i items hint).result
      (decodeItems classes settings again i others hint).result := by
  induction reordered generalizing i with
  | nil =>
    rw [decodeItems, decodeItems]
    exact .given .nil
  | cons here _ ih =>
    obtain ⟨first, more⟩ := List.forall_mem_cons.1 each
    rw [decodeItems, decodeItems]
    refine (first _ here _ _).bind fun value result alike => ?_
    exact (ih more).map fun _ _ rest => .cons alike rest

theorem decodesAlike_list (ofTexts : raw.isOfTexts = true)
    (each : ∀ items, raw = .list items → ∀ item ∈ items, DecodesAlike classes settings item hint)
    (only : DecodesAlike classes settings raw hint) :
    DecodesAlike classes settings raw (.list spelling hint) := by
  intro other reordered path again
  have single {other : Value} (reordered : raw.IsReordered other) (noList : ∀ items, raw ≠ .list items)
      (noOther : ∀ items, other ≠ .list items) : Agree IsReordered
        (decodeValue classes settings path raw (.list spelling hint)).result
        (decodeValue classes settings again other (.list spelling hint)).result := by
    rw [decodeValue_only noList, decodeValue_only noOther]
    exact (only other reordered _ _).map fun _ _ alike => .list (.cons alike .nil)
  cases raw with
  | text s =>
    cases reordered.of_text
    exact single reordered nofun nofun
  | list items =>
    obtain ⟨others, rfl, inside⟩ := reordered.of_list
    rw [decodeValue_items, decodeValue_items]
    exact (decodeItems_agree (each items rfl) inside).map fun _ _ alike => .list alike
  | table entries =>
    obtain ⟨others, rfl, _⟩ := reordered.of_table
    exact single reordered nofun nofun
  | _ => cases ofTexts

/-! ## Tables -/

section Entries

variable (each : ∀ key raw, (key, raw) ∈ entries → DecodesAlike classes settings raw hint)

include each

theorem matches_of_decoded {between results : List (Text × Value)}
    (related : List.Forall₂ (Matches Eq IsReordered) entries between)
    (first : List.Forall₂ (fun entry result => entry.1 = result.1 ∧
      ∃ path, (decodeValue classes settings path entry.2 hint).result = .ok result.2) entries values)
    (second : List.Forall₂ (fun entry result => entry.1 = result.1 ∧
      ∃ path, (decodeValue classes settings path entry.2 hint).result = .ok result.2) between results) :
    List.Forall₂ (Matches Eq IsReordered) values results := by
  -- The results are walked through together with the entries that they were decoded from.
  induction related generalizing values results with
  | nil =>
    cases first
    cases second
    exact .nil
  | @cons entry other rest more here _ ih =>
    cases first with
    | cons decoded first =>
      cases second with
      | cons again second =>
        obtain ⟨key, path, decoded⟩ := decoded
        obtain ⟨name, later, again⟩ := again
        obtain ⟨same, reordered⟩ := matches_iff.1 here
        have alike := (each _ entry.2 List.mem_cons_self).alike reordered decoded again
        refine .cons (matches_iff.2 ⟨?_, alike⟩) (ih ?_ first second)
        · rw [← key, ← name, same]
        · exact fun key raw member => each key raw (List.mem_cons_of_mem _ member)

theorem decodeEntries_agree (rearranged : IsRearranged (Matches Eq IsReordered) entries others) :
    Agree (IsRearranged (Matches Eq IsReordered))
      (decodeEntries classes settings path entries hint).result
      (decodeEntries classes settings again others hint).result := by
  refine .intro (fun values results first second => ?_) (fun reason results failed done => ?_)
    fun values reason done failed => ?_
  · obtain ⟨between, related, moved⟩ := rearranged
    -- What is decoded of the second table is brought into the order of the first one.
    obtain ⟨middle, decoded, reordered⟩ := List.perm_comp_forall₂ moved (forall₂_of_decodeEntries second)
    exact ⟨middle, matches_of_decoded each related (forall₂_of_decodeEntries first) decoded, reordered⟩
  · obtain ⟨first, key, raw, rest, _, rfl, _, failed⟩ := exists_of_decodeEntries_eq_error failed
    obtain ⟨⟨_, inner⟩, inside, related⟩ := rearranged.exists_of_mem (a := (key, raw)) (by simp)
    obtain ⟨_, _, _, place, done⟩ := exists_of_forall₂ (forall₂_of_decodeEntries done) inside
    exact (each key raw (by simp)).not_given (matches_iff.1 related).2 failed done
  · obtain ⟨first, key, inner, rest, _, rfl, _, failed⟩ := exists_of_decodeEntries_eq_error failed
    obtain ⟨⟨name, raw⟩, inside, related⟩ := rearranged.exists_of_mem_second (b := (key, inner)) (by simp)
    obtain ⟨_, _, _, place, done⟩ := exists_of_forall₂ (forall₂_of_decodeEntries done) inside
    exact (each name raw inside).not_rejected (matches_iff.1 related).2 failed done

end Entries

theorem decodesAlike_table (ofTexts : raw.isOfTexts = true)
    (each : ∀ entries, raw = .table entries →
      ∀ key raw, (key, raw) ∈ entries → DecodesAlike classes settings raw hint) :
    DecodesAlike classes settings raw (.table spelling hint) := by
  intro other reordered path again
  cases raw with
  | text s =>
    rw [reordered.of_text, decodeValue, decodeValue]
    · exact .rejected _ _
    all_goals exact nofun
  | list items =>
    obtain ⟨others, rfl, _⟩ := reordered.of_list
    rw [decodeValue, decodeValue]
    · exact .rejected _ _
    all_goals exact nofun
  | table entries =>
    obtain ⟨others, rfl, rearranged⟩ := reordered.of_table
    rw [decodeValue_entries, decodeValue_entries]
    refine (decodeEntries_agree (each entries rfl) rearranged).map fun _ _ alike => ?_
    obtain ⟨between, related, moved⟩ := alike
    exact .table related moved
  | _ => cases ofTexts

/-! ## Records -/

/-- A table does not fit a class while another one does, only if that is so for a value in them. -/
theorem not_rejected_of_partners {reason : DecodeError}
    (partner : ∀ key raw, (key, raw) ∈ entries →
      ∃ name inner, (name, inner) ∈ others ∧ SameName key name ∧
      ∀ hint path again reason value, (decodeValue classes settings path raw hint).result =
        .error (.rejected reason) → (decodeValue classes settings again inner hint).result ≠ .ok value)
    (named : ∀ name ∈ Entries.keys others, ∃ key ∈ Entries.keys entries, SameName key name)
    (done : (decodeValue classes settings again (.table others) (.record className)).result = .ok value) :
    (decodeValue classes settings path (.table entries) (.record className)).result ≠
      .error (.rejected reason) := by
  intro failed
  obtain ⟨_, results, declared, _, same, decoded, known, complete, _⟩ := decodeValue_record_eq_ok_iff.1 done
  cases same
  rcases exists_of_decodeValue_record_eq_rejected failed with
    ⟨key, raw, inside, refused⟩ | ⟨values, first, field, member, required, absent⟩
  · obtain ⟨name, inner, found, sameName, fits⟩ := partner key raw inside
    have accepted := decoded.isAccepted found
    rw [IsAccepted, ← sameName] at accepted
    unfold IsRefused at refused
    split at refused
    next unnamed =>
      rw [unnamed] at accepted
      simp [refused] at accepted
    next field named =>
      rw [named] at accepted
      obtain ⟨reason, refused⟩ := refused
      obtain ⟨value, accepted⟩ := accepted
      exact fits _ _ _ _ _ refused accepted
  · obtain ⟨⟨key, _⟩, found, rfl⟩ := List.mem_map.1 member
    have nodup : (Entries.keys (fieldsOf classes className)).Nodup := Entries.nodup_keys_ofPairs _
    obtain ⟨_, settable, _, again, inside⟩ := of_get?_settable (Entries.get?_of_mem nodup found)
    cases known.symm.trans again
    have given := Entries.mem_keys_ofPairs.1 (Entries.hasKey_iff.1 (complete _ inside settable required))
    obtain ⟨name, written, _, spelled, sameField⟩ := decoded.exists_key given
    obtain ⟨key, read, sameName⟩ := named name written
    rw [← sameName] at spelled
    exact absent (sameField ▸ first.mem_keys read spelled)

theorem AreFilled.matches {classes : Classes} {given results : Entries Text Value} {fields : List (Text × Value)}
    (related : ∀ field ∈ declared, Option.Rel IsReordered (field.given? given) (field.given? results))
    (first : AreFilled classes given declared fields) (second : AreFilled classes results declared others) :
    List.Forall₂ (Matches Eq IsReordered) fields others := by
  induction first generalizing others with
  | nil =>
    cases second
    exact .nil
  | given found _ ih =>
    obtain ⟨here, later⟩ := List.forall_mem_cons.1 related
    rw [found] at here
    cases second with
    | given again more =>
      rw [again] at here
      obtain ⟨alike⟩ := here
      exact .cons (.mk rfl alike) (ih later more)
    | held missing | absent missing =>
      rw [missing] at here
      cases here
  | held missing gives _ ih =>
    obtain ⟨here, later⟩ := List.forall_mem_cons.1 related
    rw [missing] at here
    cases second with
    | given found =>
      rw [found] at here
      cases here
    | held _ again more => exact .cons (.mk rfl (gives.unique again ▸ .refl _)) (ih later more)
    | absent _ required => simp [gives.isRequired] at required
  | absent missing required _ ih =>
    obtain ⟨here, later⟩ := List.forall_mem_cons.1 related
    rw [missing] at here
    cases second with
    | given found =>
      rw [found] at here
      cases here
    | held _ gives => simp [gives.isRequired] at required
    | absent _ _ more => exact ih later more

section Record

variable (distinct : classes.HaveDistinctNames)
  (names : ((Entries.keys entries).map normal).Nodup)
  (each : ∀ key raw, (key, raw) ∈ entries → ∀ hint, DecodesAlike classes settings raw hint)
  (rearranged : IsRearranged (Matches SameName IsReordered) entries others)

include distinct names each rearranged

/-- What is given for a field does not depend on the order and the spelling of keys. -/
theorem given?_rel {results : List (Text × Value)} (known : classes.get? className = some declared)
    (first : AreDecoded classes settings path className entries values)
    (second : AreDecoded classes settings again className others results) (member : field ∈ declared) :
    Option.Rel IsReordered (field.given? (Entries.ofPairs values))
      (field.given? (Entries.ofPairs results)) := by
  unfold Field.given?
  split
  next settable =>
    have named := get?_fieldsOf_of_distinct known (distinct.of_get? known) member settable
    rcases lastNamed_rearranged rearranged names field.name with
      ⟨none, noOther⟩ | ⟨key, raw, other, inside, reordered, last, lastOther⟩
    · rw [first.get?_of_unnamed named none, second.get?_of_unnamed named noOther]
      exact .none
    · obtain ⟨value, decoded, found⟩ := first.get?_of_lastNamed named last
      obtain ⟨result, decodedToo, foundToo⟩ := second.get?_of_lastNamed named lastOther
      rw [found, foundToo]
      exact .some ((each key raw inside field.hint).alike reordered decoded decodedToo)
  next => exact .none

theorem decodeValue_record_agree : Agree IsReordered
    (decodeValue classes settings path (.table entries) (.record className)).result
    (decodeValue classes settings again (.table others) (.record className)).result := by
  refine .intro (fun value result done doneToo => ?_) (fun reason result failed done => ?_)
    fun value reason done failed => ?_
  · obtain ⟨_, values, declared, fields, same, decoded, known, _, filled, rfl⟩ :=
      decodeValue_record_eq_ok_iff.1 done
    cases same
    obtain ⟨_, results, _, _, same, decodedToo, knownToo, _, filledToo, rfl⟩ :=
      decodeValue_record_eq_ok_iff.1 doneToo
    cases same
    cases known.symm.trans knownToo
    refine .record (AreFilled.matches (fun field member => ?_) filled filledToo)
    exact given?_rel distinct names each rearranged known decoded decodedToo member
  -- Only the first table does not fit, or only the second one: each entry has its partner in the other.
  · refine not_rejected_of_partners (fun key raw inside => ?_) (fun name written => ?_) done failed
    · obtain ⟨⟨name, inner⟩, found, related⟩ := rearranged.exists_of_mem inside
      obtain ⟨same, reordered⟩ := matches_iff.1 related
      exact ⟨name, inner, found, same, fun hint path again reason value =>
        (each key raw inside hint).not_given reordered⟩
    · obtain ⟨⟨_, inner⟩, found, rfl⟩ := List.mem_map.1 written
      obtain ⟨⟨key, raw⟩, inside, related⟩ := rearranged.exists_of_mem_second found
      exact ⟨key, List.mem_map.2 ⟨_, inside, rfl⟩, (matches_iff.1 related).1⟩
  · refine not_rejected_of_partners (fun name inner found => ?_) (fun key read => ?_) done failed
    · obtain ⟨⟨key, raw⟩, inside, related⟩ := rearranged.exists_of_mem_second found
      obtain ⟨same, reordered⟩ := matches_iff.1 related
      exact ⟨key, raw, inside, same.symm, fun hint path again reason value =>
        (each key raw inside hint).not_rejected reordered⟩
    · obtain ⟨⟨_, raw⟩, inside, rfl⟩ := List.mem_map.1 read
      obtain ⟨⟨name, inner⟩, found, related⟩ := rearranged.exists_of_mem inside
      exact ⟨name, List.mem_map.2 ⟨_, found, rfl⟩, (matches_iff.1 related).1.symm⟩

end Record

theorem decodesAlike_record (distinct : classes.HaveDistinctNames) (ofTexts : raw.isOfTexts = true)
    (unambiguous : raw.isUnambiguous = true)
    (each : ∀ entries, raw = .table entries →
      ∀ key raw, (key, raw) ∈ entries → ∀ hint, DecodesAlike classes settings raw hint) :
    DecodesAlike classes settings raw (.record className) := by
  intro other reordered path again
  have refused {raw other : Value} (noTable : ∀ entries, raw ≠ .table entries)
      (noOther : ∀ entries, other ≠ .table entries) : Agree IsReordered
        (decodeValue classes settings path raw (.record className)).result
        (decodeValue classes settings again other (.record className)).result := by
    rw [decodeValue_record_of_ne noTable, decodeValue_record_of_ne noOther]
    exact .rejected _ _
  cases raw with
  | text s =>
    rw [reordered.of_text]
    apply refused <;>
    · intro _ same
      cases same
  | list items =>
    obtain ⟨others, rfl, _⟩ := reordered.of_list
    apply refused <;>
    · intro _ same
      cases same
  | table entries =>
    obtain ⟨others, rfl, rearranged⟩ := reordered.of_table
    refine decodeValue_record_agree distinct (Value.isUnambiguous_table.1 unambiguous).1 (each entries rfl)
      (rearranged.mono fun entry other related => ?_)
    obtain ⟨same, reordered⟩ := matches_iff.1 related
    exact matches_iff.2 ⟨congrArg normal same, reordered⟩
  | _ => cases ofTexts

/-! ## The whole decoder -/

theorem decodesAlike (distinct : classes.HaveDistinctNames) (settings : Settings) (raw : Value)
    (hint : Hint) (ofTexts : raw.isOfTexts = true) (unambiguous : raw.isUnambiguous = true) :
    DecodesAlike classes settings raw hint := by
  have inside {entries : List (Text × Value)} (same : raw = .table entries) {key : Text} {inner : Value}
      (member : (key, inner) ∈ entries) :
      inner.isOfTexts = true ∧ inner.isUnambiguous = true ∧ sizeOf inner < sizeOf raw := by
    subst same
    rw [Value.isOfTexts, Value.holdsTexts_iff] at ofTexts
    exact ⟨ofTexts key inner member, (Value.isUnambiguous_table.1 unambiguous).2 key inner member,
      Value.sizeOf_lt_of_entry member⟩
  cases hint with
  | any | unchecked =>
    intro other reordered path again
    rw [decodeValue, decodeValue]
    exact .given reordered
  | scalar type => exact decodesAlike_scalar ofTexts type
  | plain type => exact decodesAlike_plain type
  | union spelling members =>
    exact decodesAlike_union ofTexts fun member _ =>
      decodesAlike distinct settings raw member ofTexts unambiguous
  | list spelling item =>
    refine decodesAlike_list ofTexts (fun items same inner member => ?_)
      (decodesAlike distinct settings raw item ofTexts unambiguous)
    have smaller : sizeOf inner < sizeOf raw := same ▸ Value.sizeOf_lt_of_item member
    rw [same, Value.isOfTexts, Value.areOfTexts_iff] at ofTexts
    rw [same, Value.isUnambiguous, Value.itemsAreUnambiguous_iff] at unambiguous
    exact decodesAlike distinct settings inner item (ofTexts inner member) (unambiguous inner member)
  | table spelling value =>
    refine decodesAlike_table ofTexts fun entries same key inner member => ?_
    obtain ⟨ofTexts, unambiguous, smaller⟩ := inside same member
    exact decodesAlike distinct settings inner value ofTexts unambiguous
  | record className =>
    refine decodesAlike_record distinct ofTexts unambiguous fun entries same key inner member hint => ?_
    obtain ⟨ofTexts, unambiguous, smaller⟩ := inside same member
    exact decodesAlike distinct settings inner hint ofTexts unambiguous
-- For the members of a union and a single item the value stays, and the type gets smaller.
termination_by (sizeOf raw, sizeOf hint)

/-! ## Instances -/

theorem Reaches.isOfTexts {inside : Path} {wanted : Hint} {inner : Value}
    (reaches : Reaches classes settings path hint raw inside wanted inner) (ofTexts : raw.isOfTexts = true) :
    inner.isOfTexts = true := by
  induction reaches with
  | here => exact ofTexts
  | member _ _ _ _ ih => exact ih ofTexts
  | item _ _ ih =>
    rw [Value.isOfTexts, Value.areOfTexts_iff] at ofTexts
    exact ih (ofTexts _ (by simp))
  | only _ _ ih => exact ih ofTexts
  | @entry _ _ _ _ _ _ _ _ key _ _ _ _ ih =>
    rw [Value.isOfTexts, Value.holdsTexts_iff] at ofTexts
    exact ih (ofTexts key _ (by simp))
  | @field _ _ _ _ _ _ _ key _ _ _ _ _ _ ih =>
    rw [Value.isOfTexts, Value.holdsTexts_iff] at ofTexts
    exact ih (ofTexts key _ (by simp))

/-- Texts, lists and tables are decoded or do not fit, unless an instance cannot be built. -/
theorem exists_unbuilt_of_isOfTexts {e : Failure} (ofTexts : raw.isOfTexts = true) (other : e.IsOther)
    (failed : (decodeValue classes settings path raw hint).result = .error e) :
    ∃ reason, e = .unbuilt reason := by
  obtain ⟨inside, wanted, inner, reaches, stumbles⟩ := (decodeValue_eq_error_iff other).1 failed
  have text := reaches.isOfTexts ofTexts
  cases stumbles with
  | unbuilt => exact ⟨_, rfl⟩
  | beyond _ beyond => cases beyond <;> cases text

/-- Whether one table comes of another by putting entries in another order, at any depth, and spelling keys
    of the table itself in another way. -/
def IsRespelled (entries others : List (Text × Value)) : Prop :=
  IsRearranged (Matches SameName IsReordered) entries others

/-- Whether two outcomes are equal instances, or failures of the same kind. -/
inductive AreAlike : Except Failure Value → Except Failure Value → Prop where
  | given {value other : Value} (same : value.IsReordered other) : AreAlike (.ok value) (.ok other)
  | rejected (first second : DecodeError) :
      AreAlike (.error (.rejected first)) (.error (.rejected second))
  | unbuilt (reason : ConstructError) :
      AreAlike (.error (.unbuilt reason)) (.error (.unbuilt reason))

/-- The order and the spelling of keys make no difference to what is decoded, unless an instance cannot be
    built on the way.  If every default gives a value, they make none at all. -/
theorem decode_respelled (distinct : classes.HaveDistinctNames) (ofTexts : Value.holdsTexts entries = true)
    (unambiguous : (Value.table entries).isUnambiguous = true) (respelled : IsRespelled entries others)
    (settings : Settings) (className : Text) :
    let outcome (entries : List (Text × Value)) :=
      (decode classes settings (.fresh className) (.table entries)).result
    (AreAlike (outcome entries) (outcome others) ∨ ∃ reason,
        outcome entries = .error (.unbuilt reason) ∨ outcome others = .error (.unbuilt reason)) ∧
      (classes.AreComplete → classes.hasKey className = true →
        AreAlike (outcome entries) (outcome others)) := by
  intro outcome
  obtain ⟨names, each⟩ := Value.isUnambiguous_table.1 unambiguous
  have texts := Value.holdsTexts_iff.1 ofTexts
  have whole : (Value.table entries).isOfTexts = true := ofTexts
  have wholeToo : (Value.table others).isOfTexts = true := by
    refine Value.holdsTexts_iff.2 fun key other member => ?_
    obtain ⟨⟨first, raw⟩, inside, related⟩ := respelled.exists_of_mem_second member
    exact (matches_iff.1 related).2.isOfTexts (texts first raw inside)
  have agree : Agree IsReordered (outcome entries) (outcome others) :=
    decodeValue_record_agree distinct names (fun key raw member hint =>
      decodesAlike distinct settings raw hint (texts key raw member) (each key raw member)) respelled
  have settled : AreAlike (outcome entries) (outcome others) ∨ ∃ reason,
      outcome entries = .error (.unbuilt reason) ∨ outcome others = .error (.unbuilt reason) := by
    generalize first : outcome entries = left at agree ⊢
    generalize second : outcome others = right at agree ⊢
    cases agree with
    | given same => exact .inl (.given same)
    | rejected => exact .inl (.rejected _ _)
    | left other =>
      obtain ⟨reason, rfl⟩ := exists_unbuilt_of_isOfTexts whole other first
      exact .inr ⟨reason, .inl rfl⟩
    | right other =>
      obtain ⟨reason, rfl⟩ := exists_unbuilt_of_isOfTexts wholeToo other second
      exact .inr ⟨reason, .inr rfl⟩
  refine ⟨settled, fun complete known => settled.resolve_right ?_⟩
  have built {entries : List (Text × Value)} (ofTexts : (Value.table entries).isOfTexts = true)
      (reason : ConstructError) : outcome entries ≠ .error (.unbuilt reason) := by
    intro failed
    obtain ⟨_, same⟩ := (decodeValue_sound distinct settings [] (.table entries) (.record className)).2
      complete known ofTexts _ failed
    cases same
  rintro ⟨reason, failed | failed⟩
  · exact built whole reason failed
  · exact built wholeToo reason failed

/-- Limits in another order, under a key in capitals. -/
theorem decode_respelled_limits :
    let classes : Classes := [("Server", [⟨"host", .scalar .text, .required, true⟩,
      ⟨"limits", .table .long (.scalar .integer), .value (.table []), true⟩])]
    let entries : Entries Text Value :=
      [("host", .text "a"), ("limits", .table [("x", .text "1"), ("y", .text "2")])]
    let others : Entries Text Value :=
      [("LIMITS", .table [("y", .text "2"), ("x", .text "1")]), ("Host", .text "a")]
    let outcome (entries : Entries Text Value) :=
      (decode classes .standard (.fresh "Server") (.table entries)).result
    outcome others = .ok (.record "Server"
        [("host", .text "a"), ("limits", .table [("y", .integer 2), ("x", .integer 1)])]) ∧
      AreAlike (outcome entries) (outcome others) := by
  intro classes entries others outcome
  have distinct : classes.HaveDistinctNames := by
    unfold Classes.HaveDistinctNames
    decide +kernel
  have complete : classes.AreComplete := by
    refine ⟨by decide, fun entry member field inside optional => ?_⟩
    cases List.mem_singleton.1 member
    simp only [List.mem_cons, List.not_mem_nil, or_false] at inside
    rcases inside with rfl | rfl
    · cases optional
    · exact ⟨_, .value _⟩
  have limits : IsReordered (.table [("x", .text "1"), ("y", .text "2")])
      (.table [("y", .text "2"), ("x", .text "1")]) :=
    .table (List.forall₂_same.2 fun entry _ => .mk rfl (.refl entry.2)) (.swap _ _ _)
  have host : SameName "host" "Host" := by
    unfold SameName
    decide +kernel
  have capitals : SameName "limits" "LIMITS" := by
    unfold SameName
    decide +kernel
  have respelled : IsRespelled entries others :=
    ⟨_, .cons (.mk host (.refl _)) (.cons (.mk capitals limits) .nil), .swap _ _ _⟩
  refine ⟨by simp only [outcome, others, classes]; cbv, ?_⟩
  exact (decode_respelled distinct rfl (by decide +kernel) respelled .standard "Server").2 complete rfl

/-- Whether a value does not fit or a default cannot be built depends on which of the two comes first. -/
theorem not_alike_unbuildable :
    let classes : Classes := [("Deep", [⟨"q", .scalar .integer, .required, true⟩]),
      ("Inner", [⟨"deep", .record "Deep", .instance "Deep", true⟩]),
      ("Outer", [⟨"a", .scalar .integer, .required, true⟩, ⟨"b", .record "Inner", .required, true⟩])]
    let entries : Entries Text Value := [("a", .text "x"), ("b", .table [])]
    let others : Entries Text Value := [("b", .table []), ("a", .text "x")]
    let outcome (entries : Entries Text Value) :=
      (decode classes .standard (.fresh "Outer") (.table entries)).result
    classes.HaveDistinctNames ∧ Value.holdsTexts entries = true ∧
      (Value.table entries).isUnambiguous = true ∧ IsRespelled entries others ∧
      ¬AreAlike (outcome entries) (outcome others) := by
  intro classes entries others outcome
  refine ⟨?_, rfl, by decide +kernel, ?_, fun alike => ?_⟩
  · unfold Classes.HaveDistinctNames
    decide +kernel
  · exact ⟨entries, List.forall₂_same.2 fun entry _ => .mk rfl (.refl entry.2), .swap _ _ _⟩
  · have first : outcome entries = .error (.rejected (.unparsable [.field "a"] (.text "x") .integer)) := by
      simp only [outcome, entries, classes]
      cbv
    have second : outcome others = .error (.unbuilt .incomplete) := by
      simp only [outcome, others, classes]
      cbv
    rw [first, second] at alike
    cases alike

end XmlSettings.Schema
