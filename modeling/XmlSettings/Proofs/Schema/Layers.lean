import Mathlib
import XmlSettings.Proofs.Schema.Update

/-! # One table over another

Updating an instance that was decoded from one table with a second one is the same as decoding the
second table laid over the first (`decode_layered`): what is given later replaces what was given for
the same field, or the default of the field.
-/

namespace XmlSettings.Schema

variable {classes others : Classes} {settings : Settings} {path : Path} {className name : Text}
  {declared : List Field} {field : Field} {raw value : Value} {fields : List (Text × Value)}
  {entries values lower upper lowerValues upperValues : List (Text × Value)}
  {given later new : Entries Text Value}

/-! ## The layers -/

/-- A table laid over another: of what is below, the entries stay that no key above names. -/
def layered (lower upper : Entries Text Value) : Entries Text Value :=
  lower.filter (fun entry => decide (normal entry.1 ∉ upper.keys.map normal)) ++ upper

namespace AreDecoded

theorem append (first : AreDecoded classes settings path className lower lowerValues)
    (second : AreDecoded classes settings path className upper upperValues) :
    AreDecoded classes settings path className (lower ++ upper) (lowerValues ++ upperValues) := by
  induction first with
  | nil => exact second
  | passed unnamed allowed _ ih => exact .passed unnamed allowed ih
  | taken named decoded _ ih => exact .taken named decoded ih

/-- What is found for a field is the same after entries were left out that do not name it. -/
theorem exists_filter (keep : Text × Value → Bool)
    (decoded : AreDecoded classes settings path className entries values) :
    ∃ kept, AreDecoded classes settings path className (entries.filter keep) kept ∧
      ∀ name, (∀ entry ∈ entries, keep entry = false → ∀ field,
          (fieldsOf classes className).get? (normal entry.1) = some field → field.name ≠ name) →
        Entries.get? kept.reverse name = Entries.get? values.reverse name := by
  induction decoded with
  | nil => exact ⟨[], .nil, fun _ _ => rfl⟩
  | @passed key raw _ _ unnamed allowed _ ih =>
    obtain ⟨kept, decoded, same⟩ := ih
    refine ⟨kept, ?_, fun name others => same name (List.forall_mem_cons.1 others).2⟩
    cases stays : keep (key, raw) with
    | true => simpa [stays] using .passed unnamed allowed decoded
    | false => simpa [stays] using decoded
  | @taken key raw value field _ _ named first _ ih =>
    obtain ⟨kept, decoded, same⟩ := ih
    cases stays : keep (key, raw) with
    | true =>
      refine ⟨_, by simpa [stays] using .taken named first decoded, fun name others => ?_⟩
      simp [Entries.get?_append, same name (List.forall_mem_cons.1 others).2]
    | false =>
      refine ⟨kept, by simpa [stays] using decoded, fun name others => ?_⟩
      obtain ⟨here, others⟩ := List.forall_mem_cons.1 others
      have other := here stays field named
      simp [Entries.get?_append, same name others, Entries.get?, other]

/-- What is found for a field in layers is what is found above, or else what is found below. -/
theorem exists_layered (below : AreDecoded classes settings path className lower lowerValues)
    (above : AreDecoded classes settings path className upper upperValues) :
    ∃ values, AreDecoded classes settings path className (layered lower upper) values ∧
      ∀ name, Entries.get? values.reverse name =
        (Entries.get? upperValues.reverse name).or (Entries.get? lowerValues.reverse name) := by
  obtain ⟨kept, decoded, same⟩ :=
    below.exists_filter fun entry => decide (normal entry.1 ∉ (Entries.keys upper).map normal)
  refine ⟨kept ++ upperValues, decoded.append above, fun name => ?_⟩
  rw [List.reverse_append, Entries.get?_append]
  cases found : Entries.get? upperValues.reverse name with
  | some => simp
  | none =>
    rw [Option.none_or, Option.none_or]
    apply same
    intro entry _ dropped field named same
    -- The key above that names the field would have given a value for it.
    obtain ⟨key, inside, spelled⟩ : ∃ key ∈ Entries.keys upper, normal key = normal entry.1 := by
      simpa using dropped
    have member := above.mem_keys inside (spelled ▸ named)
    exact Entries.get?_reverse_eq_none_iff.1 found (same ▸ member)

end AreDecoded

/-! ## The fields of an instance -/

namespace AreFilled

theorem keys_sublist (filled : AreFilled others given declared fields) :
    List.Sublist (Entries.keys fields) (declared.map (·.name)) := by
  induction filled with
  | nil => exact .slnil
  | given _ _ ih => exact .cons_cons _ ih
  | held _ _ _ ih => exact .cons_cons _ ih
  | absent _ _ _ ih => exact .cons _ ih

theorem mem_keys (filled : AreFilled others given declared fields) (member : field ∈ declared)
    (settable : field.isSettable = true) (complete : GivesRequired given declared) :
    field.name ∈ Entries.keys fields := by
  induction filled with
  | nil => cases member
  | given _ _ ih | held _ _ _ ih =>
    cases member with
    | head => exact List.mem_cons_self
    | tail _ inside => exact List.mem_cons_of_mem _ (ih inside (List.forall_mem_cons.1 complete).2)
  | absent missing required _ ih =>
    obtain ⟨complete, completeLater⟩ := List.forall_mem_cons.1 complete
    cases member with
    | head => simp [isSettable_of_absent complete missing required] at settable
    | tail _ inside => exact ih inside completeLater

/-- A field holds what is given for it. -/
theorem mem_of_given (filled : AreFilled others given declared fields) (member : field ∈ declared)
    (found : field.given? given = some value) : (field.name, value) ∈ fields := by
  induction filled with
  | nil => cases member
  | given here _ ih =>
    cases member with
    | head =>
      cases here.symm.trans found
      exact List.mem_cons_self
    | tail _ inside => exact List.mem_cons_of_mem _ (ih inside)
  | held missing _ _ ih =>
    cases member with
    | head => cases missing.symm.trans found
    | tail _ inside => exact List.mem_cons_of_mem _ (ih inside)
  | absent missing _ _ ih =>
    cases member with
    | head => cases missing.symm.trans found
    | tail _ inside => exact ih inside

theorem get?_of_given (filled : AreFilled others given declared fields)
    (own : (declared.map (·.name)).Nodup) (member : field ∈ declared) (settable : field.isSettable = true)
    (found : given.get? field.name = some value) : Entries.get? fields field.name = some value :=
  Entries.get?_of_mem (filled.keys_sublist.nodup own)
    (filled.mem_of_given member (given?_eq_some_iff.2 ⟨settable, found⟩))

/-- Values that are given besides replace those of their fields. -/
theorem layered (filled : AreFilled others given declared fields)
    (complete : GivesRequired given declared)
    (bare : ∀ field ∈ declared, field.isSettable = false → new.get? field.name = none)
    (layers : ∀ name, later.get? name = (new.get? name).or (given.get? name)) :
    AreFilled others later declared
      (fields.map fun entry => (entry.1, (new.get? entry.1).getD entry.2)) := by
  induction filled with
  | nil => exact .nil
  | given found _ ih =>
    obtain ⟨settable, found⟩ := given?_eq_some_iff.1 found
    refine .given (given?_eq_some_iff.2 ⟨settable, ?_⟩)
      (ih (List.forall_mem_cons.1 complete).2 (List.forall_mem_cons.1 bare).2)
    rw [layers, found, Option.or_some]
  | @held field _ _ _ missing gives _ ih =>
    obtain ⟨bare, bareLater⟩ := List.forall_mem_cons.1 bare
    have more := ih (List.forall_mem_cons.1 complete).2 bareLater
    rw [List.map_cons]
    cases found : new.get? field.name with
    | some value =>
      have settable : field.isSettable = true := by
        by_contra unsettable
        cases found.symm.trans (bare (Bool.eq_false_iff.2 unsettable))
      refine .given (given?_eq_some_iff.2 ⟨settable, ?_⟩) more
      rw [layers, found, Option.some_or, Option.getD_some]
    | none =>
      refine .held ?_ gives more
      rw [← missing, Field.given?, Field.given?, layers, found, Option.none_or]
  | absent missing required _ ih =>
    obtain ⟨complete, completeLater⟩ := List.forall_mem_cons.1 complete
    refine .absent (if_neg ?_) required (ih completeLater (List.forall_mem_cons.1 bare).2)
    simp [isSettable_of_absent complete missing required]

/-- The fields of an instance that is built from layers are those of the lower one, with the values of
    the upper one written over them. -/
theorem of_layers (own : classes.HaveDistinctFields)
    (known : classes.get? className = some declared)
    (complete : GivesRequired (Entries.ofPairs lowerValues) declared)
    (filled : AreFilled others (Entries.ofPairs lowerValues) declared fields)
    (above : AreDecoded classes settings path className upper upperValues)
    (layers : ∀ name, Entries.get? values.reverse name =
      (Entries.get? upperValues.reverse name).or (Entries.get? lowerValues.reverse name)) :
    AreFilled others (Entries.ofPairs values) declared
      (Entries.putAll fields (Entries.ofPairs upperValues)) := by
  have distinct := own.of_get? known
  rw [Entries.putAll_of_known (filled.keys_sublist.nodup distinct)]
  · simp only [Entries.get?_reverse_ofPairs]
    simp only [← Entries.get?_ofPairs]
    refine filled.layered complete (fun field inside bare => ?_) fun name => ?_
    · rw [Entries.get?_eq_none_iff, Entries.mem_keys_ofPairs]
      intro member
      obtain ⟨other, found, settable, same⟩ := exists_settable known above member
      cases List.inj_on_of_nodup_map distinct found inside same
      simp [settable] at bare
    · simpa only [Entries.get?_ofPairs] using layers name
  · intro name member
    obtain ⟨field, inside, settable, same⟩ :=
      exists_settable known above (Entries.mem_keys_ofPairs.1 member)
    exact same ▸ filled.mem_keys inside settable complete

end AreFilled

/-- Updating an instance that was decoded from a table with another table gives what is decoded from the
    two laid over one another.  Updating it with its own table again changes nothing. -/
theorem decode_layered (own : classes.HaveDistinctFields)
    (built : (decode classes settings (.fresh className) (.table lower)).result = .ok value) :
    let update (entries : Entries Text Value) :=
      Target.decode classes settings (.existing value) (.table entries)
    (∀ upper updated, (update upper).run.result = .ok updated →
        (update upper).target = .existing updated ∧
          (decode classes settings (.fresh className) (.table (layered lower upper))).result =
            .ok updated) ∧
      (update lower).run.result = .ok value ∧ (update lower).target = .existing value := by
  intro update
  obtain ⟨_, lowerValues, declared, fields, same, below, known, complete, filled, rfl⟩ :=
    decodeValue_record_eq_ok_iff.1 built
  cases same
  have layers (upper : Entries Text Value) (updated : Value)
      (done : (update upper).run.result = .ok updated) :
      (decode classes settings (.fresh className) (.table (layered lower upper))).result = .ok updated := by
    obtain ⟨_, upperValues, same, above, rfl⟩ := Target.decode_existing_eq_ok_iff.1 done
    cases same
    obtain ⟨values, decoded, found⟩ := below.exists_layered above
    refine decodeValue_record_eq_ok_iff.2 ⟨_, values, declared, _, rfl, decoded, known, ?_,
      .of_layers own known complete filled above found, rfl⟩
    intro field inside settable required
    have given := complete field inside settable required
    rw [Entries.hasKey, Entries.get?_ofPairs] at given ⊢
    rw [found, Option.isSome_or, given, Bool.or_true]
  have again : (update lower).run.result =
      .ok (.record className (Entries.putAll fields (Entries.ofPairs lowerValues))) :=
    Target.decode_existing_eq_ok_iff.2 ⟨lower, lowerValues, rfl, below, rfl⟩
  have only : layered lower lower = lower := by
    rw [layered, List.filter_eq_nil_iff.2, List.nil_append]
    intro entry member
    simpa using ⟨entry.1, List.mem_map_of_mem member, rfl⟩
  rw [← layers lower _ again, only, built] at again
  exact ⟨fun upper updated done => ⟨Target.target_of_decoded done, layers upper updated done⟩, again,
    Target.target_of_decoded again⟩

set_option maxRecDepth 1000 in
/-- Another spelling of a key takes the place of what was given for its field. -/
theorem decode_layered_server :
    let classes : Classes := [("Server", [⟨"host", .scalar .text, .required, true⟩,
      ⟨"port", .scalar .integer, .value (.integer 80), true⟩])]
    let server (port : Int) := Value.record "Server" [("host", .text "a"), ("port", .integer port)]
    let lower : Entries Text Value := [("PORT", .text "81"), ("Host", .text "a"), ("name", .nothing)]
    let decoded (entries : Entries Text Value) :=
      (decode classes .standard (.fresh "Server") (.table entries)).result
    decoded lower = .ok (server 81) ∧ decoded (layered lower [("port", .text "82")]) = .ok (server 82) := by
  intro classes server lower decoded
  have own : classes.HaveDistinctFields := by
    unfold Classes.HaveDistinctFields
    decide
  have built : decoded lower = .ok (server 81) := by
    simp only [decoded, lower, classes, server]
    cbv
  exact ⟨built, ((decode_layered own built).1 [("port", .text "82")] (server 82) (by cbv)).2⟩

end XmlSettings.Schema
