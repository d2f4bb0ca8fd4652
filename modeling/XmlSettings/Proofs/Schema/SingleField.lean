import Mathlib
import XmlSettings.Proofs.Schema.Defaults
import XmlSettings.Proofs.Schema.Equations
import XmlSettings.Proofs.Settings.Access
import XmlSettings.Schema.Target

/-! # Reading and decoding

A section can be read entry by entry, or decoded into an instance of a class.  Of a text both make the same
(`read_as_decoded`), though the decoder takes more spellings of numbers than the reads do: it passes over
blanks around a numeral, and takes the digits of every script.
-/

namespace XmlSettings.Schema

variable {classes : Classes} {settings : Settings} {path : Path} {className key : Text} {field : Field}
  {raw : Value} {values : Entries Text Value} {entries : Section}

/-! ## Tables with one key that names a field -/

theorem result_decodeKeys_of_unnamed (allowed : settings.rejectUnused = false)
    (unnamed : ∀ key ∈ entries.keys, (fieldsOf classes className).get? (normal key) = none) :
    (decodeKeys classes settings path className values entries).result = .ok values := by
  induction entries with
  | nil =>
    rw [decodeKeys_nil]
    rfl
  | cons entry rest ih =>
    obtain ⟨first, more⟩ := List.forall_mem_cons.1 unnamed
    rw [decodeKeys_unnamed first, allowed, if_neg Bool.false_ne_true, Run.result_bind]
    exact ih more

theorem result_decodeKeys_of_alone (allowed : settings.rejectUnused = false)
    (known : (fieldsOf classes className).get? (normal key) = some field)
    (distinct : entries.keys.Nodup) (found : entries.get? key = some raw)
    (alone : ∀ other ∈ entries.keys, other ≠ key →
      (fieldsOf classes className).get? (normal other) = none) :
    (decodeKeys classes settings path className values entries).result =
      (decodeValue classes settings (.field field.name :: path) raw field.hint).result.map
        (values.put field.name) := by
  induction entries with
  | nil => cases found
  | cons entry rest ih =>
    obtain ⟨first, inner⟩ := entry
    obtain ⟨new, distinct⟩ := List.nodup_cons.1 distinct
    rw [Entries.get?] at found
    split at found
    next same =>
      subst same
      cases found
      -- Behind the key no other key names a field, and the value is the only one that is decoded.
      have unnamed : ∀ other ∈ Entries.keys rest,
          (fieldsOf classes className).get? (normal other) = none := by
        intro other member
        refine alone other (List.mem_cons_of_mem _ member) ?_
        rintro rfl
        exact new member
      rw [decodeKeys_cons known, Run.result_bind]
      cases (decodeValue classes settings (.field field.name :: path) raw field.hint).result with
      | error => rfl
      | ok value => exact result_decodeKeys_of_unnamed allowed unnamed
    next other =>
      rw [decodeKeys_unnamed (alone first List.mem_cons_self other), allowed,
        if_neg Bool.false_ne_true, Run.result_bind]
      exact ih distinct found fun other member => alone other (List.mem_cons_of_mem _ member)

/-- What is built of the only field of a class. -/
theorem construct_single (known : classes.get? className = some [field])
    (settable : field.isSettable = true) (value : Value) :
    construct classes className (Entries.put field.name value []) =
      pure (.record className [(field.name, value)]) := by
  have given : Entries.get? (Entries.put field.name value []) field.name = some value := by
    rw [Entries.get?_put, if_pos rfl]
  have built : classes.build className (Entries.put field.name value []) =
      .ok (.record className [(field.name, value)]) := by
    refine build_eq_ok_iff.2 ⟨[field], _, known, fun other member _ _ => ?_, ?_, rfl⟩
    · cases List.mem_singleton.1 member
      rw [Entries.hasKey, given]
      rfl
    · exact .given (given?_eq_some_iff.2 ⟨settable, given⟩) .nil
  rw [construct, built]

/-- A class with one field is decoded from the only entry that names it. -/
theorem result_decodeValue_single (allowed : settings.rejectUnused = false)
    (known : classes.get? className = some [field]) (settable : field.isSettable = true)
    (named : normal key = normal field.name) (distinct : entries.keys.Nodup)
    (found : entries.get? key = some raw)
    (alone : ∀ other ∈ entries.keys, normal other = normal field.name → other = key) :
    (decodeValue classes settings path (.table entries) (.record className)).result =
      (decodeValue classes settings (.field field.name :: path) raw field.hint).result.map fun value =>
        .record className [(field.name, value)] := by
  have names : fieldsOf classes className = [(normal field.name, field)] := by
    rw [fieldsOf_of_distinct known (by simp [HaveDistinctNames, settable])]
    simp [settable]
  have first : (fieldsOf classes className).get? (normal key) = some field := by
    rw [names, named, Entries.get?, if_pos rfl]
  have others (other : Text) (member : other ∈ entries.keys) (different : other ≠ key) :
      (fieldsOf classes className).get? (normal other) = none := by
    rw [names, Entries.get?, if_neg fun same => different (alone other member same.symm)]
    rfl
  rw [decodeValue_record, Run.result_bind, result_decodeKeys_of_alone allowed first distinct found others]
  cases (decodeValue classes settings (.field field.name :: path) raw field.hint).result with
  | error => rfl
  | ok value =>
    have given : checkGiven path (Entries.put field.name value [])
        ((fieldsOf classes className).map (·.2)) = pure ⟨⟩ := by
      refine checkGiven_of_each fun other member _ => ?_
      rw [names] at member
      cases List.mem_singleton.1 member
      rw [Entries.hasKey, Entries.get?_put, if_pos rfl]
      rfl
    show (checkGiven path (Entries.put field.name value []) ((fieldsOf classes className).map (·.2)) >>=
      fun _ => construct classes className (Entries.put field.name value [])).result = _
    rw [given, construct_single known settable]
    rfl

/-! ## The same text -/

/-- Decode a section into a new instance of a class with one field of a scalar type. -/
def decodeSingle (others : Classes) (className name : Text) (default : Default) (entries : Section)
    (type : Scalar) : Except Failure Value :=
  let classes := (className, [⟨name, .scalar type, default, true⟩]) :: others
  (decode classes .standard (.fresh className) (.table entries)).result

/-- Whether a read with a type and a field of that type give the same value for an entry.  `decoded` says
    for each type what instance comes of a class with the field alone. -/
structure IsReadAlike (entries : Section) (key className name : Text)
    (decoded : Scalar → Except Failure Value) : Prop where
  integer : ∀ n, entries.integer key = .ok n →
    decoded .integer = .ok (.record className [(name, .integer n)]) ∧ ∃ x, entries.real key = .ok x
  real : ∀ x, entries.real key = .ok x → decoded .real = .ok (.record className [(name, .real x)])
  flag : ∀ b, entries.flag key = .ok b ↔ decoded .flag = .ok (.record className [(name, .flag b)])
  noFlag : (∃ e, entries.flag key = .error e ∧ e.kind = .mistyped) ↔
    ∃ reason, decoded .flag = .error (.rejected reason)
  text : decoded .text = .ok (.record className [(name, .text (entries.text key))])

section Text

variable {s : Text}

theorem decodeScalar_text : decodeScalar .standard path (.text s) .text = pure (.text s) := rfl

theorem decodeScalar_flag : decodeScalar .standard path (.text s) .flag =
    match (Value.text s).flag? with
    | some b => pure (.flag b)
    | none => Run.reject (.unparsable path (.text s) .flag) := rfl

/-- An integer that is read of a text is decoded of it. -/
theorem decodeScalar_integer {n : Int} (found : entries.get? key = some (.text s))
    (read : entries.integer key = .ok n) :
    decodeScalar .standard path (.text s) .integer = pure (.integer n) := by
  obtain ⟨spelled, few⟩ := (Section.integer_eq_ok_iff found).1 read
  have converted : integerOfText s = .ok n := by
    rw [integerOfText, Decimal.integer_of_spells spelled, if_neg (Nat.not_lt.2 few)]
  show convertNumber path (.text s) .integer .integer (integerOfText s) = _
  rw [converted]
  rfl

/-- A binary number that is read of a text is decoded of it. -/
theorem decodeScalar_real {x : Decimal.Binary64} (found : entries.get? key = some (.text s))
    (read : entries.real key = .ok x) :
    decodeScalar .standard path (.text s) .real = pure (.real x) := by
  have converted : realOfText s = .ok x := by
    rw [realOfText, ((Section.real_eq_ok_iff found).1 read).2]
  show convertNumber path (.text s) .real .real (realOfText s) = _
  rw [converted]
  rfl

end Text

theorem decodeSingle_of_text {others : Classes} {className name : Text} {default : Default} {s : Text}
    (distinct : entries.keys.Nodup) (found : entries.get? key = some (.text s))
    (named : normal key = normal name)
    (alone : ∀ other ∈ entries.keys, normal other = normal name → other = key) (type : Scalar) :
    decodeSingle others className name default entries type =
      (decodeScalar .standard [.field name] (.text s) type).result.map fun value =>
        .record className [(name, value)] := by
  have known : Entries.get? ((className, [⟨name, .scalar type, default, true⟩]) :: others) className =
      some [⟨name, .scalar type, default, true⟩] := if_pos rfl
  refine (result_decodeValue_single rfl known rfl named distinct found alone).trans ?_
  rw [decodeValue_scalar]

/-- Of a text under the only key that names a field, the typed reads and the decoder make the same. -/
theorem read_as_decoded (others : Classes) (className : Text) {name : Text} (default : Default)
    {s : Text} (distinct : entries.keys.Nodup) (found : entries.get? key = some (.text s))
    (named : normal key = normal name)
    (alone : ∀ other ∈ entries.keys, normal other = normal name → other = key) :
    IsReadAlike entries key className name (decodeSingle others className name default entries) := by
  have decoded (type : Scalar) : decodeSingle others className name default entries type = _ :=
    decodeSingle_of_text distinct found named alone type
  refine {
    integer := fun n read => ⟨?_, ?_⟩
    real := fun x read => ?_
    flag := fun b => ?_
    noFlag := ?_
    text := ?_ }
  · rw [decoded, decodeScalar_integer found read]
    rfl
  · have spelled := ((Section.integer_eq_ok_iff found).1 read).1
    have plain := Decimal.isPlainReal_of_isPlainInteger (Decimal.isPlainInteger_iff.2 ⟨n, spelled⟩)
    obtain ⟨x, real⟩ := Decimal.exists_real? plain
    exact ⟨x, (Section.real_eq_ok_iff found).2 ⟨plain, real⟩⟩
  · rw [decoded, decodeScalar_real found read]
    rfl
  · rw [Section.flag_eq_ok_iff found, decoded, decodeScalar_flag]
    cases (Value.text s).flag? with
    | none => exact iff_of_false nofun nofun
    | some other =>
      show some other = some b ↔
        Except.ok (Value.record className [(name, .flag other)]) = .ok (.record className [(name, .flag b)])
      simp
  · simp only [Section.flag_eq_error_iff found]
    rw [decoded, decodeScalar_flag]
    cases (Value.text s).flag? with
    | none => exact iff_of_true ⟨_, ⟨rfl, rfl⟩, rfl⟩ ⟨_, rfl⟩
    | some other =>
      constructor
      · rintro ⟨_, ⟨⟨⟩, _⟩, _⟩
      · rintro ⟨_, ⟨⟩⟩
  · rw [decoded, decodeScalar_text, Section.text_of_text found]
    rfl

/-- A signed numeral under a key that is not spelled as its field is, beside another key. -/
theorem read_as_decoded_signed :
    let entries : Section := [("HTTP-Port", .text "+0080"), ("host", .text "a")]
    IsReadAlike entries "HTTP-Port" "Server" "http_port"
      (decodeSingle [] "Server" "http_port" .required entries) := by
  intro entries
  have distinct : entries.keys.Nodup := by decide
  have named : normal "HTTP-Port" = normal "http_port" := by cbv
  have other : normal "host" ≠ normal "http_port" := by decide +kernel
  have alone : ∀ key ∈ entries.keys, normal key = normal "http_port" → key = "HTTP-Port" :=
    List.forall_mem_cons.2 ⟨fun _ => rfl, List.forall_mem_singleton.2 fun same => absurd same other⟩
  exact read_as_decoded [] "Server" .required distinct rfl named alone

end XmlSettings.Schema
