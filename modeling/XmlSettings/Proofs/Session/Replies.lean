import Mathlib
import XmlSettings.Proofs.Session.AtRest
import XmlSettings.Proofs.Settings.Access

/-! # Replies to reads

What the typed reads of scalars reply.  Of a text that has few enough digits exactly the integer is read
that it spells (`integers_exact`).  As long as all settings come from documents, a read that fails says
that there is no entry or that it is of another type, and a default stands in for its value; integers with
too many digits are the only exception (`settles_iff`).
-/

namespace XmlSettings.Session

open XmlSettings.Decimal (Spells digitCount digitsIn integerText maxDigits)
open XmlSettings.Schema (isComposite)

/-! ## Replies -/

/-- The reply to a question. -/
def reply (session : Session) (handle : Nat) (query : Query) : Except Failure Reply :=
  (session.step (.ask handle query)).2.result

/-- Whether a read fails in a way that callers tell apart. -/
def FailsAs (result : Except Failure Reply) (kind : AccessError.Kind) : Prop :=
  ∃ e, result = .error (.access e) ∧ e.kind = kind

section Reply

variable {session : Session} {handle : Nat} {id : SectionId} {query : Query} {kind : AccessError.Kind}
  {key : Text} {value : Value} (known : session.handles[handle]? = some id)

include known

theorem reply_eq : session.reply handle query =
    ((query.answer (session.store.table id)).mapError .access).map .value := by
  obtain ⟨journal, _, stepped⟩ := session.gives_query known query
  rw [reply, stepped]

theorem reply_eq_ok_iff : session.reply handle query = .ok (.value value) ↔
    query.answer (session.store.table id) = .ok value := by
  rw [reply_eq known, map_eq_ok]
  simp only [mapError_eq_ok, Reply.value.injEq, exists_eq_right]

theorem failsAs_reply_iff : FailsAs (session.reply handle query) kind ↔
    ∃ e, query.answer (session.store.table id) = .error e ∧ e.kind = kind := by
  simp only [FailsAs, reply_eq known, map_eq_error, mapError_eq_error, Failure.access.injEq,
    exists_eq_right]

theorem reply_value_iff : session.reply handle (.value key) = .ok (.value value) ↔
    (session.store.table id).get? key = some value := by
  rw [reply_eq_ok_iff known, Query.answer, Section.value]
  cases (session.store.table id).get? key <;> simp

end Reply

/-! ## Integers -/

/-- Whether exactly the integers are read that a text under a key spells. -/
structure IsReadExactly (session : Session) (handle : Nat) (key s : Text) : Prop where
  integer : ∀ n, session.reply handle (.integer key) = .ok (.value (.integer n)) ↔ Spells s n
  noInteger : (¬∃ n, Spells s n) → FailsAs (session.reply handle (.integer key)) .mistyped
  integer64 : ∀ n, session.reply handle (.integer64 key) = .ok (.value (.integer n)) ↔
    Spells s n ∧ -2 ^ 63 ≤ n ∧ n ≤ 2 ^ 63 - 1
  noInteger64 : (¬∃ n, Spells s n ∧ -2 ^ 63 ≤ n ∧ n ≤ 2 ^ 63 - 1) →
    FailsAs (session.reply handle (.integer64 key)) .mistyped

/-- Whether an integer is read under a key, and with 64 bits if it has no more. -/
structure IsReadBack (session : Session) (handle : Nat) (key : Text) (n : Int) : Prop where
  integer : session.reply handle (.integer key) = .ok (.value (.integer n))
  inside : -2 ^ 63 ≤ n → n ≤ 2 ^ 63 - 1 →
    session.reply handle (.integer64 key) = .ok (.value (.integer n))
  outside : ¬(-2 ^ 63 ≤ n ∧ n ≤ 2 ^ 63 - 1) → FailsAs (session.reply handle (.integer64 key)) .mistyped

section Integers

variable {session : Session} {handle : Nat} {id : SectionId} {key s : Text} {n : Int}
  (known : session.handles[handle]? = some id)

include known

theorem reply_integral_iff {query : Query} {read : Except AccessError Int}
    (answered : query.answer (session.store.table id) = .integer <$> read) :
    session.reply handle query = .ok (.value (.integer n)) ↔ read = .ok n := by
  rw [reply_eq_ok_iff known, answered, functorMap_eq_ok]
  simp only [Value.integer.injEq, exists_eq_right]

theorem failsAs_of_integral {query : Query} {read : Except AccessError Int} {e : AccessError}
    (answered : query.answer (session.store.table id) = .integer <$> read) (failed : read = .error e) :
    FailsAs (session.reply handle query) e.kind := by
  refine (failsAs_reply_iff known).2 ⟨e, ?_, rfl⟩
  rw [answered, functorMap_eq_error]
  exact failed

theorem isReadExactly_of_text (found : (session.store.table id).get? key = some (.text s))
    (few : digitsIn s ≤ maxDigits) : session.IsReadExactly handle key s where
  integer n := by
    rw [reply_integral_iff known rfl, Section.integer_eq_ok_iff found, and_iff_left few]
  noInteger other := failsAs_of_integral known rfl (Section.integer_of_not_spells found other)
  integer64 n := by
    rw [reply_integral_iff known rfl, Section.integer64_eq_ok_iff, Section.integer_eq_ok_iff found,
      and_iff_left few]
  noInteger64 other := by
    by_cases spelled : ∃ n, Spells s n
    · obtain ⟨n, spelled⟩ := spelled
      have read := (Section.integer_eq_ok_iff found).2 ⟨spelled, few⟩
      have outside : ¬(-2 ^ 63 ≤ n ∧ n ≤ 2 ^ 63 - 1) := fun inside => other ⟨n, spelled, inside⟩
      have failed := Section.integer64_eq_error_iff.2 (.inr ⟨n, read, outside, rfl⟩)
      exact failsAs_of_integral known rfl failed
    · have failed := Section.integer_of_not_spells found spelled
      exact failsAs_of_integral known rfl (Section.integer64_eq_error_iff.2 (.inl failed))

/-- An integer that was written is read back. -/
theorem isReadBack_write (inside : id < session.store.next) (few : digitCount n ≤ maxDigits) :
    (session.step (.write handle key (.integer n))).1.IsReadBack handle key n := by
  have hasText : (Value.integer n).written = .ok (.ofString (String.ofList (integerText n))) :=
    Value.written_eq_ok_iff.2 ⟨decide_eq_true few, rfl⟩
  obtain ⟨journal, _, written⟩ := session.gives_write known key hasText
  have found := Store.table_set inside key (.ofString (String.ofList (integerText n)))
  replace found := congrArg (fun entries => Entries.get? entries key) found
  rw [Entries.get?_put, if_pos rfl] at found
  rw [written]
  have exact := @isReadExactly_of_text { session with
      store := session.store.set id key (.ofString (String.ofList (integerText n))), journal }
    handle id key _ known found (by rwa [Decimal.digitsIn_integerText])
  have spelled := Decimal.spells_integerText n
  refine ⟨(exact.integer n).2 spelled, fun least greatest => ?_, fun outside => ?_⟩
  · exact (exact.integer64 n).2 ⟨spelled, least, greatest⟩
  · refine exact.noInteger64 ?_
    rintro ⟨m, other, inside⟩
    exact outside (spelled.unique other ▸ inside)

end Integers

/-- Of a text without too many digits exactly the integer is read that it spells, and an integer that is
    written is read back. -/
theorem integers_exact (loader : Dotenv.Loader) (environment : Environment) (files : FileTree)
    (isWatched : Bool) (commands : List Command) {handle : Nat}
    (isHandle : handle < (reached loader environment files isWatched commands).handles.length) (key : Text) :
    (∀ s, (reached loader environment files isWatched commands).reply handle (.value key) =
        .ok (.value (.text s)) → digitsIn s ≤ maxDigits →
      (reached loader environment files isWatched commands).IsReadExactly handle key s) ∧
    ∀ n, digitCount n ≤ maxDigits →
      ((reached loader environment files isWatched commands).step (.write handle key (.integer n))).1.IsReadBack
        handle key n := by
  have known := List.getElem?_eq_getElem isHandle
  have inside := inside_reached loader environment files isWatched commands _ (List.getElem_mem isHandle)
  constructor
  · intro s held few
    exact isReadExactly_of_text known ((reply_value_iff known).1 held) few
  · exact fun n few => isReadBack_write known inside few

/-- A numeral with a sign and zeros in front, and an integer of more than 64 bits. -/
theorem integers_exact_signed :
    let session := reached Dotenv.load [] (.empty []) false [.create [("a", .text "-007")]]
    session.reply 0 (.integer "a") = .ok (.value (.integer (-7))) ∧
      (session.step (.write 0 "b" (.integer (2 ^ 63)))).1.IsReadBack 0 "b" (2 ^ 63) := by
  intro session
  have both (key : Text) := @integers_exact Dotenv.load [] (.empty []) false [.create [("a", .text "-007")]] 0
    (by decide) key
  have areDigits : Decimal.AreDigits ['0', '0', '7'] := ⟨nofun, List.all_eq_true.1 rfl⟩
  have spelled : Spells "-007" (-7) := .minus areDigits
  constructor
  · exact (((both "a").1 "-007" (by cbv) (by cbv)).integer (-7)).2 spelled
  · exact (both "b").2 (2 ^ 63) (by cbv)

/-! ## Failures -/

/-- The typed reads of scalars. -/
inductive Reading where
  | flag
  | integer
  | integer64
  | real

namespace Reading

/-- A read that fails without a value. -/
def strict (key : Text) : Reading → Query
  | flag => .flag key
  | integer => .integer key
  | integer64 => .integer64 key
  | real => .real key

/-- A read that takes a default for a value. -/
def lenient (key : Text) (default : Value) : Reading → Query
  | flag => .flagOr key default
  | integer => .integerOr key default
  | integer64 => .integer64Or key default
  | real => .realOr key default

def isIntegral : Reading → Bool
  | integer | integer64 => true
  | flag | real => false

variable {reading : Reading} {entries : Section} {key s : Text} {e : AccessError} {n : Int}

theorem answer_lenient (default : Value) : (reading.lenient key default).answer entries =
    AccessError.orDefault ((reading.strict key).answer entries) default := by
  cases reading <;> rfl

/-- Numbers are read of texts only. -/
theorem answer_of_scalar (isNumber : reading ≠ .flag) (failed : entries.scalar key = .error e) :
    (reading.strict key).answer entries = .error e := by
  have integer : entries.integer key = .error e := by
    rw [Section.integer, failed]
    rfl
  cases reading with
  | flag => exact absurd rfl isNumber
  | integer => exact functorMap_eq_error.2 integer
  | integer64 => exact functorMap_eq_error.2 (Section.integer64_eq_error_iff.2 (.inl integer))
  | real =>
    refine functorMap_eq_error.2 ?_
    rw [Section.real, failed]
    rfl

theorem answer_of_absent (absent : entries.get? key = none) :
    (reading.strict key).answer entries = .error (.missing key) := by
  by_cases isFlag : reading = .flag
  · subst isFlag
    refine functorMap_eq_error.2 ?_
    rw [Section.flag, absent]
  · refine answer_of_scalar isFlag ?_
    rw [Section.scalar, absent]

theorem answer_of_composite (reading : Reading) {value : Value} (found : entries.get? key = some value)
    (composite : isComposite value = true) (showable : value.isShowable = true) :
    ∃ e, (reading.strict key).answer entries = .error e ∧ e.kind = .mistyped := by
  by_cases isFlag : reading = .flag
  · subst isFlag
    refine ⟨.malformed value, functorMap_eq_error.2 ?_, rfl⟩
    rw [Section.flag, found]
    cases value with
    | list | table => simp [Value.flag?, showable]
    | _ => cases composite
  · refine ⟨.notAText key value.kindName, answer_of_scalar isFlag ?_, rfl⟩
    rw [Section.scalar, found]
    cases value with
    | list | table => rfl
    | _ => cases composite

/-- How a read of a text fails. -/
theorem kind_of_text (found : entries.get? key = some (.text s))
    (failed : (reading.strict key).answer entries = .error e) : e.kind = .mistyped ∨
      e.kind = .foreign ∧ reading.isIntegral = true ∧ (∃ n, Spells s n) ∧ maxDigits < digitsIn s := by
  have ofInteger (isIntegral : reading.isIntegral = true) (failed : entries.integer key = .error e) :
      e.kind = .mistyped ∨ e.kind = .foreign ∧ reading.isIntegral = true ∧ (∃ n, Spells s n) ∧
        maxDigits < digitsIn s := by
    rcases (Section.integer_eq_error_iff found).1 failed with ⟨_, rfl⟩ | ⟨spelled, many, rfl⟩
    · exact .inl rfl
    · exact .inr ⟨rfl, isIntegral, spelled, many⟩
  cases reading <;> replace failed := functorMap_eq_error.1 failed
  · obtain ⟨_, rfl⟩ := (Section.flag_eq_error_iff found).1 failed
    exact .inl rfl
  · exact ofInteger rfl failed
  · rcases Section.integer64_eq_error_iff.1 failed with failed | ⟨_, _, _, rfl⟩
    · exact ofInteger rfl failed
    · exact .inl rfl
  · obtain ⟨_, rfl⟩ := (Section.real_eq_error_iff found).1 failed
    exact .inl rfl

/-- No integer is read of a text that spells one with too many digits. -/
theorem answer_of_many (isIntegral : reading.isIntegral = true)
    (found : entries.get? key = some (.text s)) (spelled : Spells s n) (many : maxDigits < digitsIn s) :
    (reading.strict key).answer entries = .error (.unreadable (.tooManyDigits (digitsIn s))) := by
  have failed := (Section.integer_eq_error_iff found).2 (.inr ⟨⟨n, spelled⟩, many, rfl⟩)
  cases reading with
  | integer => exact functorMap_eq_error.2 failed
  | integer64 => exact functorMap_eq_error.2 (Section.integer64_eq_error_iff.2 (.inl failed))
  | _ => cases isIntegral

end Reading

/-- Whether a typed read gives a value or fails in a way that says why, and a default stands in for its
    value where it fails. -/
structure Settles (session : Session) (handle : Nat) (key : Text) (reading : Reading) : Prop where
  strict : (∃ value, session.reply handle (reading.strict key) = .ok (.value value)) ∨
    session.reply handle (.hasKey key) = .ok (.value (.flag false)) ∧
      FailsAs (session.reply handle (reading.strict key)) .absent ∨
    session.reply handle (.hasKey key) = .ok (.value (.flag true)) ∧
      FailsAs (session.reply handle (reading.strict key)) .mistyped
  lenient : ∀ default, session.reply handle (reading.lenient key default) =
    match session.reply handle (reading.strict key) with
    | .ok given => .ok given
    | .error _ => .ok (.value default)

/-- What is held in settings is a text or composite. -/
theorem text_or_composite {named : Text → Prop} {held : Text → Text → Prop} {key : Text} {value : Value}
    (entry : Settings.IsEntry named held key value) : (∃ s, value = .text s) ∨ isComposite value = true := by
  cases entry with
  | several => exact .inr rfl
  | single _ setting =>
    cases setting with
    | text => exact .inl ⟨_, rfl⟩
    | table => exact .inr rfl

section Settles

variable {session : Session} {handle : Nat} {id : SectionId} {key : Text} {reading : Reading}
  (known : session.handles[handle]? = some id)

include known

theorem reply_hasKey_iff {b : Bool} : session.reply handle (.hasKey key) = .ok (.value (.flag b)) ↔
    Entries.hasKey (session.store.table id) key = b := by
  rw [reply_eq_ok_iff known, Query.answer, Except.ok.injEq, Value.flag.injEq]

/-- A read settles if its failures are those of reading. -/
theorem settles_iff_kind : session.Settles handle key reading ↔
    ∀ e, (reading.strict key).answer (session.store.table id) = .error e →
      e.kind = if Entries.hasKey (session.store.table id) key then .mistyped else .absent := by
  constructor
  · rintro ⟨strict, _⟩ e failed
    rw [reply_hasKey_iff known, reply_hasKey_iff known, failsAs_reply_iff known,
      failsAs_reply_iff known, failed] at strict
    rcases strict with ⟨value, given⟩ | ⟨absent, _, same, kind⟩ | ⟨present, _, same, kind⟩
    · rw [reply_eq_ok_iff known, failed] at given
      cases given
    · cases same
      rw [kind, absent, if_neg Bool.false_ne_true]
    · cases same
      rw [kind, present, if_pos rfl]
  · intro each
    have lenient (default : Value) : session.reply handle (reading.lenient key default) =
        ((AccessError.orDefault ((reading.strict key).answer (session.store.table id)) default).mapError
          .access).map .value := by
      rw [reply_eq known, Reading.answer_lenient]
    have strict : session.reply handle (reading.strict key) = _ := reply_eq known
    cases answered : (reading.strict key).answer (session.store.table id) with
    | ok value =>
      refine ⟨.inl ⟨value, (reply_eq_ok_iff known).2 answered⟩, fun default => ?_⟩
      rw [lenient, strict, answered]
      rfl
    | error e =>
      have kind := each e answered
      have fails := (failsAs_reply_iff known).2 ⟨e, answered, kind⟩
      have allowed : e.allowsDefault = true := by
        rw [AccessError.allowsDefault_iff, kind]
        split <;> decide
      refine ⟨.inr ?_, fun default => ?_⟩
      · rw [reply_hasKey_iff known, reply_hasKey_iff known]
        cases present : Entries.hasKey (session.store.table id) key with
        | false => exact .inl ⟨rfl, by simpa [present] using fails⟩
        | true => exact .inr ⟨rfl, by simpa [present] using fails⟩
      · rw [lenient, strict, answered, AccessError.orDefault, allowed]
        rfl

theorem settles_iff_of_isEntry (held : ∀ value, (session.store.table id).get? key = some value →
      Settings.IsEntry (fun _ => True) (fun _ _ => True) key value) :
    session.Settles handle key reading ↔ (reading.isIntegral = true → ∀ s n,
      session.reply handle (.value key) = .ok (.value (.text s)) → Spells s n → digitsIn s ≤ maxDigits) := by
  simp only [reply_value_iff known]
  rw [settles_iff_kind known, Entries.hasKey]
  cases found : (session.store.table id).get? key with
  | none =>
    refine iff_of_true (fun e failed => ?_) fun _ s n same => ?_
    · cases (Reading.answer_of_absent found).symm.trans failed
      rfl
    · cases same
  | some value =>
    have showable := (held value found).isShowable
    rcases text_or_composite (held value found) with ⟨s, rfl⟩ | composite
    · constructor
      · intro each isIntegral _ n same spelled
        cases same
        by_contra many
        have failed := Reading.answer_of_many isIntegral found spelled (Nat.not_le.1 many)
        cases each _ failed
      · intro few e failed
        rcases Reading.kind_of_text found failed with kind | ⟨_, isIntegral, ⟨n, spelled⟩, many⟩
        · exact kind
        · exact absurd (few isIntegral s n rfl spelled) (Nat.not_le.2 many)
    · refine iff_of_true (fun e failed => ?_) fun _ s _ same => ?_
      · obtain ⟨_, refused, kind⟩ := reading.answer_of_composite found composite showable
        cases refused.symm.trans failed
        exact kind
      · cases same
        cases composite

end Settles

theorem AreSettled.isEntry {store : Store} {handles : List SectionId} {id : SectionId}
    {key : Text} {value : Value} (settled : AreSettled store handles) (member : id ∈ handles)
    (found : (store.table id).get? key = some value) :
    Settings.IsEntry (fun _ => True) (fun _ _ => True) key value := by
  obtain ⟨_, _, each⟩ := Store.isSection_table settled.shape (settled.inside id member)
  exact each key value (Entries.mem_of_get? found)

/-- As long as all settings come from documents, a typed read settles exactly if it is not of an integer
    with too many digits. -/
theorem settles_iff (loader : Dotenv.Loader) (environment : Environment) (files : FileTree)
    (isWatched : Bool) {commands : List Command}
    (fromDocuments : commands.all Command.isFromDocuments = true) {handle : Nat}
    (isHandle : handle < (reached loader environment files isWatched commands).handles.length) (key : Text)
    (reading : Reading) :
    (reached loader environment files isWatched commands).Settles handle key reading ↔
      (reading.isIntegral = true → ∀ s n,
        (reached loader environment files isWatched commands).reply handle (.value key) = .ok (.value (.text s)) →
        Spells s n → digitsIn s ≤ maxDigits) := by
  have settled := areSettled_reached loader environment files isWatched fromDocuments
  refine settles_iff_of_isEntry (List.getElem?_eq_getElem isHandle) fun value found => ?_
  exact settled.isEntry (List.getElem_mem isHandle) found

/-- No default stands in for an integer with too many digits. -/
theorem not_settles_many :
    let document := "<?xml version='1.0' encoding='utf-8'?>\n<config>\n    <a>1</a>\n</config>"
    let numeral := String.ofList (List.replicate 4301 '1')
    ¬(reached Dotenv.load [] (.empty []) false
      [.load none (.text document), .write 0 "a" (.text numeral)]).Settles 0 "a" .integer := by
  intro document numeral
  have written : Settings.toDocument Settings.rootName Settings.defaultStep
      (.table [("a", .text "1")]) = .ok document := rfl
  have accepted := Settings.raw_text_written written (by decide) (by rfl)
  obtain ⟨id, known, table⟩ := table_written Dotenv.load [] (.empty []) false accepted rfl "a" numeral
  rw [settles_iff Dotenv.load [] (.empty []) false (by rfl) (List.getElem?_eq_some_iff.1 known).1]
  intro few
  have found := congrArg (fun entries : Section => Entries.get? entries "a") table
  rw [Entries.get?_put, if_pos rfl] at found
  have areDigits : Decimal.AreDigits (List.replicate 4301 '1') := by
    refine ⟨nofun, fun c member => ?_⟩
    rw [List.eq_of_mem_replicate member]
    rfl
  have count : digitsIn numeral = 4301 := by
    rw [digitsIn, Text.chars_ofString, String.toList_ofList, List.countP_eq_length.2 areDigits.2, List.length_replicate]
  have small := few rfl _ _ ((reply_value_iff known).2 found) (.bare areDigits)
  rw [count] at small
  exact absurd small (by decide)

end XmlSettings.Session
