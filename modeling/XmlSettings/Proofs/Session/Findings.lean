import XmlSettings.Proofs.Session.Replies

/-! # What is found under a key

Under each key of a section nothing is found, a text, or a value that holds others, and every operation on
the key shows which of them it is.  As long as all settings come from documents, each session has exactly
one finding for a handle and a key (`found_once`).
-/

namespace XmlSettings.Session

open XmlSettings.Schema (isComposite)

/-! ## Findings -/

/-- What is found under a key. -/
inductive Finding where
  | absent
  | text (s : Text)
  | composite (value : Value)

/-- Whether no section can be had under a key, neither as a handle nor as an instance of a class. -/
structure IsClosed (session : Session) (handle : Nat) (key : Text) (kind : AccessError.Kind) : Prop where
  sub : FailsAs (session.step (.sub handle key)).2.result kind
  decode : ∀ classes settings target,
    FailsAs (session.step (.decode handle key classes settings target)).2.result kind

/-- Whether a handle to the section under a key is handed out, and its entries are rendered as texts. -/
structure IsHandedOut (session : Session) (handle : Nat) (key : Text) (inner : Section) (child : Nat)
    (rendered : Section) : Prop where
  sub : (session.step (.sub handle key)).2.result = .ok (.handle child)
  table : (session.step (.sub handle key)).1.reply child .table = .ok (.value (.table inner))
  entries : session.reply handle (.entries key) = .ok (.value (.table rendered))
  keys : rendered.keys = inner.keys
  texts : ∀ name s, inner.get? name = some (.text s) → rendered.get? name = some (.text s) ∧
    (session.step (.sub handle key)).1.reply child (.text name) = .ok (.value (.text s))

/-- Whether nothing is found. -/
structure ShowsAbsent (session : Session) (handle : Nat) (key : Text) : Prop where
  hasKey : session.reply handle (.hasKey key) = .ok (.value (.flag false))
  value : FailsAs (session.reply handle (.value key)) .absent
  reading : ∀ reading : Reading, FailsAs (session.reply handle (reading.strict key)) .absent
  text : session.reply handle (.text key) = .ok (.value (.text ""))
  texts : session.reply handle (.texts key) = .ok (.value .nothing)
  closed : key ≠ "" → session.IsClosed handle key .absent
  entries : FailsAs (session.reply handle (.entries key)) .noSection

/-- Whether a text is found. -/
structure ShowsText (session : Session) (handle : Nat) (key s : Text) : Prop where
  hasKey : session.reply handle (.hasKey key) = .ok (.value (.flag true))
  value : session.reply handle (.value key) = .ok (.value (.text s))
  text : session.reply handle (.text key) = .ok (.value (.text s))
  closed : key ≠ "" → session.IsClosed handle key .mistyped
  entries : FailsAs (session.reply handle (.entries key)) .noSection

/-- Whether a table or a list is found. -/
structure ShowsComposite (session : Session) (handle : Nat) (key : Text) (held : Value) : Prop where
  composite : isComposite held = true
  hasKey : session.reply handle (.hasKey key) = .ok (.value (.flag true))
  value : session.reply handle (.value key) = .ok (.value held)
  reading : ∀ reading : Reading, FailsAs (session.reply handle (reading.strict key)) .mistyped
  text : session.reply handle (.text key) = .ok (.value (.text ""))
  texts : session.reply handle (.texts key) = .ok (.value .nothing)
  opened : ∀ inner, held = .table inner → key ≠ "" →
    ∃ child rendered, session.IsHandedOut handle key inner child rendered
  closed : (∀ inner, held ≠ .table inner) → key ≠ "" →
    session.IsClosed handle key .mistyped ∧ FailsAs (session.reply handle (.entries key)) .noSection

/-- Whether all operations on a key show a finding. -/
def Finding.Shows (session : Session) (handle : Nat) (key : Text) : Finding → Prop
  | absent => session.ShowsAbsent handle key
  | text s => session.ShowsText handle key s
  | composite value => session.ShowsComposite handle key value

/-- No two findings are shown. -/
theorem Finding.Shows.unique {session : Session} {handle : Nat} {key : Text} {first second : Finding}
    (shows : first.Shows session handle key) (too : second.Shows session handle key) : first = second := by
  cases first with
  | absent =>
    cases second with
    | absent => rfl
    | text | composite => cases shows.hasKey.symm.trans too.hasKey
  | text s =>
    cases second with
    | absent => cases shows.hasKey.symm.trans too.hasKey
    | text =>
      cases shows.value.symm.trans too.value
      rfl
    | composite =>
      cases shows.value.symm.trans too.value
      cases too.composite
  | composite value =>
    cases second with
    | absent => cases shows.hasKey.symm.trans too.hasKey
    | text =>
      cases shows.value.symm.trans too.value
      cases shows.composite
    | composite =>
      cases shows.value.symm.trans too.value
      rfl

/-! ## Entries as texts -/

/-- A section with the texts that its values are rendered as. -/
def asTexts (entries : Section) : Section :=
  entries.map fun (name, value) => (name, .text value.rendered)

theorem keys_asTexts (entries : Section) : (asTexts entries).keys = entries.keys := by
  rw [asTexts, Entries.keys, List.map_map]
  rfl

/-- Each entry is shown by the text that its value is rendered as. -/
theorem get?_asTexts_eq (entries : Section) (name : Text) :
    (asTexts entries).get? name = (entries.get? name).map fun value => .text value.rendered :=
  Entries.get?_map (fun value : Value => Value.text value.rendered) entries name

/-- Texts are rendered as they are. -/
theorem get?_asTexts {entries : Section} {name s : Text} (found : entries.get? name = some (.text s)) :
    (asTexts entries).get? name = some (.text s) := by
  rw [get?_asTexts_eq, found]
  rfl

/-! ## Opening sections -/

section Shown

variable {session : Session} {handle : Nat} {id : SectionId} {key : Text}
  (known : session.handles[handle]? = some id)

include known

theorem isClosed_of_narrow {e : AccessError} (refused : narrow session.store id key = .error e) :
    session.IsClosed handle key e.kind where
  sub := by
    rcases session.gives_sub known key with ⟨_, narrowed, _⟩ | ⟨_, failed, _, _, stepped⟩
    · cases refused.symm.trans narrowed
    · cases refused.symm.trans failed
      rw [stepped]
      exact ⟨e, rfl, rfl⟩
  decode classes settings target := by
    obtain ⟨_, _, stepped⟩ := session.gives_decode_refused known refused classes settings target
    rw [stepped]
    exact ⟨e, rfl, rfl⟩

theorem isClosed_of_plain {value : Value} (nonEmpty : key ≠ "")
    (held : (session.store.entries id).get? key = some (.plain value)) :
    session.IsClosed handle key .mistyped := by
  have refused : narrow session.store id key = .error (.notASection key) := by
    rw [narrow, if_neg nonEmpty, held]
  exact isClosed_of_narrow known refused

/-- The entries of a section inside another one are shown as texts. -/
theorem reply_entries_iff {inner : Section} {value : Value}
    (found : (session.store.table id).get? key = some (.table inner)) :
    session.reply handle (.entries key) = .ok (.value value) ↔
      (Value.table inner).isShowable = true ∧ .table (asTexts inner) = value := by
  rw [reply_eq_ok_iff known, Query.answer, functorMap_eq_ok, Value.isShowable]
  simp only [Section.renderedEntries, found]
  split
  next shown => simp [shown, asTexts, Function.comp_def]
  next hidden => simp [hidden]

theorem reply_entries {inner : Section}
    (found : (session.store.table id).get? key = some (.table inner))
    (showable : (Value.table inner).isShowable = true) :
    session.reply handle (.entries key) = .ok (.value (.table (asTexts inner))) :=
  (reply_entries_iff known found).2 ⟨showable, rfl⟩

/-- Of a section inside another one the same entries are seen through its own handle. -/
theorem isHandedOut_of_nested {inner : SectionId} (nonEmpty : key ≠ "")
    (held : (session.store.entries id).get? key = some (.nested inner))
    (showable : (Value.table (session.store.table inner)).isShowable = true) :
    session.IsHandedOut handle key (session.store.table inner) session.handles.length
      (asTexts (session.store.table inner)) := by
  have narrowed : narrow session.store id key = .ok inner := by
    rw [narrow, if_neg nonEmpty, held]
  have found : (session.store.table id).get? key = some (.table (session.store.table inner)) := by
    rw [Store.get?_table, held]
    rfl
  rcases session.gives_sub known key with ⟨child, same, journal, _, stepped⟩ | ⟨_, failed, _⟩
  · cases narrowed.symm.trans same
    have last : (session.handles ++ [inner])[session.handles.length]? = some inner :=
      List.getElem?_concat_length
    have reply (query : Query) : (session.step (.sub handle key)).1.reply session.handles.length query =
        ((query.answer (session.store.table inner)).mapError .access).map .value := by
      rw [stepped]
      exact @reply_eq { session with handles := session.handles ++ [inner], journal } _ inner query last
    refine ⟨by rw [stepped], reply .table, reply_entries known found showable, keys_asTexts _,
      fun name s text => ⟨get?_asTexts text, ?_⟩⟩
    rw [reply, Query.answer, Section.text_of_text text]
    rfl
  · cases narrowed.symm.trans failed

/-! ## What is shown -/

theorem failsAs_entries (noTable : ∀ entries, (session.store.table id).get? key ≠ some (.table entries)) :
    FailsAs (session.reply handle (.entries key)) .noSection := by
  refine (failsAs_reply_iff known).2 ⟨.noEntries key, functorMap_eq_error.2 ?_, rfl⟩
  rw [Section.renderedEntries]
  split
  next entries found => exact absurd found (noTable entries)
  next => rfl

/-- Where there is no text, reading one gives none. -/
theorem reply_text_of_ne (noText : ∀ s, (session.store.table id).get? key ≠ some (.text s)) :
    session.reply handle (.text key) = .ok (.value (.text "")) ∧
      session.reply handle (.texts key) = .ok (.value .nothing) := by
  have empty : Section.text (session.store.table id) key = "" := by
    rw [Section.text]
    split
    next s found => exact absurd found (noText s)
    next => rfl
  constructor
  · rw [reply_eq_ok_iff known, Query.answer, empty]
  · rw [reply_eq_ok_iff known, Query.answer, Section.textsOr, Section.texts?, empty]
    rfl

theorem reply_hasKey_of_get? {value : Value} (found : (session.store.table id).get? key = some value) :
    session.reply handle (.hasKey key) = .ok (.value (.flag true)) := by
  rw [reply_hasKey_iff known, Entries.hasKey, found]
  rfl

theorem showsAbsent (absent : (session.store.entries id).get? key = none) :
    session.ShowsAbsent handle key := by
  have none : (session.store.table id).get? key = none := by
    rw [Store.get?_table, absent]
    rfl
  have noText (s : Text) : (session.store.table id).get? key ≠ some (.text s) := by simp [none]
  obtain ⟨text, texts⟩ := reply_text_of_ne known noText
  refine {
    hasKey := ?_
    value := ?_
    reading := fun reading => (failsAs_reply_iff known).2 ⟨_, Reading.answer_of_absent none, rfl⟩
    text
    texts
    closed := fun nonEmpty => ?_
    entries := failsAs_entries known (by simp [none]) }
  · rw [reply_hasKey_iff known, Entries.hasKey, none]
    rfl
  · refine (failsAs_reply_iff known).2 ⟨.missingValue, ?_, rfl⟩
    rw [Query.answer, Section.value, none]
  · have refused : narrow session.store id key = .error (.missingSection key) := by
      rw [narrow, if_neg nonEmpty, absent]
    exact isClosed_of_narrow known refused

theorem showsText {s : Text} (held : (session.store.entries id).get? key = some (.plain (.text s))) :
    session.ShowsText handle key s := by
  have found : (session.store.table id).get? key = some (.text s) := by
    rw [Store.get?_table, held]
    rfl
  refine {
    hasKey := reply_hasKey_of_get? known found
    value := (reply_value_iff known).2 found
    text := ?_
    closed := fun nonEmpty => isClosed_of_plain known nonEmpty held
    entries := failsAs_entries known (by simp [found]) }
  rw [reply_eq_ok_iff known, Query.answer, Section.text_of_text found]

/-- A table has to be a section of its own to be opened. -/
theorem showsComposite {slot : Slot} (held : (session.store.entries id).get? key = some slot)
    (composite : isComposite (session.store.value slot) = true)
    (showable : (session.store.value slot).isShowable = true) (folded : slot.IsFolded) :
    session.ShowsComposite handle key (session.store.value slot) := by
  have found : (session.store.table id).get? key = some (session.store.value slot) := by
    rw [Store.get?_table, held]
    rfl
  have noText (s : Text) : (session.store.table id).get? key ≠ some (.text s) := by
    rw [found]
    intro same
    rw [Option.some.inj same] at composite
    cases composite
  obtain ⟨text, texts⟩ := reply_text_of_ne known noText
  refine {
    composite
    hasKey := reply_hasKey_of_get? known found
    value := (reply_value_iff known).2 found
    reading := fun reading =>
      (failsAs_reply_iff known).2 (reading.answer_of_composite found composite showable)
    text
    texts
    opened := fun inner same nonEmpty => ?_
    closed := fun noTable nonEmpty => ?_ }
  · cases slot with
    | nested child =>
      cases same
      exact ⟨_, _, isHandedOut_of_nested known nonEmpty held showable⟩
    | plain value =>
      cases same
      exact folded.elim
  · cases slot with
    | nested child => exact absurd rfl (noTable _)
    | plain value =>
      refine ⟨isClosed_of_plain known nonEmpty held, failsAs_entries known fun inner => ?_⟩
      rw [found]
      exact fun same => noTable inner (Option.some.inj same)

/-- Settings that come from documents hold texts, sections and lists. -/
theorem AreSettled.exists_shows (settled : AreSettled session.store session.handles) (key : Text) :
    ∃ finding : Finding, finding.Shows session handle key := by
  have inside := settled.inside id (List.mem_of_getElem? known)
  have rest := Store.areAtRest_of_isNode (settled.shape id inside) (settled.forest.areFolded id)
  cases held : (session.store.entries id).get? key with
  | none => exact ⟨.absent, showsAbsent known held⟩
  | some slot =>
    have member := Entries.mem_of_get? held
    have folded := settled.forest.areFolded id _ member
    have found : (session.store.table id).get? key = some (session.store.value slot) := by
      rw [Store.get?_table, held]
      rfl
    have showable := (settled.isEntry (List.mem_of_getElem? known) found).isShowable
    cases rest.inside key slot member with
    | text => exact ⟨.text _, showsText known held⟩
    | nested => exact ⟨.composite _, showsComposite known held rfl showable folded⟩
    | several => exact ⟨.composite _, showsComposite known held rfl showable folded⟩

end Shown

/-- As long as all settings come from documents, all operations on a key agree on what is found under it. -/
theorem found_once (loader : Dotenv.Loader) (environment : Environment) (files : FileTree)
    (isWatched : Bool) {commands : List Command}
    (fromDocuments : commands.all Command.isFromDocuments = true) {handle : Nat}
    (isHandle : handle < (reached loader environment files isWatched commands).handles.length)
    (key : Text) :
    ∃! finding : Finding,
      finding.Shows (reached loader environment files isWatched commands) handle key := by
  have settled := areSettled_reached loader environment files isWatched fromDocuments
  obtain ⟨finding, shows⟩ := settled.exists_shows (List.getElem?_eq_getElem isHandle) key
  exact ⟨finding, shows, fun other too => too.unique shows⟩

/-- A text that was written over a section. -/
theorem found_once_written :
    let document :=
      "<?xml version='1.0' encoding='utf-8'?>\n<config>\n    <a>\n        <b>1</b>\n    </a>\n</config>"
    (Finding.text "x").Shows (reached Dotenv.load [] (.empty []) false
      [.load none (.text document), .write 0 "a" (.text "x")]) 0 "a" := by
  intro document
  have written : Settings.toDocument Settings.rootName Settings.defaultStep
      (.table [("a", .table [("b", .text "1")])]) = .ok document := rfl
  have accepted := Settings.raw_text_written written (by decide) (by rfl)
  obtain ⟨id, known, table⟩ := table_written Dotenv.load [] (.empty []) false accepted rfl "a" "x"
  have isHandle := (List.getElem?_eq_some_iff.1 known).1
  have found := congrArg (fun entries : Section => Entries.get? entries "a") table
  rw [Entries.get?_put, if_pos rfl] at found
  have value := (reply_value_iff known).2 found
  obtain ⟨finding, shows, _⟩ := found_once Dotenv.load [] (.empty []) false (by rfl) isHandle "a"
  cases finding with
  | absent =>
    obtain ⟨_, failed, _⟩ := shows.value
    cases value.symm.trans failed
  | text =>
    cases value.symm.trans shows.value
    exact shows
  | composite =>
    cases value.symm.trans shows.value
    cases shows.composite

end XmlSettings.Session
