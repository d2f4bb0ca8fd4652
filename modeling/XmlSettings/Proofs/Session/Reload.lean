import XmlSettings.Proofs.FileTree.Replace
import XmlSettings.Proofs.Session.Change
import XmlSettings.Proofs.Settings.Saved

/-! # Settings that are loaded, edited, saved and loaded again

Edits look for sections and write texts into them.  Every edit keeps what is known of the settings that
were loaded (`IsEdited`), so that after any number of them saving and loading again gives the same
settings exactly if every attribute can be written and everything in them is kept
(`survives_edited_iff`).
-/

namespace XmlSettings.Session

open Settings (IsPlainKey IsPlainText IsEntry IsSection isDocumentText isKept isSavable isUnbraced raw
  stringOf)
open XmlSettings.Xml (isAscii isAsciiName)

/-! ## Edits -/

/-- Whether a command looks for a section, or writes a text that documents may hold and that is no
    placeholder, under a name in ASCII. -/
def Command.isEdit : Command → Bool
  | sub _ _ => true
  | write _ key (.text s) => isAsciiName (stringOf key) && isDocumentText s && isUnbraced s
  | _ => false

/-- What is known of a session in which settings were loaded and edited. -/
structure IsEdited (environment : Environment) (files : FileTree) (root : SectionId)
    (session : Session) : Prop where
  environment : session.environment = environment
  files : session.files = files
  fileless : session.journal.logger.isFileless = true
  root : session.handles[0]? = some root
  inside : ∀ id ∈ session.handles, id < session.store.next
  holds : session.store.HoldsSettings IsPlainKey IsPlainText

section Edits

variable {environment : Environment} {files : FileTree} {root id : SectionId} {session after : Session}
  {command : Command} {result : Except Failure Reply} {key : Text}

/-- Records do not matter. -/
theorem IsEdited.of_gives (gives : session.Gives command result after)
    (logger : session.journal.logger = after.journal.logger)
    (edited : IsEdited environment files root after) :
    IsEdited environment files root (session.step command).1 := by
  obtain ⟨journal, same, stepped⟩ := gives
  have fileless : journal.logger.isFileless = true := by
    rw [same, logger]
    exact edited.fileless
  rw [stepped]
  exact ⟨edited.environment, edited.files, fileless, edited.root, edited.inside, edited.holds⟩

theorem IsEdited.handOut (before : IsEdited environment files root session)
    (known : id < session.store.next) :
    IsEdited environment files root { session with handles := session.handles ++ [id] } where
  environment := before.environment
  files := before.files
  fileless := before.fileless
  root := by
    rw [List.getElem?_append_left (List.getElem?_eq_some_iff.1 before.root).1]
    exact before.root
  inside := List.forall_mem_append.2 ⟨before.inside, List.forall_mem_singleton.2 known⟩
  holds := before.holds

theorem isEntry_of_isEdit {handle : Nat} {value : Value}
    (edit : (Command.write handle key value).isEdit = true) :
    value.written = .ok value.plainText ∧ IsEntry IsPlainKey IsPlainText key (.text value.plainText) := by
  cases value with
  | text s =>
    simp only [Command.isEdit, Bool.and_eq_true] at edit
    obtain ⟨⟨ascii, held⟩, unbraced⟩ := edit
    have named : Settings.IsReadKey key := fun _ =>
      ⟨stringOf key, (Settings.names_of_isAsciiName ascii).1, .standard,
        Xml.isReadableName_of_isAsciiName ascii⟩
    refine ⟨rfl, .single ⟨named, Xml.isAscii_of_isAsciiName ascii⟩ (.text ⟨⟨held, ?_⟩, unbraced⟩)⟩
    rintro rfl
    exact absurd ascii (by decide)
  | _ => simp [Command.isEdit] at edit

theorem IsEdited.write (before : IsEdited environment files root session) {text : Text}
    (entry : IsEntry IsPlainKey IsPlainText key (.text text)) :
    IsEdited environment files root { session with store := session.store.set id key text } where
  environment := before.environment
  files := before.files
  fileless := before.fileless
  root := before.root
  inside := by
    rw [Store.next_set]
    exact before.inside
  holds := Store.holdsSettings_set before.holds entry

/-- An edit keeps what is known. -/
theorem IsEdited.step (before : IsEdited environment files root session)
    (edit : command.isEdit = true) : IsEdited environment files root (session.step command).1 := by
  cases command with
  | sub handle key =>
    cases known : session.handles[handle]? with
    | none => exact .of_gives (session.gives_sub_unknown known key) rfl before
    | some id =>
      rcases session.gives_sub known key with ⟨child, found, gives⟩ | ⟨_, _, gives⟩
      · have inside := before.inside id (List.mem_of_getElem? known)
        exact .of_gives gives rfl (before.handOut (Nat.lt_of_le_of_lt (le_of_narrow found) inside))
      · exact .of_gives gives rfl before
  | write handle key value =>
    cases known : session.handles[handle]? with
    | none => exact .of_gives (session.gives_write_unknown known key value) rfl before
    | some id =>
      obtain ⟨written, entry⟩ := isEntry_of_isEdit edit
      exact .of_gives (session.gives_write known key written) rfl (before.write entry)
  | _ => simp [Command.isEdit] at edit

theorem IsEdited.runAll {edits : List Command} (before : IsEdited environment files root session)
    (edited : edits.all Command.isEdit = true) :
    IsEdited environment files root (session.runAll edits).1 := by
  induction edits generalizing session with
  | nil => exact before
  | cons command rest ih =>
    rw [List.all_cons, Bool.and_eq_true] at edited
    exact ih (before.step edited.1) edited.2

end Edits

/-! ## Loading -/

/-- A session in which a document was loaded and edited. -/
def edited (loader : Dotenv.Loader) (environment : Environment) (files : FileTree) (isWatched : Bool)
    (document : Xml.Document) (edits : List Command) : Session :=
  ((start loader environment files isWatched).runAll (.load none document :: edits)).1

section Loaded

variable {loader : Dotenv.Loader} {environment : Environment} {files : FileTree} {isWatched : Bool}
  {document : Xml.Document} {source : Section} {edits : List Command}

theorem isEdited_opened (inside : IsSection IsPlainKey IsPlainText source) :
    IsEdited environment files (Store.empty.add source).2
      ((start loader environment files isWatched).opened source) where
  environment := rfl
  files := rfl
  fileless := isFileless_start loader environment files isWatched
  root := handles_opened_new (start loader environment files isWatched) source
  inside := List.forall_mem_singleton.2 (Store.lt_next_add Store.empty source)
  holds := Store.holdsSettings_add Store.holdsSettings_empty inside

variable (accepted : raw document = .ok source)
  (plain : (Value.table source).all (fun key => isAscii (stringOf key)) isUnbraced = true)

include accepted plain

theorem isPlain_of_raw : IsSection IsPlainKey IsPlainText source :=
  (Settings.isSection_of_raw accepted).and_all plain

/-- Without placeholders the environment means nothing. -/
theorem expandEntries_of_plain (env : Environment) : Value.expandEntries env source = .ok source := by
  rw [Settings.expandEntries_eq_ok (Settings.isSection_of_raw accepted), Settings.expandedEntries_of_all plain]

theorem isEdited_edited (loader : Dotenv.Loader) (environment : Environment) (files : FileTree)
    (isWatched : Bool) (areEdits : edits.all Command.isEdit = true) :
    ∃ root, IsEdited environment files root
      (edited loader environment files isWatched document edits) := by
  have gives := gives_load (isFileless_start loader environment files isWatched) accepted
    (expandEntries_of_plain accepted plain environment)
  have loaded := IsEdited.of_gives gives rfl (isEdited_opened (isPlain_of_raw accepted plain))
  exact ⟨_, loaded.runAll areEdits⟩

end Loaded

/-! ## Saving and loading again -/

/-- The results of commands. -/
def results (session : Session) (commands : List Command) : List (Except Failure Reply) :=
  (session.runAll commands).2.map Answer.result

/-- Whether a section can be saved to a file, from which the same settings are loaded. -/
def Survives (session : Session) (handle : Nat) (path : Text) : Prop :=
  ∃ old new, session.results [.save handle path, .loadFile none path, .ask handle .table,
      .ask session.handles.length .table] =
        [.ok (.value .nothing), .ok (.handle session.handles.length), .ok (.value (.table old)),
          .ok (.value (.table new))] ∧
    Value.isSame (.table old) (.table new) = true

section Reload

variable {session after : Session} {command : Command} {result : Except Failure Reply}
  {rest : List Command} {handle : Nat} {id : SectionId} {path : Text} {text : String}
  {files : FileTree} {read : Section}

theorem results_cons (session : Session) (command : Command) (rest : List Command) :
    session.results (command :: rest) =
      (session.step command).2.result :: (session.step command).1.results rest := rfl

theorem results_of_gives (gives : session.Gives command result after) (rest : List Command) :
    ∃ journal : Logging.Journal, journal.logger = session.journal.logger ∧
      session.results (command :: rest) = result :: ({ after with journal } : Session).results rest := by
  obtain ⟨journal, logger, stepped⟩ := gives
  refine ⟨journal, logger, ?_⟩
  rw [results_cons, stepped]

theorem results_ask (session : Session) (known : session.handles[handle]? = some id) (rest : List Command) :
    ∃ journal : Logging.Journal, session.results (.ask handle .table :: rest) =
      .ok (.value (.table (session.store.table id))) ::
        ({ session with journal } : Session).results rest := by
  obtain ⟨journal, _, asked⟩ := results_of_gives (session.gives_ask known) rest
  exact ⟨journal, asked⟩

section Steps

variable (known : session.handles[handle]? = some id)
  (fileless : session.journal.logger.isFileless = true)
  (written : Settings.toDocument Settings.rootName Settings.defaultStep
    (.table (session.store.table id)) = .ok text)
  (replaced : session.files.replace path text.toByteArray = .ok files)

include known fileless written replaced

/-- What was saved is loaded, or refused, as the document that was written. -/
theorem results_save (rest : List Command) :
    ∃ journal : Logging.Journal, journal.logger.isFileless = true ∧
      session.results (.save handle path :: rest) = .ok (.value .nothing) ::
        ({ session with files, journal } : Session).results rest := by
  obtain ⟨journal, logger, saved⟩ := results_of_gives (gives_save known fileless written replaced) rest
  exact ⟨journal, logger ▸ fileless, saved⟩

/-- What saving and loading again gives where neither fails. -/
theorem results_reload (inside : id < session.store.next)
    (loaded : raw (.bytes text.toByteArray) = .ok read) :
    session.results [.save handle path, .loadFile none path, .ask handle .table,
        .ask session.handles.length .table] =
      [.ok (.value .nothing), .ok (.handle session.handles.length),
        .ok (.value (.table (session.store.table id))),
        .ok (.value (.table (Value.expandedEntries session.environment read)))] := by
  have expanded := Settings.expandEntries_eq_ok (Settings.isSection_of_raw loaded) session.environment
  have found := FileTree.read_tidy_of_replace replaced
  obtain ⟨first, noFile, saved⟩ := results_save known fileless written replaced
    [.loadFile none path, .ask handle .table, .ask session.handles.length .table]
  have loading := gives_loadFile { session with files, journal := first } found noFile loaded expanded
  obtain ⟨second, _, opened⟩ := results_of_gives loading
    [.ask handle .table, .ask session.handles.length .table]
  obtain ⟨third, old⟩ := results_ask { ({ session with files, journal := first } : Session).opened
    (Value.expandedEntries session.environment read) with journal := second }
    (handles_opened_old known _) [.ask session.handles.length .table]
  obtain ⟨fourth, new⟩ := results_ask { ({ session with files, journal := first } : Session).opened
    (Value.expandedEntries session.environment read) with journal := third }
    (handles_opened_new { session with files, journal := first } _) []
  rw [saved, opened, old, new]
  simp only [Session.opened, Store.table_add_of_lt inside, Store.table_add]
  rfl

end Steps

/-- A section of settings that were loaded and edited is saved and loaded as the same settings exactly
    if every attribute in it can be written and everything in it is kept. -/
theorem survives_iff {environment : Environment} {root : SectionId}
    (kept : IsEdited environment files root session) (known : session.handles[handle]? = some id)
    (writable : ∀ content, ∃ after, files.replace path content = .ok after) :
    session.Survives handle path ↔ isSavable (.table (session.store.table id)) = true ∧
      isKept environment (.table (session.store.table id)) = true := by
  have inside := kept.inside id (List.mem_of_getElem? known)
  have shape := Store.isSection_table kept.holds inside
  rw [← Settings.isSame_saved_iff shape, ← kept.environment]
  -- Where writing or loading fails, another result is given than that of a section that survives.
  constructor
  · rintro ⟨old, new, given, same⟩
    cases written : Settings.toDocument Settings.rootName Settings.defaultStep
        (.table (session.store.table id)) with
    | error e =>
      have refused := result_save_of_error known path written
      rw [results_cons, refused] at given
      cases given
    | ok text =>
      obtain ⟨after, replaced⟩ := writable text.toByteArray
      rw [← kept.files] at replaced
      cases loaded : raw (.bytes text.toByteArray) with
      | error e =>
        obtain ⟨journal, _, saved⟩ := results_save known kept.fileless written replaced
          [.loadFile none path, .ask handle .table, .ask session.handles.length .table]
        have refused := result_loadFile_of_error { session with files := after, journal }
          (FileTree.read_tidy_of_replace replaced) loaded
        rw [saved, results_cons, refused] at given
        cases given
      | ok read =>
        rw [results_reload known kept.fileless written replaced inside loaded] at given
        cases given
        exact ⟨text, read, rfl, loaded, same⟩
  · rintro ⟨text, read, written, loaded, same⟩
    obtain ⟨after, replaced⟩ := writable text.toByteArray
    rw [← kept.files] at replaced
    exact ⟨_, _, results_reload known kept.fileless written replaced inside loaded, same⟩

end Reload

/-- A document with names in ASCII and without placeholders is loaded and edited in any way, and then
    saved and loaded again.  That gives the same settings exactly if every attribute has a name that
    can be written, none sets a namespace, and every text is its own normal form. -/
theorem survives_edited_iff (loader : Dotenv.Loader) (environment : Environment) {files : FileTree}
    (isWatched : Bool) {document : Xml.Document} {source : Section} {edits : List Command} {path : Text}
    (accepted : raw document = .ok source)
    (plain : (Value.table source).all (fun key => isAscii (stringOf key)) isUnbraced = true)
    (areEdits : edits.all Command.isEdit = true)
    (writable : ∀ content, ∃ after, files.replace path content = .ok after) :
    ∃ entries,
      ((edited loader environment files isWatched document edits).step (.ask 0 .table)).2.result =
        .ok (.value (.table entries)) ∧
      ((edited loader environment files isWatched document edits).Survives 0 path ↔
        isSavable (.table entries) = true ∧ isKept environment (.table entries) = true) := by
  obtain ⟨root, kept⟩ := isEdited_edited accepted plain loader environment files isWatched areEdits
  obtain ⟨journal, _, asked⟩ := gives_ask _ kept.root
  refine ⟨_, ?_, survives_iff kept kept.root writable⟩
  rw [asked]

/-- A text that was written into the settings of a document is found there. -/
theorem result_ask_write {loader : Dotenv.Loader} {environment : Environment} {files : FileTree}
    {isWatched : Bool} {document : Xml.Document} {source entries : Section}
    (accepted : raw document = .ok source)
    (expanded : Value.expandEntries environment source = .ok entries) (key text : Text) :
    ((edited loader environment files isWatched document [.write 0 key (.text text)]).step
        (.ask 0 .table)).2.result =
      .ok (.value (.table (Entries.put key (.text text) entries))) := by
  obtain ⟨id, known, table⟩ := table_written loader environment files isWatched accepted expanded key text
  obtain ⟨journal, _, asking⟩ := gives_ask _ known
  exact (congrArg (fun answer => answer.2.result) asking).trans (by rw [table])

/-- A text with a blank in front of it is loaded without the blank. -/
theorem not_survives_blank :
    ¬(edited Dotenv.load [] (.empty []) false
      (.text "<?xml version='1.0' encoding='utf-8'?>\n<config>\n    <a>1</a>\n</config>")
      [.write 0 "a" (.text " x")]).Survives 0 "f.xml" := by
  have written : Settings.toDocument Settings.rootName Settings.defaultStep
      (.table [("a", .text "1")]) =
    .ok "<?xml version='1.0' encoding='utf-8'?>\n<config>\n    <a>1</a>\n</config>" := rfl
  have accepted := Settings.raw_text_written written (by decide) (by rfl)
  have writable (content : ByteArray) :
      ∃ after, FileTree.replace (.empty []) "f.xml" content = .ok after := by
    have opens : (FileTree.empty []).OpensAt "f.xml" ["f.xml"] :=
      FileTree.opensAt_of_missing (by decide) ⟨by decide, by decide, by decide⟩ (by decide) rfl rfl
    exact ⟨_, FileTree.replace_of_opensAt opens content⟩
  have areEdits : [Command.write 0 "a" (.text " x")].all Command.isEdit = true := by decide
  obtain ⟨entries, asked, survives⟩ :=
    survives_edited_iff Dotenv.load [] false accepted (by decide) areEdits writable
  rw [result_ask_write accepted rfl] at asked
  cases asked
  rw [survives]
  decide

end XmlSettings.Session
