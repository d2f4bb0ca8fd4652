import XmlSettings.Proofs.Entries
import XmlSettings.Session.Command

/-! # What commands do

For each command its reply and the session that it leaves, apart from the records that it logs
(`Gives`).  Records touch no file as long as no handler of the logger writes to one
(`Logger.isFileless`).
-/

namespace XmlSettings

open XmlSettings.Logging (Handler Journal Logger Record)

/-! ## Records that touch no file -/

namespace Logging

/-- Whether a handler writes to a file. -/
def Handler.isOnFile (handler : Handler) : Bool :=
  match handler.sink with
  | .file _ => true
  | _ => false

/-- Whether no handler of a logger writes to a file. -/
def Logger.isFileless (logger : Logger) : Bool :=
  logger.handlers.all fun handler => !handler.isOnFile

namespace Journal

theorem logger_write (state : Journal × FileTree) (handler : Handler) (record : Record) :
    (write state handler record).1.logger = state.1.logger := by
  obtain ⟨journal, files⟩ := state
  unfold write
  split
  next => rfl
  next =>
    simp only
    split <;> rfl

theorem logger_foldl_write (handlers : List Handler) (state : Journal × FileTree) (record : Record) :
    (handlers.foldl (fun state handler => write state handler record) state).1.logger =
      state.1.logger := by
  induction handlers generalizing state with
  | nil => rfl
  | cons handler rest ih => exact (ih _).trans (logger_write state handler record)

theorem logger_log (journal : Journal) (files : FileTree) (record : Record) :
    (journal.log files record).1.logger = journal.logger := by
  have handled := logger_foldl_write journal.logger.handlers (journal, files) record
  unfold log
  split
  next =>
    split
    next =>
      simp only
      split
      next => exact handled
      next => exact handled
    next => rfl
  next => split <;> rfl

/-- The logger stays as it is, whatever goes through it. -/
theorem logger_logAll (journal : Journal) (files : FileTree) (records : List Record) :
    (journal.logAll files records).1.logger = journal.logger := by
  induction records generalizing journal files with
  | nil => rfl
  | cons record rest ih => exact (ih _ _).trans (logger_log journal files record)

theorem files_write_of_not_isOnFile (state : Journal × FileTree) {handler : Handler} (record : Record)
    (noFile : handler.isOnFile = false) : (write state handler record).2 = state.2 := by
  obtain ⟨journal, files⟩ := state
  unfold write
  split
  next => rfl
  next =>
    unfold Handler.isOnFile at noFile
    simp only
    split
    next => rfl
    next onFile => simp [onFile] at noFile
    next => rfl

theorem files_foldl_write_of_fileless {handlers : List Handler} (state : Journal × FileTree)
    (record : Record) (fileless : ∀ handler ∈ handlers, handler.isOnFile = false) :
    (handlers.foldl (fun state handler => write state handler record) state).2 = state.2 := by
  induction handlers generalizing state with
  | nil => rfl
  | cons handler rest ih =>
    obtain ⟨first, more⟩ := List.forall_mem_cons.1 fileless
    exact (ih _ more).trans (files_write_of_not_isOnFile state record first)

theorem files_log_of_fileless (journal : Journal) (files : FileTree) (record : Record)
    (fileless : journal.logger.isFileless = true) : (journal.log files record).2 = files := by
  have handlers : ∀ handler ∈ journal.logger.handlers, handler.isOnFile = false := by
    simpa [Logger.isFileless] using fileless
  unfold log
  split
  next =>
    split
    next => exact files_foldl_write_of_fileless (journal, files) record handlers
    next => rfl
  next => split <;> rfl

/-- Logging without handlers on files leaves the files alone. -/
theorem files_logAll_of_fileless (journal : Journal) (files : FileTree) (records : List Record)
    (fileless : journal.logger.isFileless = true) : (journal.logAll files records).2 = files := by
  induction records generalizing journal files with
  | nil => rfl
  | cons record rest ih =>
    have still : (journal.log files record).1.logger.isFileless = true := by
      rw [logger_log]
      exact fileless
    exact (ih _ _ still).trans (files_log_of_fileless journal files record fileless)

end Journal

end Logging

namespace Session

/-! ## Actions one after the other -/

section Actions

variable {α β : Type} {action : Action α} {next : α → Action β} {session after : Session} {a : α}

theorem run_bind_ok (h : action.run.run session = (.ok a, after)) :
    (action >>= next).run.run session = (next a).run.run after := by
  have taken : action session = (.ok a, after) := h
  show (action >>= next) session = next a after
  simp only [bind, ExceptT.bind, ExceptT.mk, StateT.bind, taken]
  rfl

theorem run_bind_error {e : Failure} (h : action.run.run session = (.error e, after)) :
    (action >>= next).run.run session = (.error e, after) := by
  have taken : action session = (.error e, after) := h
  show (action >>= next) session = (.error e, after)
  simp only [bind, ExceptT.bind, ExceptT.mk, StateT.bind, taken]
  rfl

theorem run_map_ok {f : α → β} (h : action.run.run session = (.ok a, after)) :
    (f <$> action).run.run session = (.ok (f a), after) := by
  have taken : action session = (.ok a, after) := h
  show (f <$> action) session = (.ok (f a), after)
  simp only [Functor.map, ExceptT.map, ExceptT.mk, StateT.bind, bind, taken]
  rfl

theorem run_map_error {f : α → β} {e : Failure} (h : action.run.run session = (.error e, after)) :
    (f <$> action).run.run session = (.error e, after) := by
  have taken : action session = (.error e, after) := h
  show (f <$> action) session = (.error e, after)
  simp only [Functor.map, ExceptT.map, ExceptT.mk, StateT.bind, bind, taken]
  rfl

theorem run_map (f : α → β) (action : Action α) (session : Session) :
    (f <$> action).run.run session =
      ((action.run.run session).1.map f, (action.run.run session).2) := by
  cases given : action.run.run session with
  | mk result after =>
    cases result with
    | error e => exact run_map_error given
    | ok a => exact run_map_ok given

theorem run_get (session : Session) : (get : Action Session).run.run session = (.ok session, session) :=
  rfl

theorem run_sectionOf (session : Session) {handle : Nat} {id : SectionId}
    (known : session.handles[handle]? = some id) :
    (sectionOf handle).run.run session = (.ok id, session) := by
  unfold sectionOf
  rw [run_bind_ok (run_get session)]
  simp only [known]
  rfl

theorem run_sectionOf_unknown (session : Session) {handle : Nat}
    (unknown : session.handles[handle]? = none) :
    (sectionOf handle).run.run session = (.error .noHandle, session) := by
  unfold sectionOf
  rw [run_bind_ok (run_get session)]
  simp only [unknown]
  rfl

theorem run_entriesOf (session : Session) {handle : Nat} {id : SectionId}
    (known : session.handles[handle]? = some id) :
    (entriesOf handle).run.run session = (.ok (session.store.table id), session) := by
  unfold entriesOf
  rw [run_bind_ok (run_sectionOf session known)]
  rfl

end Actions

/-! ## Commands -/

/-- What a command gives, and the session that it leaves apart from the records. -/
def Gives (session : Session) (command : Command) (result : Except Failure Reply) (after : Session) :
    Prop :=
  ∃ journal : Journal, journal.logger = session.journal.logger ∧
    session.step command = ({ after with journal }, ⟨journal.observed, result⟩)

/-- A session of which the observers' records have been taken. -/
def taken (session : Session) : Session :=
  { session with journal := { session.journal with observed := [] } }

theorem logger_taken (session : Session) : session.taken.journal.logger = session.journal.logger := rfl

theorem step_eq (session : Session) (command : Command) :
    session.step command =
      ((command.action.run.run session.taken).2,
        ⟨(command.action.run.run session.taken).2.journal.observed,
          (command.action.run.run session.taken).1⟩) := rfl

variable {session after : Session}

theorem gives_of_run {command : Command} {result : Except Failure Reply} {journal : Journal}
    (logger : journal.logger = session.journal.logger)
    (run : command.action.run.run session.taken = (result, { after with journal })) :
    session.Gives command result after := by
  refine ⟨journal, logger, ?_⟩
  rw [step_eq, run]

/-! ## Loading and saving -/

/-- A session with one more section, for which a handle has been given out. -/
def opened (session : Session) (entries : Section) : Session :=
  { session with
    store := (session.store.add entries).1
    handles := session.handles ++ [(session.store.add entries).2] }

theorem handles_opened_new (session : Session) (entries : Section) :
    (session.opened entries).handles[session.handles.length]? = some (session.store.add entries).2 :=
  List.getElem?_concat_length

theorem handles_opened_old {handle : Nat} {id : SectionId} (known : session.handles[handle]? = some id)
    (entries : Section) : (session.opened entries).handles[handle]? = some id := by
  rw [opened, List.getElem?_append_left (List.getElem?_eq_some_iff.1 known).1]
  exact known

theorem isFileless_start (loader : Dotenv.Loader) (environment : Environment) (files : FileTree)
    (isWatched : Bool) : (start loader environment files isWatched).journal.logger.isFileless = true := by
  cases isWatched <;> rfl

section Files

variable {document : Xml.Document} {entries given : Section}

theorem run_takeOver (env : Environment) (records : List Record) (entries : Section) :
    (takeOver ⟨env, records, .ok entries⟩).run.run session =
      (.ok session.handles.length, { session with
        environment := env
        files := (session.journal.logAll session.files records).2
        store := (session.store.add entries).1
        handles := session.handles ++ [(session.store.add entries).2]
        journal := (session.journal.logAll session.files records).1 }) := rfl

theorem run_takeOver_error (env : Environment) (records : List Record) (e : Settings.LoadError) :
    (takeOver ⟨env, records, .error e⟩).run.run session =
      (.error (.load e), { session with
        environment := env
        files := (session.journal.logAll session.files records).2
        journal := (session.journal.logAll session.files records).1 }) := rfl

theorem run_load (session : Session) (envFile? : Option Text) (document : Xml.Document) :
    (load envFile? document).run.run session =
      (takeOver (Settings.load session.loader session.environment session.files envFile?
        document)).run.run session := by
  unfold load
  rw [run_bind_ok (run_get session)]

theorem run_loadFile (session : Session) (envFile? : Option Text) (path : Text) :
    (loadFile envFile? path).run.run session =
      (takeOver (Settings.loadFile session.loader session.environment session.files envFile?
        path)).run.run session := by
  unfold loadFile
  rw [run_bind_ok (run_get session)]

/-- A table that is given becomes a new section. -/
theorem gives_create (session : Session) (entries : Section) :
    session.Gives (.create entries) (.ok (.handle session.handles.length)) (session.opened entries) :=
  gives_of_run (logger_taken session) (run_map_ok rfl)

/-- Settings that are taken over without a change of the environment become a new section. -/
theorem gives_of_takeOver {command : Command} {load : Settings.Load} {records : List Record}
    (fileless : session.journal.logger.isFileless = true)
    (loaded : load = ⟨session.environment, records, .ok entries⟩)
    (run : command.action.run.run session.taken = (.handle <$> takeOver load).run.run session.taken) :
    session.Gives command (.ok (.handle session.handles.length)) (session.opened entries) := by
  have kept := Journal.files_logAll_of_fileless session.taken.journal session.files records fileless
  refine gives_of_run (Journal.logger_logAll session.taken.journal session.files records) ?_
  rw [run, loaded]
  refine run_map_ok ?_
  rw [run_takeOver]
  simp only [taken, opened] at kept ⊢
  rw [kept]

/-- A document that is loaded becomes a new section. -/
theorem gives_load (fileless : session.journal.logger.isFileless = true)
    (accepted : Settings.raw document = .ok entries)
    (expanded : Value.expandEntries session.environment entries = .ok given) :
    session.Gives (.load none document) (.ok (.handle session.handles.length))
      (session.opened given) := by
  have loaded : ∃ record, Settings.load session.loader session.environment session.files none document =
      ⟨session.environment, [record], .ok given⟩ := by
    rw [Settings.load, accepted]
    simp only [Settings.loadEnv, expanded]
    exact ⟨_, rfl⟩
  obtain ⟨record, loaded⟩ := loaded
  refine gives_of_takeOver fileless loaded ?_
  show (Reply.handle <$> load none document).run.run session.taken = _
  rw [run_map, run_map, run_load]
  rfl

theorem result_of_run_error {command : Command} {e : Failure}
    (run : command.action.run.run session.taken = (.error e, after)) :
    (session.step command).2.result = .error e := by
  rw [step_eq, run]

section LoadFile

variable (session) {path : Text} {content : ByteArray}
  (found : session.files.read (Path.tidy path) = .ok content)

include found

/-- A file that holds a document is loaded as one. -/
theorem gives_loadFile (fileless : session.journal.logger.isFileless = true)
    (accepted : Settings.raw (.bytes content) = .ok entries)
    (expanded : Value.expandEntries session.environment entries = .ok given) :
    session.Gives (.loadFile none path) (.ok (.handle session.handles.length))
      (session.opened given) := by
  have loaded : ∃ records, Settings.loadFile session.loader session.environment session.files none path =
      ⟨session.environment, records, .ok given⟩ := by
    rw [Settings.loadFile]
    simp only [found, Settings.load, accepted, Settings.loadEnv, expanded]
    exact ⟨_, rfl⟩
  obtain ⟨records, loaded⟩ := loaded
  refine gives_of_takeOver fileless loaded ?_
  show (Reply.handle <$> loadFile none path).run.run session.taken = _
  rw [run_map, run_map, run_loadFile]
  rfl

theorem result_loadFile_of_error {e : Settings.LoadError}
    (refused : Settings.raw (.bytes content) = .error e) :
    (session.step (.loadFile none path)).2.result = .error (.load e) := by
  have loaded : ∃ records, Settings.loadFile session.loader session.environment session.files none path =
      ⟨session.environment, records, .error e⟩ := by
    rw [Settings.loadFile]
    simp only [found, Settings.load, refused]
    exact ⟨_, rfl⟩
  obtain ⟨records, loaded⟩ := loaded
  have run : ∃ after, (loadFile none path).run.run session.taken = (.error (.load e), after) := by
    rw [run_loadFile]
    show ∃ after, (takeOver (Settings.loadFile session.loader session.environment session.files none
      path)).run.run _ = (.error (.load e), after)
    rw [loaded]
    exact ⟨_, rfl⟩
  obtain ⟨after, run⟩ := run
  exact result_of_run_error (run_map_error run)

end LoadFile

section Save

variable {handle : Nat} {id : SectionId} {text : String}
  (known : session.handles[handle]? = some id)

include known

theorem run_save (path : Text) :
    let saved := Settings.save session.files path (session.store.table id)
    (save handle path).run.run session =
      (saved.result.mapError .save, { session with
        files := (session.journal.logAll saved.files saved.records).2
        journal := (session.journal.logAll saved.files saved.records).1 }) := by
  intro saved
  unfold save
  rw [run_bind_ok (run_entriesOf session known), run_bind_ok (run_get _)]
  show (do
    modify fun current => { current with files := saved.files }
    log saved.records
    lift .save saved.result : Action Unit).run.run session = _
  cases saved.result <;> rfl

/-- Saving a section changes files only. -/
theorem gives_saved (path : Text) (fileless : session.journal.logger.isFileless = true) :
    let saved := Settings.save session.files path (session.store.table id)
    session.Gives (.save handle path) ((saved.result.mapError .save).map fun _ => .value .nothing)
      { session with files := saved.files } := by
  intro saved
  have kept := Journal.files_logAll_of_fileless session.taken.journal saved.files saved.records fileless
  have run : (save handle path).run.run session.taken = (saved.result.mapError .save, { session.taken with
      files := saved.files
      journal := (session.taken.journal.logAll saved.files saved.records).1 }) := by
    refine (@run_save session.taken handle id known path).trans ?_
    show (saved.result.mapError Failure.save, { session.taken with
      files := (session.taken.journal.logAll saved.files saved.records).2
      journal := (session.taken.journal.logAll saved.files saved.records).1 }) = _
    rw [kept]
  refine gives_of_run (Journal.logger_logAll session.taken.journal saved.files saved.records) ?_
  show (do save handle path; return .value .nothing : Action Reply).run.run session.taken = _
  cases result : saved.result with
  | error e =>
    rw [result] at run
    exact run_bind_error run
  | ok =>
    rw [result] at run
    rw [run_bind_ok run]
    rfl

/-- A section that can be written replaces a file that can be. -/
theorem gives_save {files : FileTree} {path : Text}
    (fileless : session.journal.logger.isFileless = true)
    (written : Settings.toDocument Settings.rootName Settings.defaultStep
      (.table (session.store.table id)) = .ok text)
    (replaced : session.files.replace path text.toByteArray = .ok files) :
    session.Gives (.save handle path) (.ok (.value .nothing)) { session with files } := by
  have gives := gives_saved known path fileless
  simp only [Settings.save, written, replaced] at gives
  exact gives

theorem result_save_of_error {e : Settings.WriteError} (path : Text)
    (refused : Settings.toDocument Settings.rootName Settings.defaultStep
      (.table (session.store.table id)) = .error e) :
    (session.step (.save handle path)).2.result = .error (.save (.unwritable e)) := by
  have run := @run_save session.taken handle id known path
  simp only [Settings.save, taken, refused] at run
  exact result_of_run_error (run_bind_error run)

end Save

end Files

/-! ## Sections -/

/-- The section under a key comes before the one that it is in. -/
theorem le_of_narrow {store : Store} {id child : SectionId} {key : Text}
    (found : narrow store id key = .ok child) : child ≤ id := by
  unfold narrow at found
  split at found
  next =>
    cases found
    exact Nat.le_refl id
  next =>
    split at found
    next => cases found
    next inner held =>
      cases found
      exact Nat.le_of_lt (store.entries_areBelow id _ (Entries.mem_of_get? held))
    next => cases found

section Sections

variable (session) {handle : Nat} {id : SectionId}

/-- A question is answered about the section that the handle leads to, and changes nothing. -/
theorem gives_query (known : session.handles[handle]? = some id) (query : Query) :
    session.Gives (.ask handle query)
      (((query.answer (session.store.table id)).mapError .access).map .value) session := by
  refine gives_of_run (logger_taken session) ?_
  show (do
    let entries ← entriesOf handle
    .value <$> lift .access (query.answer entries) : Action Reply).run.run session.taken = _
  rw [run_bind_ok (run_entriesOf session.taken known)]
  show (Reply.value <$> lift .access (query.answer (session.store.table id))).run.run session.taken = _
  cases query.answer (session.store.table id) <;> rfl

theorem gives_ask (known : session.handles[handle]? = some id) :
    session.Gives (.ask handle .table) (.ok (.value (.table (session.store.table id)))) session :=
  gives_query session known .table

/-- What is decoded without a note is given as it is. -/
theorem gives_decode {classes : Schema.Classes} {settings : Schema.Settings} {target : Schema.Target}
    {value : Value} (known : session.handles[handle]? = some id)
    (decoded : Schema.decode classes settings target (.table (session.store.table id)) = pure value) :
    session.Gives (.decode handle "" classes settings target) (.ok (.value value)) session := by
  refine gives_of_run (logger_taken session) (run_map_ok ?_)
  unfold decode
  rw [run_bind_ok (run_sectionOf session.taken known), run_bind_ok (run_get _)]
  show (do
    log ((Schema.decode classes settings target (.table (session.store.table id))).notes.map noteRecord)
    lift .decode (Schema.decode classes settings target (.table (session.store.table id))).result :
      Action Value).run.run session.taken = _
  rw [decoded]
  rfl

/-- Nothing is decoded where there is no section under the key. -/
theorem gives_decode_refused {key : Text} {e : AccessError} (known : session.handles[handle]? = some id)
    (refused : narrow session.store id key = .error e) (classes : Schema.Classes)
    (settings : Schema.Settings) (target : Schema.Target) :
    session.Gives (.decode handle key classes settings target) (.error (.access e)) session := by
  refine gives_of_run (logger_taken session) (run_map_error ?_)
  unfold decode
  rw [run_bind_ok (run_sectionOf session.taken known), run_bind_ok (run_get _)]
  refine run_bind_error ?_
  show (lift .access (narrow session.store id key) : Action SectionId).run.run session.taken = _
  rw [refused]
  rfl

/-- Asking for a section hands it out, or changes nothing. -/
theorem gives_sub (known : session.handles[handle]? = some id) (key : Text) :
    (∃ child, narrow session.store id key = .ok child ∧
      session.Gives (.sub handle key) (.ok (.handle session.handles.length))
        { session with handles := session.handles ++ [child] }) ∨
    ∃ e, narrow session.store id key = .error e ∧
      session.Gives (.sub handle key) (.error (.access e)) session := by
  have run : (sub handle key).run.run session.taken =
      (lift .access (narrow session.store id key) >>= handOut).run.run session.taken := by
    unfold sub
    rw [run_bind_ok (run_sectionOf session.taken known), run_bind_ok (run_get _)]
    rfl
  cases narrowed : narrow session.store id key with
  | ok child =>
    refine .inl ⟨child, rfl, gives_of_run (logger_taken session) (run_map_ok ?_)⟩
    rw [run, narrowed]
    rfl
  | error e =>
    refine .inr ⟨e, rfl, gives_of_run (logger_taken session) (run_map_error ?_)⟩
    rw [run, narrowed]
    rfl

theorem gives_write (known : session.handles[handle]? = some id) (key : Text) {value : Value} {text : Text}
    (written : value.written = .ok text) :
    session.Gives (.write handle key value) (.ok (.value .nothing))
      { session with store := session.store.set id key text } := by
  have run : (write handle key value).run.run session.taken =
      (.ok (), { session.taken with store := session.store.set id key text }) := by
    unfold write
    rw [run_bind_ok (run_sectionOf session.taken known), written]
    rfl
  refine gives_of_run (logger_taken session) ?_
  show (do write handle key value; return .value .nothing : Action Reply).run.run session.taken = _
  rw [run_bind_ok run]
  rfl

/-- A value without a text is not written. -/
theorem gives_write_refused (known : session.handles[handle]? = some id) (key : Text) {value : Value}
    {e : NumberError} (refused : value.written = .error e) :
    session.Gives (.write handle key value) (.error (.number e)) session := by
  have run : (write handle key value).run.run session.taken = (.error (.number e), session.taken) := by
    unfold write
    rw [run_bind_ok (run_sectionOf session.taken known), refused]
    rfl
  refine gives_of_run (logger_taken session) ?_
  exact run_bind_error run

/-- Nothing is done without a handle. -/
theorem gives_sub_unknown (unknown : session.handles[handle]? = none) (key : Text) :
    session.Gives (.sub handle key) (.error .noHandle) session := by
  refine gives_of_run (logger_taken session) (run_map_error ?_)
  exact run_bind_error (run_sectionOf_unknown session.taken unknown)

theorem gives_write_unknown (unknown : session.handles[handle]? = none) (key : Text)
    (value : Value) :
    session.Gives (.write handle key value) (.error .noHandle) session := by
  refine gives_of_run (logger_taken session) ?_
  exact run_bind_error (run_bind_error (run_sectionOf_unknown session.taken unknown))

end Sections

end Session

end XmlSettings
