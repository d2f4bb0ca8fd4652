import Mathlib
import XmlSettings.Proofs.FileTree.Replace
import XmlSettings.Proofs.Session.AtRest
import XmlSettings.Proofs.Settings.Writable

/-! # Saving is all or nothing

A section of settings from documents is refused exactly if something in it cannot be written.  Where
saving it fails, for this reason or since the path leads to no file, nothing has changed; where it
succeeds, the file holds the document of the section and nothing else has changed (`save_whole`).

Records of saving go to a log file where logging is set up on one, so here it is not.
-/

namespace XmlSettings

open Settings (IsSection SaveError WriteError defaultStep isWritable rootName toDocument)

/-! ## Settings in a file -/

namespace Settings

/-- How saving settings under a path ends, and the files that it leaves. -/
inductive SaveEnds (files : FileTree) (path : Text) (entries : Section) :
    Except SaveError Unit → FileTree → Prop where
  | unwritable {e : WriteError} (unwritable : isWritable (.table entries) = false) :
      SaveEnds files path entries (.error (.unwritable e)) files
  | unusable {fault : FileTree.Fault} (writable : isWritable (.table entries) = true)
      (closed : ∀ place, ¬files.OpensAt path place) :
      SaveEnds files path entries (.error (.unusable fault)) files
  | saved {text : String} {place : FileTree.Place} (writable : isWritable (.table entries) = true)
      (written : toDocument rootName defaultStep (.table entries) = .ok text)
      (opens : files.OpensAt path place) :
      SaveEnds files path entries (.ok ()) (files.put place (.file text.toByteArray))

theorem saveEnds_save {named : Text → Prop} {held : Text → Text → Prop} {entries : Section}
    (inside : IsSection named held entries) (files : FileTree) (path : Text) :
    SaveEnds files path entries (save files path entries).result (save files path entries).files := by
  have isRoot : isName ("config" : String) = true := Xml.isName_of_isAsciiName isAsciiName_rootName
  have writable : (∃ text, toDocument rootName defaultStep (.table entries) = .ok text) ↔ _ :=
    exists_toDocument_iff isRoot defaultStep inside
  unfold save
  cases written : toDocument rootName defaultStep (.table entries) with
  | error e =>
    refine .unwritable (Bool.eq_false_iff.2 fun all => ?_)
    obtain ⟨text, made⟩ := writable.2 all
    rw [written] at made
    cases made
  | ok text =>
    have all := writable.1 ⟨text, written⟩
    cases replaced : files.replace path text.toByteArray with
    | error fault =>
      simp only [replaced]
      refine .unusable all fun place opens => ?_
      rw [FileTree.replace_of_opensAt opens] at replaced
      cases replaced
    | ok after =>
      simp only [replaced]
      obtain ⟨place, opens, rfl⟩ := FileTree.replace_eq_ok_iff.1 replaced
      exact .saved all written opens

end Settings

namespace Session

/-! ## The logger -/

/-- Whether a command sets up logging. -/
def Command.isSetUp : Command → Bool
  | setUpLogging _ _ => true
  | _ => false

theorem logger_step (session : Session) {command : Command} (other : command.isSetUp = false) :
    (session.step command).1.journal.logger = session.journal.logger := by
  have untouched : .logger ∉ command.parts := by
    cases command with
    | setUpLogging => cases other
    | _ => simp [Command.parts]
  exact session.kept_step untouched (by simp)

theorem logger_runAll {session : Session} {commands : List Command}
    (others : commands.all (!·.isSetUp) = true) :
    (session.runAll commands).1.journal.logger = session.journal.logger := by
  induction commands generalizing session with
  | nil => rfl
  | cons command rest ih =>
    rw [List.all_cons, Bool.and_eq_true] at others
    exact (ih others.2).trans (session.logger_step (by simpa using others.1))

/-- No log file is written as long as logging is not set up. -/
theorem isFileless_reached (loader : Dotenv.Loader) (environment : Environment) (files : FileTree)
    (isWatched : Bool) {commands : List Command} (others : commands.all (!·.isSetUp) = true) :
    (reached loader environment files isWatched commands).journal.logger.isFileless = true := by
  rw [reached, logger_runAll others]
  exact isFileless_start loader environment files isWatched

/-! ## Sections in a file -/

/-- What saving some settings does to a session, from what it was before to what it is after. -/
structure SavesWhole (entries : Section) (path : Text) (before after : Session)
    (result : Except Failure Reply) : Prop where
  /-- Settings are refused exactly if something in them cannot be written. -/
  refused : (∃ e, result = .error (.save (.unwritable e))) ↔ isWritable (.table entries) = false
  /-- They are saved exactly if they can be written, and the path leads to where a file may be put. -/
  saved : result = .ok (.value .nothing) ↔
    isWritable (.table entries) = true ∧ ∃ place, before.files.OpensAt path place
  sections : after.store = before.store ∧ after.handles = before.handles
  /-- A failure leaves all files, links and directories. -/
  failure : ∀ e, result = .error e →
    (∃ cause : SaveError, e = .save cause) ∧ after.files = before.files
  /-- A success changes one file only. -/
  success : ∀ reply, result = .ok reply → ∃ text place,
    toDocument rootName defaultStep (.table entries) = .ok text ∧ before.files.OpensAt path place ∧
      after.files.read path = .ok text.toByteArray ∧
      ∀ other ≠ place.path, after.files.nodes.get? other = before.files.nodes.get? other

theorem savesWhole_of_saveEnds {entries : Section} {path : Text} {before after : Session}
    {result : Except SaveError Unit} {files : FileTree} {journal : Logging.Journal}
    (ends : Settings.SaveEnds before.files path entries result files)
    (left : after = { before with files, journal }) :
    SavesWhole entries path before after ((result.mapError .save).map fun _ => .value .nothing) := by
  subst left
  cases ends with
  | @unwritable e unwritable =>
    refine ⟨⟨fun _ => unwritable, fun _ => ⟨e, rfl⟩⟩, ⟨nofun, ?_⟩, ⟨rfl, rfl⟩, fun failure same => ?_, nofun⟩
    · simp [unwritable]
    · cases same
      exact ⟨⟨_, rfl⟩, rfl⟩
  | unusable writable closed =>
    refine ⟨⟨nofun, ?_⟩, ⟨nofun, ?_⟩, ⟨rfl, rfl⟩, fun failure same => ?_, nofun⟩
    · simp [writable]
    · rintro ⟨_, place, opens⟩
      exact absurd opens (closed place)
    · cases same
      exact ⟨⟨_, rfl⟩, rfl⟩
  | saved writable written opens =>
    refine ⟨⟨nofun, ?_⟩, ⟨fun _ => ⟨writable, _, opens⟩, fun _ => rfl⟩, ⟨rfl, rfl⟩, nofun, fun reply _ => ?_⟩
    · simp [writable]
    · refine ⟨_, _, written, opens, FileTree.read_put_of_opensAt opens _, fun other apart => ?_⟩
      rw [FileTree.put, Entries.get?_put, if_neg (Ne.symm apart)]

/-- Saving a section is all or nothing, whatever commands came before, as long as all settings came from
    documents and logging was not set up. -/
theorem save_whole (loader : Dotenv.Loader) (environment : Environment) (files : FileTree)
    (isWatched : Bool) {commands : List Command} (fromDocuments : commands.all Command.isFromDocuments = true)
    (others : commands.all (!·.isSetUp) = true) {handle : Nat} {id : SectionId}
    (known : (reached loader environment files isWatched commands).handles[handle]? = some id) (path : Text) :
    SavesWhole ((reached loader environment files isWatched commands).store.table id) path
      (reached loader environment files isWatched commands)
      ((reached loader environment files isWatched commands).step (.save handle path)).1
      ((reached loader environment files isWatched commands).step (.save handle path)).2.result := by
  have settled : AreSettled (reached loader environment files isWatched commands).store
      (reached loader environment files isWatched commands).handles :=
    areSettled_runAll areSettled_empty fromDocuments
  have isSection := Store.isSection_table settled.shape (settled.inside id (List.mem_of_getElem? known))
  have ends := Settings.saveEnds_save isSection
    (reached loader environment files isWatched commands).files path
  obtain ⟨journal, _, saving⟩ := gives_saved known path (isFileless_reached loader environment files isWatched others)
  rw [saving]
  exact savesWhole_of_saveEnds ends rfl

/-- A surrogate is saved, and no document may hold one. -/
theorem save_whole_surrogate :
    let session := reached Dotenv.load [] (.empty []) false
      [.load none (.text "<?xml version='1.0' encoding='utf-8'?>\n<config>\n    <a>1</a>\n</config>"),
        .write 0 "a" (.text (.ofList [.surrogate 0]))]
    let after := (session.step (.save 0 "f.xml")).1
    SavesWhole [("a", .text (.ofList [.surrogate 0]))] "f.xml" session after
        (session.step (.save 0 "f.xml")).2.result ∧
      after.files.read "f.xml" =
        .ok "<?xml version='1.0' encoding='utf-8'?>\n<config>\n    <a>&#55296;</a>\n</config>".toByteArray := by
  intro session after
  have document : toDocument rootName defaultStep (.table [("a", .text "1")]) =
    .ok "<?xml version='1.0' encoding='utf-8'?>\n<config>\n    <a>1</a>\n</config>" := rfl
  have accepted := Settings.raw_text_written document (by decide) (by rfl)
  obtain ⟨id, known, table⟩ :=
    table_written Dotenv.load [] (.empty []) false accepted rfl "a" (.ofList [.surrogate 0])
  have whole := save_whole Dotenv.load [] (.empty []) false (by decide) (by decide) known "f.xml"
  rw [table] at whole
  have files : session.files = .empty [] :=
    files_written Dotenv.load [] (.empty []) false accepted rfl "a" (.ofList [.surrogate 0])
  have opens : session.files.OpensAt "f.xml" ["f.xml"] := by
    rw [files]
    exact FileTree.opensAt_of_missing (by decide) ⟨by decide, by decide, by decide⟩ (by decide) rfl rfl
  have saved := whole.saved.2 ⟨by decide, _, opens⟩
  obtain ⟨text, _, written, _, read, _⟩ := whole.success _ saved
  have made : toDocument rootName defaultStep (.table [("a", .text (.ofList [.surrogate 0]))]) =
    .ok "<?xml version='1.0' encoding='utf-8'?>\n<config>\n    <a>&#55296;</a>\n</config>" := by cbv
  obtain rfl := Except.ok.inj (made.symm.trans written)
  exact ⟨whole, read⟩

end Session

end XmlSettings
