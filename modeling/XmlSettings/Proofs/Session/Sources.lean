import XmlSettings.Proofs.Logging.Sources
import XmlSettings.Proofs.Session.Findings
import XmlSettings.Proofs.Session.Handlers

/-! # Set-ups from a section and from its table

Logging is set up from a section of settings or from the table that is asked of it.  The two end alike
exactly for the settings of `IsReadAlike` (`endAlike_iff`).
-/

namespace XmlSettings

open Logging (Alike Arguments Logger SetupError Source IsShownAs isShownAs_rendered sectionKey)
open Schema (isComposite)
open Session (asTexts get?_asTexts_eq)
open Settings (IsEntry IsSection IsSetting)

namespace Logging

/-- The settings from which logging is set up in one way, as they are loaded and as a table: they have no
    logging section or an empty text in its place, or the section has no list or table as its number of
    backups, and none as its log file unless the set-up is refused before it comes to the file. -/
inductive IsReadAlike (entries : Section) (arguments : Arguments) : Prop where
  | absent (none : entries.get? sectionKey = none)
  | empty (text : entries.get? sectionKey = some (.text ""))
  | inside {inner : Section} (table : entries.get? sectionKey = some (.table inner))
      (backups : ∀ value, inner.get? "backup_count" = some value → isComposite value = false)
      (file : ∀ value, inner.get? "file" = some value → isComposite value = true →
        ∃ e, (Source.value (.table entries)).plan arguments = .error e)

theorem isReadAlike_iff_of_table {entries inner : Section} {arguments : Arguments}
    (found : entries.get? sectionKey = some (.table inner)) : IsReadAlike entries arguments ↔
      (∀ value, inner.get? "backup_count" = some value → isComposite value = false) ∧
      ∀ value, inner.get? "file" = some value → isComposite value = true →
        ∃ e, (Source.value (.table entries)).plan arguments = .error e := by
  constructor
  · intro alike
    cases alike with
    | absent none => cases found.symm.trans none
    | empty text => cases found.symm.trans text
    | inside table backups file =>
      cases found.symm.trans table
      exact ⟨backups, file⟩
  · rintro ⟨backups, file⟩
    exact .inside found backups file

theorem not_isReadAlike_of_truthy {entries : Section} {arguments : Arguments} {value : Value}
    (found : entries.get? sectionKey = some value) (noTable : ∀ inner, value ≠ .table inner)
    (wanted : value.isTruthy = true) : ¬IsReadAlike entries arguments := by
  intro alike
  cases alike with
  | absent none => cases found.symm.trans none
  | empty text =>
    cases found.symm.trans text
    cases wanted
  | inside table => exact noTable _ (Option.some_inj.1 (found.symm.trans table))

section Settings

variable {named : Text → Prop} {held : Text → Text → Prop} {entries inner : Section}

/-! ## Shown sections -/

section Shown

variable (isSection : IsSection named held inner) (default : Value) {key : Text}

include isSection

theorem isShownAs_getD (key : Text) :
    IsShownAs ((inner.get? key).getD default) (((asTexts inner).get? key).getD default) := by
  rw [get?_asTexts_eq]
  cases found : inner.get? key with
  | none => exact .same default
  | some value => exact isShownAs_rendered (isSection.entry (Entries.mem_of_get? found))

theorem getD_asTexts (single : ∀ value, inner.get? key = some value → isComposite value = false) :
    ((asTexts inner).get? key).getD default = (inner.get? key).getD default := by
  rw [get?_asTexts_eq]
  cases found : inner.get? key with
  | none => rfl
  | some value =>
    exact (isShownAs_rendered (isSection.entry (Entries.mem_of_get? found))).eq_of_not_isComposite
      (single value found)

end Shown

/-! ## Entries of the section -/

theorem entries_loaded_of_other (other : ∀ inner, entries.get? sectionKey ≠ some (.table inner)) :
    (Source.loaded entries).entries = .ok [] := by
  have refused : Section.renderedEntries entries sectionKey = .error (.noEntries sectionKey) := by
    rw [Section.renderedEntries]
    split
    next inner found => exact absurd found (other inner)
    next => rfl
  rw [Source.entries, refused]

theorem entries_loaded_of_table (isSection : IsSection named held entries)
    (found : entries.get? sectionKey = some (.table inner)) :
    (Source.loaded entries).entries = .ok (asTexts inner) := by
  have showable : Value.holdsShowable inner = true :=
    (isSection.entry (Entries.mem_of_get? found)).isShowable
  simp only [Source.entries, Section.renderedEntries, found, showable, if_true, List.map_map, asTexts]
  rfl

theorem toInteger_of_isComposite {value : Value} (composite : isComposite value = true) :
    value.toInteger = .error .notNumeric := by
  cases value with
  | list | table => rfl
  | _ => cases composite

/-! ## Outcomes -/

section Outcomes

variable (isSection : IsSection named held entries) (logger : Logger) (files : FileTree)
  (arguments : Arguments)

include isSection

/-- With a section, only its number of backups and its log file can make a difference. -/
theorem alike_iff_of_table (found : entries.get? sectionKey = some (.table inner)) :
    Alike (logger.outcome files (.loaded entries) arguments)
        (logger.outcome files (.value (.table entries)) arguments) ↔
      (∀ value, inner.get? "backup_count" = some value → isComposite value = false) ∧
      ∀ value, inner.get? "file" = some value → isComposite value = true →
        ∃ e, (Source.value (.table entries)).plan arguments = .error e := by
  have inside : IsSection named held inner :=
    (isSection.entry (Entries.mem_of_get? found)).isSection.2
  have shownPlan := plan_of_entries (entries_loaded_of_table isSection found) arguments
  have rawEntries : (Source.value (.table entries)).entries = .ok inner := by
    rw [Source.entries, found]
  have rawPlan := plan_of_entries rawEntries arguments
  have level := isShownAs_getD inside arguments.level "level"
  have maxSize := isShownAs_getD inside arguments.maxSize "max_file_size"
  by_cases counted : ∀ value, inner.get? "backup_count" = some value → isComposite value = false
  · have backups := getD_asTexts inside arguments.backups counted
    by_cases named : ∀ value, inner.get? "file" = some value → isComposite value = false
    · have file := getD_asTexts inside arguments.file named
      refine iff_of_true ?_ ⟨counted, fun value held composite => ?_⟩
      · exact alike_outcome shownPlan rawPlan level backups file maxSize rfl rfl
      · rw [named value held] at composite
        cases composite
    · simp only [not_forall] at named
      obtain ⟨value, held, notSingle⟩ := named
      have composite : isComposite value = true := by simpa using notSingle
      have rawFile : (arguments.override inner).file = value := congrArg (·.getD arguments.file) held
      have shownFile : (arguments.override (asTexts inner)).file = .text value.rendered :=
        congrArg (·.getD arguments.file) ((get?_asTexts_eq inner "file").trans (congrArg _ held))
      have wanted := isTruthy_of_isComposite (inside.entry (Entries.mem_of_get? held)) composite
      have noText (path : Text) : value ≠ .text path := by
        rintro rfl
        cases composite
      rw [← rawFile] at wanted
      rw [alike_outcome_iff_of_file shownPlan rawPlan level backups wanted (rawFile ▸ noText)
        shownFile]
      exact ⟨fun refused => ⟨counted, fun _ _ _ => refused⟩, fun alike => alike.2 value held composite⟩
  · simp only [not_forall] at counted
    obtain ⟨value, held, notSingle⟩ := counted
    have composite : isComposite value = true := by simpa using notSingle
    have rawBackups : (arguments.override inner).backups = value :=
      congrArg (·.getD arguments.backups) held
    have shownBackups : (arguments.override (asTexts inner)).backups = .text value.rendered :=
      congrArg (·.getD arguments.backups) ((get?_asTexts_eq inner "backup_count").trans (congrArg _ held))
    refine iff_of_false ?_ fun alike => notSingle (alike.1 value held)
    refine not_alike_outcome_of_backups shownPlan rawPlan (s := value.rendered) ?_ ?_
    · rw [rawBackups]
      exact toInteger_of_isComposite composite
    · rw [shownBackups]
      exact (isBracketed_rendered composite).integerOfText

omit isSection in
/-- What stands in place of a section is passed over in loaded settings, and is an error in a table. -/
theorem alike_iff_of_truthy {value : Value} (found : entries.get? sectionKey = some value)
    (noTable : ∀ inner, value ≠ .table inner) (wanted : value.isTruthy = true) :
    Alike (logger.outcome files (.loaded entries) arguments)
        (logger.outcome files (.value (.table entries)) arguments) ↔ IsReadAlike entries arguments := by
  have failed : (Source.value (.table entries)).entries = .error .noSection := by
    rw [Source.entries, found]
    cases value with
    | table inner => exact absurd rfl (noTable inner)
    | _ => simp [wanted]
  have passed : (Source.loaded entries).entries = .ok [] := by
    refine entries_loaded_of_other fun inner held => noTable inner ?_
    exact Option.some_inj.1 (found.symm.trans held)
  exact iff_of_false (not_alike_outcome_of_noSection passed failed)
    (not_isReadAlike_of_truthy found noTable wanted)

/-- Settings set up logging alike, as they are loaded and as a table, exactly if `IsReadAlike` says so. -/
theorem alike_iff : Alike (logger.outcome files (.loaded entries) arguments)
    (logger.outcome files (.value (.table entries)) arguments) ↔ IsReadAlike entries arguments := by
  cases found : entries.get? sectionKey with
  | none =>
    have same : (Source.loaded entries).entries = (Source.value (.table entries)).entries := by
      rw [entries_loaded_of_other (by simp [found]), Source.entries, found]
    rw [outcome_congr same]
    exact iff_of_true (.refl _) (.absent found)
  | some value =>
    have entry := isSection.entry (Entries.mem_of_get? found)
    -- A document holds a text, a table, or a list of several values under the key.
    cases entry with
    | single _ setting =>
      cases setting with
      | @text _ s _ =>
        by_cases empty : s = ""
        · subst empty
          have same : (Source.loaded entries).entries = (Source.value (.table entries)).entries := by
            rw [entries_loaded_of_other (by simp [found]), Source.entries, found]
            rfl
          rw [outcome_congr same]
          exact iff_of_true (.refl _) (.empty found)
        · exact alike_iff_of_truthy logger files arguments found (by simp) (by simp [Value.isTruthy, empty])
      | @table _ inner =>
        exact (alike_iff_of_table isSection logger files arguments found).trans
          (isReadAlike_iff_of_table found).symm
    | several =>
      exact alike_iff_of_truthy logger files arguments found (by simp)
        (isTruthy_of_isComposite (isSection.entry (Entries.mem_of_get? found)) rfl)

end Outcomes

end Settings

end Logging

namespace Session

/-- Whether two set-ups in sessions end alike: they fail with errors of one class, or both succeed and
    leave one level, propagation and row of handlers. -/
inductive EndAlike (first second : Session × Answer) : Prop where
  | failed {e other : SetupError} (fails : first.2.result = .error (.logging e))
      (too : second.2.result = .error (.logging other)) (same : e.errorClass = other.errorClass)
  | succeeded {reply other : Reply} (succeeds : first.2.result = .ok reply)
      (too : second.2.result = .ok other) (same : first.1.journal.logger = second.1.journal.logger)

theorem endAlike_iff_alike {session : Session} {source other : SettingsSource} {found given : Source}
    (known : source.source? session = some found) (too : other.source? session = some given)
    (arguments : Arguments) :
    EndAlike (session.step (.setUpLogging source arguments))
        (session.step (.setUpLogging other arguments)) ↔
      Alike (session.journal.logger.outcome session.files found arguments)
        (session.journal.logger.outcome session.files given arguments) := by
  rcases ends : session.journal.logger.setUp session.files found arguments with ⟨left, files, ended⟩
  rcases otherEnds : session.journal.logger.setUp session.files given arguments with
    ⟨otherLeft, otherFiles, otherEnded⟩
  obtain ⟨logger, result⟩ := step_setUpLogging known ends
  obtain ⟨otherLogger, otherResult⟩ := step_setUpLogging too otherEnds
  rw [Logger.outcome, Logger.outcome, ends, otherEnds]
  constructor
  · intro alike
    cases alike with
    | failed fails too same =>
      rw [result] at fails
      rw [otherResult] at too
      cases ended with
      | ok => cases fails
      | error e =>
        cases otherEnded with
        | ok => cases too
        | error other =>
          cases fails
          cases too
          exact .error same
    | succeeded succeeds too same =>
      rw [result] at succeeds
      rw [otherResult] at too
      rw [logger, otherLogger] at same
      subst same
      cases ended with
      | error => cases succeeds
      | ok =>
        cases otherEnded with
        | error => cases too
        | ok => exact .ok left
  · intro alike
    cases ended with
    | error e =>
      cases otherEnded with
      | ok => cases alike
      | error other =>
        cases alike with
        | error same => exact .failed result otherResult same
    | ok =>
      cases otherEnded with
      | error => cases alike
      | ok =>
        cases alike
        exact .succeeded result otherResult (logger.trans otherLogger.symm)

/-- Whatever settings from documents a handle leads to, logging is set up alike from the handle and from
    the table that is asked of it, in any state of the logger, exactly if `IsReadAlike` says so. -/
theorem endAlike_iff {session : Session} (fresh : session.store = Store.empty) (bare : session.handles = [])
    {commands : List Command} (fromDocuments : commands.all Command.isFromDocuments = true)
    {handle : Nat} {id : SectionId} (known : (session.runAll commands).1.handles[handle]? = some id)
    (arguments : Arguments) :
    let after := (session.runAll commands).1
    let entries := after.store.table id
    (after.step (.ask handle .table)).2.result = .ok (.value (.table entries)) ∧
      (EndAlike (after.step (.setUpLogging (.handle handle) arguments))
          (after.step (.setUpLogging (.value (.table entries)) arguments)) ↔
        Logging.IsReadAlike entries arguments) := by
  intro after entries
  have settled : AreSettled after.store after.handles :=
    areSettled_runAll (by rw [fresh, bare]; exact areSettled_empty) fromDocuments
  have isSection := Store.isSection_table settled.shape (settled.inside id (List.mem_of_getElem? known))
  have source : SettingsSource.source? after (.handle handle) = some (.loaded entries) :=
    congrArg (Option.map fun id => Source.loaded (after.store.table id)) known
  obtain ⟨journal, _, asking⟩ := gives_ask after known
  refine ⟨congrArg (·.2.result) asking, ?_⟩
  rw [endAlike_iff_alike source (show SettingsSource.source? after (.value _) = some _ from rfl) arguments]
  exact Logging.alike_iff isSection after.journal.logger after.files arguments

/-- The settings of a document that was loaded. -/
theorem table_loaded (loader : Dotenv.Loader) (environment : Environment) (files : FileTree)
    (isWatched : Bool) {document : Xml.Document} {source entries : Section}
    (accepted : Settings.raw document = .ok source)
    (expanded : Value.expandEntries environment source = .ok entries) :
    ∃ id, (reached loader environment files isWatched [.load none document]).handles[0]? = some id ∧
      (reached loader environment files isWatched [.load none document]).store.table id = entries := by
  obtain ⟨journal, _, loading⟩ :=
    gives_load (isFileless_start loader environment files isWatched) accepted expanded
  have known := handles_opened_new (start loader environment files isWatched) entries
  rw [reached, runAll, loading]
  exact ⟨_, known, Store.table_add _ _⟩

/-- A text in place of the section is passed over in loaded settings only. -/
theorem not_endAlike_text :
    let document := "<?xml version='1.0' encoding='utf-8'?>\n<config>\n    <logging>INFO</logging>\n</config>"
    let after := reached Dotenv.load [] (.empty []) false [.load none (.text document)]
    ¬EndAlike (after.step (.setUpLogging (.handle 0) .standard))
      (after.step (.setUpLogging (.value (.table [("logging", .text "INFO")])) .standard)) := by
  intro document after alike
  have written : Settings.toDocument Settings.rootName Settings.defaultStep
      (.table [("logging", .text "INFO")]) = .ok document := rfl
  have accepted := Settings.raw_text_written written (by decide) (by rfl)
  have expanded : Value.expandEntries [] [("logging", .text "INFO")] =
      .ok ([("logging", .text "INFO")] : Section) := rfl
  obtain ⟨id, known, table⟩ := table_loaded Dotenv.load [] (.empty []) false accepted expanded
  have agree :=
    (@endAlike_iff (start Dotenv.load [] (.empty []) false) rfl rfl _ (by rfl) _ _ known .standard).2
  change after.store.table id = ([("logging", .text "INFO")] : Section) at table
  change EndAlike (after.step _) (after.step (.setUpLogging (.value (.table (after.store.table id))) _)) ↔
    Logging.IsReadAlike (after.store.table id) _ at agree
  rw [table] at agree
  cases agree.1 alike with
  | absent none => cases none
  | empty text => exact absurd (Value.text.inj (Option.some_inj.1 text)) (by decide)
  | inside table => cases table

end Session

end XmlSettings
