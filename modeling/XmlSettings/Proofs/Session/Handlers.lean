import XmlSettings.Proofs.Logging.Setup
import XmlSettings.Proofs.Session.Save

/-! # Handlers through a session

Whatever commands come one after the other, the foreign handlers of the logger stay in their order.
The library's are those of the last set-up that succeeded, or none, and right after a success they are
the ones that its arguments ask for (`handlers_runAll`).
-/

namespace XmlSettings.Session

open XmlSettings.Logging (Arguments Journal Logger Record SetUpEnds setUpEnds_setUp)

/-- The source that a set-up of logging looks at, if there is a section where it is looked for. -/
def SettingsSource.source? (session : Session) : SettingsSource → Option Logging.Source
  | nowhere => some .nowhere
  | value v => some (.value v)
  | handle number => (session.handles[number]?).map fun id => .loaded (session.store.table id)

/-- The logger as the last successful set-up among commands leaves it; the one that was found before
    them if there is none. -/
def lastSetUp (found : Logger) (session : Session) : List Command → Logger
  | [] => found
  | command :: rest =>
    let (after, answer) := session.step command
    lastSetUp (if command.isSetUp && answer.result.isOk then after.journal.logger else found) after rest

variable {session : Session} {source : SettingsSource}

/-! ## One set-up -/

theorem run_source {found : Logging.Source} (known : source.source? session = some found) :
    source.source.run.run session = (.ok found, session) := by
  cases source with
  | nowhere => cases known; rfl
  | value v => cases known; rfl
  | handle number =>
    obtain ⟨id, leads, rfl⟩ := Option.map_eq_some_iff.1 known
    exact run_bind_ok (run_entriesOf session leads)

theorem run_source_unknown (unknown : source.source? session = none) :
    source.source.run.run session = (.error .noHandle, session) := by
  cases source with
  | nowhere => cases unknown
  | value v => cases unknown
  | handle number =>
    exact run_bind_error (run_bind_error (run_sectionOf_unknown session (Option.map_eq_none_iff.1 unknown)))

section SetUp

variable {found : Logging.Source} {arguments : Arguments} {logger : Logger} {files : FileTree}
  {ended : Except Logging.SetupError Record}

theorem run_setUpLogging
    (ends : session.journal.logger.setUp session.files found arguments = (logger, files, ended)) :
    ∃ after : Session, after.journal.logger = logger ∧
      (setUpLogging found arguments).run.run session =
        ((ended.mapError .logging).map fun _ => (), after) := by
  let changed : Session := { session with files, journal := { session.journal with logger } }
  have run : (setUpLogging found arguments).run.run session =
      (lift .logging ended >>= fun record => log [record] : Action Unit).run.run changed := by
    unfold setUpLogging
    rw [run_bind_ok (run_get session), ends]
    rfl
  cases ended with
  | error e => exact ⟨changed, rfl, run⟩
  | ok record => exact ⟨_, Journal.logger_logAll changed.journal changed.files [record], run⟩

/-- A set-up in a session leaves the logger and gives the error that it ends with, if it has a source. -/
theorem step_setUpLogging (known : source.source? session = some found)
    (ends : session.journal.logger.setUp session.files found arguments = (logger, files, ended)) :
    (session.step (.setUpLogging source arguments)).1.journal.logger = logger ∧
      (session.step (.setUpLogging source arguments)).2.result =
        (ended.mapError .logging).map fun _ => .logger (some Logging.topName) logger := by
  have looked : source.source? session.taken = some found := by
    cases source <;> exact known
  have taken : session.taken.journal.logger.setUp session.taken.files found arguments =
      (logger, files, ended) := ends
  obtain ⟨after, left, run⟩ := run_setUpLogging taken
  have action : (Command.setUpLogging source arguments).action.run.run session.taken =
      (do
        Session.setUpLogging found arguments
        return .logger (some Logging.topName) (← get).journal.logger : Action Reply).run.run
          session.taken :=
    run_bind_ok (run_source looked)
  rw [step_eq, action]
  cases ended with
  | error e =>
    rw [run_bind_error run]
    exact ⟨left, rfl⟩
  | ok record =>
    rw [run_bind_ok run, ← left]
    exact ⟨rfl, rfl⟩

end SetUp

theorem step_setUpLogging_unknown (unknown : source.source? session = none) (arguments : Arguments) :
    (session.step (.setUpLogging source arguments)).1.journal.logger = session.journal.logger ∧
      (session.step (.setUpLogging source arguments)).2.result = .error .noHandle := by
  have looked : source.source? session.taken = none := by
    cases source <;> exact unknown
  have action : (Command.setUpLogging source arguments).action.run.run session.taken =
      (.error .noHandle, session.taken) :=
    run_bind_error (run_source_unknown looked)
  rw [step_eq, action]
  exact ⟨rfl, rfl⟩

/-- A set-up that succeeds in a session fits the logger to its arguments and the section. -/
theorem isFitted_step {arguments : Arguments} {reply : Reply}
    (succeeded : (session.step (.setUpLogging source arguments)).2.result = .ok reply) :
    ∃ found entries, source.source? session = some found ∧ found.entries = .ok entries ∧
      (session.step (.setUpLogging source arguments)).1.journal.logger.IsFitted session.files
        (arguments.override entries) := by
  cases known : source.source? session with
  | none =>
    rw [(step_setUpLogging_unknown known arguments).2] at succeeded
    cases succeeded
  | some found =>
    have outcome := setUpEnds_setUp session.journal.logger session.files found arguments
    rcases ends : session.journal.logger.setUp session.files found arguments with ⟨logger, files, ended⟩
    obtain ⟨left, result⟩ := step_setUpLogging known ends
    rw [result] at succeeded
    obtain ⟨_, mapped, _⟩ := map_eq_ok.1 succeeded
    rw [ends] at outcome
    obtain ⟨entries, given, fitted⟩ := outcome.isFitted_of_ok (mapError_eq_ok.1 mapped)
    exact ⟨_, entries, rfl, given, left ▸ fitted⟩

/-! ## One command after the other -/

theorem foreign_step (session : Session) (command : Command) :
    (session.step command).1.journal.logger.foreign = session.journal.logger.foreign := by
  cases other : command.isSetUp with
  | false => rw [logger_step session other]
  | true =>
    cases command with
    | setUpLogging source arguments =>
      cases known : source.source? session with
      | none => rw [(step_setUpLogging_unknown known arguments).1]
      | some found =>
        have kept := Logging.foreign_setUp session.journal.logger session.files found arguments
        rcases ends : session.journal.logger.setUp session.files found arguments with
          ⟨logger, files, ended⟩
        rw [ends] at kept
        rwa [(step_setUpLogging known ends).1]
    | _ => cases other

/-- A command that is no successful set-up leaves the library's handlers, or none of them. -/
theorem owned_step (session : Session) {command : Command}
    (failed : (command.isSetUp && (session.step command).2.result.isOk) = false) :
    (session.step command).1.journal.logger.owned = session.journal.logger.owned ∨
      (session.step command).1.journal.logger.owned = [] := by
  cases other : command.isSetUp with
  | false => exact .inl (by rw [logger_step session other])
  | true =>
    rw [other, Bool.true_and] at failed
    cases command with
    | setUpLogging source arguments =>
      cases known : source.source? session with
      | none => exact .inl (by rw [(step_setUpLogging_unknown known arguments).1])
      | some found =>
        have outcome := setUpEnds_setUp session.journal.logger session.files found arguments
        rcases ends : session.journal.logger.setUp session.files found arguments with
          ⟨logger, files, ended⟩
        obtain ⟨left, result⟩ := step_setUpLogging known ends
        rw [result] at failed
        obtain ⟨e, failure⟩ := exists_error_of_isOk failed
        obtain ⟨cause, failure, _⟩ := mapError_eq_error.1 (map_eq_error.1 failure)
        rw [ends] at outcome
        rw [left]
        exact outcome.owned_of_error failure
    | _ => cases other

theorem foreign_runAll (session : Session) (commands : List Command) :
    (session.runAll commands).1.journal.logger.foreign = session.journal.logger.foreign := by
  induction commands generalizing session with
  | nil => rfl
  | cons command rest ih => exact (ih _).trans (foreign_step session command)

/-- The library's handlers stay those of the last successful set-up until they go. -/
theorem owned_runAll {found : Logger} (commands : List Command)
    (last : session.journal.logger.owned = [] ∨ session.journal.logger.owned = found.owned) :
    (session.runAll commands).1.journal.logger.owned = [] ∨
      (session.runAll commands).1.journal.logger.owned = (session.lastSetUp found commands).owned := by
  induction commands generalizing session found with
  | nil => exact last
  | cons command rest ih =>
    -- The invariant goes on with the logger that the command leaves if it is a success.
    let next := if command.isSetUp && (session.step command).2.result.isOk then
      (session.step command).1.journal.logger else found
    have kept : (session.step command).1.journal.logger.owned = [] ∨
        (session.step command).1.journal.logger.owned = next.owned := by
      unfold next
      split
      next => exact .inr rfl
      next failed =>
        rcases owned_step session (Bool.eq_false_iff.2 failed) with same | none
        · rwa [same]
        · exact .inl none
    exact ih kept

/-- Whatever commands are carried out, failing ones among them, foreign handlers stay in their order, and
    the library's are those of the last set-up that succeeded, or none.  Right after a success they are
    the ones that its arguments and the section ask for. -/
theorem handlers_runAll (session : Session) (commands : List Command) :
    (session.runAll commands).1.journal.logger.foreign = session.journal.logger.foreign ∧
    ((session.runAll commands).1.journal.logger.owned = [] ∨
      (session.runAll commands).1.journal.logger.owned =
        (session.lastSetUp session.journal.logger commands).owned) ∧
    ∀ source arguments reply,
      ((session.runAll commands).1.step (.setUpLogging source arguments)).2.result = .ok reply →
      ∃ found entries, source.source? (session.runAll commands).1 = some found ∧
        found.entries = .ok entries ∧
        ((session.runAll commands).1.step (.setUpLogging source arguments)).1.journal.logger.IsFitted
          (session.runAll commands).1.files (arguments.override entries) :=
  ⟨foreign_runAll session commands, owned_runAll commands (.inr rfl), fun _ _ _ => isFitted_step⟩

/-- After a set-up that failed on the log file, another one fits the logger, and the observer is still
    there. -/
theorem handlers_runAll_failed :
    let session := start Dotenv.load [] (.empty []) true
    let commands : List Command := [.setUpLogging .nowhere .standard,
      .setUpLogging .nowhere { Arguments.standard with file := .text "a.log", maxSize := .text "big" }]
    (session.runAll commands).1.journal.logger.foreign = [⟨.unset, false, .plain, .observer⟩] ∧
      ((session.runAll commands).1.step (.setUpLogging .nowhere .standard)).1.journal.logger.IsFitted
        (session.runAll commands).1.files .standard := by
  intro session commands
  obtain ⟨foreign, _, fitted⟩ := handlers_runAll session commands
  obtain ⟨reply, succeeded⟩ : ∃ reply,
      ((session.runAll commands).1.step (.setUpLogging .nowhere .standard)).2.result = .ok reply :=
    exists_ok_of_isOk (by decide +kernel)
  obtain ⟨found, entries, known, given, fits⟩ := fitted .nowhere .standard reply succeeded
  cases known
  cases given
  exact ⟨foreign, fits⟩

end XmlSettings.Session
