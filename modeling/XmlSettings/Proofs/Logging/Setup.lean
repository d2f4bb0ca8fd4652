import XmlSettings.Logging.Setup
import XmlSettings.Proofs.Outcome

/-! # How a set-up of logging ends

A set-up is refused before anything changes, fails on the log file when the handlers of the library
are gone, or leaves new ones (`SetUpEnds`).  Foreign handlers stay in any case (`foreign_setUp`).  A
failure leaves the logger as it was exactly if it comes before the change, or the change is none
(`unchanged_of_failure_iff`).
-/

namespace XmlSettings.Logging

/-- The handlers that are the library's. -/
def Logger.owned (logger : Logger) : List Handler :=
  logger.handlers.filter (·.isOwned)

/-- The handlers at a level for the log file of some arguments among files, if they name one. -/
inductive Arguments.Opens (arguments : Arguments) (files : FileTree) (level : Level) :
    List Handler → Prop where
  | none (unwanted : arguments.file.isTruthy = false) : arguments.Opens files level []
  | file {path : Text} {log : LogFile} (wanted : arguments.file.isTruthy = true)
      (named : arguments.file = .text path) (same : log.path = files.absolutePath path)
      (maxBytes : sizeOf arguments.maxSize = .ok log.maxBytes)
      (backups : arguments.backups.toInteger = .ok log.backups) :
      arguments.Opens files level [⟨level, true, .standard, .file log⟩]

/-- Whether a logger has the level and the propagation that arguments ask for, and owns handlers at this
    level: one for the console if the arguments want it, and one for the log file if they name one. -/
structure Logger.IsFitted (logger : Logger) (files : FileTree) (arguments : Arguments) : Prop where
  level : Level.ofValue arguments.level = .ok logger.level
  propagates : logger.propagates = arguments.propagate.isTruthy
  owned : ∃ opened, arguments.Opens files logger.level opened ∧ logger.owned =
    (if arguments.console.isTruthy then [⟨logger.level, true, .standard, .console⟩] else []) ++ opened

/-! ## Plans -/

/-- What is settled before the change. -/
theorem plan_eq_ok_iff {source : Source} {arguments : Arguments} {plan : Plan} :
    source.plan arguments = .ok plan ↔ ∃ entries, source.entries = .ok entries ∧
      plan.arguments = arguments.override entries ∧
      plan.arguments.backups.toInteger = .ok plan.backups ∧
      Level.ofValue plan.arguments.level = .ok plan.level := by
  unfold Source.plan
  simp only [bind, pure, Except.pure, bind_eq_ok, mapError_eq_ok, Except.ok.injEq]
  constructor
  · rintro ⟨entries, found, backups, counted, level, named, rfl⟩
    exact ⟨entries, found, rfl, counted, named⟩
  · rintro ⟨entries, found, same, counted, named⟩
    obtain ⟨inForce, backups, level⟩ := plan
    subst same
    exact ⟨entries, found, backups, counted, level, named, rfl⟩

/-! ## Log files -/

/-- Making a directory does not change where paths start. -/
theorem working_of_makeDirectory {files after : FileTree} {path : Text}
    (made : files.makeDirectory path = .ok after) : after.working = files.working := by
  obtain ⟨sent, _, made⟩ := bind_eq_ok.1 made
  obtain ⟨found, _, made⟩ := bind_eq_ok.1 made
  cases found with
  | nothing place =>
    cases made
    rfl
  | node place node => cases made

theorem working_of_above {files tree : FileTree} {root : Text} {names : FileTree.Place} {isMissing : Bool}
    {made : Except FileTree.Fault Unit}
    (before : (files.makeDirectories root names).1.working = files.working)
    (given : (if isMissing = true then
        match files.makeDirectories root names with
        | (tree, .error .alreadyExists) => (tree, .ok ())
        | made => made
      else (files, .ok ())) = (tree, made)) : tree.working = files.working := by
  split at given
  · generalize files.makeDirectories root names = pair at before given
    split at given
    all_goals
      cases given
      exact before
  · cases given
    rfl

theorem working_makeDirectories (files : FileTree) (root : Text) (names : FileTree.Place) :
    (files.makeDirectories root names).1.working = files.working := by
  fun_induction FileTree.makeDirectories files root names with
  | case1 => rfl
  | case2 name rest isMissing tree fault given before => exact working_of_above before given
  | case3 name rest isMissing tree _ given before => exact working_of_above before given
  | case4 name rest isMissing tree _ path after made given before =>
    exact (working_of_makeDirectory made).trans (working_of_above before given)
  | case5 name rest isMissing tree _ path fault _ _ given before => exact working_of_above before given
  | case6 name rest isMissing tree _ path fault _ _ given before => exact working_of_above before given

theorem openLog_eq_ok {files after : FileTree} {path : Text} {maxSize : Value} {backups : Int}
    {log : LogFile} (opened : openLog files path maxSize backups = (after, .ok log)) :
    log.path = files.absolutePath path ∧ sizeOf maxSize = .ok log.maxBytes ∧ log.backups = backups := by
  have kept := working_makeDirectories files (Path.root path) (Path.parentNames path).reverse
  unfold openLog at opened
  split at opened
  next => cases opened
  next made making =>
    rw [making] at kept
    have working : made.working = files.working := kept
    split at opened
    next => cases opened
    next maxBytes read =>
      simp only at opened
      split at opened
      next => cases opened
      next =>
        cases opened
        refine ⟨?_, read, rfl⟩
        simp only [FileTree.absolutePath, FileTree.start, working]

theorem opens_of_fileHandlers {plan : Plan} {files after : FileTree} {opened : List Handler}
    (counted : plan.arguments.backups.toInteger = .ok plan.backups)
    (given : plan.fileHandlers files = (after, .ok opened)) :
    plan.arguments.Opens files plan.level opened := by
  unfold Plan.fileHandlers at given
  split at given
  next wanted =>
    split at given
    next path named =>
      split at given
      next log opening =>
        cases given
        obtain ⟨same, maxBytes, backups⟩ := openLog_eq_ok opening
        exact .file wanted named same maxBytes (backups ▸ counted)
      next => cases given
    next => cases given
  next unwanted =>
    cases given
    exact .none (Bool.eq_false_iff.2 unwanted)

theorem wanted_of_fileHandlers {plan : Plan} {files after : FileTree} {e : SetupError}
    (failed : plan.fileHandlers files = (after, .error e)) : plan.arguments.file.isTruthy = true := by
  unfold Plan.fileHandlers at failed
  split at failed
  next wanted => exact wanted
  next => cases failed

/-! ## Outcomes -/

/-- How a set-up ends, and the logger that it leaves. -/
inductive SetUpEnds (logger : Logger) (files : FileTree) (source : Source) (arguments : Arguments) :
    Logger → Except SetupError Record → Prop where
  /-- Nothing has changed yet. -/
  | refused {e : SetupError} (unplanned : source.plan arguments = .error e) :
      SetUpEnds logger files source arguments logger (.error e)
  /-- There is no log file, and the earlier handlers are gone. -/
  | cleared {plan : Plan} {e : SetupError} (planned : source.plan arguments = .ok plan)
      (wanted : plan.arguments.file.isTruthy = true) :
      SetUpEnds logger files source arguments (logger.cleared plan) (.error e)
  | fitted {plan : Plan} {opened : List Handler} (planned : source.plan arguments = .ok plan)
      (opens : plan.arguments.Opens files plan.level opened) :
      SetUpEnds logger files source arguments
        ⟨plan.level, plan.arguments.propagate.isTruthy, logger.foreign ++ plan.consoleHandlers ++ opened⟩
        (.ok plan.record)

theorem setUpEnds_setUp (logger : Logger) (files : FileTree) (source : Source) (arguments : Arguments) :
    SetUpEnds logger files source arguments (logger.setUp files source arguments).1
      (logger.setUp files source arguments).2.2 := by
  unfold Logger.setUp
  split
  next unplanned => exact .refused unplanned
  next plan planned =>
    simp only
    split
    next failed => exact .cleared planned (wanted_of_fileHandlers failed)
    next opened given =>
      obtain ⟨_, _, _, counted, _⟩ := plan_eq_ok_iff.1 planned
      exact .fitted planned (opens_of_fileHandlers counted given)

/-! ## Handlers -/

theorem filter_isOwned_foreign (logger : Logger) : logger.foreign.filter (·.isOwned) = [] := by
  simp [Logger.foreign, List.filter_filter]

theorem filter_foreign (logger : Logger) :
    logger.foreign.filter (fun handler => !handler.isOwned) = logger.foreign := by
  simp [Logger.foreign, List.filter_filter]

/-- Every handler that a set-up adds is the library's. -/
theorem isOwned_of_opens {plan : Plan} {files : FileTree} {opened : List Handler}
    (opens : plan.arguments.Opens files plan.level opened) :
    ∀ handler ∈ plan.consoleHandlers ++ opened, handler.isOwned = true := by
  intro handler member
  rcases List.mem_append.1 member with console | file
  · unfold Plan.consoleHandlers at console
    split at console
    next => rw [List.mem_singleton.1 console]
    next => cases console
  · cases opens with
    | none => cases file
    | file => rw [List.mem_singleton.1 file]

section SetUp

variable {logger after : Logger} {files : FileTree} {source : Source} {arguments : Arguments}
  {result : Except SetupError Record} (ends : SetUpEnds logger files source arguments after result)

include ends

/-- Foreign handlers stay in their order. -/
theorem SetUpEnds.foreign : after.foreign = logger.foreign := by
  cases ends with
  | refused => rfl
  | cleared => exact filter_foreign logger
  | @fitted plan opened planned opens =>
    have none : (plan.consoleHandlers ++ opened).filter (fun handler => !handler.isOwned) = [] := by
      refine List.filter_eq_nil_iff.2 fun handler member => ?_
      simp [isOwned_of_opens opens handler member]
    rw [Logger.foreign, List.append_assoc, List.filter_append, none, filter_foreign, List.append_nil]

/-- A failure leaves the library's handlers, or none of them. -/
theorem SetUpEnds.owned_of_error {e : SetupError} (failed : result = .error e) :
    after.owned = logger.owned ∨ after.owned = [] := by
  cases ends with
  | refused => exact .inl rfl
  | cleared => exact .inr (filter_isOwned_foreign logger)
  | fitted => cases failed

theorem SetUpEnds.isFitted_of_ok {record : Record} (succeeded : result = .ok record) :
    ∃ entries, source.entries = .ok entries ∧ after.IsFitted files (arguments.override entries) := by
  cases ends with
  | refused => cases succeeded
  | cleared => cases succeeded
  | @fitted plan opened planned opens =>
    obtain ⟨entries, found, same, _, named⟩ := plan_eq_ok_iff.1 planned
    have all := List.filter_eq_self.2 (isOwned_of_opens opens)
    rw [same] at named opens
    refine ⟨entries, found, named, by rw [same], opened, opens, ?_⟩
    rw [Logger.owned, List.append_assoc, List.filter_append, filter_isOwned_foreign, all, List.nil_append,
      Plan.consoleHandlers, same]

end SetUp

/-- Foreign handlers stay, whatever comes of a set-up. -/
theorem foreign_setUp (logger : Logger) (files : FileTree) (source : Source) (arguments : Arguments) :
    (logger.setUp files source arguments).1.foreign = logger.foreign :=
  (setUpEnds_setUp logger files source arguments).foreign

/-! ## Failures -/

theorem cleared_eq_iff {logger : Logger} {plan : Plan} : logger.cleared plan = logger ↔
    logger.owned = [] ∧ logger.level = plan.level ∧
      logger.propagates = plan.arguments.propagate.isTruthy := by
  obtain ⟨level, propagates, handlers⟩ := logger
  have kept : handlers.filter (fun handler => !handler.isOwned) = handlers ↔
      handlers.filter (·.isOwned) = [] := by
    simp [List.filter_eq_self, List.filter_eq_nil_iff]
  simp only [Logger.cleared, Logger.foreign, Logger.owned, Logger.mk.injEq, kept]
  constructor
  · rintro ⟨rfl, rfl, none⟩
    exact ⟨none, rfl, rfl⟩
  · rintro ⟨none, rfl, rfl⟩
    exact ⟨rfl, rfl, none⟩

/-- A set-up that fails leaves the logger as it was if it is refused before anything changes, or if the
    logger owned no handlers and had the new level and propagation already; and only then. -/
theorem unchanged_of_failure_iff {logger : Logger} {files : FileTree} {source : Source}
    {arguments : Arguments} {e : SetupError} (failed : (logger.setUp files source arguments).2.2 = .error e) :
    (logger.setUp files source arguments).1 = logger ↔
      (∃ e, source.plan arguments = .error e) ∨ ∃ plan, source.plan arguments = .ok plan ∧
        logger.owned = [] ∧ logger.level = plan.level ∧
          logger.propagates = plan.arguments.propagate.isTruthy := by
  have ends := setUpEnds_setUp logger files source arguments
  rw [failed] at ends
  generalize (logger.setUp files source arguments).1 = after at ends
  cases ends with
  | refused unplanned => exact iff_of_true rfl (.inl ⟨e, unplanned⟩)
  | @cleared plan _ planned wanted =>
    rw [cleared_eq_iff]
    constructor
    · exact fun same => .inr ⟨plan, planned, same⟩
    · rintro (⟨other, unplanned⟩ | ⟨other, again, same⟩)
      · rw [planned] at unplanned
        cases unplanned
      · rw [planned] at again
        cases again
        exact same

/-- A size that is no number is met after the handler for the console is gone. -/
theorem not_unchanged_of_failure_size :
    let logger : Logger := ⟨.info, true, [⟨.info, true, .standard, .console⟩]⟩
    let arguments : Arguments :=
      { Arguments.standard with level := .text "DEBUG", file := .text "a.log", maxSize := .text "big" }
    (∃ e, (logger.setUp (.empty []) .nowhere arguments).2.2 = .error e) ∧
      (logger.setUp (.empty []) .nowhere arguments).1 ≠ logger := by
  intro logger arguments
  obtain ⟨e, failed⟩ : ∃ e, (logger.setUp (.empty []) .nowhere arguments).2.2 = .error e :=
    exists_error_of_isOk (by decide +kernel)
  refine ⟨⟨e, failed⟩, fun same => ?_⟩
  rcases (unchanged_of_failure_iff failed).1 same with ⟨other, unplanned⟩ | ⟨plan, _, none, _⟩
  · have planned : (Source.nowhere.plan arguments).isOk = true := by decide +kernel
    rw [unplanned] at planned
    cases planned
  · cases none

end XmlSettings.Logging
