import XmlSettings.Proofs.Entries
import XmlSettings.Proofs.Logging.Composite
import XmlSettings.Proofs.Logging.Setup
import XmlSettings.Proofs.Settings.Setting

/-! # Two sources of a set-up

One source of a set-up may show as texts the lists and tables that another one holds (`IsShownAs`).
A level or a size that is shown so makes no difference (`alike_outcome`).  A number of backups does
(`not_alike_outcome_of_backups`), and so does a log file, unless the set-up is refused before it comes to
the file (`alike_outcome_iff_of_file`).
-/

namespace XmlSettings

open Schema (isComposite)
open Settings (IsEntry)

namespace Logging

/-! ## What loaded settings show -/

/-- Whether a value in settings is shown as another one: a text as it is, a list or a table as the text
    that it is rendered as. -/
inductive IsShownAs : Value → Value → Prop where
  | same (value : Value) : IsShownAs value value
  | composite {value : Value} (composite : isComposite value = true) (filled : value.isTruthy = true)
      (showable : value.isShowable = true) : IsShownAs value (.text value.rendered)

section Entry

variable {named : Text → Prop} {held : Text → Text → Prop} {key : Text} {value : Value}
  (entry : IsEntry named held key value)

include entry

/-- No list or table in settings is empty. -/
theorem isTruthy_of_isComposite (composite : isComposite value = true) : value.isTruthy = true := by
  cases entry with
  | single _ setting =>
    cases setting with
    | text => cases composite
    | @table _ entries _ inside =>
      obtain ⟨key, member, _⟩ := inside.notOnlyText
      cases entries with
      | nil => cases member
      | cons => rfl
  | @several _ items _ _ many =>
    cases items with
    | nil => simp at many
    | cons => rfl

theorem isShownAs_rendered : IsShownAs value (.text value.rendered) := by
  cases composite : isComposite value with
  | true => exact .composite composite (isTruthy_of_isComposite entry composite) entry.isShowable
  | false =>
    cases entry with
    | single _ setting =>
      cases setting with
      | text => exact .same _
      | table => cases composite
    | several => cases composite

end Entry

namespace IsShownAs

variable {raw shown : Value} (shows : IsShownAs raw shown)

include shows

theorem eq_of_not_isComposite (single : isComposite raw = false) : shown = raw := by
  cases shows with
  | same => rfl
  | composite composite => simp [composite] at single

theorem ofValue_eq : Level.ofValue shown = Level.ofValue raw := by
  cases shows with
  | same => rfl
  | composite composite filled showable =>
    have rawName := (isBracketed_plainText composite).upper.ofName?
    have shownName := (isBracketed_rendered composite).upper.ofName?
    rw [Level.ofValue, Level.ofValue, capitals_of_isShowable showable,
      capitals_of_isShowable (isShowable_text _), Value.plainText]
    simp only [bind, Except.bind, rawName, shownName]

/-- Two sizes are the same, or neither is one. -/
theorem sizeOf_alike : sizeOf shown = sizeOf raw ∨
    ∃ s other, sizeOf shown = .error (.notAnInteger s) ∧ sizeOf raw = .error (.notAnInteger other) := by
  cases shows with
  | same => exact .inl rfl
  | composite composite filled showable =>
    have shownSize := (isBracketed_rendered composite).upper.sizeOfText
    have rawSize := (isBracketed_plainText composite).upper.sizeOfText
    exact .inr ⟨_, _, (sizeOf_text _).trans shownSize, (sizeOf_of_isShowable showable).trans rawSize⟩

end IsShownAs

/-! ## Outcomes -/

/-- Whether two operations give one result, or fail with errors of one class. -/
inductive Alike {α : Type} : Except SetupError α → Except SetupError α → Prop where
  | ok (a : α) : Alike (.ok a) (.ok a)
  | error {e other : SetupError} (same : e.errorClass = other.errorClass) :
      Alike (.error e) (.error other)

namespace Alike

variable {α β : Type} {first second : Except SetupError α}

theorem refl (outcome : Except SetupError α) : Alike outcome outcome := by
  cases outcome with
  | error e => exact .error rfl
  | ok a => exact .ok a

theorem map (alike : Alike first second) (f : α → β) : Alike (first.map f) (second.map f) := by
  cases alike with
  | ok a => exact .ok (f a)
  | error same => exact .error same

theorem errorClass_eq {other : SetupError} (alike : Alike first (.error other)) :
    ∃ e, first = .error e ∧ e.errorClass = other.errorClass := by
  cases alike with
  | error same => exact ⟨_, rfl, same⟩

end Alike

/-- The logger that a set-up leaves, if it succeeds. -/
def Logger.outcome (logger : Logger) (files : FileTree) (source : Source) (arguments : Arguments) :
    Except SetupError Logger :=
  (logger.setUp files source arguments).2.2.map fun _ => (logger.setUp files source arguments).1

section Outcome

variable {logger : Logger} {files : FileTree} {source : Source} {arguments : Arguments}

theorem outcome_of_refused {e : SetupError} (unplanned : source.plan arguments = .error e) :
    logger.outcome files source arguments = .error e := by
  rw [Logger.outcome, Logger.setUp, unplanned]
  rfl

theorem outcome_of_planned {plan : Plan} (planned : source.plan arguments = .ok plan) :
    logger.outcome files source arguments = (plan.fileHandlers files).2.map fun opened =>
      ⟨plan.level, plan.arguments.propagate.isTruthy,
        logger.foreign ++ plan.consoleHandlers ++ opened⟩ := by
  rw [Logger.outcome, Logger.setUp, planned]
  simp only
  split
  next failed => rw [failed]; rfl
  next opened given => rw [given]; rfl

end Outcome

/-! ## Classes of errors -/

theorem errorClass_eq_noAttribute_iff {e : SetupError} : e.errorClass = .noAttribute ↔ e = .noSection := by
  cases e with
  | notANumber e => cases e <;> simp [SetupError.errorClass, NumberError.errorClass]
  | unusableFile fault => cases fault <;> simp [SetupError.errorClass, FileTree.Fault.errorClass]
  | _ => simp [SetupError.errorClass]

theorem errorClass_of_integerOfText {s : Text} {e : NumberError} (failed : integerOfText s = .error e) :
    e.errorClass = .wrongValue := by
  unfold integerOfText at failed
  split at failed <;> cases failed <;> rfl

theorem errorClass_of_realOfText {s : Text} {e : NumberError} (failed : realOfText s = .error e) :
    e.errorClass = .wrongValue := by
  unfold realOfText at failed
  split at failed <;> cases failed
  rfl

theorem errorClass_of_toInteger {x : Decimal.Binary64} {e : NumberError} (failed : x.toInteger = .error e) :
    e.errorClass ≠ .wrongType := by
  unfold Decimal.Binary64.toInteger at failed
  split at failed
  next => cases failed; decide
  next => split at failed <;> cases failed; decide

theorem errorClass_of_sizeOfText {s : Text} {e : NumberError} (failed : sizeOfText s = .error e) :
    e.errorClass ≠ .wrongType := by
  unfold sizeOfText at failed
  simp only at failed
  split at failed
  next bytes _ =>
    cases read : realOfText (Text.ofList ((Text.strip s).toList.take ((Text.strip s).toList.length - 2))) with
    | error cause =>
      rw [read] at failed
      cases failed
      rw [errorClass_of_realOfText read]
      decide
    | ok amount =>
      rw [read] at failed
      exact errorClass_of_toInteger failed
  next =>
    rw [errorClass_of_integerOfText failed]
    decide

/-- A size that cannot be read has the wrong value, or is too large. -/
theorem errorClass_of_sizeOf {value : Value} {e : NumberError} (failed : sizeOf value = .error e) :
    e.errorClass ≠ .wrongType := by
  cases showable : value.isShowable with
  | true =>
    rw [sizeOf_of_isShowable showable] at failed
    exact errorClass_of_sizeOfText failed
  | false =>
    have hidden : sizeOf value = .error .unwritable := by
      rw [sizeOf, capitals, Value.written, if_neg (by simp [showable])]
      rfl
    rw [hidden] at failed
    cases failed
    decide

theorem errorClass_of_openLog {files : FileTree} {path : Text} {maxSize : Value} {backups : Int}
    {e : SetupError} (failed : (openLog files path maxSize backups).2 = .error e) :
    e.errorClass ≠ .wrongType ∧ e ≠ .noSection := by
  have ofFault (fault : FileTree.Fault) : (SetupError.unusableFile fault).errorClass ≠ .wrongType := by
    cases fault <;> simp [SetupError.errorClass, FileTree.Fault.errorClass]
  unfold openLog at failed
  split at failed
  next => cases failed; exact ⟨ofFault _, nofun⟩
  next =>
    split at failed
    next unread => cases failed; exact ⟨errorClass_of_sizeOf unread, nofun⟩
    next =>
      simp only at failed
      split at failed
      next => cases failed; exact ⟨ofFault _, nofun⟩
      next => cases failed

/-! ## Log files -/

section Files

variable {plan : Plan} {files : FileTree}

theorem fileHandlers_of_text {path : Text} (wanted : plan.arguments.file.isTruthy = true)
    (named : plan.arguments.file = .text path) : (plan.fileHandlers files).2 =
      (openLog files path plan.arguments.maxSize plan.backups).2.map fun log =>
        [⟨plan.level, true, .standard, .file log⟩] := by
  unfold Plan.fileHandlers
  rw [if_pos wanted, named]
  simp only
  split
  next opened => rw [opened]; rfl
  next failed => rw [failed]; rfl

theorem fileHandlers_of_unwanted (unwanted : plan.arguments.file.isTruthy = false) :
    (plan.fileHandlers files).2 = .ok [] := by
  rw [Plan.fileHandlers, if_neg (by simp [unwanted])]

theorem fileHandlers_of_other (wanted : plan.arguments.file.isTruthy = true)
    (other : ∀ path, plan.arguments.file ≠ .text path) : (plan.fileHandlers files).2 = .error .noPath := by
  unfold Plan.fileHandlers
  rw [if_pos wanted]
  split
  next path named => exact absurd named (other path)
  next => rfl

theorem alike_openLog {raw shown : Value} (shows : IsShownAs raw shown) (files : FileTree) (path : Text)
    (backups : Int) :
    Alike (openLog files path shown backups).2 (openLog files path raw backups).2 := by
  unfold openLog
  split
  next => exact .refl _
  next =>
    rcases shows.sizeOf_alike with same | ⟨_, _, shownSize, rawSize⟩
    · rw [same]
      exact .refl _
    · rw [shownSize, rawSize]
      exact .error rfl

theorem alike_fileHandlers {other : Plan} (level : other.level = plan.level)
    (backups : other.backups = plan.backups) (file : other.arguments.file = plan.arguments.file)
    (maxSize : IsShownAs plan.arguments.maxSize other.arguments.maxSize) :
    Alike (other.fileHandlers files).2 (plan.fileHandlers files).2 := by
  cases wanted : plan.arguments.file.isTruthy with
  | false =>
    rw [fileHandlers_of_unwanted wanted, fileHandlers_of_unwanted (file ▸ wanted)]
    exact .refl _
  | true =>
    by_cases text : ∃ path, plan.arguments.file = .text path
    · obtain ⟨path, named⟩ := text
      rw [fileHandlers_of_text wanted named, fileHandlers_of_text (file ▸ wanted) (file.trans named), level,
        backups]
      exact (alike_openLog maxSize files path plan.backups).map _
    · have noText : ∀ path, plan.arguments.file ≠ .text path := not_exists.1 text
      rw [fileHandlers_of_other wanted noText, fileHandlers_of_other (file ▸ wanted) (file ▸ noText)]
      exact .refl _

theorem errorClass_of_fileHandlers {path : Text} {e : SetupError} (named : plan.arguments.file = .text path)
    (failed : (plan.fileHandlers files).2 = .error e) : e.errorClass ≠ .wrongType := by
  cases wanted : plan.arguments.file.isTruthy with
  | false =>
    rw [fileHandlers_of_unwanted wanted] at failed
    cases failed
  | true =>
    rw [fileHandlers_of_text wanted named] at failed
    exact (errorClass_of_openLog (map_eq_error.1 failed)).1

theorem ne_noSection_of_fileHandlers {e : SetupError} (failed : (plan.fileHandlers files).2 = .error e) :
    e ≠ .noSection := by
  cases wanted : plan.arguments.file.isTruthy with
  | false =>
    rw [fileHandlers_of_unwanted wanted] at failed
    cases failed
  | true =>
    by_cases text : ∃ path, plan.arguments.file = .text path
    · obtain ⟨path, named⟩ := text
      rw [fileHandlers_of_text wanted named] at failed
      exact (errorClass_of_openLog (map_eq_error.1 failed)).2
    · rw [fileHandlers_of_other wanted (not_exists.1 text)] at failed
      cases failed
      exact nofun

end Files

/-! ## Plans -/

/-- The plan of a set-up with the arguments in force. -/
def Arguments.settle (arguments : Arguments) : Except SetupError Plan := do
  let backups ← arguments.backups.toInteger.mapError .notANumber
  let level ← (Level.ofValue arguments.level).mapError .notANumber
  return ⟨arguments, backups, level⟩

section Plans

variable {logger : Logger} {files : FileTree} {source other : Source}
  {arguments raw shown : Arguments} {entries : Section}

theorem plan_of_entries (found : source.entries = .ok entries) (arguments : Arguments) :
    source.plan arguments = (arguments.override entries).settle := by
  rw [Source.plan, found]
  rfl

theorem plan_of_noSection (failed : source.entries = .error .noSection) (arguments : Arguments) :
    source.plan arguments = .error .noSection := by
  rw [Source.plan, failed]
  rfl

/-- Shown by others, arguments are settled with the same numbers and levels, or not. -/
theorem settle_cases (level : IsShownAs raw.level shown.level) (backups : shown.backups = raw.backups) :
    (∃ e, raw.settle = .error e ∧ shown.settle = .error e) ∨
      ∃ count named, raw.settle = .ok ⟨raw, count, named⟩ ∧ shown.settle = .ok ⟨shown, count, named⟩ := by
  unfold Arguments.settle
  rw [level.ofValue_eq, backups]
  cases raw.backups.toInteger with
  | error e => exact .inl ⟨_, rfl, rfl⟩
  | ok count =>
    cases Level.ofValue raw.level with
    | error e => exact .inl ⟨_, rfl, rfl⟩
    | ok named => exact .inr ⟨count, named, rfl, rfl⟩

theorem settle_ne_noSection (arguments : Arguments) : arguments.settle ≠ .error .noSection := by
  unfold Arguments.settle
  cases arguments.backups.toInteger with
  | error e => exact nofun
  | ok count => cases Level.ofValue arguments.level <;> exact nofun

theorem outcome_congr (same : source.entries = other.entries) :
    logger.outcome files source arguments = logger.outcome files other arguments := by
  have plans : source.plan arguments = other.plan arguments := by rw [Source.plan, Source.plan, same]
  rw [Logger.outcome, Logger.outcome, Logger.setUp, Logger.setUp, plans]

theorem ne_noSection_of_outcome {e : SetupError} (found : source.entries = .ok entries)
    (failed : logger.outcome files source arguments = .error e) : e ≠ .noSection := by
  cases planned : source.plan arguments with
  | error cause =>
    rw [outcome_of_refused planned] at failed
    cases failed
    rintro rfl
    exact settle_ne_noSection _ ((plan_of_entries found arguments).symm.trans planned)
  | ok plan =>
    rw [outcome_of_planned planned] at failed
    exact ne_noSection_of_fileHandlers (map_eq_error.1 failed)

/-- Only what is no section fails in this way. -/
theorem not_alike_outcome_of_noSection (found : source.entries = .ok entries)
    (failed : other.entries = .error .noSection) :
    ¬Alike (logger.outcome files source arguments) (logger.outcome files other arguments) := by
  rw [outcome_of_refused (plan_of_noSection failed arguments)]
  intro alike
  obtain ⟨e, ended, same⟩ := alike.errorClass_eq
  exact ne_noSection_of_outcome found ended (errorClass_eq_noAttribute_iff.1 same)

section Shown

variable (shownPlan : source.plan arguments = shown.settle) (rawPlan : other.plan arguments = raw.settle)

include shownPlan rawPlan

/-- A number of backups that is a list or a table has the wrong type, its text the wrong value. -/
theorem not_alike_outcome_of_backups {s : Text} (numbers : raw.backups.toInteger = .error .notNumeric)
    (texts : shown.backups.toInteger = .error (.notAnInteger s)) :
    ¬Alike (logger.outcome files source arguments) (logger.outcome files other arguments) := by
  have refused : raw.settle = .error (.notANumber .notNumeric) := by
    rw [Arguments.settle, numbers]
    rfl
  have too : shown.settle = .error (.notANumber (.notAnInteger s)) := by
    rw [Arguments.settle, texts]
    rfl
  rw [outcome_of_refused (shownPlan.trans too), outcome_of_refused (rawPlan.trans refused)]
  intro alike
  obtain ⟨e, same, classes⟩ := alike.errorClass_eq
  cases same
  cases classes

variable (level : IsShownAs raw.level shown.level)

include level

/-- Two set-ups end alike if the arguments of the one show those of the other, and only a level or a size
    is shown as it is not. -/
theorem alike_outcome (backups : shown.backups = raw.backups) (file : shown.file = raw.file)
    (maxSize : IsShownAs raw.maxSize shown.maxSize) (console : shown.console = raw.console)
    (propagate : shown.propagate = raw.propagate) :
    Alike (logger.outcome files source arguments) (logger.outcome files other arguments) := by
  rcases settle_cases level backups with ⟨e, refused, too⟩ | ⟨count, named, planned, too⟩
  · rw [outcome_of_refused (shownPlan.trans too), outcome_of_refused (rawPlan.trans refused)]
    exact .refl _
  · have sameConsole : Plan.consoleHandlers ⟨shown, count, named⟩ =
        Plan.consoleHandlers ⟨raw, count, named⟩ := by
      rw [Plan.consoleHandlers, Plan.consoleHandlers, console]
    have opened : Alike (Plan.fileHandlers ⟨shown, count, named⟩ files).2
        (Plan.fileHandlers ⟨raw, count, named⟩ files).2 :=
      alike_fileHandlers rfl rfl file maxSize
    rw [outcome_of_planned (shownPlan.trans too), outcome_of_planned (rawPlan.trans planned), sameConsole,
      propagate]
    exact opened.map _

/-- A log file that is no text is an error of its own as soon as it comes to the file. -/
theorem alike_outcome_iff_of_file (backups : shown.backups = raw.backups) {path : Text}
    (wanted : raw.file.isTruthy = true) (noText : ∀ path, raw.file ≠ .text path)
    (shows : shown.file = .text path) :
    Alike (logger.outcome files source arguments) (logger.outcome files other arguments) ↔
      ∃ e, other.plan arguments = .error e := by
  rcases settle_cases level backups with ⟨e, refused, too⟩ | ⟨count, named, planned, too⟩
  · -- Neither comes to the file.
    rw [outcome_of_refused (shownPlan.trans too), outcome_of_refused (rawPlan.trans refused)]
    exact iff_of_true (.refl _) ⟨e, rawPlan.trans refused⟩
  · have failed : (Plan.fileHandlers ⟨raw, count, named⟩ files).2 = .error .noPath :=
      fileHandlers_of_other wanted noText
    rw [outcome_of_planned (shownPlan.trans too), outcome_of_planned (rawPlan.trans planned), failed,
      rawPlan, planned]
    refine iff_of_false (fun alike => ?_) nofun
    obtain ⟨e, opening, same⟩ := alike.errorClass_eq
    exact errorClass_of_fileHandlers shows (map_eq_error.1 opening) same

end Shown

end Plans

end Logging

end XmlSettings
