import XmlSettings.Dotenv.Load
import XmlSettings.Proofs.Logging.Observed
import XmlSettings.Proofs.Settings.Expanded

/-! # Documents that are refused

A document without settings is refused with an error that says so, and every observer of errors is given
one record of it.  The only exceptions are texts with surrogates and bytes that declare an encoding that
cannot be used, which are refused with another error and without a record (`isReported_iff`).
-/

namespace XmlSettings

open XmlSettings.Logging (Journal Level isOwnName)
open XmlSettings.Settings (LoadError loaderRecord)
open XmlSettings.Xml (Document)

theorem Settings.isSome_logged? (e : LoadError) : e.logged?.isSome = e.isParseError := by
  cases e with
  | noDocument failed => cases failed <;> rfl
  | _ => rfl

namespace Session

variable {session : Session} {document : Document} {e : LoadError}

/-- Whether a document is taken without a record of an error, or refused with an error that says that it
    holds no settings, of which every observer of errors is given the only record. -/
inductive IsReported (session : Session) (document : Document) : Prop where
  | taken {handle : Nat} (given : (session.step (.load none document)).2.result = .ok (.handle handle))
      (quiet : ∀ record ∈ (session.step (.load none document)).2.observed, record.level ≠ .error)
  | refused {e : LoadError} {message : Text}
      (failed : (session.step (.load none document)).2.result = .error (.load e))
      (said : e.isParseError = true) (logged : e.logged? = some message)
      (observed : (session.step (.load none document)).2.observed =
        List.replicate (session.journal.logger.observerCount .error) (loaderRecord .error message))

theorem answer_load (session : Session) (document : Document) :
    let loaded := Settings.load session.loader session.environment session.files none document
    (session.step (.load none document)).2 =
      ⟨(session.taken.journal.logAll session.files loaded.records).1.observed,
        (loaded.result.mapError .load).map fun _ => .handle session.handles.length⟩ := by
  intro loaded
  have run : (Reply.handle <$> load none document).run.run session.taken =
      (Reply.handle <$> takeOver loaded).run.run session.taken := by
    rw [run_map, run_map, run_load]
    rfl
  rw [step_eq]
  show (⟨((Reply.handle <$> load none document).run.run session.taken).2.journal.observed,
    ((Reply.handle <$> load none document).run.run session.taken).1⟩ : Answer) = _
  rw [run]
  obtain ⟨env, records, result⟩ := loaded
  cases result <;> rfl

/-- A record of the loader is all that the observers are given, each of them once. -/
theorem observed_taken (session : Session) (level : Level) (message : Text) :
    (session.taken.journal.logAll session.files [loaderRecord level message]).1.observed =
      List.replicate (session.journal.logger.observerCount level) (loaderRecord level message) := by
  have own : ∀ record ∈ [loaderRecord level message], isOwnName record.logger = true :=
    List.forall_mem_singleton.2 (show isOwnName Logging.loaderName = true by decide)
  rw [Journal.observed_logAll _ _ own, List.flatMap_singleton]
  rfl

theorem isReported_of_raw {entries : Section} (accepted : Settings.raw document = .ok entries) :
    session.IsReported document := by
  have expanded := Settings.expandEntries_eq_ok (Settings.isSection_of_raw accepted)
  have answer := answer_load session document
  simp only [Settings.load, accepted, Settings.loadEnv, expanded, List.nil_append, observed_taken] at answer
  refine .taken (congrArg Answer.result answer) fun record member => ?_
  rw [answer] at member
  rw [List.eq_of_mem_replicate member]
  show Level.debug ≠ .error
  decide

theorem isReported_of_isParseError (refused : Settings.raw document = .error e)
    (said : e.isParseError = true) : session.IsReported document := by
  obtain ⟨message, logged⟩ := Option.isSome_iff_exists.1 (Settings.isSome_logged? e ▸ said)
  have answer := answer_load session document
  simp only [Settings.load, refused, logged, Option.map_some, Option.toList_some, observed_taken] at answer
  exact .refused (congrArg Answer.result answer) said logged (congrArg Answer.observed answer)

/-- An error that is no fault in the document leaves no record. -/
theorem answer_of_not_isParseError (refused : Settings.raw document = .error e)
    (other : e.isParseError = false) :
    (session.step (.load none document)).2 = ⟨[], .error (.load e)⟩ := by
  have silent : e.logged? = none := by
    rw [← Option.not_isSome_iff_eq_none, Settings.isSome_logged?, other]
    exact Bool.false_ne_true
  have answer := answer_load session document
  simp only [Settings.load, refused, silent, Option.map_none, Option.toList_none] at answer
  exact answer

/-- A document of which no root element is read for another reason than a fault leaves no record. -/
theorem answer_of_not_isRefused {failure : Document.ReadError} (read : document.root = .error failure)
    (noFault : failure.isRefused = false) :
    (session.step (.load none document)).2 = ⟨[], .error (.load (.noDocument failure))⟩ := by
  have refused : Settings.raw document = .error (.noDocument failure) := by
    rw [Settings.raw, read]
  exact answer_of_not_isParseError refused ((Settings.isParseError_noDocument failure).trans noFault)

theorem IsReported.isParseError (reported : session.IsReported document)
    (failed : (session.step (.load none document)).2.result = .error (.load e)) :
    e.isParseError = true := by
  cases reported with
  | taken given => cases given.symm.trans failed
  | refused other said =>
    cases other.symm.trans failed
    exact said

theorem not_isReported_of_root {failure : Document.ReadError} (read : document.root = .error failure)
    (noFault : failure.isRefused = false) : ¬session.IsReported document := by
  intro reported
  have said := reported.isParseError (congrArg Answer.result (answer_of_not_isRefused read noFault))
  rw [Settings.isParseError_noDocument, noFault] at said
  cases said

/-- Without another reason than a fault a document is taken or reported. -/
theorem isReported_of_root (only : ∀ failure, document.root = .error failure → failure.isRefused = true) :
    session.IsReported document := by
  cases read : Settings.raw document with
  | ok entries => exact isReported_of_raw read
  | error e =>
    cases said : e.isParseError with
    | true => exact isReported_of_isParseError read said
    | false =>
      obtain ⟨failure, failed, noFault⟩ := Settings.root_of_raw read said
      cases noFault.symm.trans (only failure failed)

/-- A text is taken or reported unless there are surrogates in it, and bytes are unless they declare an
    encoding that cannot be used. -/
theorem isReported_iff (session : Session) :
    (∀ t : Text, session.IsReported (.text t) ↔ t.hasSurrogate = false) ∧
    ∀ content, session.IsReported (.bytes content) ↔ ¬Document.NamesUnsupported content := by
  refine ⟨fun t => ⟨fun reported => ?_, fun plain => ?_⟩, fun content => ⟨fun reported names => ?_, fun other => ?_⟩⟩
  · refine Bool.eq_false_iff.2 fun surrogate => ?_
    exact not_isReported_of_root (Document.root_text_of_hasSurrogate surrogate) rfl reported
  · exact isReported_of_root fun failure => Document.isRefused_of_root_text plain
  · obtain ⟨failure, read, noFault⟩ := Document.exists_not_isRefused names
    exact not_isReported_of_root read noFault reported
  · refine isReported_of_root fun failure read => ?_
    by_contra noFault
    exact other (Document.namesUnsupported_of_root read (Bool.eq_false_iff.2 noFault))

/-- Bytes of a small document in an encoding of which nothing is known. -/
theorem not_isReported_unknown :
    ¬(start Dotenv.load [] (.empty []) true).IsReported
      (.bytes "<?xml version='1.0' encoding='nope'?><config><a>1</a></config>".toByteArray) := by
  intro reported
  refine ((isReported_iff _).2 _).1 reported ⟨.utf8, "nope", ?_, by decide +kernel⟩
  exact Document.declares_of_opening rfl (by decide) rfl rfl

end Session

end XmlSettings
