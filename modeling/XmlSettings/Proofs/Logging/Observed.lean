import XmlSettings.Logging.Journal
import XmlSettings.Proofs.Session.Step

/-! # What observers are given

A record of the library that its logger takes is given once to every observer of its level
(`observed_log`), and so are all records of a list, in order (`observed_logAll`).
-/

namespace XmlSettings.Logging

/-- Whether a handler is an observer of records of a level. -/
def Handler.observes (handler : Handler) (level : Level) : Bool :=
  match handler.sink with
  | .observer => decide (handler.level.number ≤ level.number)
  | _ => false

/-- The number of observers that a record of a level is given to. -/
def Logger.observerCount (logger : Logger) (level : Level) : Nat :=
  if logger.accepts level then logger.handlers.countP (·.observes level) else 0

namespace Journal

theorem observed_write (state : Journal × FileTree) (handler : Handler) (record : Record) :
    (write state handler record).1.observed =
      state.1.observed ++ List.replicate (if handler.observes record.level then 1 else 0) record := by
  obtain ⟨journal, files⟩ := state
  unfold write
  split
  next low =>
    have misses : handler.observes record.level = false := by
      unfold Handler.observes
      split
      next => exact decide_eq_false (Nat.not_le_of_lt low)
      next => rfl
    simp [misses]
  next high =>
    have reached := decide_eq_true (Nat.le_of_not_lt high)
    unfold Handler.observes
    cases handler.sink with
    | observer => simp [reached]
    | console | file => simp

theorem observed_foldl_write (handlers : List Handler) (state : Journal × FileTree) (record : Record) :
    (handlers.foldl (fun state handler => write state handler record) state).1.observed =
      state.1.observed ++ List.replicate (handlers.countP (·.observes record.level)) record := by
  induction handlers generalizing state with
  | nil => simp
  | cons handler rest ih =>
    rw [List.foldl_cons, ih, observed_write, List.append_assoc, List.replicate_append_replicate,
      List.countP_cons, Nat.add_comm]

theorem observed_log (journal : Journal) (files : FileTree) {record : Record}
    (own : isOwnName record.logger = true) :
    (journal.log files record).1.observed =
      journal.observed ++ List.replicate (journal.logger.observerCount record.level) record := by
  have written := observed_foldl_write journal.logger.handlers (journal, files) record
  rw [log, if_pos own, Logger.observerCount]
  split
  next =>
    rw [← written]
    simp only
    split <;> rfl
  next => simp

theorem observed_logAll (journal : Journal) (files : FileTree) {records : List Record}
    (own : ∀ record ∈ records, isOwnName record.logger = true) :
    (journal.logAll files records).1.observed = journal.observed ++ records.flatMap fun record =>
      List.replicate (journal.logger.observerCount record.level) record := by
  induction records generalizing journal files with
  | nil => simp [logAll]
  | cons record rest ih =>
    obtain ⟨first, more⟩ := List.forall_mem_cons.1 own
    have step : journal.logAll files (record :: rest) =
        (journal.log files record).1.logAll (journal.log files record).2 rest := rfl
    rw [step, ih _ _ more, observed_log journal files first, logger_log, List.append_assoc,
      List.flatMap_cons]

end Journal

end XmlSettings.Logging
