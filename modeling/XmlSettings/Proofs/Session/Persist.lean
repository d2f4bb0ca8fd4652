import Mathlib
import XmlSettings.Proofs.Schema.Decoded
import XmlSettings.Proofs.Session.Reload

/-! # Instances that are saved and loaded again

An instance that is rendered, saved to a file, loaded from there and decoded is the same as before,
whatever the environment (`results_persist`).
-/

namespace XmlSettings.Session

open Schema (Classes isInstance render renderEntries rereadEntries)
open Settings (raw)

/-! ## The document of an instance -/

section Document

variable {classes : Classes} {className : Text} {fields : List (Text × Value)}

theorem table_of_expanded {environment : Environment} {value : Value} {entries : Section}
    (expanded : value.expanded environment = .table entries) :
    ∃ read, value = .table read ∧ Value.expandedEntries environment read = entries := by
  cases value with
  | table read =>
    rw [Value.expanded, Value.table.injEq] at expanded
    exact ⟨read, rfl, expanded⟩
  | _ => cases expanded

/-- An instance is written as a document, which is read as its fields. -/
theorem raw_rendered (storable : classes.areStorable = true)
    (held : isInstance classes (.record className) (.record className fields) = true)
    (environment : Environment) :
    ∃ text read, Settings.toDocument Settings.rootName Settings.defaultStep
        (.table (renderEntries fields)) = .ok text ∧
      raw (.bytes text.toByteArray) = .ok read ∧
      Value.expandEntries environment read = .ok (rereadEntries environment fields) := by
  have tree := Schema.isTree_render storable rfl held
  obtain ⟨text, written, read⟩ :=
    Settings.read_written_tree tree Settings.isAsciiName_rootName Settings.isIndent_defaultStep
  obtain ⟨entries, table, expanded⟩ := table_of_expanded (Schema.rereadSingle_record storable held environment)
  rw [show Settings.normal (.table (renderEntries fields)) = .table entries from table] at read
  have accepted := Settings.raw_eq_ok_iff.2 read
  refine ⟨text, entries, written, accepted, ?_⟩
  rw [Settings.expandEntries_eq_ok (Settings.isSection_of_raw accepted), expanded]

end Document

/-- What is read of an instance is decoded into it. -/
theorem decode_reread {classes : Classes} {className : Text} {fields : List (Text × Value)}
    (storable : classes.areStorable = true)
    (held : isInstance classes (.record className) (.record className fields) = true)
    (environment : Environment) :
    Schema.decode classes .standard (.fresh className) (.table (rereadEntries environment fields)) =
      pure (.record className fields) := by
  rw [Schema.decode, Schema.Target.decode, ← Schema.rereadSingle_record storable held]
  exact Schema.decodeValue_rereadSingle storable rfl held

/-! ## There and back -/

/-- An instance is rendered, saved to a file, loaded from there and decoded, and is the same again. -/
theorem results_persist (loader : Dotenv.Loader) (environment : Environment) {files : FileTree} (isWatched : Bool)
    {classes : Classes} {className : Text} {fields : List (Text × Value)} {path : Text}
    (storable : classes.areStorable = true)
    (held : isInstance classes (.record className) (.record className fields) = true)
    (writable : ∀ content, ∃ after, files.replace path content = .ok after) :
    (start loader environment files isWatched).results [.create (renderEntries fields), .save 0 path,
        .loadFile none path, .decode 1 "" classes .standard (.fresh className)] =
      [.ok (.handle 0), .ok (.value .nothing), .ok (.handle 1), .ok (.value (.record className fields))] := by
  obtain ⟨text, read, written, loaded, expanded⟩ := raw_rendered storable held environment
  obtain ⟨after, replaced⟩ := writable text.toByteArray
  have fileless := isFileless_start loader environment files isWatched
  obtain ⟨first, logger, created⟩ := results_of_gives
    (gives_create (start loader environment files isWatched) (renderEntries fields))
    [.save 0 path, .loadFile none path, .decode 1 "" classes .standard (.fresh className)]
  let rendered : Session :=
    { (start loader environment files isWatched).opened (renderEntries fields) with journal := first }
  have table : rendered.store.table (Store.empty.add (renderEntries fields)).2 = renderEntries fields :=
    Store.table_add Store.empty (renderEntries fields)
  have known : rendered.handles[0]? = some (Store.empty.add (renderEntries fields)).2 := rfl
  obtain ⟨second, noFile, saved⟩ := results_save known (logger ▸ fileless) (table.symm ▸ written) replaced
    [.loadFile none path, .decode 1 "" classes .standard (.fresh className)]
  have loading := gives_loadFile { rendered with files := after, journal := second }
    (FileTree.read_tidy_of_replace replaced) noFile loaded expanded
  obtain ⟨third, _, opened⟩ := results_of_gives loading
    [.decode 1 "" classes .standard (.fresh className)]
  let reloaded : Session := { ({ rendered with files := after, journal := second } : Session).opened
    (rereadEntries environment fields) with journal := third }
  have reread : reloaded.store.table
      (rendered.store.add (rereadEntries environment fields)).2 = rereadEntries environment fields :=
    Store.table_add rendered.store (rereadEntries environment fields)
  have decoded := decode_reread storable held environment
  obtain ⟨fourth, _, given⟩ := results_of_gives (gives_decode reloaded
    (handles_opened_new { rendered with files := after, journal := second } _)
    (reread.symm ▸ decoded)) []
  rw [created, saved, opened]
  exact congrArg (fun rest => _ :: _ :: _ :: rest) given

/-- Nodes of a tree. -/
def nodeClasses : Classes :=
  [("Node", [⟨"name", .scalar .text, .required, true⟩, ⟨"size", .scalar .integer, .required, true⟩,
    ⟨"note", .union .long [.scalar .text, .nothing], .value .nothing, true⟩,
    ⟨"below", .list .long (.record "Node"), .value (.list []), true⟩])]

/-- A node with another one below it. -/
def nodeFields : List (Text × Value) :=
  [("name", .text "a"), ("size", .integer (-5)), ("note", .nothing),
    ("below", .list [.record "Node" [("name", .text "<b>"), ("size", .integer 0), ("note", .text ""),
      ("below", .list [])]])]

theorem results_persist_node :
    (start Dotenv.load [] (.empty []) false).results [.create (renderEntries nodeFields), .save 0 "f.xml",
        .loadFile none "f.xml", .decode 1 "" nodeClasses .standard (.fresh "Node")] =
      [.ok (.handle 0), .ok (.value .nothing), .ok (.handle 1), .ok (.value (.record "Node" nodeFields))] :=
  results_persist Dotenv.load [] false (by cbv) (by cbv) fun content =>
    have opens : (FileTree.empty []).OpensAt "f.xml" ["f.xml"] :=
      FileTree.opensAt_of_missing (by decide) ⟨by decide, by decide, by decide⟩ (by decide) rfl rfl
    ⟨_, FileTree.replace_of_opensAt opens content⟩

end XmlSettings.Session
