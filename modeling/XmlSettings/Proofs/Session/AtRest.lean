import Mathlib.Logic.Relation
import XmlSettings.Proofs.Session.Change
import XmlSettings.Proofs.Settings.Expanded
import XmlSettings.Proofs.Settings.Saved
import XmlSettings.Proofs.Store.Forest

/-! # Sessions at rest

Where all settings come from documents, every section that a handle leads to has the shape that
documents give: it is not empty, and under each key is a text, a section, or a list of at least two
texts or tables of that shape; under the keys of attributes and of the text there are texts only.  No
section is inside itself, and none is under two entries (`isAtRest_reached`).

Tables in lists are plain values of a store, so each is in one place as it stands.
-/

namespace XmlSettings

open Settings (IsSetting IsEntry IsSection isChildKey)

namespace Store

/-- Whether an entry of a section leads to another one. -/
def LeadsTo (store : Store) (outer inner : SectionId) : Prop :=
  ∃ key, (key, .nested inner) ∈ store.entries outer

theorem LeadsTo.lt {store : Store} {outer inner : SectionId} (leads : store.LeadsTo outer inner) :
    inner < outer := by
  obtain ⟨key, member⟩ := leads
  exact store.entries_areBelow outer _ member

/-- What is under a key of settings, with sections by their numbers. -/
inductive IsAtRest : Text → Slot → Prop where
  | text {key s : Text} : IsAtRest key (.plain (.text s))
  | nested {key : Text} {id : SectionId} (isChild : isChildKey key = true) : IsAtRest key (.nested id)
  | several {key : Text} {items : List Value} (isChild : isChildKey key = true)
      (many : 2 ≤ items.length)
      (inside : ∀ item ∈ items, IsSetting (fun _ => True) (fun _ _ => True) key item) :
      IsAtRest key (.plain (.list items))

/-- The entries of a section of settings. -/
structure AreAtRest (slots : Entries Text Slot) : Prop where
  filled : slots ≠ []
  distinct : slots.keys.Nodup
  inside : ∀ key slot, (key, slot) ∈ slots → IsAtRest key slot

/-- Entries lead to sections before the one that they are in. -/
theorem lt_of_path {store : Store} {outer inner : SectionId}
    (path : Relation.TransGen store.LeadsTo outer inner) : inner < outer := by
  induction path with
  | single leads => exact leads.lt
  | tail _ leads ih => exact Nat.lt_trans leads.lt ih

theorem le_of_path {store : Store} {outer inner : SectionId}
    (path : Relation.ReflTransGen store.LeadsTo outer inner) : inner ≤ outer := by
  induction path with
  | refl => exact Nat.le_refl _
  | tail _ leads ih => exact Nat.le_trans (Nat.le_of_lt leads.lt) ih

theorem isAtRest_of_isSlot {key : Text} {slot : Slot}
    (isSlot : IsSlot (fun _ => True) (fun _ _ => True) key slot) (folded : slot.IsFolded) :
    IsAtRest key slot := by
  cases isSlot with
  | nested _ isChild => exact .nested isChild
  | plain entry =>
    cases entry with
    | several _ isChild many inside => exact .several isChild many inside
    | single _ setting =>
      cases setting with
      | text => exact .text
      | table => exact absurd folded id

theorem areAtRest_of_isNode {slots : Entries Text Slot}
    (node : IsNode (fun _ => True) (fun _ _ => True) slots) (folded : slots.AreFolded) :
    AreAtRest slots := by
  obtain ⟨distinct, ⟨key, member, _⟩, inside⟩ := node
  refine ⟨?_, distinct, fun key slot found => ?_⟩
  · rintro rfl
    cases member
  · exact isAtRest_of_isSlot (inside key slot found) (folded _ found)

end Store

namespace Session

/-- Whether a command takes settings from documents only, if it takes any. -/
def Command.isFromDocuments : Command → Bool
  | create _ | register _ _ (.fixed _) | loadWith _ _ _ | loadFileWith _ _ _ => false
  | _ => true

/-- What holds of sections and handles as long as all settings come from documents. -/
structure AreSettled (store : Store) (handles : List SectionId) : Prop where
  shape : store.HoldsSettings (fun _ => True) (fun _ _ => True)
  forest : store.IsForest
  inside : ∀ id ∈ handles, id < store.next

theorem areSettled_empty : AreSettled Store.empty [] where
  shape := Store.holdsSettings_empty
  forest := Store.isForest_empty
  inside := nofun

/-- The settings of a document that were expanded. -/
theorem isSection_of_expandEntries {document : Xml.Document} {environment : Environment}
    {source entries : Section} (accepted : Settings.raw document = .ok source)
    (expanded : Value.expandEntries environment source = .ok entries) :
    IsSection (fun _ => True) (fun _ _ => True) entries := by
  have inside := Settings.isSection_of_raw accepted
  rw [Settings.expandEntries_eq_ok inside] at expanded
  cases expanded
  exact inside.expanded (fun _ _ => trivial) (fun _ _ _ => trivial)

theorem Change.areSettled {store after : Store} {handles left : List SectionId} {command : Command}
    (change : Change store handles command after left) (fromDocuments : command.isFromDocuments = true)
    (settled : AreSettled store handles) : AreSettled after left := by
  obtain ⟨shape, forest, inside⟩ := settled
  have inside := change.inside inside
  cases change with
  | kept => exact ⟨shape, forest, inside⟩
  | narrowed => exact ⟨shape, forest, inside⟩
  | written =>
    refine ⟨?_, forest.set _ _ _, inside⟩
    exact Store.holdsSettings_set shape (.single trivial (.text trivial))
  | loaded _ accepted expanded =>
    have shape := Store.holdsSettings_add shape (isSection_of_expandEntries accepted expanded)
    exact ⟨shape, forest.add _, inside⟩
  | created => cases fromDocuments
  | registered => cases fromDocuments
  | copied _ indirect =>
    cases command with
    | loadWith => cases fromDocuments
    | loadFileWith => cases fromDocuments
    | _ => cases indirect

theorem areSettled_runAll {session : Session} {commands : List Command}
    (settled : AreSettled session.store session.handles)
    (fromDocuments : commands.all Command.isFromDocuments = true) :
    AreSettled (session.runAll commands).1.store (session.runAll commands).1.handles := by
  induction commands generalizing session with
  | nil => exact settled
  | cons command rest ih =>
    rw [List.all_cons, Bool.and_eq_true] at fromDocuments
    exact ih ((session.change_step command).areSettled fromDocuments.1 settled) fromDocuments.2

theorem areSettled_reached (loader : Dotenv.Loader) (environment : Environment) (files : FileTree)
    (isWatched : Bool) {commands : List Command}
    (fromDocuments : commands.all Command.isFromDocuments = true) :
    AreSettled (reached loader environment files isWatched commands).store
      (reached loader environment files isWatched commands).handles :=
  areSettled_runAll areSettled_empty fromDocuments

/-- Whether all that handles lead to are settings, and sections form a forest. -/
structure IsAtRest (session : Session) : Prop where
  reached : ∀ root ∈ session.handles, ∀ node,
    Relation.ReflTransGen session.store.LeadsTo root node →
      Store.AreAtRest (session.store.entries node)
  acyclic : ∀ node, ¬Relation.TransGen session.store.LeadsTo node node
  apart : ∀ first second child key name, (key, .nested child) ∈ session.store.entries first →
    (name, .nested child) ∈ session.store.entries second → first = second ∧ key = name

/-- Sections have the shape of settings and form a forest, whatever commands came before, as long as all
    settings came from documents. -/
theorem isAtRest_reached (loader : Dotenv.Loader) (environment : Environment) (files : FileTree)
    (isWatched : Bool) {commands : List Command}
    (fromDocuments : commands.all Command.isFromDocuments = true) :
    (reached loader environment files isWatched commands).IsAtRest := by
  obtain ⟨shape, forest, inside⟩ := areSettled_reached loader environment files isWatched fromDocuments
  refine ⟨fun root member node path => ?_, fun node cycle => ?_, ?_⟩
  · have known : node < _ := Nat.lt_of_le_of_lt (Store.le_of_path path) (inside root member)
    exact Store.areAtRest_of_isNode (shape node known) (forest.areFolded node)
  · exact Nat.lt_irrefl node (Store.lt_of_path cycle)
  · intro first second child key name here there
    exact forest.eq_of_mem here there

/-- Two documents, and a text that is written into a section of one of them. -/
theorem isAtRest_reached_written :
    (reached Dotenv.load [("HOME", "/")] (.empty []) false
      [.load none (.text "<config a='1'><b><c>${HOME}</c><c/></b></config>"),
        .load none (.text "<config><b/></config>"), .sub 0 "b", .write 2 "c" (.integer 5)]).IsAtRest :=
  isAtRest_reached _ _ _ _ rfl

end Session

end XmlSettings
