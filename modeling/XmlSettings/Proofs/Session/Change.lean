import XmlSettings.Dotenv.Load
import XmlSettings.Proofs.Outcome
import XmlSettings.Proofs.Session.Frame
import XmlSettings.Proofs.Store.Sections

/-! # What a command does to sections

A command hands out a section, writes one entry of one section, or adds sections behind those that
are there (`Change`).  Whatever else it does touches neither the sections nor the handles, also where
it fails.  So an entry changes in one way only: a text is written over it (`Change.entries`).
-/

namespace XmlSettings

open Settings (LoadError raw)

/-! ## What is loaded -/

namespace Settings

variable {loader : Dotenv.Loader} {environment : Environment} {files : FileTree} {envFile? : Option Text}
  {entries : Section}

/-- What is loaded are the settings of a document, expanded in one environment. -/
theorem exists_raw_of_load {document : Xml.Document}
    (loaded : (load loader environment files envFile? document).result = .ok entries) :
    ∃ later source, raw document = .ok source ∧ Value.expandEntries later source = .ok entries := by
  unfold load at loaded
  split at loaded
  next => cases loaded
  next source accepted =>
    split at loaded
    next => cases loaded
    next later _ _ =>
      split at loaded
      next => cases loaded
      next expanded =>
        cases loaded
        exact ⟨later, source, accepted, expanded⟩

theorem exists_raw_of_loadFile {path : Text}
    (loaded : (loadFile loader environment files envFile? path).result = .ok entries) :
    ∃ document later source, raw document = .ok source ∧
      Value.expandEntries later source = .ok entries := by
  unfold loadFile at loaded
  simp only at loaded
  split at loaded
  next => cases loaded
  next content _ =>
    split at loaded
    next refused =>
      rw [refused] at loaded
      cases loaded
    next => exact ⟨_, exists_raw_of_load loaded⟩

end Settings

namespace Session

/-! ## Actions that keep the sections -/

/-- Whether an action keeps the sections and the handles. -/
def KeepsSections {α : Type} (action : Action α) : Prop :=
  ∀ session : Session, (action.run.run session).2.store = session.store ∧
    (action.run.run session).2.handles = session.handles

theorem Touches.keepsSections {α : Type} {parts : List Part} {action : Action α}
    (touches : Touches parts action) (untouched : .sections ∉ parts) : KeepsSections action :=
  fun session => touches session .sections untouched

theorem KeepsSections.pure {α : Type} (a : α) : KeepsSections (Pure.pure a : Action α) :=
  fun _ => ⟨rfl, rfl⟩

/-! ## Commands -/

/-- Whether a command gets settings through a registry. -/
def Command.isIndirect : Command → Bool
  | loadWith _ _ _ | loadFileWith _ _ _ => true
  | _ => false

/-- The sections and the handles that a command may leave, from those that there are. -/
inductive Change (store : Store) (handles : List SectionId) :
    Command → Store → List SectionId → Prop where
  | kept (command : Command) : Change store handles command store handles
  | narrowed {handle : Nat} {key : Text} {id child : SectionId}
      (known : handles[handle]? = some id) (found : narrow store id key = .ok child) :
      Change store handles (.sub handle key) store (handles ++ [child])
  | written {handle : Nat} {key : Text} {value : Value} {id : SectionId}
      (known : handles[handle]? = some id) (showable : value.isShowable = true) :
      Change store handles (.write handle key value) (store.set id key value.plainText) handles
  | loaded {document : Xml.Document} {source entries : Section} (command : Command)
      {environment : Environment} (accepted : raw document = .ok source)
      (expanded : Value.expandEntries environment source = .ok entries) :
      Change store handles command (store.add entries).1 (handles ++ [(store.add entries).2])
  | created {entries : Section} :
      Change store handles (.create entries) (store.add entries).1
        (handles ++ [(store.add entries).2])
  | registered {registry : Nat} {name : Text} {entries : Section} :
      Change store handles (.register registry name (.fixed entries)) (store.add entries).1 handles
  | copied {command : Command} (source : SectionId) (indirect : command.isIndirect = true) :
      Change store handles command (store.copy source).1 (handles ++ [store.next])

section Commands

variable {session after : Session} {command : Command}

/-- Whether an action leaves what a command may leave. -/
def Leaves {α : Type} (session : Session) (command : Command) (action : Action α) : Prop :=
  Change session.store session.handles command (action.run.run session).2.store
    (action.run.run session).2.handles

theorem KeepsSections.leaves {α : Type} {action : Action α} (kept : KeepsSections action)
    (session : Session) (command : Command) : session.Leaves command action := by
  obtain ⟨store, handles⟩ := kept session
  rw [Leaves, store, handles]
  exact .kept command

theorem Leaves.bind {α β : Type} {action : Action α} {next : α → Action β}
    (leaves : session.Leaves command action) (rest : ∀ a, KeepsSections (next a)) :
    session.Leaves command (action >>= next) := by
  unfold Leaves at leaves ⊢
  cases given : action.run.run session with
  | mk result after =>
    rw [given] at leaves
    cases result with
    | error e =>
      rw [run_bind_error given]
      exact leaves
    | ok a =>
      rw [run_bind_ok given]
      obtain ⟨store, handles⟩ := rest a after
      rw [store, handles]
      exact leaves

theorem Leaves.map {α β : Type} {action : Action α} (f : α → β)
    (leaves : session.Leaves command action) : session.Leaves command (f <$> action) := by
  rw [map_eq_pure_bind]
  exact leaves.bind fun _ => .pure _

/-! ### Loading -/

theorem leaves_takeOver {load : Settings.Load} (command : Command)
    (source : ∀ entries, load.result = .ok entries →
      ∃ document environment source, raw document = .ok source ∧
        Value.expandEntries environment source = .ok entries) :
    session.Leaves command (takeOver load) := by
  obtain ⟨environment, records, result⟩ := load
  cases result with
  | error e => exact .kept command
  | ok entries =>
    obtain ⟨document, later, raw, accepted, expanded⟩ := source entries rfl
    exact .loaded command accepted expanded

theorem leaves_load (command : Command) (envFile? : Option Text) (document : Xml.Document) :
    session.Leaves command (load envFile? document) := by
  rw [Leaves, run_load]
  apply leaves_takeOver command
  intro entries loaded
  exact ⟨document, Settings.exists_raw_of_load loaded⟩

theorem leaves_loadFile (command : Command) (envFile? : Option Text) (path : Text) :
    session.Leaves command (loadFile envFile? path) := by
  rw [Leaves, run_loadFile]
  apply leaves_takeOver command
  intro entries loaded
  exact Settings.exists_raw_of_loadFile loaded

/-- What is loaded through an adapter comes from a document, or is a copy of a section. -/
theorem leaves_adapter {number : Nat} {name : Text} {next : Adapter → Action Nat}
    (indirect : command.isIndirect = true)
    (xml : ∀ envFile?, session.Leaves command (next (.xml envFile?)))
    (fixed : ∀ id, next (.fixed id) = copy id) :
    session.Leaves command (adapter number name >>= next) := by
  unfold Leaves
  have found := run_adapter session number name
  cases known : adapterAt session.registries number name with
  | error e =>
    rw [known] at found
    rw [run_bind_error found]
    exact .kept command
  | ok adapter =>
    rw [known] at found
    rw [run_bind_ok found]
    cases adapter with
    | xml envFile? => exact xml envFile?
    | fixed source =>
      rw [fixed]
      exact .copied source indirect

/-! ### Registering -/

theorem leaves_register (number : Nat) (name : Text) (new : NewAdapter) :
    session.Leaves (.register number name new) (register number name new) := by
  unfold Leaves register
  have found := run_registryOf session number
  cases known : registryAt session.registries number with
  | error e =>
    rw [known] at found
    rw [run_bind_error found]
    exact .kept _
  | ok registry =>
    rw [known] at found
    rw [run_bind_ok found, run_bind_ok (run_get session)]
    cases new with
    | nothing => exact .kept _
    | xml envFile? =>
      simp only [NewAdapter.adapter?]
      cases registry.register name (some (.xml envFile?)) <;> exact .kept _
    | fixed entries =>
      simp only [NewAdapter.adapter?]
      cases registry.register name (some (.fixed (session.store.add entries).2)) with
      | error e => exact .kept _
      | ok registry => exact .registered

/-! ### Every command -/

theorem leaves_sub (handle : Nat) (key : Text) :
    session.Leaves (.sub handle key) (sub handle key) := by
  unfold Leaves sub
  cases known : session.handles[handle]? with
  | none =>
    rw [run_bind_error (run_sectionOf_unknown session known)]
    exact .kept _
  | some id =>
    rw [run_bind_ok (run_sectionOf session known), run_bind_ok (run_get session)]
    cases found : narrow session.store id key with
    | error e => exact .kept _
    | ok child => exact .narrowed known found

theorem leaves_write (handle : Nat) (key : Text) (value : Value) :
    session.Leaves (.write handle key value) (write handle key value) := by
  unfold Leaves write
  cases known : session.handles[handle]? with
  | none =>
    rw [run_bind_error (run_sectionOf_unknown session known)]
    exact .kept _
  | some id =>
    rw [run_bind_ok (run_sectionOf session known)]
    cases written : value.written with
    | error e => exact .kept _
    | ok text =>
      obtain ⟨showable, rfl⟩ := Value.written_eq_ok_iff.1 written
      exact .written known showable

theorem leaves_action (session : Session) (command : Command) :
    session.Leaves command command.action := by
  by_cases touched : .sections ∈ command.parts
  · cases command with
    | load envFile? document => exact (leaves_load _ envFile? document).map _
    | loadFile envFile? path => exact (leaves_loadFile _ envFile? path).map _
    | create entries => exact Leaves.map _ .created
    | sub handle key => exact (leaves_sub handle key).map _
    | write handle key value => exact (leaves_write handle key value).bind fun _ => .pure _
    | register registry name adapter => exact (leaves_register registry name adapter).bind fun _ => .pure _
    | loadWith registry name document =>
      refine (leaves_adapter rfl (fun envFile? => ?_) fun _ => rfl).map _
      exact leaves_load _ envFile? document
    | loadFileWith registry name path =>
      refine (leaves_adapter rfl (fun envFile? => ?_) fun _ => rfl).map _
      exact leaves_loadFile _ envFile? path
    | _ => simp [Command.parts] at touched
  · exact ((Touches.action command).keepsSections touched).leaves session command

/-- What a command leaves of the sections and the handles. -/
theorem change_step (session : Session) (command : Command) :
    Change session.store session.handles command (session.step command).1.store
      (session.step command).1.handles :=
  leaves_action session.taken command

end Commands

/-! ## What a change keeps -/

namespace Change

variable {store after : Store} {handles left : List SectionId} {command : Command}

/-- A handle leads to the same section forever. -/
theorem known (change : Change store handles command after left) {handle : Nat} {id : SectionId}
    (known : handles[handle]? = some id) : left[handle]? = some id := by
  have bound := (List.getElem?_eq_some_iff.1 known).1
  cases change with
  | kept | written | registered => exact known
  | narrowed | loaded | created | copied =>
    rw [List.getElem?_append_left bound]
    exact known

theorem next_le (change : Change store handles command after left) : store.next ≤ after.next := by
  cases change with
  | kept | narrowed => exact Nat.le_refl _
  | written => rw [Store.next_set]
  | loaded | created | registered => exact store.next_le_add _
  | copied source =>
    rw [Store.next_copy]
    exact Nat.le_succ _

/-- Only writing a text changes an entry, and only the one under its key. -/
theorem entries (change : Change store handles command after left) {id : SectionId}
    (inside : id < store.next) :
    after.entries id = store.entries id ∨
      ∃ handle key value, command = .write handle key value ∧ handles[handle]? = some id ∧
        value.isShowable = true ∧
        after.entries id = (store.entries id).put key (.plain (.text value.plainText)) := by
  cases change with
  | kept | narrowed => exact .inl rfl
  | loaded | created | registered => exact .inl (Store.entries_add_of_lt inside _)
  | copied source =>
    rw [Store.entries_copy, if_neg (Nat.ne_of_lt inside)]
    exact .inl rfl
  | @written handle key value target known showable =>
    rw [Store.entries_set]
    by_cases same : target = id
    · subst same
      rw [if_pos ⟨rfl, inside⟩]
      exact .inr ⟨handle, key, value, rfl, known, showable, rfl⟩
    · rw [if_neg fun both => same both.1]
      exact .inl rfl

/-- Handles lead to sections that there are. -/
theorem inside (change : Change store handles command after left)
    (before : ∀ id ∈ handles, id < store.next) : ∀ id ∈ left, id < after.next := by
  have old : ∀ id ∈ handles, id < after.next := fun id member =>
    Nat.lt_of_lt_of_le (before id member) change.next_le
  cases change with
  | kept | written | registered => exact old
  | @narrowed handle key id child known found =>
    apply List.forall_mem_append.2 ⟨old, List.forall_mem_singleton.2 ?_⟩
    exact Nat.lt_of_le_of_lt (le_of_narrow found) (before id (List.mem_of_getElem? known))
  | loaded | created =>
    exact List.forall_mem_append.2 ⟨old, List.forall_mem_singleton.2 (store.lt_next_add _)⟩
  | copied source =>
    apply List.forall_mem_append.2 ⟨old, List.forall_mem_singleton.2 ?_⟩
    rw [Store.next_copy]
    exact Nat.lt_succ_self _

end Change

/-! ## Runs -/

/-- A session after some commands. -/
def reached (loader : Dotenv.Loader) (environment : Environment) (files : FileTree) (isWatched : Bool)
    (commands : List Command) : Session :=
  ((start loader environment files isWatched).runAll commands).1

section Reached

variable (loader : Dotenv.Loader) (environment : Environment) (files : FileTree) (isWatched : Bool)

/-- The settings of a document, with a text written into them. -/
theorem table_written {document : Xml.Document} {source entries : Section}
    (accepted : raw document = .ok source)
    (expanded : Value.expandEntries environment source = .ok entries) (key text : Text) :
    ∃ id, (reached loader environment files isWatched
        [.load none document, .write 0 key (.text text)]).handles[0]? = some id ∧
      (reached loader environment files isWatched
          [.load none document, .write 0 key (.text text)]).store.table id =
        Entries.put key (.text text) entries := by
  obtain ⟨journal, _, loading⟩ :=
    gives_load (isFileless_start loader environment files isWatched) accepted expanded
  have known := handles_opened_new (start loader environment files isWatched) entries
  have written := Store.table_set (Store.lt_next_add Store.empty entries) key text
  rw [Store.table_add] at written
  rw [reached, runAll, loading]
  exact ⟨_, known, written⟩

/-- Loading a document given as itself and writing into its settings leaves the files alone. -/
theorem files_written {document : Xml.Document} {source entries : Section}
    (accepted : raw document = .ok source)
    (expanded : Value.expandEntries environment source = .ok entries) (key text : Text) :
    (reached loader environment files isWatched
      [.load none document, .write 0 key (.text text)]).files = files := by
  obtain ⟨journal, _, loading⟩ :=
    gives_load (isFileless_start loader environment files isWatched) accepted expanded
  rw [reached, runAll, loading]
  rfl

theorem inside_runAll {session : Session} (before : ∀ id ∈ session.handles, id < session.store.next)
    (commands : List Command) :
    ∀ id ∈ (session.runAll commands).1.handles, id < (session.runAll commands).1.store.next := by
  induction commands generalizing session with
  | nil => exact before
  | cons command rest ih => exact ih ((session.change_step command).inside before)

theorem inside_reached (commands : List Command) :
    ∀ id ∈ (reached loader environment files isWatched commands).handles,
      id < (reached loader environment files isWatched commands).store.next :=
  inside_runAll (fun _ member => absurd member List.not_mem_nil) commands

end Reached

end Session

end XmlSettings
