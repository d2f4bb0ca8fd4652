import XmlSettings.Proofs.Session.Change

/-! # Sections that handles share

Keys lead from a handle to a section inside, key by key (`subAll`).  They lead there after any commands
that write over none of the entries on the way; once one is written over, they lead nowhere for good,
and what is written into the section that they led to is not seen along them (`subAll_aliases`).
-/

namespace XmlSettings.Session

variable {store after : Store} {handles left : List SectionId} {command : Command}
  {id child : SectionId} {key name : Text} {keys front back : List Text}

/-! ## Keys one after the other -/

theorem narrow_eq_ok_iff (nonEmpty : key ≠ "") :
    narrow store id key = .ok child ↔ (store.entries id).get? key = some (.nested child) := by
  rw [narrow, if_neg nonEmpty]
  split
  next none => simp [none]
  next found => simp [found]
  next found => simp [found]

theorem narrow_eq_notASection_iff (nonEmpty : key ≠ "") :
    narrow store id key = .error (.notASection name) ↔
      key = name ∧ ∃ value, (store.entries id).get? key = some (.plain value) := by
  rw [narrow, if_neg nonEmpty]
  split
  next none => simp [none]
  next found => simp [found]
  next found => simp [found]

/-- The section that keys lead to, one section inside the other. -/
def narrowAll (store : Store) (id : SectionId) (keys : List Text) : Except AccessError SectionId :=
  keys.foldlM (narrow store) id

theorem narrowAll_nil : narrowAll store id [] = .ok id := rfl

theorem narrowAll_cons : narrowAll store id (key :: keys) =
    (narrow store id key).bind fun child => narrowAll store child keys := rfl

theorem narrowAll_append : narrowAll store id (front ++ back) =
    (narrowAll store id front).bind fun child => narrowAll store child back :=
  List.foldlM_append

theorem lt_next_of_get? {slot : Slot} (found : (store.entries id).get? key = some slot) :
    id < store.next := by
  apply Nat.lt_of_not_le
  intro outside
  rw [Store.entries_of_le outside] at found
  cases found

theorem lt_of_get? (found : (store.entries id).get? key = some (.nested child)) : child < id :=
  store.entries_areBelow id _ (Entries.mem_of_get? found)

/-- Every key leads to a section before the one that it is in. -/
theorem le_of_narrowAll (nonEmpty : ∀ key ∈ keys, key ≠ "")
    (found : narrowAll store id keys = .ok child) : child ≤ id ∧ (keys ≠ [] → child < id) := by
  induction keys generalizing id with
  | nil =>
    rw [narrowAll_nil, Except.ok.injEq] at found
    subst found
    exact ⟨Nat.le_refl id, fun filled => absurd rfl filled⟩
  | cons key rest ih =>
    obtain ⟨first, later⟩ := List.forall_mem_cons.1 nonEmpty
    rw [narrowAll_cons] at found
    obtain ⟨next, narrowed, found⟩ := bind_eq_ok.1 found
    have below := lt_of_get? ((narrow_eq_ok_iff first).1 narrowed)
    have inner := Nat.lt_of_le_of_lt (ih later found).1 below
    exact ⟨Nat.le_of_lt inner, fun _ => inner⟩

/-- Whether keys lead nowhere since one of them holds a value that is no section. -/
def IsStopped (store : Store) (id : SectionId) (keys : List Text) : Prop :=
  ∃ name, narrowAll store id keys = .error (.notASection name)

theorem isStopped_of_plain {value : Value} (nonEmpty : key ≠ "")
    (plain : (store.entries id).get? key = some (.plain value)) : IsStopped store id (key :: keys) := by
  refine ⟨key, ?_⟩
  rw [narrowAll_cons, (narrow_eq_notASection_iff nonEmpty).2 ⟨rfl, value, plain⟩]
  rfl

theorem isStopped_cons (nonEmpty : key ≠ "")
    (nested : (store.entries id).get? key = some (.nested child)) :
    IsStopped store id (key :: keys) ↔ IsStopped store child keys := by
  unfold IsStopped
  rw [narrowAll_cons, (narrow_eq_ok_iff nonEmpty).2 nested]
  rfl

/-! ## Keys across a change -/

namespace Change

variable (change : Change store handles command after left)

include change

/-- A key that is not written over keeps its entry. -/
theorem get?_eq (inside : id < store.next)
    (spared : ∀ handle value, command = .write handle key value → value.isShowable = true →
      handles[handle]? ≠ some id) : (after.entries id).get? key = (store.entries id).get? key := by
  rcases change.entries inside with same | ⟨handle, other, value, rfl, known, showable, same⟩
  · rw [same]
  · rw [same, Entries.get?_put, if_neg]
    rintro rfl
    exact spared handle value rfl showable known

/-- What is no section stays none. -/
theorem exists_plain {value : Value} (found : (store.entries id).get? key = some (.plain value)) :
    ∃ other, (after.entries id).get? key = some (.plain other) := by
  rcases change.entries (lt_next_of_get? found) with same | ⟨_, written, _, _, _, _, same⟩
  · exact ⟨value, same ▸ found⟩
  · rw [same, Entries.get?_put]
    split
    next => exact ⟨_, rfl⟩
    next => exact ⟨value, found⟩

/-- Nothing becomes a section that was none. -/
theorem nested_of_nested (inside : id < store.next)
    (found : (after.entries id).get? key = some (.nested child)) :
    (store.entries id).get? key = some (.nested child) := by
  rcases change.entries inside with same | ⟨_, written, _, _, _, _, same⟩
  · exact same ▸ found
  · rw [same, Entries.get?_put] at found
    split at found
    next => cases found
    next => exact found

/-- A section under a key stays there, or a text is written over it. -/
theorem nested_or_plain (found : (store.entries id).get? key = some (.nested child)) :
    (after.entries id).get? key = some (.nested child) ∨
      ∃ value, (after.entries id).get? key = some (.plain value) := by
  rcases change.entries (lt_next_of_get? found) with same | ⟨_, written, _, _, _, _, same⟩
  · exact .inl (same ▸ found)
  · rw [same, Entries.get?_put]
    split
    next => exact .inr ⟨_, rfl⟩
    next => exact .inl found

/-- Keys lead where they led if none of the entries on the way is written over. -/
theorem narrowAll_of_spared (nonEmpty : ∀ key ∈ keys, key ≠ "")
    (found : narrowAll store id keys = .ok child)
    (spared : ∀ front key back node, keys = front ++ key :: back →
      narrowAll store id front = .ok node →
      ∀ handle value, command = .write handle key value → value.isShowable = true →
        handles[handle]? ≠ some node) :
    narrowAll after id keys = .ok child := by
  induction keys generalizing id with
  | nil => exact found
  | cons key rest ih =>
    obtain ⟨first, later⟩ := List.forall_mem_cons.1 nonEmpty
    rw [narrowAll_cons] at found ⊢
    obtain ⟨next, narrowed, found⟩ := bind_eq_ok.1 found
    have nested := (narrow_eq_ok_iff first).1 narrowed
    have kept := change.get?_eq (lt_next_of_get? nested) (spared [] key rest id rfl narrowAll_nil)
    have still : narrow after id key = .ok next := (narrow_eq_ok_iff first).2 (kept.trans nested)
    rw [still]
    apply ih later found
    intro front other back node split reached
    apply spared (key :: front) other back node (by rw [split]; rfl)
    rw [narrowAll_cons, narrowed]
    exact reached

/-- Keys that are stopped by a value that is no section are stopped for good. -/
theorem isStopped (nonEmpty : ∀ key ∈ keys, key ≠ "") (stopped : IsStopped store id keys) :
    IsStopped after id keys := by
  induction keys generalizing id with
  | nil =>
    obtain ⟨_, led⟩ := stopped
    cases led
  | cons key rest ih =>
    obtain ⟨first, later⟩ := List.forall_mem_cons.1 nonEmpty
    obtain ⟨name, led⟩ := stopped
    rw [narrowAll_cons] at led
    cases narrowed : narrow store id key with
    | error e =>
      rw [narrowed] at led
      cases led
      obtain ⟨_, value, plain⟩ := (narrow_eq_notASection_iff first).1 narrowed
      obtain ⟨_, plain⟩ := change.exists_plain plain
      exact isStopped_of_plain first plain
    | ok next =>
      rw [narrowed] at led
      rcases change.nested_or_plain ((narrow_eq_ok_iff first).1 narrowed) with nested | ⟨_, plain⟩
      · exact (isStopped_cons first nested).2 (ih later ⟨name, led⟩)
      · exact isStopped_of_plain first plain

/-- Keys lead to no other section than before. -/
theorem narrowAll_of_narrowAll (nonEmpty : ∀ key ∈ keys, key ≠ "") (inside : id < store.next)
    (found : narrowAll after id keys = .ok child) : narrowAll store id keys = .ok child := by
  induction keys generalizing id with
  | nil => exact found
  | cons key rest ih =>
    obtain ⟨first, later⟩ := List.forall_mem_cons.1 nonEmpty
    rw [narrowAll_cons] at found ⊢
    obtain ⟨next, narrowed, found⟩ := bind_eq_ok.1 found
    have nested := change.nested_of_nested inside ((narrow_eq_ok_iff first).1 narrowed)
    rw [(narrow_eq_ok_iff first).2 nested]
    exact ih later (Nat.lt_trans (lt_of_get? nested) inside) found

end Change

/-! ## Keys across a run -/

section Runs

variable {session : Session} {commands : List Command} {handle : Nat} {root : SectionId}

/-- Whether keys lead from a handle to a section. -/
def Leads (session : Session) (handle : Nat) (keys : List Text) (node : SectionId) : Prop :=
  ∃ root, session.handles[handle]? = some root ∧ narrowAll session.store root keys = .ok node

/-- Whether a command writes a text under a key of the section that the keys in front of it lead to. -/
def Overwrites (session : Session) (handle : Nat) (front : List Text) (key : Text)
    (command : Command) : Prop :=
  ∃ writer value node, command = .write writer key value ∧ value.isShowable = true ∧
    session.Leads handle front node ∧ session.handles[writer]? = some node

/-- Whether none of some commands writes over an entry on the way that keys lead. -/
def Spares (session : Session) (handle : Nat) (keys : List Text) : List Command → Prop
  | [] => True
  | command :: rest =>
    (∀ front key back, keys = front ++ key :: back → ¬session.Overwrites handle front key command) ∧
      (session.step command).1.Spares handle keys rest

theorem runAll_append (session : Session) (first second : List Command) :
    (session.runAll (first ++ second)).1 = ((session.runAll first).1.runAll second).1 := by
  induction first generalizing session with
  | nil => rfl
  | cons command rest ih => exact ih (session.step command).1

theorem handles_runAll (known : session.handles[handle]? = some root) (commands : List Command) :
    (session.runAll commands).1.handles[handle]? = some root := by
  induction commands generalizing session with
  | nil => exact known
  | cons command rest ih =>
    exact ih ((session.change_step command).known known)

theorem next_le_runAll (session : Session) (commands : List Command) :
    session.store.next ≤ (session.runAll commands).1.store.next := by
  induction commands generalizing session with
  | nil => exact Nat.le_refl _
  | cons command rest ih => exact Nat.le_trans (session.change_step command).next_le (ih _)

theorem narrowAll_runAll_of_spares (nonEmpty : ∀ key ∈ keys, key ≠ "")
    (known : session.handles[handle]? = some root)
    (found : narrowAll session.store root keys = .ok child)
    (spares : session.Spares handle keys commands) :
    narrowAll (session.runAll commands).1.store root keys = .ok child := by
  induction commands generalizing session with
  | nil => exact found
  | cons command rest ih =>
    have change := session.change_step command
    apply ih (change.known known) _ spares.2
    apply change.narrowAll_of_spared nonEmpty found
    intro front key back node split reached writer value written showable leads
    exact spares.1 front key back split
      ⟨writer, value, node, written, showable, ⟨root, known, reached⟩, leads⟩

theorem isStopped_runAll (nonEmpty : ∀ key ∈ keys, key ≠ "")
    (stopped : IsStopped session.store root keys) (commands : List Command) :
    IsStopped (session.runAll commands).1.store root keys := by
  induction commands generalizing session with
  | nil => exact stopped
  | cons command rest ih => exact ih ((session.change_step command).isStopped nonEmpty stopped)

theorem narrowAll_of_narrowAll_runAll (nonEmpty : ∀ key ∈ keys, key ≠ "")
    (inside : root < session.store.next)
    (found : narrowAll (session.runAll commands).1.store root keys = .ok child) :
    narrowAll session.store root keys = .ok child := by
  induction commands generalizing session with
  | nil => exact found
  | cons command rest ih =>
    have change := session.change_step command
    apply change.narrowAll_of_narrowAll nonEmpty inside
    exact ih (Nat.lt_of_lt_of_le inside change.next_le) found

/-! ## Writing -/

variable {writer : Nat} {value : Value} {node : SectionId}

theorem store_write (known : session.handles[writer]? = some node) (key : Text) (value : Value) :
    (session.step (.write writer key value)).1.store =
      if value.isShowable then session.store.set node key value.plainText else session.store := by
  split
  next showable =>
    obtain ⟨journal, _, stepped⟩ :=
      session.gives_write known key (Value.written_eq_ok_iff.2 ⟨showable, rfl⟩)
    rw [stepped]
  next hidden =>
    obtain ⟨journal, _, stepped⟩ :=
      session.gives_write_refused known key (Value.written_eq_error_iff.2 ⟨by simpa using hidden, rfl⟩)
    rw [stepped]

/-- A key that is written over stops the keys that lead to it. -/
theorem isStopped_of_overwrites (nonEmpty : ∀ key ∈ front, key ≠ "") (filled : key ≠ "")
    (known : session.handles[handle]? = some root) (inside : root < session.store.next)
    (overwrites : session.Overwrites handle front key command) :
    IsStopped (session.step command).1.store root (front ++ [key]) := by
  obtain ⟨writer, value, node, rfl, showable, ⟨_, same, found⟩, leads⟩ := overwrites
  cases known.symm.trans same
  -- The keys in front lead where they led, since what is written to comes before all that they pass.
  have still : narrowAll (session.step (.write writer key value)).1.store root front = .ok node := by
    apply (session.change_step _).narrowAll_of_spared nonEmpty found
    rintro start other rest above rfl passed _ _ same _ leadsAbove
    cases same
    cases leads.symm.trans leadsAbove
    rw [narrowAll_append, passed] at found
    have below := le_of_narrowAll (fun key member => nonEmpty key (List.mem_append_right _ member)) found
    exact absurd (below.2 (List.cons_ne_nil _ _)) (Nat.lt_irrefl node)
  have known : node < session.store.next := Nat.lt_of_le_of_lt (le_of_narrowAll nonEmpty found).1 inside
  have plain : ((session.step (.write writer key value)).1.store.entries node).get? key =
      some (.plain (.text value.plainText)) := by
    rw [store_write leads, if_pos showable, Store.entries_set, if_pos ⟨rfl, known⟩, Entries.get?_put,
      if_pos rfl]
  have stopped : IsStopped _ node [key] := isStopped_of_plain filled plain
  unfold IsStopped
  rw [narrowAll_append, still]
  exact stopped

/-! ## Asking for sections one inside the other -/

/-- Hand out the sections that keys lead to, one inside the other.  The last one is what is wanted. -/
def subAll (handle : Nat) (keys : List Text) : Action Nat :=
  keys.foldlM sub handle

theorem run_sub_ok (known : session.handles[handle]? = some root)
    (narrowed : narrow session.store root key = .ok child) :
    (sub handle key).run.run session =
      (.ok session.handles.length, { session with handles := session.handles ++ [child] }) := by
  unfold sub
  rw [run_bind_ok (run_sectionOf session known), run_bind_ok (run_get session), narrowed]
  rfl

theorem run_sub_error {e : AccessError} (known : session.handles[handle]? = some root)
    (narrowed : narrow session.store root key = .error e) :
    (sub handle key).run.run session = (.error (.access e), session) := by
  unfold sub
  rw [run_bind_ok (run_sectionOf session known), run_bind_ok (run_get session), narrowed]
  rfl

theorem run_subAll_ok (known : session.handles[handle]? = some root)
    (found : narrowAll session.store root keys = .ok child) :
    ∃ last more, (subAll handle keys).run.run session =
        (.ok last, { session with handles := session.handles ++ more }) ∧
      (session.handles ++ more)[last]? = some child := by
  induction keys generalizing session handle root with
  | nil =>
    cases found
    refine ⟨handle, [], ?_, by rw [List.append_nil]; exact known⟩
    rw [List.append_nil]
    rfl
  | cons key rest ih =>
    rw [narrowAll_cons] at found
    obtain ⟨next, narrowed, found⟩ := bind_eq_ok.1 found
    have opened : (session.handles ++ [next])[session.handles.length]? = some next :=
      List.getElem?_concat_length
    obtain ⟨last, more, run, leads⟩ :=
      @ih { session with handles := session.handles ++ [next] } _ _ opened found
    refine ⟨last, next :: more, ?_, by simpa using leads⟩
    show (sub handle key >>= fun inner => subAll inner rest).run.run session = _
    rw [run_bind_ok (run_sub_ok known narrowed), run]
    simp

theorem run_subAll_error {e : AccessError} (known : session.handles[handle]? = some root)
    (stopped : narrowAll session.store root keys = .error e) :
    ((subAll handle keys).run.run session).1 = .error (.access e) := by
  induction keys generalizing session handle root with
  | nil => cases stopped
  | cons key rest ih =>
    rw [narrowAll_cons] at stopped
    show ((sub handle key >>= fun inner => subAll inner rest).run.run session).1 = _
    cases narrowed : narrow session.store root key with
    | error _ =>
      rw [narrowed] at stopped
      cases stopped
      rw [run_bind_error (run_sub_error known narrowed)]
    | ok next =>
      rw [narrowed] at stopped
      rw [run_bind_ok (run_sub_ok known narrowed)]
      exact @ih { session with handles := session.handles ++ [next] } _ _
        List.getElem?_concat_length stopped

/-- Keys that give a handle lead to its section, also where the handle is given. -/
theorem narrowAll_of_run_subAll {last : Nat} {opened : Session}
    (known : session.handles[handle]? = some root)
    (given : (subAll handle keys).run.run session = (.ok last, opened)) :
    ∃ child, narrowAll opened.store root keys = .ok child ∧ opened.store = session.store ∧
      opened.handles[handle]? = some root ∧ opened.handles[last]? = some child := by
  cases found : narrowAll session.store root keys with
  | error e =>
    have failed := run_subAll_error known found
    rw [given] at failed
    cases failed
  | ok child =>
    obtain ⟨again, more, run, leads⟩ := run_subAll_ok known found
    cases given.symm.trans run
    refine ⟨child, found, rfl, ?_, leads⟩
    rw [List.getElem?_append_left (List.getElem?_eq_some_iff.1 known).1]
    exact known

/-! ## One section through two handles -/

section Through

variable {first second : Nat}

/-- What is done to the section of a handle, and what is asked of it. -/
inductive IsThrough : (Nat → Command) → Prop where
  | ask (query : Query) : IsThrough fun handle => .ask handle query
  | sub (key : Text) : IsThrough fun handle => .sub handle key
  | write (key : Text) (value : Value) : IsThrough fun handle => .write handle key value
  | save (path : Text) : IsThrough fun handle => .save handle path
  | decode (key : Text) (classes : Schema.Classes) (settings : Schema.Settings)
      (target : Schema.Target) : IsThrough fun handle => .decode handle key classes settings target

theorem run_bind_congr {α β : Type} {action other : Action α} (next : α → Action β)
    (same : action.run.run session = other.run.run session) :
    (action >>= next).run.run session = (other >>= next).run.run session := by
  cases given : other.run.run session with
  | mk result after =>
    rw [given] at same
    cases result with
    | error e => rw [run_bind_error given, run_bind_error same]
    | ok a => rw [run_bind_ok given, run_bind_ok same]

theorem run_sectionOf_congr (same : session.handles[first]? = session.handles[second]?) :
    (sectionOf first).run.run session = (sectionOf second).run.run session := by
  unfold sectionOf
  rw [run_bind_ok (run_get session), run_bind_ok (run_get session), same]

theorem run_entriesOf_congr (same : session.handles[first]? = session.handles[second]?) :
    (entriesOf first).run.run session = (entriesOf second).run.run session :=
  run_bind_congr _ (run_sectionOf_congr same)

/-- Two handles of one section cannot be told apart. -/
theorem step_congr {through : Nat → Command} (isThrough : IsThrough through)
    (same : session.handles[first]? = session.handles[second]?) :
    session.step (through first) = session.step (through second) := by
  have same : session.taken.handles[first]? = session.taken.handles[second]? := same
  have run : (through first).action.run.run session.taken =
      (through second).action.run.run session.taken := by
    cases isThrough with
    | ask query => exact run_bind_congr _ (run_entriesOf_congr same)
    | sub key =>
      simp only [Command.action, map_eq_pure_bind]
      exact run_bind_congr _ (run_bind_congr _ (run_sectionOf_congr same))
    | write key value => exact run_bind_congr _ (run_bind_congr _ (run_sectionOf_congr same))
    | save path => exact run_bind_congr _ (run_bind_congr _ (run_entriesOf_congr same))
    | decode key classes settings target =>
      simp only [Command.action, map_eq_pure_bind]
      exact run_bind_congr _ (run_bind_congr _ (run_sectionOf_congr same))
  rw [step_eq, step_eq, run]

theorem result_isSame (known : session.handles[first]? = some node)
    (same : session.handles[first]? = session.handles[second]?) :
    (session.step (.isSame first second)).2.result = .ok (.value (.flag true)) := by
  rw [step_eq]
  have run : (isSame first second).run.run session.taken = (.ok true, session.taken) := by
    unfold isSame
    rw [run_bind_ok (run_sectionOf session.taken known),
      run_bind_ok (run_sectionOf session.taken (same ▸ known))]
    show (Except.ok (node == node), _) = _
    rw [beq_self_eq_true]
  show ((isSame first second >>= fun b => pure (.value (.flag b)) : Action Reply).run.run _).1 = _
  rw [run_bind_ok run]
  rfl

end Through

end Runs

/-! ## Aliases -/

/-- Whether keys lead to the section of a handle, so that nothing tells the handle from the one that
    they give. -/
def LeadsToSectionOf (session : Session) (handle : Nat) (keys : List Text) (last : Nat) : Prop :=
  ∃ again after, (subAll handle keys).run.run session = (.ok again, after) ∧
    (after.step (.isSame last again)).2.result = .ok (.value (.flag true)) ∧
    ∀ through, IsThrough through → after.step (through last) = after.step (through again)

/-- Whether keys lead to no section since a value stands in their way, and what is written through a
    handle changes no section that some of them lead to. -/
def IsCutOff (session : Session) (handle : Nat) (keys : List Text) (last : Nat) : Prop :=
  (∃ name, ((subAll handle keys).run.run session).1 = .error (.access (.notASection name))) ∧
    ∀ start node, start <+: keys → session.Leads handle start node →
      ∀ name value, (session.step (.write last name value)).1.store.entries node =
        session.store.entries node

section Aliases

variable {session : Session} {commands : List Command} {handle last : Nat} {root node : SectionId}

theorem leadsToSectionOf_of_narrowAll (known : session.handles[handle]? = some root)
    (found : narrowAll session.store root keys = .ok child)
    (leads : session.handles[last]? = some child) : session.LeadsToSectionOf handle keys last := by
  obtain ⟨again, more, run, same⟩ := run_subAll_ok known found
  have kept : (session.handles ++ more)[last]? = some child := by
    rw [List.getElem?_append_left (List.getElem?_eq_some_iff.1 leads).1]
    exact leads
  refine ⟨again, _, run, ?_, fun through isThrough => ?_⟩
  · exact result_isSame kept (kept.trans same.symm)
  · exact step_congr isThrough (kept.trans same.symm)

/-- What is written into a section changes none of those around it. -/
theorem entries_write_of_ne {name : Text} (value : Value) (leads : session.handles[last]? = some child)
    (other : node ≠ child) : (session.step (.write last name value)).1.store.entries node =
      session.store.entries node := by
  rw [store_write leads]
  split
  next => rw [Store.entries_set, if_neg fun both => other both.1.symm]
  next => rfl

theorem isCutOff_of_isStopped (known : session.handles[handle]? = some root)
    (stopped : IsStopped session.store root keys) (leads : session.handles[last]? = some child)
    (below : ∀ start node, start <+: keys → session.Leads handle start node → child < node) :
    session.IsCutOff handle keys last := by
  obtain ⟨name, stopped⟩ := stopped
  refine ⟨⟨name, run_subAll_error known stopped⟩, ?_⟩
  intro start node first led _ value
  exact entries_write_of_ne value leads (Nat.ne_of_gt (below start node first led))

/-- Sections on the way are those that were there before, and come after the one at the end. -/
theorem lt_of_leads_runAll (nonEmpty : ∀ key ∈ keys, key ≠ "")
    (known : session.handles[handle]? = some root) (inside : root < session.store.next)
    (found : narrowAll session.store root keys = .ok child) {start : List Text}
    (first : start <+: keys) (shorter : start ≠ keys)
    (led : (session.runAll commands).1.Leads handle start node) : child < node := by
  obtain ⟨rest, rfl⟩ := first
  have before := fun key member => nonEmpty key (List.mem_append_left rest member)
  have behind := fun key member => nonEmpty key (List.mem_append_right start member)
  obtain ⟨_, same, led⟩ := led
  cases (handles_runAll known commands).symm.trans same
  rw [narrowAll_append, narrowAll_of_narrowAll_runAll before inside led] at found
  apply (le_of_narrowAll behind found).2
  rintro rfl
  exact shorter (List.append_nil start).symm

/-- After one of the entries on the way was written over, keys are cut off for good. -/
theorem isCutOff_runAll {further later : List Command}
    (nonEmpty : ∀ other ∈ front ++ key :: back, other ≠ "")
    (known : session.handles[handle]? = some root) (inside : root < session.store.next)
    (found : narrowAll session.store root (front ++ key :: back) = .ok child)
    (leads : session.handles[last]? = some child)
    (overwrites : (session.runAll further).1.Overwrites handle front key command) :
    (session.runAll (further ++ command :: later)).1.IsCutOff handle (front ++ [key]) last := by
  rw [List.append_cons] at nonEmpty found
  have onWay : ∀ other ∈ front ++ [key], other ≠ "" := fun other member =>
    nonEmpty other (List.mem_append_left back member)
  have stopped : IsStopped ((session.runAll further).1.step command).1.store root (front ++ [key]) := by
    apply isStopped_of_overwrites (fun other member => onWay other (List.mem_append_left _ member))
      (onWay key (List.mem_append_right _ List.mem_cons_self)) (handles_runAll known further) _ overwrites
    exact Nat.lt_of_lt_of_le inside (session.next_le_runAll further)
  have stopped : IsStopped (session.runAll (further ++ command :: later)).1.store root (front ++ [key]) := by
    rw [runAll_append]
    exact isStopped_runAll onWay stopped later
  have after := handles_runAll known (further ++ command :: later)
  apply isCutOff_of_isStopped after stopped (handles_runAll leads _)
  intro start node first led
  apply lt_of_leads_runAll nonEmpty known inside found (first.trans (List.prefix_append _ back)) _ led
  -- The keys lead nowhere, so those that lead anywhere are fewer.
  rintro rfl
  obtain ⟨_, same, led⟩ := led
  cases after.symm.trans same
  obtain ⟨name, stopped⟩ := stopped
  rw [narrowAll_append, stopped] at led
  cases led

end Aliases

/-- Keys lead to one section as long as none of the entries on the way is written over, also after any
    other commands.  After that they lead nowhere, and what is written into the section that they led to
    does not show on the way.  A text that is written changes one entry of one section. -/
theorem subAll_aliases (loader : Dotenv.Loader) (environment : Environment) (files : FileTree)
    (isWatched : Bool) (before : List Command) {handle last : Nat} {keys : List Text} {opened : Session}
    (nonEmpty : ∀ key ∈ keys, key ≠ "")
    (known : handle < (reached loader environment files isWatched before).handles.length)
    (given : (subAll handle keys).run.run (reached loader environment files isWatched before) =
      (.ok last, opened)) :
    (∀ further, opened.Spares handle keys further →
      (opened.runAll further).1.LeadsToSectionOf handle keys last) ∧
    (∀ further command front key back, keys = front ++ key :: back →
      (opened.runAll further).1.Overwrites handle front key command →
      ∀ later, (opened.runAll (further ++ command :: later)).1.IsCutOff handle (front ++ [key]) last) ∧
    ∀ writer node, (reached loader environment files isWatched before).handles[writer]? = some node →
      ∀ name value other, ((reached loader environment files isWatched before).step
          (.write writer name value)).1.store.entries other =
        if other = node ∧ value.isShowable = true then Entries.put name (.plain (.text value.plainText))
          ((reached loader environment files isWatched before).store.entries other)
        else (reached loader environment files isWatched before).store.entries other := by
  have inside := inside_reached loader environment files isWatched before
  generalize reached loader environment files isWatched before = session at *
  obtain ⟨root, known⟩ : ∃ root, session.handles[handle]? = some root :=
    ⟨_, List.getElem?_eq_getElem known⟩
  have rootInside := inside root (List.mem_of_getElem? known)
  obtain ⟨child, found, store, opened, leads⟩ := narrowAll_of_run_subAll known given
  refine ⟨fun further spares => ?_, ?_, ?_⟩
  · apply leadsToSectionOf_of_narrowAll (handles_runAll opened further) _ (handles_runAll leads further)
    exact narrowAll_runAll_of_spares nonEmpty opened found spares
  · rintro further command front key back rfl overwrites later
    exact isCutOff_runAll nonEmpty opened (store ▸ rootInside) found leads overwrites
  · intro writer node led name value other
    by_cases written : other = node ∧ value.isShowable = true
    · obtain ⟨rfl, showable⟩ := written
      rw [if_pos ⟨rfl, showable⟩, store_write led, if_pos showable, Store.entries_set,
        if_pos ⟨rfl, inside other (List.mem_of_getElem? led)⟩]
    · rw [if_neg written, store_write led]
      split
      next showable => rw [Store.entries_set, if_neg fun both => written ⟨both.1.symm, showable⟩]
      next => rfl

/-- A section in a section. -/
def twoDeep : Section := [("a", .table [("b", .table [("x", .text "1")])])]

/-- The section under `b` of the one under `a`, while it is written into, and after the section under
    `a` was written over. -/
theorem subAll_aliases_nested :
    let opened := ((subAll 0 ["a", "b"]).run.run (reached Dotenv.load [] (.empty []) false [.create twoDeep])).2
    (opened.runAll [.write 2 "x" (.text "2")]).1.LeadsToSectionOf 0 ["a", "b"] 2 ∧
      (opened.runAll [.write 0 "a" (.text "2"), .write 2 "x" (.text "3")]).1.IsCutOff 0 ["a"] 2 := by
  intro opened
  have given : (subAll 0 ["a", "b"]).run.run (reached Dotenv.load [] (.empty []) false [.create twoDeep]) = (.ok 2, opened) := rfl
  obtain ⟨leads, isCutOff, _⟩ := subAll_aliases Dotenv.load [] (.empty []) false _ (by decide) (by decide) given
  refine ⟨leads _ ⟨?_, trivial⟩, isCutOff [] _ [] "a" ["b"] rfl ?_ _⟩
  · rintro front key back split ⟨_, _, _, written, _⟩
    cases written
    have member : Text.ofString "x" ∈ (["a", "b"] : List Text) := split ▸ List.mem_append_right front List.mem_cons_self
    exact absurd member (by decide)
  · exact ⟨0, .text "2", 2, rfl, rfl, ⟨2, rfl, rfl⟩, rfl⟩

end XmlSettings.Session
