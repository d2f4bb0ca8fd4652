import XmlSettings.Proofs.FileTree.Tidy

/-! # Reading what was replaced

A file can be replaced exactly if its path leads to a file, or to nothing in a directory
(`replace_eq_ok_iff`).  What was put there is read back (`read_put_of_opensAt`), also under the tidy
form of the path, which leaves out names that do nothing (`read_tidy_of_replace`).  The walk that finds
the file to read takes the same steps as the one that found the file to replace: what was put there is
met at the end only, since a file is where no walk goes on.
-/

namespace XmlSettings.FileTree

/-! ## Names that do nothing -/

/-- Whether a name leads back to where it is met. -/
def isIdle (name : Text) : Prop := name = "" ∨ name = "."

/-- Some names, without some of the idle ones. -/
inductive Drops : List Text → List Text → Prop where
  | nil : Drops [] []
  | drop {name : Text} {names fewer : List Text} (idle : isIdle name) (more : Drops names fewer) :
      Drops (name :: names) fewer
  | keep (name : Text) {names fewer : List Text} (more : Drops names fewer) :
      Drops (name :: names) (name :: fewer)

theorem Drops.refl (names : List Text) : Drops names names := by
  induction names with
  | nil => exact .nil
  | cons name rest ih => exact .keep name ih

theorem Drops.append {names fewer : List Text} (front : List Text) (h : Drops names fewer) :
    Drops (front ++ names) (front ++ fewer) := by
  induction front with
  | nil => exact h
  | cons name rest ih => exact .keep name ih

theorem drops_tidyNames (names : List Text) : Drops names (Path.tidyNames names) := by
  induction names with
  | nil => exact .nil
  | cons name rest ih =>
    rw [Path.tidyNames_cons]
    split
    next idle => exact .drop idle ih
    next => exact .keep name ih

/-! ## Walking to a file -/

/-- A walk that ends where a file may be put. -/
inductive EndsAt (place : Place) : Found → Prop where
  | nothing : EndsAt place (.nothing place)
  | file (content : ByteArray) : EndsAt place (.node place (.file content))

/-- What stands at a place where a file may be put. -/
def MayHold (tree : FileTree) (place : Place) : Prop :=
  tree.nodeAt place = none ∨ ∃ content, tree.nodeAt place = some (.file content)

/-- A name that leads to something of its own. -/
structure IsOrdinary (name : Text) : Prop where
  notIdle : ¬(name = "" ∨ name = ".")
  notUp : ¬name = ".."
  fits : ¬nameLimit < name.systemSize

/-- The steps from a directory to a place where a file may be put, with the number of links that may
    still be followed.  No link stands at the end. -/
inductive LeadsTo (tree : FileTree) (place : Place) : Nat → Place → List Text → Prop where
  | idle {links : Nat} {here : Place} {name : Text} {rest : List Text} (idle : isIdle name)
      (more : tree.LeadsTo place links here rest) : tree.LeadsTo place links here (name :: rest)
  | up {links : Nat} {here : Place} {rest : List Text}
      (more : tree.LeadsTo place links here.tail rest) : tree.LeadsTo place links here (".." :: rest)
  | down {links : Nat} {here : Place} {name : Text} {rest : List Text} (named : IsOrdinary name)
      (directory : tree.nodeAt (name :: here) = some .directory)
      (more : tree.LeadsTo place links (name :: here) rest) : tree.LeadsTo place links here (name :: rest)
  | follow {links : Nat} {here : Place} {name target : Text} {rest : List Text}
      (named : IsOrdinary name) (link : tree.nodeAt (name :: here) = some (.link target))
      (more : tree.LeadsTo place links (if Path.isAbsolute target then [] else here)
        (Path.names target ++ rest)) :
      tree.LeadsTo place (links + 1) here (name :: rest)
  | last {links : Nat} {here : Place} {name : Text} {rest : List Text} (named : IsOrdinary name)
      (last : rest.isEmpty = true) (same : place = name :: here) (free : tree.MayHold place) :
      tree.LeadsTo place links here (name :: rest)

variable {tree : FileTree} {place : Place} {content : ByteArray}

theorem leadsTo_of_walk {found : Found} (ends : EndsAt place found) {links : Nat} {here : Place}
    {names : List Text} (walked : tree.walk false links here names = .ok found) :
    tree.LeadsTo place links here names := by
  -- The cases are the branches of the walk: most of them end in a fault, or with another node.
  induction links, here, names using walk.induct tree false with
  | case1 links here =>
    rw [walk] at walked
    cases walked
    cases ends
  | case2 links here name rest idle ih =>
    rw [walk, if_pos idle] at walked
    exact .idle idle (ih walked)
  | case3 links here rest ordinary ih =>
    rw [walk, if_neg ordinary, if_pos rfl] at walked
    exact .up (ih walked)
  | case4 links here name rest ordinary down long =>
    rw [walk, if_neg ordinary, if_neg down, if_pos long] at walked
    cases walked
  | case5 links here name rest ordinary down fits missing last =>
    rw [walk, if_neg ordinary, if_neg down, if_neg fits] at walked
    simp only [missing, last, if_true] at walked
    cases walked
    cases ends
    exact .last ⟨ordinary, down, fits⟩ last rfl (.inl missing)
  | case6 links here name rest ordinary down fits missing later =>
    rw [walk, if_neg ordinary, if_neg down, if_neg fits] at walked
    simp [missing, later] at walked
  | case7 links here name rest ordinary down fits directory ih =>
    rw [walk, if_neg ordinary, if_neg down, if_neg fits] at walked
    simp only [directory] at walked
    exact .down ⟨ordinary, down, fits⟩ directory (ih walked)
  | case8 links here name rest ordinary down fits old file last =>
    rw [walk, if_neg ordinary, if_neg down, if_neg fits] at walked
    simp only [file, last, if_true] at walked
    cases walked
    cases ends
    exact .last ⟨ordinary, down, fits⟩ last rfl (.inr ⟨old, file⟩)
  | case9 links here name rest ordinary down fits old file later =>
    rw [walk, if_neg ordinary, if_neg down, if_neg fits] at walked
    simp [file, later] at walked
  | case10 links here name rest ordinary down fits target link last =>
    rw [walk, if_neg ordinary, if_neg down, if_neg fits] at walked
    simp only [link, last, and_self, if_true] at walked
    cases walked
    cases ends
  | case11 here name rest ordinary down fits target link later =>
    rw [walk, if_neg ordinary, if_neg down, if_neg fits] at walked
    simp only [link, later, if_false] at walked
    cases walked
  | case12 here name rest ordinary down fits target link later links start ih =>
    rw [walk, if_neg ordinary, if_neg down, if_neg fits] at walked
    simp only [link, later, if_false] at walked
    exact .follow ⟨ordinary, down, fits⟩ link (ih walked)

theorem LeadsTo.mayHold {links : Nat} {here : Place} {names : List Text}
    (leads : tree.LeadsTo place links here names) : tree.MayHold place := by
  induction leads with
  | idle _ _ ih => exact ih
  | up _ ih => exact ih
  | down _ _ _ ih => exact ih
  | follow _ _ _ ih => exact ih
  | last _ _ _ free => exact free

/-- A place where a file may be put is not on the way to the working directory. -/
theorem MayHold.not_isSuffix (free : tree.MayHold place) : ¬place <:+ tree.working := by
  intro inside
  rcases free with missing | ⟨content, file⟩
  · simp [nodeAt, inside] at missing
  · simp [nodeAt, inside] at file

theorem nodeAt_put_self (free : tree.MayHold place) :
    (tree.put place (.file content)).nodeAt place = some (.file content) := by
  simp [nodeAt, put, free.not_isSuffix]

/-- Other things than files are where they were once a file is put somewhere. -/
theorem nodeAt_put_of_other (free : tree.MayHold place) {other : Place} {node : Node}
    (found : tree.nodeAt other = some node) (noFile : ∀ content, node ≠ .file content) :
    (tree.put place (.file content)).nodeAt other = some node := by
  unfold nodeAt at found ⊢
  split at found
  next inside => exact (if_pos inside).trans found
  next outside =>
    have apart : place.path ≠ other.path := by
      intro same
      have here : tree.nodeAt place = some node := by rw [nodeAt, if_neg free.not_isSuffix, same, found]
      rcases free with missing | ⟨content, file⟩
      · cases here.symm.trans missing
      · exact noFile content (Option.some.inj (here.symm.trans file))
    refine (if_neg outside).trans ?_
    rw [put, Entries.get?_put, if_neg apart, found]

theorem Drops.of_not_isIdle {name : Text} {names fewer : List Text}
    (h : Drops (name :: names) fewer) (ordinary : ¬isIdle name) :
    ∃ rest, fewer = name :: rest ∧ Drops names rest := by
  cases h with
  | drop idle => exact absurd idle ordinary
  | keep _ more => exact ⟨_, rfl, more⟩

theorem Drops.of_isEmpty {names fewer : List Text} (h : Drops names fewer)
    (isEmpty : names.isEmpty = true) : fewer = [] := by
  cases h with
  | nil => rfl
  | drop => simp at isEmpty
  | keep => simp at isEmpty

section Steps

variable {followLast : Bool} {links : Nat} {here : Place} {name : Text} {rest : List Text}

theorem walk_idle (idle : isIdle name) :
    tree.walk followLast links here (name :: rest) = tree.walk followLast links here rest := by
  rw [walk]
  exact if_pos idle

theorem walk_up :
    tree.walk followLast links here (".." :: rest) = tree.walk followLast links here.tail rest := by
  rw [walk, if_neg (by decide), if_pos rfl]

theorem walk_directory (named : IsOrdinary name)
    (directory : tree.nodeAt (name :: here) = some .directory) :
    tree.walk followLast links here (name :: rest) = tree.walk followLast links (name :: here) rest := by
  rw [walk, if_neg named.notIdle, if_neg named.notUp, if_neg named.fits]
  simp only [directory]

theorem walk_link {target : Text} (named : IsOrdinary name)
    (link : tree.nodeAt (name :: here) = some (.link target)) :
    tree.walk true (links + 1) here (name :: rest) =
      tree.walk true links (if Path.isAbsolute target then [] else here) (Path.names target ++ rest) := by
  rw [walk, if_neg named.notIdle, if_neg named.notUp, if_neg named.fits]
  simp only [link, Bool.not_true, Bool.false_eq_true, and_false, if_false]

theorem walk_nothing (named : IsOrdinary name) (missing : tree.nodeAt (name :: here) = none) :
    tree.walk followLast links here [name] = .ok (.nothing (name :: here)) := by
  rw [walk, if_neg named.notIdle, if_neg named.notUp, if_neg named.fits]
  simp only [missing, List.isEmpty_nil, if_true]

theorem walk_file (named : IsOrdinary name) (file : tree.nodeAt (name :: here) = some (.file content)) :
    tree.walk followLast links here [name] = .ok (.node (name :: here) (.file content)) := by
  rw [walk, if_neg named.notIdle, if_neg named.notUp, if_neg named.fits]
  simp only [file, List.isEmpty_nil, if_true]

end Steps

/-- The steps to a place where a file may be put lead to the file once it is there, with or without
    idle names, and also if links at the end are followed. -/
theorem LeadsTo.walk_put {links : Nat} {here : Place} {names fewer : List Text}
    (leads : tree.LeadsTo place links here names) (drops : Drops names fewer) (content : ByteArray) :
    (tree.put place (.file content)).walk true links here fewer =
      .ok (.node place (.file content)) := by
  have free := leads.mayHold
  -- What the steps pass on their way is no file, so it is there as before.
  induction leads generalizing fewer with
  | idle idle _ ih =>
    cases drops with
    | drop _ more => exact ih more
    | keep _ more =>
      rw [walk_idle idle]
      exact ih more
  | up _ ih =>
    obtain ⟨fewer, rfl, more⟩ := drops.of_not_isIdle (by unfold isIdle; decide)
    rw [walk_up]
    exact ih more
  | down named directory _ ih =>
    obtain ⟨fewer, rfl, more⟩ := drops.of_not_isIdle named.notIdle
    rw [walk_directory named (nodeAt_put_of_other free directory (by simp))]
    exact ih more
  | follow named link _ ih =>
    obtain ⟨fewer, rfl, more⟩ := drops.of_not_isIdle named.notIdle
    rw [walk_link named (nodeAt_put_of_other free link (by simp))]
    exact ih (more.append _)
  | last named last same =>
    obtain ⟨fewer, rfl, more⟩ := drops.of_not_isIdle named.notIdle
    subst same
    rw [more.of_isEmpty last, walk_file named (nodeAt_put_self free)]

/-! ## Slashes at the end -/

/-- Behind a slash at the end only a directory is found. -/
theorem LeadsTo.getLast?_ne {links : Nat} {here : Place} {names : List Text}
    (leads : tree.LeadsTo place links here names) : names.getLast? ≠ some ("" : Text) := by
  have last_cons {name : Text} {rest : List Text} (front : name ≠ "") (back : rest.getLast? ≠ some ("" : Text)) :
      (name :: rest).getLast? ≠ some ("" : Text) := by
    cases rest with
    | nil => simpa using front
    | cons => simpa [List.getLast?_cons_cons] using back
  induction leads with
  | @idle links here name rest _ more ih =>
    cases rest with
    | nil => cases more
    | cons => simpa [List.getLast?_cons_cons] using ih
  | up _ ih => exact last_cons (by decide) ih
  | down named _ _ ih => exact last_cons (fun empty => named.notIdle (.inl empty)) ih
  | follow named _ _ ih =>
    refine last_cons (fun empty => named.notIdle (.inl empty)) fun last => ih ?_
    rw [List.getLast?_append, last]
    rfl
  | last named last =>
    refine last_cons (fun empty => named.notIdle (.inl empty)) ?_
    simp [List.isEmpty_iff.1 last]

theorem withoutTrailingSlashes_of_getLast?_ne {path : Text}
    (last : (Path.names path).getLast? ≠ some ("" : Text)) : withoutTrailingSlashes path = path := by
  unfold withoutTrailingSlashes
  rw [← Text.toList_inj]
  cases backwards : path.toList.reverse with
  | nil => simp [List.reverse_eq_nil_iff.1 backwards]
  | cons c rest =>
    by_cases slash : c = .char '/'
    · have split : path.toList = rest.reverse ++ [.char '/'] := by
        rw [← List.reverse_reverse path.toList, backwards, List.reverse_cons, slash]
      refine absurd ?_ last
      simp [Path.names, Text.pieces, split, Text.cutAt_concat]
    · have kept : (List.dropWhile (· == .char '/') (c :: rest)).reverse = path.toList := by
        rw [List.dropWhile_cons_of_neg (by simpa using slash), ← backwards, List.reverse_reverse]
      have some : path.toList.isEmpty = false := by simpa using fun none => by simp [none] at backwards
      simp only [kept, some, Bool.false_eq_true, if_false]

/-! ## Files -/

variable {path sent : Text} {after : FileTree}

theorem systemPath_eq_ok_iff {null : Fault} :
    systemPath null path = .ok sent ↔ path.systemForm? = some sent ∧ .char '\x00' ∉ sent.toList := by
  unfold systemPath
  cases path.systemForm? with
  | none => simp
  | some form =>
    simp only [List.contains_iff_mem, Option.some.injEq]
    split
    next null => exact ⟨nofun, fun both => absurd (both.1 ▸ null) both.2⟩
    next free =>
      rw [Except.ok.injEq]
      exact ⟨fun same => ⟨same, same ▸ free⟩, fun both => both.1⟩

theorem systemPath_ofString {s : String} (free : '\x00' ∉ s.toList) (null : Fault) :
    systemPath null s = .ok s :=
  systemPath_eq_ok_iff.2 ⟨Text.systemForm?_ofString s, by simpa using free⟩

/-- Whether a path leads to a place where a file may be put: to a file, or to nothing in a directory. -/
def OpensAt (tree : FileTree) (path : Text) (place : Place) : Prop :=
  ∃ sent found, systemPath .nullByte path = .ok sent ∧ tree.find false sent = .ok found ∧ EndsAt place found

/-- A name of nothing in the working directory is the path of a file that may be made. -/
theorem opensAt_of_missing {s : String} (free : '\x00' ∉ s.toList) (named : IsOrdinary s)
    (single : Path.names s = [Text.ofString s]) (relative : Path.isAbsolute s = false)
    (missing : tree.nodeAt (.ofString s :: tree.working) = none) :
    tree.OpensAt s (.ofString s :: tree.working) := by
  refine ⟨s, .nothing _, systemPath_ofString free .nullByte, ?_, .nothing⟩
  rw [find, if_neg fun empty => named.notIdle (.inl empty), start, relative, single]
  exact walk_nothing named missing

theorem leadsTo_of_find {found : Found} (walked : tree.find false path = .ok found) (ends : EndsAt place found) :
    path ≠ "" ∧ tree.LeadsTo place linkLimit (tree.start path) (Path.names path) := by
  unfold find at walked
  split at walked
  next => cases walked
  next filled => exact ⟨filled, leadsTo_of_walk ends walked⟩

theorem replace_of_opensAt (opens : tree.OpensAt path place) (content : ByteArray) :
    tree.replace path content = .ok (tree.put place (.file content)) := by
  obtain ⟨sent, found, goes, walked, ends⟩ := opens
  have same := withoutTrailingSlashes_of_getLast?_ne (leadsTo_of_find walked ends).2.getLast?_ne
  rw [replace, systemPath_eq_ok_iff.2 (systemPath_eq_ok_iff.1 goes)]
  simp only [bind, Except.bind, same, walked, ne_eq, not_true_eq_false, if_false]
  cases ends <;> rfl

/-- A file is replaced exactly if its path leads to where a file may be put. -/
theorem replace_eq_ok_iff : tree.replace path content = .ok after ↔
    ∃ place, tree.OpensAt path place ∧ after = tree.put place (.file content) := by
  constructor
  · intro h
    unfold replace at h
    cases goes : systemPath (.nullCharacter "open") path with
    | error fault => simp [goes, bind, Except.bind] at h
    | ok sent =>
      cases walked : tree.find false (withoutTrailingSlashes sent) with
      | error fault => simp [goes, walked, bind, Except.bind] at h
      | ok found =>
        simp only [goes, walked, bind, Except.bind] at h
        split at h
        next => cases h
        next same =>
          rw [Decidable.not_not.1 same] at walked
          have goes : systemPath .nullByte path = .ok sent := systemPath_eq_ok_iff.2 (systemPath_eq_ok_iff.1 goes)
          cases found with
          | nothing place =>
            cases h
            exact ⟨place, ⟨sent, _, goes, walked, .nothing⟩, rfl⟩
          | node place node =>
            cases node with
            | file old =>
              cases h
              exact ⟨place, ⟨sent, _, goes, walked, .file old⟩, rfl⟩
            | directory => cases h
            | link target => cases h
  · rintro ⟨place, opens, rfl⟩
    exact replace_of_opensAt opens content

/-- The content of a file is read back. -/
theorem read_put_of_opensAt (opens : tree.OpensAt path place) (content : ByteArray) :
    (tree.put place (.file content)).read path = .ok content := by
  obtain ⟨sent, found, goes, walked, ends⟩ := opens
  obtain ⟨filled, leads⟩ := leadsTo_of_find walked ends
  have reached := leads.walk_put (.refl _) content
  simp only [read, goes, find, bind, Except.bind, if_neg filled]
  simp only [start, put] at reached ⊢
  rw [reached]

theorem walk_replicate_empty {links : Nat} {here : Place} {names : List Text} (k : Nat) :
    tree.walk true links here (List.replicate k ("" : Text) ++ names) = tree.walk true links here names := by
  induction k with
  | zero => rfl
  | succ k ih => rw [List.replicate_succ, List.cons_append, walk_idle (.inl rfl), ih]

/-- The content of a file is read back, also by the tidy form of the path that it was put at. -/
theorem read_tidy_of_replace (h : tree.replace path content = .ok after) :
    after.read (Path.tidy path) = .ok content := by
  obtain ⟨place, ⟨sent, found, goes, walked, ends⟩, rfl⟩ := replace_eq_ok_iff.1 h
  obtain ⟨comes, noNull⟩ := systemPath_eq_ok_iff.1 goes
  obtain ⟨filled, leads⟩ := leadsTo_of_find walked ends
  have reached := leads.walk_put (drops_tidyNames (Path.names sent)) content
  have named : Path.tidyNames (Path.names sent) ≠ [] := by
    intro none
    rw [none, walk] at reached
    cases reached
  have goes : systemPath .nullByte (Path.tidy path) = .ok (Path.tidy sent) := by
    refine systemPath_eq_ok_iff.2 ⟨Path.systemForm?_tidy comes named, fun null => ?_⟩
    rcases Path.mem_of_mem_tidy named null with slash | inside
    · cases slash
    · exact noNull inside
  obtain ⟨k, names⟩ := Path.names_tidy named
  have filled : Path.tidy sent ≠ "" := by
    intro empty
    obtain ⟨name, member⟩ := List.exists_mem_of_ne_nil _ named
    have inside : name ∈ Path.names (Path.tidy sent) := by
      rw [names]
      exact List.mem_append_right _ member
    rw [empty] at inside
    exact (Path.mem_tidyNames member).2.1 (List.mem_singleton.1 inside)
  simp only [read, goes, find, bind, Except.bind, if_neg filled, names, walk_replicate_empty, start,
    Path.isAbsolute_tidy named]
  simp only [start, put] at reached ⊢
  rw [reached]

end XmlSettings.FileTree
