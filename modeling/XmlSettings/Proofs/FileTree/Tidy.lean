import Mathlib.Data.List.Forall2
import XmlSettings.FileTree.Basic
import XmlSettings.Proofs.Text.Pieces
import XmlSettings.Proofs.Text.System

/-! # Tidy paths

The tidy form of a path has its tidy names, behind the slashes that the path starts with (`names_tidy`).
It makes no difference whether a path is made tidy before it goes to the operating system or behind that
(`systemForm?_tidy`).
-/

namespace XmlSettings.Path

open XmlSettings.Text (IsAscii)

variable {path sent name : Text} {parts forms : List Text}

/-! ## Names of a tidy path -/

theorem tidyNames_cons (name : Text) (rest : List Text) :
    tidyNames (name :: rest) =
      if name = "" ∨ name = "." then tidyNames rest else name :: tidyNames rest := by
  by_cases idle : name = "" ∨ name = "."
  · rw [if_pos idle]
    rcases idle with rfl | rfl <;> simp [tidyNames]
  · rw [if_neg idle]
    rw [not_or] at idle
    simp [tidyNames, idle]

theorem mem_tidyNames (member : name ∈ tidyNames (names path)) :
    name ∈ names path ∧ name ≠ "" ∧ name ≠ "." := by
  obtain ⟨inside, kept⟩ := List.mem_filter.1 member
  exact ⟨inside, by simpa using kept⟩

theorem names_intercalate (some : parts ≠ []) (free : ∀ part ∈ parts, .char '/' ∉ part.toList) :
    names (Text.intercalate "/" parts) = parts :=
  Text.pieces_intercalate some free

/-- A text of slashes. -/
def slashes (k : Nat) : Text := .ofList (List.replicate k (.char '/'))

@[simp] theorem slashes_zero : slashes 0 = "" := rfl

theorem slashes_succ (k : Nat) : slashes (k + 1) = "/" ++ slashes k := rfl

theorem names_slashes_append (k : Nat) (path : Text) :
    names (slashes k ++ path) = List.replicate k ("" : Text) ++ names path := by
  induction k with
  | zero => simp
  | succ k ih =>
    rw [slashes_succ, Text.append_assoc, List.replicate_succ, List.cons_append, ← ih]
    simp [names, Text.pieces, Text.cutAt]

theorem exists_root_eq (path : Text) :
    ∃ k, root path = slashes k ∧ (isAbsolute path = true ↔ k ≠ 0) := by
  unfold root isAbsolute
  split
  next found => exact ⟨1, rfl, by simp [found]⟩
  next found => exact ⟨2, rfl, by simp [found]⟩
  next found => exact ⟨1, rfl, by simp [found]⟩
  next other =>
    refine ⟨0, rfl, ?_⟩
    cases chars : path.toList with
    | nil => simp
    | cons first rest =>
      have apart : first ≠ .char '/' := fun same => other rest (same ▸ chars)
      simpa using apart

theorem tidy_eq (named : tidyNames (names path) ≠ []) :
    tidy path = root path ++ Text.intercalate "/" (tidyNames (names path)) := by
  obtain ⟨k, starts, isAbsolute⟩ := exists_root_eq path
  have some : ¬(tidyNames (names path)).isEmpty = true := by simpa using named
  unfold tidy
  simp only
  split
  next => rfl
  next relative =>
    obtain rfl : k = 0 := Decidable.not_not.1 fun positive => relative (isAbsolute.2 positive)
    rw [starts, slashes_zero, Text.empty_append, ofNames, if_neg some]

/-- The names of a tidy path are the tidy names, behind empty ones for the slashes in front. -/
theorem names_tidy (named : tidyNames (names path) ≠ []) :
    ∃ k, names (tidy path) = List.replicate k ("" : Text) ++ tidyNames (names path) := by
  obtain ⟨k, starts, -⟩ := exists_root_eq path
  refine ⟨k, ?_⟩
  rw [tidy_eq named, starts, names_slashes_append, names_intercalate named]
  exact fun part member => Text.not_mem_of_mem_pieces (mem_tidyNames member).1

theorem isAbsolute_tidy (named : tidyNames (names path) ≠ []) :
    isAbsolute (tidy path) = isAbsolute path := by
  obtain ⟨k, starts, absolute⟩ := exists_root_eq path
  rw [tidy_eq named, starts, Bool.eq_iff_iff, absolute]
  cases k with
  | succ k => simp [slashes_succ, isAbsolute]
  | zero =>
    obtain ⟨first, rest, split⟩ := List.exists_cons_of_ne_nil named
    have member : first ∈ tidyNames (names path) := split ▸ List.mem_cons_self
    obtain ⟨inside, filled, -⟩ := mem_tidyNames member
    have free := Text.not_mem_of_mem_pieces inside
    obtain ⟨c, more, chars⟩ := List.exists_cons_of_ne_nil fun empty => filled (Text.toList_eq_nil_iff.1 empty)
    have head : (Text.intercalate "/" (first :: rest)).toList.head? = some c := by
      cases rest <;> simp [List.intercalate_cons_cons, chars]
    rw [slashes_zero, Text.empty_append, split]
    simp only [isAbsolute, head]
    have apart : c ≠ .char '/' := fun same => free (chars ▸ same ▸ List.mem_cons_self)
    simpa using apart

theorem mem_of_mem_tidy (named : tidyNames (names path) ≠ []) {c : Rune} (member : c ∈ (tidy path).toList) :
    c = .char '/' ∨ c ∈ path.toList := by
  obtain ⟨k, starts, -⟩ := exists_root_eq path
  rw [tidy_eq named, starts, Text.toList_append, List.mem_append] at member
  rcases member with slash | member
  · exact .inl (List.eq_of_mem_replicate slash)
  · rcases Text.mem_intercalate member with slash | ⟨name, known, inside⟩
    · exact .inl slash
    · exact .inr (Text.mem_of_mem_pieces (mem_tidyNames known).1 inside)

/-! ## Paths that go to the operating system -/

theorem isAscii_slash : IsAscii '/' 0x2F := ⟨by decide, rfl⟩

theorem isAscii_dot : IsAscii '.' 0x2E := ⟨by decide, rfl⟩

/-- Whether names come back one by one. -/
abbrev ComeBack (parts forms : List Text) : Prop :=
  List.Forall₂ (fun part form => part.systemForm? = some form) parts forms

theorem intercalate_cons_cons (first second : Text) (rest : List Text) :
    Text.intercalate "/" (first :: second :: rest) =
      first ++ .ofList [.char '/'] ++ Text.intercalate "/" (second :: rest) :=
  Text.toList_inj.1 (by simp [List.intercalate_cons_cons])

theorem intercalate_singleton (part : Text) : Text.intercalate "/" [part] = part :=
  Text.toList_inj.1 (by simp [List.intercalate])

theorem systemForm?_intercalate (come : ComeBack parts forms) :
    (Text.intercalate "/" parts).systemForm? = some (Text.intercalate "/" forms) := by
  induction come with
  | nil => exact Text.systemForm?_ofString ""
  | cons first others ih =>
    cases others with
    | nil => rw [intercalate_singleton, intercalate_singleton, first]
    | cons second others =>
      rw [intercalate_cons_cons, intercalate_cons_cons, Text.systemForm?_append_separator isAscii_slash,
        first, ih]
      rfl

theorem exists_comeBack (comes : (Text.intercalate "/" parts).systemForm? = some sent) :
    ∃ forms, ComeBack parts forms := by
  induction parts generalizing sent with
  | nil => exact ⟨[], .nil⟩
  | cons first rest ih =>
    cases rest with
    | nil => exact ⟨[sent], .cons (intercalate_singleton first ▸ comes) .nil⟩
    | cons second rest =>
      rw [intercalate_cons_cons, Text.systemForm?_append_separator isAscii_slash,
        Option.bind_eq_some_iff] at comes
      obtain ⟨form, front, comes⟩ := comes
      obtain ⟨behind, back, -⟩ := Option.map_eq_some_iff.1 comes
      obtain ⟨forms, come⟩ := ih back
      exact ⟨form :: forms, .cons front come⟩

theorem ComeBack.free (come : ComeBack parts forms) (free : ∀ part ∈ parts, .char '/' ∉ part.toList) :
    ∀ form ∈ forms, .char '/' ∉ form.toList := by
  induction come with
  | nil => simp
  | cons first _ ih =>
    rw [List.forall_mem_cons] at free ⊢
    exact ⟨fun slash => free.1 ((isAscii_slash.mem_systemForm_iff first).1 slash), ih free.2⟩

/-- The names of a path come back one by one. -/
theorem comeBack_names (comes : path.systemForm? = some sent) : ComeBack (names path) (names sent) := by
  have whole : Text.intercalate "/" (names path) = path := Text.intercalate_pieces ..
  obtain ⟨forms, come⟩ := exists_comeBack (whole.symm ▸ comes)
  have same : sent = Text.intercalate "/" forms := by
    rw [← whole, systemForm?_intercalate come] at comes
    exact (Option.some.inj comes).symm
  have named : forms ≠ [] := by
    intro none
    have nothing := come.length_eq
    rw [none, List.length_nil, List.length_eq_zero_iff, names, Text.pieces, List.map_eq_nil_iff] at nothing
    exact Text.cutAt_ne_nil _ _ nothing
  rw [same, names_intercalate named (come.free fun part => Text.not_mem_of_mem_pieces)]
  exact come

theorem ComeBack.tidyNames (come : ComeBack parts forms) : ComeBack (tidyNames parts) (tidyNames forms) := by
  induction come with
  | nil => exact .nil
  | @cons part form parts forms first _ ih =>
    have empty := Text.eq_empty_iff_of_systemForm first
    have dot : form = "." ↔ part = "." := isAscii_dot.eq_singleton_iff_of_systemForm first
    rw [tidyNames_cons, tidyNames_cons]
    simp only [empty, dot]
    split
    next => exact ih
    next => exact .cons first ih

theorem systemForm?_slashes_append (k : Nat) (path : Text) :
    (slashes k ++ path).systemForm? = path.systemForm?.map (slashes k ++ ·) := by
  induction k with
  | zero => simp
  | succ k ih =>
    have one := Text.systemForm?_append_separator isAscii_slash "" (slashes k ++ path)
    rw [Text.empty_append, ih, Text.systemForm?_ofString] at one
    rw [slashes_succ, Text.append_assoc]
    refine one.trans ?_
    cases path.systemForm? <;> rfl

theorem isAbsolute_of_systemForm (comes : path.systemForm? = some sent) :
    isAbsolute sent = isAbsolute path := by
  rw [isAbsolute, isAbsolute, Bool.eq_iff_iff, beq_iff_eq, beq_iff_eq]
  exact isAscii_slash.head?_systemForm_iff comes

/-- A path comes back with the slashes that it has in front. -/
theorem systemForm?_cases (comes : path.systemForm? = some sent) :
    (isAbsolute path = false ∧ isAbsolute sent = false) ∨
      ∃ rest behind, path = "/" ++ rest ∧ sent = "/" ++ behind ∧ rest.systemForm? = some behind := by
  cases absolute : isAbsolute path with
  | false => exact .inl ⟨rfl, (isAbsolute_of_systemForm comes).trans absolute⟩
  | true =>
    obtain ⟨rest, chars⟩ := List.head?_eq_some_iff.1 (beq_iff_eq.1 absolute)
    have split : path = slashes 1 ++ .ofList rest := Text.toList_inj.1 chars
    rw [split, systemForm?_slashes_append, Option.map_eq_some_iff] at comes
    obtain ⟨behind, comes, rfl⟩ := comes
    exact .inr ⟨_, behind, split, rfl, comes⟩

theorem root_of_relative (relative : isAbsolute path = false) :
    root path = "" ∧ root ("/" ++ path) = "/" ∧ root ("/" ++ ("/" ++ path)) = "//" := by
  cases chars : path.toList with
  | nil => simp [root, chars]
  | cons first rest =>
    have apart : first ≠ .char '/' := by simpa [isAbsolute, chars] using relative
    refine ⟨?_, ?_, ?_⟩
    all_goals
      simp only [root, Text.toList_append, Text.toList_ofString, chars]
      split <;> grind

theorem root_of_systemForm (comes : path.systemForm? = some sent) : root sent = root path := by
  -- Three slashes in front are as good as one, so further ones do not matter.
  rcases systemForm?_cases comes with ⟨none, none'⟩ | ⟨rest, behind, rfl, rfl, second⟩
  · rw [(root_of_relative none).1, (root_of_relative none').1]
  rcases systemForm?_cases second with ⟨one, one'⟩ | ⟨rest, behind, rfl, rfl, third⟩
  · rw [(root_of_relative one).2.1, (root_of_relative one').2.1]
  rcases systemForm?_cases third with ⟨two, two'⟩ | ⟨rest, behind, rfl, rfl, -⟩
  · rw [(root_of_relative two).2.2, (root_of_relative two').2.2]
  · rfl

/-- It makes no difference when a path is made tidy. -/
theorem systemForm?_tidy (comes : path.systemForm? = some sent) (named : tidyNames (names sent) ≠ []) :
    (tidy path).systemForm? = some (tidy sent) := by
  have come := (comeBack_names comes).tidyNames
  have named' : tidyNames (names path) ≠ [] := by
    intro none
    rw [none] at come
    exact named (List.forall₂_nil_left_iff.1 come)
  obtain ⟨k, starts, -⟩ := exists_root_eq path
  rw [tidy_eq named, tidy_eq named', root_of_systemForm comes, starts, systemForm?_slashes_append,
    systemForm?_intercalate come]
  rfl

end XmlSettings.Path
