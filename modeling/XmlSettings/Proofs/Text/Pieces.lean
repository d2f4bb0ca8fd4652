import XmlSettings.Text.Pieces

/-! # Joined pieces

Pieces that do not hold the separator are what a text is cut into where they are joined by it.  So a
text has one way only to be put together from such pieces (`eq_pieces_iff`).
-/

namespace XmlSettings.Text

variable {separator : Rune}

theorem cutAt_of_not_mem {cs : List Rune} (free : separator ∉ cs) : cutAt separator cs = [cs] := by
  induction cs with
  | nil => rfl
  | cons c rest ih =>
    rw [List.mem_cons, not_or] at free
    rw [cutAt, if_neg fun same => free.1 same.symm, ih free.2]

theorem cutAt_append {cs : List Rune} (free : separator ∉ cs) (rest : List Rune) :
    cutAt separator (cs ++ separator :: rest) = cs :: cutAt separator rest := by
  induction cs with
  | nil => rw [List.nil_append, cutAt, if_pos rfl]
  | cons c cs ih =>
    rw [List.mem_cons, not_or] at free
    rw [List.cons_append, cutAt, if_neg fun same => free.1 same.symm, ih free.2]

/-- Nothing stands behind a separator at the end. -/
theorem cutAt_concat (cs : List Rune) :
    cutAt separator (cs ++ [separator]) = cutAt separator cs ++ [[]] := by
  induction cs with
  | nil => simp [cutAt]
  | cons c rest ih =>
    rw [List.cons_append, cutAt, cutAt, ih]
    split
    next => rfl
    next =>
      obtain ⟨first, more, eq⟩ := List.exists_cons_of_ne_nil (cutAt_ne_nil separator rest)
      rw [eq]
      rfl

/-- Joined pieces are cut apart again. -/
theorem cutAt_intercalate {parts : List (List Rune)} (some : parts ≠ [])
    (free : ∀ part ∈ parts, separator ∉ part) :
    cutAt separator ([separator].intercalate parts) = parts := by
  induction parts with
  | nil => exact absurd rfl some
  | cons first rest ih =>
    obtain ⟨freeFirst, freeRest⟩ := List.forall_mem_cons.1 free
    cases rest with
    | nil => simpa [List.intercalate] using cutAt_of_not_mem freeFirst
    | cons second rest =>
      have inner := ih (by simp) freeRest
      rw [List.intercalate_cons_cons, List.append_assoc, List.singleton_append, cutAt_append freeFirst,
        inner]

theorem not_mem_of_mem_pieces {s piece : Text} (h : piece ∈ pieces separator s) :
    separator ∉ piece.toList := by
  obtain ⟨cs, member, rfl⟩ := List.mem_map.1 h
  rw [toList_ofList]
  exact not_mem_of_mem_cutAt member

/-- Joined texts are cut apart again. -/
theorem pieces_intercalate {parts : List Text} (some : parts ≠ [])
    (free : ∀ part ∈ parts, separator ∉ part.toList) :
    pieces separator (intercalate (.ofList [separator]) parts) = parts := by
  have joined : (intercalate (.ofList [separator]) parts).toList =
      [separator].intercalate (parts.map toList) := by
    simp [toList_intercalate]
  rw [pieces, joined, cutAt_intercalate]
  · simp [Function.comp_def]
  · simpa using some
  · intro part member
    obtain ⟨s, inside, rfl⟩ := List.mem_map.1 member
    exact free s inside

/-- The separators in a text stand between its pieces. -/
theorem length_cutAt (separator : Rune) (cs : List Rune) :
    (cutAt separator cs).length = cs.count separator + 1 := by
  induction cs with
  | nil => rfl
  | cons c rest ih =>
    rw [cutAt]
    split
    next same => rw [List.length_cons, ih, same, List.count_cons_self]
    next other =>
      rw [List.count_cons_of_ne other, ← ih]
      split
      next eq => exact absurd eq (cutAt_ne_nil separator rest)
      next first more eq => rw [eq, List.length_cons, List.length_cons]

theorem length_pieces (separator : Rune) (s : Text) :
    (pieces separator s).length = s.toList.count separator + 1 := by
  rw [pieces, List.length_map, length_cutAt]

theorem intercalate_pieces (separator : Rune) (s : Text) :
    intercalate (.ofList [separator]) (pieces separator s) = s := by
  have apart : (pieces separator s).map toList = cutAt separator s.toList := by
    simp [pieces, Function.comp_def]
  rw [← toList_inj, toList_intercalate, apart, toList_ofList,
    intercalate_cutAt]

/-- Texts that are put together to an empty one are none, or one that is empty. -/
theorem intercalate_eq_empty_iff {parts : List Text} :
    intercalate (.ofList [separator]) parts = "" ↔ parts = [] ∨ parts = [("" : Text)] := by
  rw [← toList_inj, toList_intercalate]
  cases parts with
  | nil => simp
  | cons first rest =>
    cases rest with
    | nil => simp [List.intercalate, ← toList_inj]
    | cons second rest => simp [List.intercalate_cons_cons]

/-- The pieces of a text are the only texts without the separator that are put together to it. -/
theorem eq_pieces_iff {s : Text} {parts : List Text} (filled : s ≠ "") :
    parts = pieces separator s ↔ (∀ part ∈ parts, separator ∉ part.toList) ∧
      intercalate (.ofList [separator]) parts = s := by
  constructor
  · rintro rfl
    exact ⟨fun part member => not_mem_of_mem_pieces member, intercalate_pieces separator s⟩
  · rintro ⟨free, rfl⟩
    have some : parts ≠ [] := by
      rintro rfl
      exact filled (intercalate_eq_empty_iff.2 (.inl rfl))
    exact (pieces_intercalate some free).symm

/-! ## Characters of pieces -/

theorem mem_of_mem_cutAt {c : Rune} {cs piece : List Rune} (h : piece ∈ cutAt separator cs)
    (member : c ∈ piece) : c ∈ cs := by
  induction cs generalizing piece with
  | nil => simp_all [cutAt]
  | cons first rest ih =>
    rw [cutAt] at h
    split at h
    · rcases List.mem_cons.1 h with rfl | later
      · cases member
      · exact List.mem_cons_of_mem _ (ih later member)
    · split at h
      next eq => exact absurd eq (cutAt_ne_nil separator rest)
      next front more eq =>
        rcases List.mem_cons.1 h with rfl | later
        · rcases List.mem_cons.1 member with rfl | member
          · exact List.mem_cons_self
          · exact List.mem_cons_of_mem _ (ih (eq ▸ List.mem_cons_self) member)
        · exact List.mem_cons_of_mem _ (ih (eq ▸ List.mem_cons_of_mem _ later) member)

theorem mem_of_mem_pieces {c : Rune} {s piece : Text} (h : piece ∈ pieces separator s)
    (member : c ∈ piece.toList) : c ∈ s.toList := by
  obtain ⟨cs, inside, rfl⟩ := List.mem_map.1 h
  rw [toList_ofList] at member
  exact mem_of_mem_cutAt inside member

theorem mem_intercalate {c : Rune} {parts : List Text}
    (member : c ∈ (intercalate (.ofList [separator]) parts).toList) :
    c = separator ∨ ∃ part ∈ parts, c ∈ part.toList := by
  rw [toList_intercalate] at member
  induction parts with
  | nil => simp at member
  | cons first rest ih =>
    cases rest with
    | nil => exact .inr ⟨first, List.mem_cons_self, by simpa [List.intercalate] using member⟩
    | cons second rest =>
      rw [List.map_cons, List.map_cons, List.intercalate_cons_cons, ← List.map_cons, List.append_assoc,
        List.mem_append, List.mem_append] at member
      rcases member with member | member | member
      · exact .inr ⟨first, List.mem_cons_self, member⟩
      · exact .inl (by simpa using member)
      · rcases ih member with same | ⟨part, later, inside⟩
        · exact .inl same
        · exact .inr ⟨part, List.mem_cons_of_mem _ later, inside⟩

end XmlSettings.Text
