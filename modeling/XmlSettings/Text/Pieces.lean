import XmlSettings.Text.Basic

/-! # Pieces of a text

Cutting a text at every occurrence of a separator gives one piece more than there are separators.
No piece holds the separator, and putting it back between the pieces gives the text again.
-/

namespace XmlSettings.Text

section Cut

variable {α : Type u} [DecidableEq α]

def cutAt (separator : α) : List α → List (List α)
  | [] => [[]]
  | c :: rest =>
    if c = separator then [] :: cutAt separator rest
    else match cutAt separator rest with
      | [] => [[c]]
      | first :: more => (c :: first) :: more

theorem cutAt_ne_nil (separator : α) (cs : List α) : cutAt separator cs ≠ [] := by
  cases cs with
  | nil => simp [cutAt]
  | cons c rest =>
    rw [cutAt]
    split
    · simp
    · split <;> simp

theorem intercalate_cutAt (separator : α) (cs : List α) :
    [separator].intercalate (cutAt separator cs) = cs := by
  induction cs with
  | nil => rfl
  | cons c rest ih =>
    rw [cutAt]
    split
    next same =>
      obtain ⟨first, more, eq⟩ := List.exists_cons_of_ne_nil (cutAt_ne_nil separator rest)
      rw [eq] at ih ⊢
      rw [List.intercalate_cons_cons, ih, same]
      rfl
    · split
      next eq => exact absurd eq (cutAt_ne_nil separator rest)
      next first more eq =>
        rw [eq] at ih
        rw [← ih]
        cases more <;> simp [List.intercalate]

theorem not_mem_of_mem_cutAt {separator : α} {cs piece : List α}
    (h : piece ∈ cutAt separator cs) : separator ∉ piece := by
  induction cs generalizing piece with
  | nil => simp_all [cutAt]
  | cons c rest ih =>
    rw [cutAt] at h
    split at h
    · rcases List.mem_cons.1 h with rfl | later
      · simp
      · exact ih later
    next other =>
      split at h
      next eq => exact absurd eq (cutAt_ne_nil separator rest)
      next first more eq =>
        rcases List.mem_cons.1 h with rfl | later
        · rw [List.mem_cons, not_or]
          exact ⟨fun eq => other eq.symm, ih (eq ▸ List.mem_cons_self)⟩
        · exact ih (eq ▸ List.mem_cons_of_mem _ later)

end Cut

def pieces (separator : Rune) (t : Text) : List Text :=
  (cutAt separator t.toList).map ofList

end XmlSettings.Text
