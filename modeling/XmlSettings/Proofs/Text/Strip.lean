import Mathlib.Data.List.DropRight
import XmlSettings.Text.Blank

/-! # Blanks at the ends

What has a property is removed from both ends of a list and nowhere else (`trimBoth_surrounded`), and
removing it twice removes no more.  A text of characters is stripped like them (`strip_ofString`).
-/

namespace XmlSettings.Text

variable {α β : Type} {p : α → Bool}

/-- What stands between is kept if neither of its ends would be removed. -/
theorem trimBoth_surrounded {before middle after : List α}
    (front : ∀ c ∈ before, p c = true) (back : ∀ c ∈ after, p c = true) (filled : middle ≠ [])
    (first : p (middle.head filled) = false) (last : p (middle.getLast filled) = false) :
    trimBoth p (before ++ middle ++ after) = middle := by
  have turned : ∀ c ∈ after.reverse, p c = true := fun c member => back c (List.mem_reverse.1 member)
  have trimmedBack : (before ++ middle ++ after).reverse.dropWhile p = (before ++ middle).reverse := by
    rw [List.reverse_append, List.dropWhile_append_of_pos turned, List.reverse_append,
      ← List.cons_head_tail (List.reverse_ne_nil_iff.2 filled), List.head_reverse, List.cons_append]
    exact List.dropWhile_cons_of_neg (by simp [last])
  rw [trimBoth, trimmedBack, List.reverse_reverse, List.dropWhile_append_of_pos front,
    ← List.cons_head_tail filled]
  exact List.dropWhile_cons_of_neg (by simp [first])

theorem trimBoth_of_all {cs : List α} (all : ∀ c ∈ cs, p c = true) : trimBoth p cs = [] := by
  have none : cs.reverse.dropWhile p = [] := List.dropWhile_eq_nil_iff.2 (by simpa using all)
  simp [trimBoth, none]

/-- What is left behind the blanks in front ends where the text ended. -/
theorem trimBoth_trimBoth (p : α → Bool) (cs : List α) :
    trimBoth p (trimBoth p cs) = trimBoth p cs := by
  have trimmed (cs : List α) : trimBoth p cs = (cs.rdropWhile p).dropWhile p := rfl
  have ended : ((cs.rdropWhile p).dropWhile p).rdropWhile p = (cs.rdropWhile p).dropWhile p := by
    refine List.rdropWhile_eq_self_iff.2 fun filled => ?_
    rw [(List.dropWhile_suffix p).getLast filled]
    exact List.rdropWhile_last_not p cs _
  rw [trimmed, trimmed, ended, List.dropWhile_idempotent]

theorem mem_of_mem_trimBoth {cs : List α} {c : α} (member : c ∈ trimBoth p cs) : c ∈ cs := by
  have behind := List.mem_reverse.1 ((List.dropWhile_suffix _).subset member)
  exact List.mem_reverse.1 ((List.dropWhile_suffix _).subset behind)

theorem trimBoth_map (p : β → Bool) (f : α → β) (cs : List α) :
    trimBoth p (cs.map f) = (trimBoth (p ∘ f) cs).map f := by
  rw [trimBoth, ← List.map_reverse, List.dropWhile_map, ← List.map_reverse, List.dropWhile_map, trimBoth]

theorem strip_ofString (s : String) : strip s = String.ofList (trimBoth isBlank s.toList) := by
  rw [← toList_inj, strip, toList_ofList, toList_ofString, trimBoth_map, toList_ofString, String.toList_ofList]
  rfl

end XmlSettings.Text
