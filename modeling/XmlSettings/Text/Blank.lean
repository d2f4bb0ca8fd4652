import XmlSettings.Text.Basic
import XmlSettings.Text.Intervals

/-! # Blank characters

The blanks are the characters with the property `White_Space` of Unicode 14 together with the four
information separators U+001C to U+001F.  `strip` removes them from both ends of a text.
-/

namespace XmlSettings.Text

def blankIntervals : Intervals :=
  [(0x09, 0x0D), (0x1C, 0x20), (0x85, 0x85), (0xA0, 0xA0), (0x1680, 0x1680), (0x2000, 0x200A),
   (0x2028, 0x2029), (0x202F, 0x202F), (0x205F, 0x205F), (0x3000, 0x3000)]

def isBlank (c : Char) : Bool :=
  blankIntervals.covers c.toNat

def isBlankRune (c : Rune) : Bool :=
  blankIntervals.covers c.toNat

variable {α : Type u} {p : α → Bool} {cs : List α}

def trimBoth (p : α → Bool) (cs : List α) : List α :=
  (cs.reverse.dropWhile p).reverse.dropWhile p

theorem dropWhile_of_none (none : ∀ c ∈ cs, p c = false) :
    cs.dropWhile p = cs := by
  cases cs with
  | nil => rfl
  | cons c rest => exact List.dropWhile_cons_of_neg (by simp [none c List.mem_cons_self])

theorem trimBoth_of_none (none : ∀ c ∈ cs, p c = false) : trimBoth p cs = cs := by
  rw [trimBoth, dropWhile_of_none fun c member => none c (List.mem_reverse.1 member), List.reverse_reverse,
    dropWhile_of_none none]

def strip (t : Text) : Text :=
  ofList (trimBoth isBlankRune t.toList)

end XmlSettings.Text
