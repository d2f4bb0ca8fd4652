import Mathlib.Data.Bool.AllAny
import XmlSettings.Logging.Failure
import XmlSettings.Proofs.Logging.Size
import XmlSettings.Proofs.Outcome
import XmlSettings.Schema.Decode

/-! # Lists and tables in a logging section

Where a number, a size or a level is wanted, a list or a table may stand as it is, or as the text that
it is rendered as.  Either way its text is in brackets (`IsBracketed`), so it is no size and names no
level.  As a number of backups the two fail with errors of different classes.
-/

namespace XmlSettings.Logging

open XmlSettings.Decimal
open XmlSettings.Schema (isComposite)
open XmlSettings.Text (isBlank isBlankRune strip trimBoth trimBoth_surrounded upperChar upperRune)

/-- The characters at the ends of a list or a table. -/
def brackets : List Char := ['[', ']', '\x7b', '\x7d']

/-- Whether a text stands between brackets. -/
def IsBracketed (s : Text) : Prop :=
  ∃ first middle last, s.toList = .char first :: (middle ++ [.char last]) ∧
    first ∈ brackets ∧ last ∈ brackets

/-! ## Texts between brackets -/

namespace IsBracketed

variable {s : Text} (bracketed : IsBracketed s)

include bracketed

theorem upper : IsBracketed (Text.upper s) := by
  obtain ⟨first, middle, last, text, opening, closing⟩ := bracketed
  have same : ∀ c ∈ brackets, upperChar c = [c] := List.all_iff_forall_prop.1 (by decide)
  refine ⟨first, middle.flatMap upperRune, last, ?_, opening, closing⟩
  rw [Text.upper, Text.toList_ofList, text, List.flatMap_cons, List.flatMap_append, List.flatMap_singleton,
    upperRune, upperRune, same first opening, same last closing]
  rfl

/-- What stands between brackets is no integer. -/
theorem integerOfText : XmlSettings.integerOfText s = .error (.notAnInteger s) := by
  obtain ⟨first, middle, last, text, opening, _⟩ := bracketed
  have plain : ∀ c ∈ brackets, plainChar c = c ∧ isSpace c = false ∧ c.isDigit = false ∧
      c ≠ '+' ∧ c ≠ '-' :=
    List.all_iff_forall_prop.1 (by decide)
  obtain ⟨same, noSpace, noDigit, noPlus, noMinus⟩ := plain first opening
  have unsigned (rest : List Char) : takeSign (first :: rest) = (false, first :: rest) := by
    rcases takeSign_cases (first :: rest) with bare | ⟨_, signed, _⟩ | ⟨_, signed, _⟩
    · exact bare
    · cases signed
      exact absurd rfl noPlus
    · cases signed
      exact absurd rfl noMinus
  rw [XmlSettings.integerOfText, integer, Text.chars, text, List.map_cons, Rune.toChar_char, List.map_cons, same,
    List.dropWhile_cons_of_neg (by simp [noSpace]), unsigned]
  simp [noDigit]

theorem sizeOfText : Logging.sizeOfText s = .error (.notAnInteger s) := by
  have noInteger := bracketed.integerOfText
  obtain ⟨first, middle, last, text, opening, closing⟩ := bracketed
  have solid : ∀ c ∈ brackets, isBlank c = false ∧ c ≠ 'B' :=
    List.all_iff_forall_prop.1 (by decide)
  have filled : Rune.char first :: (middle ++ [.char last]) ≠ [] := List.cons_ne_nil _ _
  have ends : (Rune.char first :: (middle ++ [.char last])).getLast filled = .char last := by
    rw [List.getLast_cons (List.concat_ne_nil _ _), List.getLast_concat]
  have stripped : strip s = s := by
    have trimmed : trimBoth isBlankRune ([] ++ (.char first :: (middle ++ [.char last])) ++ []) =
        .char first :: (middle ++ [.char last]) :=
      trimBoth_surrounded (List.forall_mem_nil _) (List.forall_mem_nil _) filled (solid first opening).1
        (by rw [ends]; exact (solid last closing).1)
    rw [List.nil_append, List.append_nil, ← text] at trimmed
    rw [strip, trimmed]
  have other : s.toList.getLast? ≠ some (.char 'B') := by
    rw [text, List.getLast?_eq_some_getLast filled, ends]
    exact fun same => (solid last closing).2 (Rune.char.inj (Option.some.inj same))
  rw [Logging.sizeOfText, stripped]
  simp only [unit?_of_getLast? other, noInteger]

/-- No name of a level opens with a bracket. -/
theorem ofName? : s.string?.bind Level.ofName? = none := by
  obtain ⟨first, middle, last, text, opening, _⟩ := bracketed
  cases part : s.string? with
  | none => rfl
  | some name =>
    rw [Text.string?_eq_some_iff.1 part] at text
    have headed : name.toList.head?.any (brackets.contains ·) = true := by
      have same := congrArg List.head? text
      rw [Text.toList_ofString, List.head?_map, List.head?_cons, Option.map_eq_some_iff] at same
      obtain ⟨c, found, same⟩ := same
      rw [found, Option.any_some, Rune.char.inj same]
      simpa using opening
    rw [Option.bind_some]
    unfold Level.ofName?
    split
    case h_9 => rfl
    all_goals exact absurd headed (by decide)

end IsBracketed

/-! ## Lists and tables -/

section Composite

variable {value : Value} (composite : isComposite value = true)

include composite

theorem isBracketed_plainText : IsBracketed value.plainText := by
  cases value with
  | list items =>
    refine ⟨'[', (Text.intercalate ", " (Value.itemsInMessage items)).toList, ']', ?_, by decide, by decide⟩
    simp [Value.plainText, Value.inMessage]
  | table entries =>
    refine ⟨'\x7b', (Text.intercalate ", " (Value.entriesInMessage entries)).toList, '\x7d', ?_, by decide, by decide⟩
    simp [Value.plainText, Value.inMessage]
  | _ => cases composite

theorem isBracketed_rendered : IsBracketed value.rendered := by
  cases value with
  | list items =>
    exact ⟨'[', Value.compactItems items, ']', by simp [Value.rendered, Value.compact], by decide, by decide⟩
  | table entries =>
    exact ⟨'\x7b', Value.compactEntries entries, '\x7d', by simp [Value.rendered, Value.compact], by decide, by decide⟩
  | _ => cases composite

end Composite

end XmlSettings.Logging
