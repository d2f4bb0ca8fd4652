import Mathlib.Data.List.TakeWhile
import XmlSettings.Proofs.Decimal.Spelling
import XmlSettings.Value.Compact

/-! # Compact documents tell their values

No value's document opens like that of a value of another kind, and where a document ends can be told from
what follows it.  So a document stands for one value only, however long and deep it is
(`IsExact.isToldApart`).  Binary numbers are left out, and so are records, which are written like tables.
-/

namespace XmlSettings.Value

open XmlSettings.Decimal (digitCount integerText isNumeralChar maxDigits)
open XmlSettings.Text (hexDigits hexValue?)

/-- Whether a value is made of texts, truth values, integers that are not too long to be written, and
    `nothing`, in lists and tables. -/
inductive IsExact : Value → Prop where
  | text (s : Text) : IsExact (.text s)
  | flag (b : Bool) : IsExact (.flag b)
  | nothing : IsExact .nothing
  | integer {n : Int} (few : digitCount n ≤ maxDigits) : IsExact (.integer n)
  | list {items : List Value} (each : ∀ item ∈ items, IsExact item) : IsExact (.list items)
  | table {entries : List (Text × Value)} (each : ∀ entry ∈ entries, IsExact entry.2) :
      IsExact (.table entries)

/-! ## Texts -/

/-- What a letter behind a backslash stands for. -/
def escaped (letter : Rune) : Rune :=
  if letter = 'n' then '\n' else if letter = 'r' then '\r' else if letter = 't' then '\t'
  else if letter = 'b' then '\x08' else if letter = 'f' then '\x0c' else letter

/-- The code point at the front of a text in a compact document, and what is behind it. -/
def frontRune? : List Rune → Option (Rune × List Rune)
  | '\\' :: 'u' :: first :: second :: third :: fourth :: rest =>
    let digits := [first, second, third, fourth]
    let number := digits.foldl (fun n c => 16 * n + (hexValue? c.toChar).getD 0) 0
    some (.char (Char.ofNat number), rest)
  | '\\' :: letter :: rest => some (escaped letter, rest)
  | c :: rest => some (c, rest)
  | [] => none

theorem frontRune?_control {n : Nat} (control : n < 0x20) (rest : List Rune) :
    frontRune? (Rune.char '\\' :: Rune.char 'u' :: (hexDigits 4 n).map .char ++ rest) =
      some (.char (Char.ofNat n), rest) := by
  have number : ∀ n < 0x20, (hexDigits 4 n).foldl (fun n c => 16 * n + (hexValue? c).getD 0) 0 = n := by
    decide
  have read : frontRune? (Rune.char '\\' :: Rune.char 'u' :: (hexDigits 4 n).map .char ++ rest) =
      some (.char (Char.ofNat
        ((hexDigits 4 n).foldl (fun n c => 16 * n + (hexValue? c).getD 0) 0)), rest) := rfl
  rw [read, number n control]

theorem frontRune?_plain {c : Rune} (other : c ≠ .char '\\') (rest : List Rune) :
    frontRune? (c :: rest) = some (c, rest) := by
  unfold frontRune?
  split
  next same => exact absurd (List.cons.inj same).1 other
  next same => exact absurd (List.cons.inj same).1 other
  next same =>
    cases same
    rfl
  next same => cases same

/-- Every code point is read back, whatever follows it. -/
theorem frontRune?_compactRune (c : Rune) (rest : List Rune) :
    frontRune? (compactRune c ++ rest) = some (c, rest) := by
  have named {n : Nat} (low : n < 0x80) (number : c.toNat = n) : c = .char (Char.ofNat n) := by
    cases c with
    | char c => rw [← number, Rune.toNat_char, Char.ofNat_toNat]
    | surrogate => simp only [Rune.toNat] at number; omega
  by_cases mark : c = .char '"' ∨ c = .char '\\'
  · rcases mark with rfl | rfl <;> rfl
  by_cases feed : c = .char '\n'
  · subst feed
    rfl
  by_cases carriage : c = .char '\r'
  · subst carriage
    rfl
  by_cases tab : c = .char '\t'
  · subst tab
    rfl
  by_cases backspace : c.toNat = 0x08
  · rw [named (by decide) backspace]
    rfl
  by_cases formFeed : c.toNat = 0x0C
  · rw [named (by decide) formFeed]
    rfl
  rw [compactRune, if_neg mark, if_neg feed, if_neg carriage, if_neg tab, if_neg backspace, if_neg formFeed]
  split
  next control => rw [frontRune?_control control, ← named (by omega) rfl]
  next => exact frontRune?_plain (fun same => mark (.inr same)) rest

/-- Characters between quotes end at the quote behind them. -/
theorem compactRunes_append_inj {first second rest other : List Rune}
    (same : first.flatMap compactRune ++ Rune.char '"' :: rest = second.flatMap compactRune ++ Rune.char '"' :: other) :
    first = second ∧ rest = other := by
  have quote (c : Rune) (cs rest other : List Rune) :
      Rune.char '"' :: rest ≠ (c :: cs).flatMap compactRune ++ Rune.char '"' :: other := by
    intro same
    have front := congrArg frontRune? same
    rw [List.flatMap_cons, List.append_assoc, frontRune?_compactRune, frontRune?_plain (by decide)] at front
    cases front
    cases same
  induction first generalizing second with
  | nil =>
    cases second with
    | nil => exact ⟨rfl, (List.cons.inj same).2⟩
    | cons c cs => exact absurd same (quote c cs rest other)
  | cons c cs ih =>
    cases second with
    | nil => exact absurd same.symm (quote c cs other rest)
    | cons d ds =>
      have front := congrArg frontRune? same
      simp only [List.flatMap_cons, List.append_assoc, frontRune?_compactRune, Option.some.injEq,
        Prod.mk.injEq] at front
      obtain ⟨rfl, behind⟩ := front
      obtain ⟨rfl, rest⟩ := ih behind
      exact ⟨rfl, rest⟩

theorem compactText_append_inj {s t : Text} {rest other : List Rune}
    (same : compactText s ++ rest = compactText t ++ other) : s = t ∧ rest = other := by
  simp only [compactText, List.cons_append, List.append_assoc, List.cons.injEq, true_and,
    List.nil_append] at same
  obtain ⟨chars, rest⟩ := compactRunes_append_inj same
  exact ⟨Text.toList_inj.1 chars, rest⟩

/-! ## Integers -/

/-- Whether characters cannot go on with a numeral. -/
def EndsNumeral (rest : List Rune) : Prop := ∀ c ∈ rest.head?, isNumeralChar c.toChar = false

theorem EndsNumeral.cons {c : Rune} (other : isNumeralChar c.toChar = false) (rest : List Rune) :
    EndsNumeral (c :: rest) := by
  intro d member
  cases member
  exact other

theorem takeWhile_numeral {n : Int} {rest : List Rune} (ends : EndsNumeral rest) :
    ((integerText n).map Rune.char ++ rest).takeWhile (fun c => isNumeralChar c.toChar) = (integerText n).map Rune.char ∧
      ((integerText n).map Rune.char ++ rest).dropWhile (fun c => isNumeralChar c.toChar) = rest := by
  have behind : rest.takeWhile (fun c => isNumeralChar c.toChar) = [] ∧
      rest.dropWhile (fun c => isNumeralChar c.toChar) = rest := by
    cases rest with
    | nil => exact ⟨rfl, rfl⟩
    | cons c tail =>
      have other : ¬isNumeralChar c.toChar = true := by simp [ends c rfl]
      exact ⟨List.takeWhile_cons_of_neg other, List.dropWhile_cons_of_neg other⟩
  have numeral : ∀ c ∈ (integerText n).map Rune.char, isNumeralChar c.toChar = true :=
    List.forall_mem_map.2 Decimal.isNumeralChar_of_mem
  rw [List.takeWhile_append_of_pos numeral, List.dropWhile_append_of_pos numeral, behind.1, behind.2,
    List.append_nil]
  exact ⟨rfl, rfl⟩

theorem integerText_append_inj {n m : Int} {rest other : List Rune} (ends : EndsNumeral rest)
    (otherEnds : EndsNumeral other)
    (same : (integerText n).map Rune.char ++ rest = (integerText m).map Rune.char ++ other) :
    n = m ∧ rest = other := by
  obtain ⟨numeral, behind⟩ := takeWhile_numeral (n := n) ends
  obtain ⟨otherNumeral, otherBehind⟩ := takeWhile_numeral (n := m) otherEnds
  rw [same, otherNumeral] at numeral
  rw [same, otherBehind] at behind
  have spelled := Decimal.spells_integerText n
  rw [← (List.map_inj_right fun _ _ => Rune.char.inj).1 numeral] at spelled
  exact ⟨spelled.unique (Decimal.spells_integerText m), behind.symm⟩

/-! ## The first character -/

/-- The first code point of a value's document, for each kind of value. -/
inductive Opens : Value → Rune → Prop where
  | text (s : Text) : Opens (.text s) (.char '"')
  | true : Opens (.flag true) (.char 't')
  | false : Opens (.flag false) (.char 'f')
  | nothing : Opens .nothing (.char 'n')
  | integer (n : Int) {c : Rune} (numeral : isNumeralChar c.toChar = true) : Opens (.integer n) c
  | list (items : List Value) : Opens (.list items) (.char '[')
  | table (entries : List (Text × Value)) : Opens (.table entries) (.char '\x7b')

theorem IsExact.opens {value : Value} (exact : value.IsExact) :
    ∃ c rest, value.compact = c :: rest ∧ Opens value c := by
  cases exact with
  | text s => exact ⟨_, _, rfl, .text s⟩
  | flag b =>
    cases b with
    | false => exact ⟨_, _, rfl, .false⟩
    | true => exact ⟨_, _, rfl, .true⟩
  | nothing => exact ⟨_, _, rfl, .nothing⟩
  | @integer n =>
    cases text : integerText n with
    | nil =>
      cases n with
      | ofNat m => exact absurd text (Decimal.naturalText_ne_nil m)
      | negSucc m => cases text
    | cons c rest =>
      refine ⟨.char c, rest.map .char, by rw [compact, text]; rfl, .integer n ?_⟩
      exact Decimal.isNumeralChar_of_mem c (by rw [text]; exact List.mem_cons_self)
  | list => exact ⟨_, _, rfl, .list _⟩
  | table => exact ⟨_, _, rfl, .table _⟩

theorem opens_of_append {value : Value} {c : Rune} {rest other : List Rune} (exact : value.IsExact)
    (same : c :: rest = value.compact ++ other) : Opens value c := by
  obtain ⟨d, tail, document, opens⟩ := exact.opens
  rw [document, List.cons_append, List.cons.injEq] at same
  exact same.1 ▸ opens

/-! ## Rows of documents -/

/-- What is written for the members of a row, with commas between them. -/
def separated {α : Type} (write : α → List Rune) : List α → List Rune
  | [] => []
  | first :: rest => write first ++ rest.flatMap fun a => Rune.char ',' :: write a

section Rows

variable {α : Type} {write : α → List Rune} {close : Rune} {isKnown : α → Prop}
  {first second : List α} {rest other : List Rune}

theorem endsNumeral_more (closes : isNumeralChar close.toChar = false) (row : List α) (rest : List Rune) :
    EndsNumeral ((row.flatMap fun a => Rune.char ',' :: write a) ++ close :: rest) := by
  cases row with
  | nil => exact .cons closes rest
  | cons a row => exact .cons (by decide) _

variable (closes : isNumeralChar close.toChar = false) (other_comma : close ≠ .char ',')
  (told : ∀ a ∈ first, ∀ b, isKnown b → ∀ rest other, EndsNumeral rest → EndsNumeral other →
    write a ++ rest = write b ++ other → a = b ∧ rest = other)
  (known : ∀ b ∈ second, isKnown b)

include closes other_comma told known

theorem more_append_inj (same : (first.flatMap fun a => Rune.char ',' :: write a) ++ close :: rest =
    (second.flatMap fun a => Rune.char ',' :: write a) ++ close :: other) : first = second ∧ rest = other := by
  induction first generalizing second with
  | nil =>
    cases second with
    | nil => exact ⟨rfl, (List.cons.inj same).2⟩
    | cons b second => exact absurd (List.cons.inj same).1 other_comma
  | cons a first ih =>
    cases second with
    | nil => exact absurd (List.cons.inj same).1.symm other_comma
    | cons b second =>
      simp only [List.flatMap_cons, List.cons_append, List.append_assoc, List.cons.injEq, true_and] at same
      obtain ⟨rfl, behind⟩ := told a List.mem_cons_self b (known b List.mem_cons_self) _ _
        (endsNumeral_more closes first rest) (endsNumeral_more closes second other) same
      obtain ⟨rfl, rest⟩ := ih (fun a member => told a (List.mem_cons_of_mem _ member))
        (fun b member => known b (List.mem_cons_of_mem _ member)) behind
      exact ⟨rfl, rest⟩

/-- A row ends where it is closed, as long as no member opens like that. -/
theorem separated_append_inj (opens : ∀ a, isKnown a → ∀ rest other, close :: rest ≠ write a ++ other)
    (firstKnown : ∀ a ∈ first, isKnown a)
    (same : separated write first ++ close :: rest = separated write second ++ close :: other) :
    first = second ∧ rest = other := by
  -- One row cannot be closed where the other goes on with a member.
  cases first with
  | nil =>
    cases second with
    | nil => exact ⟨rfl, (List.cons.inj same).2⟩
    | cons b second =>
      rw [separated, separated, List.append_assoc] at same
      exact absurd same (opens b (known b List.mem_cons_self) _ _)
  | cons a first =>
    cases second with
    | nil =>
      rw [separated, separated, List.append_assoc] at same
      exact absurd same.symm (opens a (firstKnown a List.mem_cons_self) _ _)
    | cons b second =>
      rw [separated, separated, List.append_assoc, List.append_assoc] at same
      obtain ⟨rfl, behind⟩ := told a List.mem_cons_self b (known b List.mem_cons_self) _ _
        (endsNumeral_more closes first rest) (endsNumeral_more closes second other) same
      obtain ⟨rfl, rest⟩ := more_append_inj closes other_comma
        (fun a member => told a (List.mem_cons_of_mem _ member))
        (fun b member => known b (List.mem_cons_of_mem _ member)) behind
      exact ⟨rfl, rest⟩

end Rows

theorem compactItems_eq (items : List Value) : compactItems items = separated compact items := by
  have more : ∀ items, compactMoreItems items = items.flatMap fun item => Rune.char ',' :: compact item := by
    intro items
    induction items with
    | nil => rfl
    | cons item rest ih => rw [compactMoreItems, ih, List.flatMap_cons]
  cases items with
  | nil => rfl
  | cons item rest => rw [compactItems, more, separated]

/-- An entry in a compact document. -/
def compactEntry (entry : Text × Value) : List Rune :=
  compactText entry.1 ++ Rune.char ':' :: compact entry.2

theorem compactEntries_eq (entries : List (Text × Value)) :
    compactEntries entries = separated compactEntry entries := by
  have more : ∀ entries,
      compactMoreEntries entries = entries.flatMap fun entry => Rune.char ',' :: compactEntry entry := by
    intro entries
    induction entries with
    | nil => rfl
    | cons entry rest ih =>
      rw [compactMoreEntries, ih, List.flatMap_cons, compactEntry, List.cons_append]
  cases entries with
  | nil => rfl
  | cons entry rest => rw [compactEntries, more, separated, compactEntry]

/-! ## Values -/

/-- Whether the document of a value tells it from every other value, whatever follows. -/
def IsToldApart (value : Value) : Prop :=
  ∀ other : Value, other.IsExact → ∀ rest behind, EndsNumeral rest → EndsNumeral behind →
    value.compact ++ rest = other.compact ++ behind → value = other ∧ rest = behind

theorem isToldApart_text (s : Text) : IsToldApart (.text s) := by
  intro other exact rest behind _ _ same
  cases opens_of_append exact same with
  | text t =>
    obtain ⟨rfl, rest⟩ := compactText_append_inj same
    exact ⟨rfl, rest⟩
  | integer n numeral => exact absurd numeral (by decide)

theorem isToldApart_flag (b : Bool) : IsToldApart (.flag b) := by
  intro other exact rest behind _ _ same
  cases b with
  | false =>
    cases opens_of_append exact same with
    | false => exact ⟨rfl, by simpa [compact] using same⟩
    | integer n numeral => exact absurd numeral (by decide)
  | true =>
    cases opens_of_append exact same with
    | true => exact ⟨rfl, by simpa [compact] using same⟩
    | integer n numeral => exact absurd numeral (by decide)

theorem isToldApart_nothing : IsToldApart .nothing := by
  intro other exact rest behind _ _ same
  cases opens_of_append exact same with
  | nothing => exact ⟨rfl, by simpa [compact] using same⟩
  | integer n numeral => exact absurd numeral (by decide)

theorem isToldApart_integer {n : Int} (few : digitCount n ≤ maxDigits) : IsToldApart (.integer n) := by
  intro other exact rest behind ends behindEnds same
  obtain ⟨c, tail, document, opens⟩ := (IsExact.integer few).opens
  have others : Opens other c := opens_of_append exact (by rw [← same, document]; rfl)
  cases opens with
  | integer _ numeral =>
    cases others with
    | integer m _ =>
      obtain ⟨rfl, rest⟩ := integerText_append_inj ends behindEnds same
      exact ⟨rfl, rest⟩
    | _ => exact absurd numeral (by decide)

theorem isToldApart_list {items : List Value} (exact : ∀ item ∈ items, item.IsExact)
    (told : ∀ item ∈ items, item.IsToldApart) : IsToldApart (.list items) := by
  intro other otherExact rest behind _ _ same
  cases opens_of_append otherExact same with
  | list others =>
    cases otherExact with
    | list known =>
      simp only [compact, compactItems_eq, List.cons_append, List.append_assoc, List.nil_append,
        List.cons.injEq, true_and] at same
      have opens (item : Value) (known : item.IsExact) (rest other : List Rune) :
          Rune.char ']' :: rest ≠ item.compact ++ other := by
        intro same
        cases opens_of_append known same with
        | integer n numeral => exact absurd numeral (by decide)
      obtain ⟨rfl, rest⟩ := separated_append_inj (by decide) (by decide) told known opens exact same
      exact ⟨rfl, rest⟩
  | integer n numeral => exact absurd numeral (by decide)

theorem isToldApart_table {entries : List (Text × Value)} (exact : ∀ entry ∈ entries, entry.2.IsExact)
    (told : ∀ entry ∈ entries, entry.2.IsToldApart) : IsToldApart (.table entries) := by
  intro other otherExact rest behind _ _ same
  cases opens_of_append otherExact same with
  | table others =>
    cases otherExact with
    | table known =>
      simp only [compact, compactEntries_eq, List.cons_append, List.append_assoc, List.nil_append,
        List.cons.injEq, true_and] at same
      have entryTold (entry : Text × Value) (member : entry ∈ entries) (other : Text × Value)
          (known : other.2.IsExact) (rest behind : List Rune) (ends : EndsNumeral rest)
          (behindEnds : EndsNumeral behind)
          (same : compactEntry entry ++ rest = compactEntry other ++ behind) :
          entry = other ∧ rest = behind := by
        simp only [compactEntry, List.append_assoc, List.cons_append] at same
        obtain ⟨key, same⟩ := compactText_append_inj same
        obtain ⟨value, rest⟩ :=
          told entry member other.2 known _ _ ends behindEnds (List.cons.inj same).2
        exact ⟨Prod.ext key value, rest⟩
      have opens (entry : Text × Value) (_ : entry.2.IsExact) (rest other : List Rune) :
          Rune.char '\x7d' :: rest ≠ compactEntry entry ++ other := by
        simp [compactEntry, compactText]
      obtain ⟨rfl, rest⟩ := separated_append_inj (by decide) (by decide) entryTold known opens exact same
      exact ⟨rfl, rest⟩
  | integer n numeral => exact absurd numeral (by decide)

/-- The document of a value stands for no other value, and tells where it ends. -/
theorem IsExact.isToldApart {value : Value} (exact : value.IsExact) : value.IsToldApart := by
  induction exact with
  | text s => exact isToldApart_text s
  | flag b => exact isToldApart_flag b
  | nothing => exact isToldApart_nothing
  | integer few => exact isToldApart_integer few
  | list each told => exact isToldApart_list each told
  | table each told => exact isToldApart_table each told

theorem compact_inj {value other : Value} (exact : value.IsExact) (otherExact : other.IsExact)
    (same : value.compact = other.compact) : value = other := by
  have nothing : EndsNumeral [] := nofun
  exact (exact.isToldApart other otherExact [] [] nothing nothing (by rw [same])).1

end XmlSettings.Value
