/-! # Texts

A text is a row of code points, and a surrogate is a code point like any other: texts come from
programs and from the operating system, which do not keep surrogates out.  Only a text without
surrogates is a `String`, and only such a text can be encoded (`Text.string?`).
-/

namespace XmlSettings

inductive Rune where
  | char (c : Char)
  /-- The code point `0xD800 + n`, which stands for no character. -/
  | surrogate (n : Fin 0x800)
deriving DecidableEq

namespace Rune

instance : Coe Char Rune := ⟨char⟩

def toNat : Rune → Nat
  | char c => c.toNat
  | surrogate n => 0xD800 + n

def isSurrogate : Rune → Bool
  | char _ => false
  | surrogate _ => true

/-- The character of a code point; no blank, no digit and no letter stands for a surrogate. -/
def toChar : Rune → Char
  | char c => c
  | surrogate _ => '\ufffd'

@[simp] theorem toNat_char (c : Char) : (char c).toNat = c.toNat := rfl

@[simp] theorem isSurrogate_char (c : Char) : (char c).isSurrogate = false := rfl

@[simp] theorem toChar_char (c : Char) : (char c).toChar = c := rfl

theorem toNat_inj {first second : Rune} : first.toNat = second.toNat ↔ first = second := by
  refine ⟨fun same => ?_, congrArg toNat⟩
  match first, second, same with
  | char c, char d, same => exact congrArg char (Char.toNat_inj.1 same)
  | surrogate m, surrogate n, same =>
    refine congrArg surrogate (Fin.ext ?_)
    simp only [toNat] at same
    omega
  | char c, surrogate n, same | surrogate n, char c, same =>
    have valid := c.valid
    simp only [toNat, Char.toNat, UInt32.isValidChar, Nat.isValidChar] at same valid
    omega

end Rune

structure Text where
  ofList ::
  toList : List Rune
deriving DecidableEq

namespace Text

def ofString (s : String) : Text := ofList (s.toList.map .char)

instance : Coe String Text := ⟨ofString⟩

instance : Inhabited Text := ⟨""⟩

instance : Append Text := ⟨fun first second => ofList (first.toList ++ second.toList)⟩

theorem toList_inj {first second : Text} : first.toList = second.toList ↔ first = second :=
  ⟨fun same => congrArg ofList same, congrArg toList⟩

theorem toList_eq_nil_iff {t : Text} : t.toList = [] ↔ t = "" :=
  ⟨fun empty => congrArg ofList empty, congrArg toList⟩

@[simp] theorem toList_ofList (cs : List Rune) : (ofList cs).toList = cs := rfl

@[simp] theorem toList_empty : ("" : Text).toList = [] := rfl

@[simp] theorem ofList_nil : ofList [] = "" := rfl

@[simp] theorem toList_append (first second : Text) :
    (first ++ second).toList = first.toList ++ second.toList := rfl

@[simp] theorem toList_ofString (s : String) : (ofString s).toList = s.toList.map .char := rfl

@[simp] theorem empty_append (t : Text) : "" ++ t = t := rfl

theorem append_assoc (first second third : Text) :
    first ++ second ++ third = first ++ (second ++ third) :=
  toList_inj.1 (List.append_assoc ..)

theorem append_left_cancel {front first second : Text} (same : front ++ first = front ++ second) :
    first = second :=
  toList_inj.1 (List.append_cancel_left (congrArg toList same))

theorem ofString_append (first second : String) :
    ofString (first ++ second) = ofString first ++ ofString second :=
  toList_inj.1 (by simp)

theorem ofString_inj {first second : String} : ofString first = ofString second ↔ first = second := by
  refine ⟨fun same => String.toList_inj.1 ?_, congrArg ofString⟩
  exact (List.map_inj_right fun _ _ => Rune.char.inj).1 (congrArg toList same)

def intercalate (separator : Text) (texts : List Text) : Text :=
  ofList (separator.toList.intercalate (texts.map toList))

@[simp] theorem toList_intercalate (separator : Text) (texts : List Text) :
    (intercalate separator texts).toList = separator.toList.intercalate (texts.map toList) := rfl

/-- Texts are in the order of their code points. -/
instance : LE Text :=
  ⟨fun first second => List.le (first.toList.map Rune.toNat) (second.toList.map Rune.toNat)⟩

instance : LT Text :=
  ⟨fun first second => List.lt (first.toList.map Rune.toNat) (second.toList.map Rune.toNat)⟩

instance : DecidableLE Text := fun first second =>
  List.decidableLE (first.toList.map Rune.toNat) (second.toList.map Rune.toNat)

theorem le_trans {first second third : Text} (below : first ≤ second) (above : second ≤ third) :
    first ≤ third :=
  List.le_trans below above

theorem le_total (first second : Text) : first ≤ second ∨ second ≤ first :=
  List.le_total ..

theorem lt_of_le_of_ne {first second : Text} (below : first ≤ second) (apart : first ≠ second) :
    first < second := by
  refine Classical.byContradiction fun notBelow => apart (toList_inj.1 ?_)
  have same : first.toList.map Rune.toNat = second.toList.map Rune.toNat :=
    List.le_antisymm below (List.not_lt.1 notBelow)
  exact (List.map_inj_right fun _ _ => Rune.toNat_inj.1).1 same

/-! ## Texts without surrogates -/

def hasSurrogate (t : Text) : Bool := t.toList.any (·.isSurrogate)

/-- The characters of a text, with a replacement for each surrogate. -/
def chars (t : Text) : List Char := t.toList.map (·.toChar)

def string? (t : Text) : Option String :=
  if t.hasSurrogate then none else some (String.ofList t.chars)

@[simp] theorem chars_ofString (s : String) : (ofString s).chars = s.toList := by
  simp [chars, Function.comp_def]

@[simp] theorem hasSurrogate_ofString (s : String) : (ofString s).hasSurrogate = false := by
  simp [hasSurrogate]

@[simp] theorem string?_ofString (s : String) : (ofString s).string? = some s := by
  simp [string?]

theorem map_char_toChar {cs : List Rune} (none : cs.any (·.isSurrogate) = false) :
    (cs.map (·.toChar)).map .char = cs := by
  induction cs with
  | nil => rfl
  | cons c rest ih =>
    rw [List.any_cons, Bool.or_eq_false_iff] at none
    cases c with
    | char c => simpa using ih none.2
    | surrogate n => cases none.1

theorem ofString_ofList_chars {t : Text} (none : t.hasSurrogate = false) :
    ofString (String.ofList t.chars) = t :=
  toList_inj.1 (by rw [toList_ofString, String.toList_ofList, chars, map_char_toChar none])

/-- A text without the replacement has nothing that stands for a surrogate. -/
theorem hasSurrogate_of_not_mem_chars {t : Text} (none : '\ufffd' ∉ t.chars) : t.hasSurrogate = false := by
  refine List.any_eq_false.2 fun c member => ?_
  cases c with
  | char c => simp
  | surrogate n => exact absurd (List.mem_map.2 ⟨_, member, rfl⟩) none

theorem string?_eq_some_iff {t : Text} {s : String} : t.string? = some s ↔ t = s := by
  refine ⟨fun found => ?_, fun same => same ▸ string?_ofString s⟩
  rw [string?] at found
  split at found
  next => cases found
  next none =>
    cases found
    exact (ofString_ofList_chars (Bool.eq_false_iff.2 none)).symm

theorem string?_eq_none_iff {t : Text} : t.string? = none ↔ t.hasSurrogate = true := by
  simp [string?]

theorem exists_of_not_hasSurrogate {t : Text} (none : t.hasSurrogate = false) : ∃ s : String, t = s :=
  ⟨_, (ofString_ofList_chars none).symm⟩

end Text

end XmlSettings
