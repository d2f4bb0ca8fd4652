import XmlSettings.Text.Hex
import XmlSettings.Xml.Fault

/-! # Reading tokens

Each reader takes a part of a token off the front of the input and gives the input that is left, or
the reason why the token stops short.  What is left is always a suffix of the input,
and this is what makes the loops over tokens end.
-/

namespace XmlSettings.Xml

open XmlSettings.Text (hexValue?)

abbrev Scan := Except Halt

namespace Scan

def skipBlanks (s : List Char) : List Char := s.dropWhile isBlank

def expect (wanted : Char) : List Char → Scan (List Char)
  | [] => .error .ended
  | c :: rest => if c = wanted then .ok rest else .error (.before (c :: rest))

/-- Take a fixed text.  Unless the input is long enough for it, it is missing rather than wrong. -/
def expectAll (wanted : List Char) (s : List Char) : Scan (List Char) :=
  if s.length < wanted.length then .error .ended else go wanted s
where
  go : List Char → List Char → Scan (List Char)
    | [], s => .ok s
    | c :: more, s =>
      match expect c s with
      | .ok rest => go more rest
      | .error halt => .error halt

def name [Naming] (s : List Char) : Scan (String × List Char) :=
  match s with
  | [] => .error .ended
  | c :: rest =>
    if isNameStart c then
      .ok (String.ofList (c :: rest.takeWhile isNameChar), rest.dropWhile isNameChar)
    else .error (.before s)

/-- Take everything up to the end of a comment, of which the opening is gone.  Two hyphens end a
    comment, so they cannot stand inside. -/
def comment : List Char → Scan (List Char)
  | [] => .error .ended
  | '-' :: '-' :: rest => expect '>' rest
  | c :: rest => if isForbidden c then .error (.before (c :: rest)) else comment rest

/-- Take everything up to the end of a processing instruction, and give what stood in front. -/
def untilInstructionEnd : List Char → Scan (List Char × List Char)
  | [] => .error .ended
  | '?' :: '>' :: rest => .ok ([], rest)
  | c :: rest =>
    if isForbidden c then .error (.before (c :: rest))
    else
      match untilInstructionEnd rest with
      | .ok (content, rest) => .ok (c :: content, rest)
      | .error halt => .error halt

inductive Instruction where
  | foreign
  | declaration

/-- The kind of instruction for a target.  The name `xml` is reserved in every case of its letters,
    and only the lower-case form means anything. -/
def Instruction.ofTarget? (target : String) : Option Instruction :=
  if target = "xml" then some .declaration
  else if target.toList.map Char.toLower = ['x', 'm', 'l'] then none
  else some .foreign

def instruction [Naming] (s : List Char) : Scan (Instruction × List Char) := do
  let (target, rest) ← name s
  match rest with
  | [] => .error .ended
  | c :: behind =>
    if isBlank c then
      match Instruction.ofTarget? target with
      | none => .error (.before rest)
      | some kind => do
        let (_, rest) ← untilInstructionEnd behind
        .ok (kind, rest)
    else if c = '?' then
      match Instruction.ofTarget? target with
      | none => .error (.before rest)
      | some kind => do
        let rest ← expect '>' behind
        .ok (kind, rest)
    else .error (.before rest)

/-! ## References -/

inductive Reference where
  /-- A character by its number; `none` is a number that no document may refer to. -/
  | character (c : Option Char)
  | entity (name : String)

def characterOfNumber? (n : Nat) : Option Char :=
  if h : n.isValidChar then
    let c := Char.ofNatAux n h
    if isForbidden c then none else some c
  else none

def isHexDigit (c : Char) : Bool :=
  (hexValue? c).isSome

def characterNumber (base : Nat) (isDigit : Char → Bool) (s : List Char) : Scan (Reference × List Char) := do
  let digits := s.takeWhile isDigit
  let rest := s.dropWhile isDigit
  if digits.isEmpty then .error (.before rest)
  else do
    let behind ← expect ';' rest
    let number := digits.foldl (fun n c => base * n + (hexValue? c).getD 0) 0
    .ok (.character (characterOfNumber? number), behind)

def reference [Naming] (s : List Char) : Scan (Reference × List Char) :=
  match s with
  | '#' :: 'x' :: rest => characterNumber 16 isHexDigit rest
  | '#' :: rest => characterNumber 10 Char.isDigit rest
  | _ => do
    let (entity, rest) ← name s
    let behind ← expect ';' rest
    .ok (.entity entity, behind)

/-! ## What is left is a suffix -/

theorem skipBlanks_suffix (s : List Char) : skipBlanks s <:+ s :=
  List.dropWhile_suffix isBlank

theorem expect_eq_ok_iff {c : Char} {s rest : List Char} :
    expect c s = .ok rest ↔ s = c :: rest := by
  cases s with
  | nil => simp [expect]
  | cons d more =>
    by_cases h : d = c <;> simp [expect, h]

theorem expect_suffix {c : Char} {s rest : List Char} (h : expect c s = .ok rest) : rest <:+ s := by
  rw [expect_eq_ok_iff.1 h]
  exact List.suffix_cons c rest

theorem expectAll_go_suffix {wanted s rest : List Char} (h : expectAll.go wanted s = .ok rest) :
    rest <:+ s := by
  induction wanted generalizing s with
  | nil =>
    simp only [expectAll.go, Except.ok.injEq] at h
    exact h ▸ List.suffix_refl s
  | cons c more ih =>
    simp only [expectAll.go] at h
    split at h
    · next behind taken => exact (ih h).trans (expect_suffix taken)
    · exact absurd h (by simp)

theorem expectAll_suffix {wanted s rest : List Char} (h : expectAll wanted s = .ok rest) :
    rest <:+ s := by
  unfold expectAll at h
  split at h
  · exact absurd h (by simp)
  · exact expectAll_go_suffix h

theorem name_suffix [Naming] {s rest : List Char} {n : String} (h : name s = .ok (n, rest)) : rest <:+ s := by
  cases s with
  | nil => simp [name] at h
  | cons c more =>
    simp only [name] at h
    split at h
    · simp only [Except.ok.injEq, Prod.mk.injEq] at h
      rw [← h.2]
      exact (List.dropWhile_suffix isNameChar).trans (List.suffix_cons c more)
    · simp at h

theorem comment_suffix {s rest : List Char} (h : comment s = .ok rest) : rest <:+ s := by
  fun_induction comment s with
  | case1 => simp at h
  | case2 more =>
    exact (expect_suffix h).trans ((List.suffix_cons _ _).trans (List.suffix_cons _ _))
  | case3 => simp at h
  | case4 c more _ _ ih => exact (ih h).trans (List.suffix_cons c more)

theorem untilInstructionEnd_suffix {s content rest : List Char}
    (h : untilInstructionEnd s = .ok (content, rest)) : rest <:+ s := by
  fun_induction untilInstructionEnd s generalizing content rest with
  | case1 => simp at h
  | case2 more =>
    simp only [Except.ok.injEq, Prod.mk.injEq] at h
    rw [← h.2]
    exact (List.suffix_cons _ _).trans (List.suffix_cons _ _)
  | case3 => simp at h
  | case4 c more _ _ inner behind eq ih =>
    simp only [Except.ok.injEq, Prod.mk.injEq] at h
    rw [← h.2]
    exact (ih eq).trans (List.suffix_cons c more)
  | case5 => simp at h

theorem instruction_suffix [Naming] {s rest : List Char} {kind : Instruction}
    (h : instruction s = .ok (kind, rest)) : rest <:+ s := by
  unfold instruction at h
  cases eq : name s with
  | error halt => simp [eq, bind, Except.bind] at h
  | ok found =>
    obtain ⟨target, behind⟩ := found
    refine List.IsSuffix.trans ?_ (name_suffix eq)
    simp only [eq, bind, Except.bind] at h
    cases behind with
    | nil => simp at h
    | cons c more =>
      refine List.IsSuffix.trans ?_ (List.suffix_cons c more)
      simp only at h
      split at h
      · split at h
        · simp at h
        · split at h
          · simp at h
          · next closing =>
            simp only [Except.ok.injEq, Prod.mk.injEq] at h
            rw [← h.2]
            exact untilInstructionEnd_suffix closing
      · split at h
        · split at h
          · simp at h
          · split at h
            · simp at h
            · next closing =>
              simp only [Except.ok.injEq, Prod.mk.injEq] at h
              rw [← h.2]
              exact expect_suffix closing
        · simp at h

theorem characterNumber_suffix {base : Nat} {isDigit : Char → Bool} {s rest : List Char}
    {r : Reference} (h : characterNumber base isDigit s = .ok (r, rest)) : rest <:+ s := by
  unfold characterNumber at h
  simp only at h
  split at h
  · simp at h
  · cases eq : expect ';' (s.dropWhile isDigit) with
    | error halt => simp [eq, bind, Except.bind] at h
    | ok behind =>
      simp only [eq, bind, Except.bind, Except.ok.injEq, Prod.mk.injEq] at h
      rw [← h.2]
      exact (expect_suffix eq).trans (List.dropWhile_suffix isDigit)

theorem reference_suffix [Naming] {s rest : List Char} {r : Reference}
    (h : reference s = .ok (r, rest)) : rest <:+ s := by
  unfold reference at h
  split at h
  · exact (characterNumber_suffix h).trans ((List.suffix_cons _ _).trans (List.suffix_cons _ _))
  · exact (characterNumber_suffix h).trans (List.suffix_cons _ _)
  · cases eq : name s with
    | error halt => simp [eq, bind, Except.bind] at h
    | ok found =>
      obtain ⟨entity, behind⟩ := found
      simp only [eq, bind, Except.bind] at h
      cases closing : expect ';' behind with
      | error halt => simp [closing] at h
      | ok more =>
        simp only [closing, Except.ok.injEq, Prod.mk.injEq] at h
        rw [← h.2]
        exact (expect_suffix closing).trans (name_suffix eq)

end Scan

end XmlSettings.Xml
