import XmlSettings.Xml.Tag

/-! # Tokens of content

What stands inside the root element, piece by piece: tags, character data, sections of verbatim
data, references, and what carries no data.  Every token takes at least one character
(`Token.next_length`).
-/

namespace XmlSettings.Xml

inductive Token where
  | opening (tag : OpenTag)
  | closing (name : String)
  | data (text : List Char)
  /-- A section in which markup stands for itself. -/
  | verbatim (text : List Char)
  | reference (target : Scan.Reference)
  /-- A comment or a processing instruction. -/
  | skipped

/-- Read a token that starts at a given place: a token that stops short is a failure. -/
def Scan.from {α : Type} (start : List Char) (result : Scan α) : Except Failure α :=
  match result with
  | .ok found => .ok found
  | .error halt => .error (halt.failure start)

theorem Scan.from_eq_ok_iff {α : Type} {start : List Char} {result : Scan α} {found : α} :
    result.from start = .ok found ↔ result = .ok found := by
  cases result <;> simp [Scan.from]

namespace Token

/-- Split off the character data in front.  It ends before markup, before a character that no
    document may hold, and before `]]>`. -/
def splitData : List Char → List Char × List Char
  | [] => ([], [])
  | ']' :: ']' :: '>' :: rest => ([], ']' :: ']' :: '>' :: rest)
  | c :: rest =>
    if c = '<' ∨ c = '&' ∨ isForbidden c then ([], c :: rest)
    else
      let (text, behind) := splitData rest
      (c :: text, behind)

/-- Take the text of a verbatim section and its end.  A section without an end is blamed on the
    place where the input ends, or where something starts that may be its end or a line's. -/
def verbatimText (s : List Char) : Except Failure (List Char × List Char) :=
  match s with
  | [] | [']'] | [']', ']'] | ['\r'] => .error ⟨.unclosedSection, s⟩
  | ']' :: ']' :: '>' :: rest => .ok ([], rest)
  | c :: rest =>
    if isForbidden c then .error ((Halt.before s).failure s)
    else
      match verbatimText rest with
      | .ok (text, behind) => .ok (c :: text, behind)
      | .error failure => .error failure

def marked (start : List Char) (s : List Char) : Except Failure (Token × List Char) :=
  match s with
  | '-' :: rest => do
    let rest ← (Scan.expect '-' rest).from start
    let rest ← (Scan.comment rest).from start
    .ok (skipped, rest)
  | '[' :: rest => do
    let rest ← (Scan.expectAll ['C', 'D', 'A', 'T', 'A', '['] rest).from start
    let (text, rest) ← verbatimText rest
    .ok (verbatim text, rest)
  | _ => .error ((Halt.before s).failure start)

def next [Naming] (s : List Char) : Except Failure (Token × List Char) :=
  match s with
  | [] => .error ⟨.noElement, []⟩
  | '<' :: '/' :: rest => do
    let (name, rest) ← (Scan.closeTag rest).from s
    .ok (closing name, rest)
  | '<' :: '!' :: rest => marked s rest
  | '<' :: '?' :: rest => do
    let (kind, rest) ← (Scan.instruction rest).from s
    match kind with
    | .foreign => .ok (skipped, rest)
    | .declaration => .error ⟨.misplacedDeclaration, s⟩
  | '<' :: rest => do
    let (tag, rest) ← (Scan.openTag rest).from s
    .ok (opening tag, rest)
  | '&' :: rest => do
    let (target, rest) ← (Scan.reference rest).from s
    .ok (reference target, rest)
  | ']' :: ']' :: '>' :: rest => .error ⟨.invalidToken, '>' :: rest⟩
  | c :: rest =>
    if isForbidden c then .error ((Halt.before s).failure s)
    else
      let (text, behind) := splitData rest
      .ok (data (c :: text), behind)

theorem splitData_length (s : List Char) : (splitData s).2.length ≤ s.length := by
  fun_induction splitData s with
  | case1 => exact Nat.le_refl _
  | case2 => exact Nat.le_refl _
  | case3 => exact Nat.le_refl _
  | case4 c rest _ _ text behind eq ih =>
    rw [eq] at ih
    exact Nat.le_succ_of_le ih

theorem verbatimText_length {s text rest : List Char} (h : verbatimText s = .ok (text, rest)) :
    rest.length ≤ s.length := by
  fun_induction verbatimText s generalizing text rest with
  | case1 => simp at h
  | case2 => simp at h
  | case3 => simp at h
  | case4 => simp at h
  | case5 more =>
    simp only [Except.ok.injEq, Prod.mk.injEq] at h
    simp only [← h.2, List.length_cons]
    omega
  | case6 => simp at h
  | case7 c more _ _ _ _ _ inner behind eq ih =>
    simp only [Except.ok.injEq, Prod.mk.injEq] at h
    rw [← h.2]
    exact Nat.le_succ_of_le (ih eq)
  | case8 => simp at h

theorem marked_length {start s rest : List Char} {t : Token} (h : marked start s = .ok (t, rest)) :
    rest.length ≤ s.length := by
  unfold marked at h
  split at h
  · next more =>
    cases opening : (Scan.expect '-' more).from start with
    | error => simp [opening, bind, Except.bind] at h
    | ok inside =>
      simp only [opening, bind, Except.bind] at h
      cases closing : (Scan.comment inside).from start with
      | error => simp [closing] at h
      | ok behind =>
        simp only [closing, Except.ok.injEq, Prod.mk.injEq] at h
        have first := (Scan.expect_suffix (Scan.from_eq_ok_iff.1 opening)).length_le
        have second := (Scan.comment_suffix (Scan.from_eq_ok_iff.1 closing)).length_le
        simp only [← h.2, List.length_cons]
        omega
  · next more =>
    cases opening : (Scan.expectAll ['C', 'D', 'A', 'T', 'A', '['] more).from start with
    | error => simp [opening, bind, Except.bind] at h
    | ok inside =>
      simp only [opening, bind, Except.bind] at h
      cases closing : verbatimText inside with
      | error => simp [closing] at h
      | ok found =>
        obtain ⟨text, behind⟩ := found
        simp only [closing, Except.ok.injEq, Prod.mk.injEq] at h
        have first := (Scan.expectAll_suffix (Scan.from_eq_ok_iff.1 opening)).length_le
        have second := verbatimText_length closing
        simp only [← h.2, List.length_cons]
        omega
  · simp at h

theorem next_length [Naming] {s rest : List Char} {t : Token} (h : next s = .ok (t, rest)) :
    rest.length < s.length := by
  unfold next at h
  split at h
  · simp at h
  · next more =>
    cases eq : (Scan.closeTag more).from ('<' :: '/' :: more) with
    | error => simp [eq, bind, Except.bind] at h
    | ok found =>
      simp only [eq, bind, Except.bind, Except.ok.injEq, Prod.mk.injEq] at h
      have := Scan.closeTag_length (Scan.from_eq_ok_iff.1 eq)
      simp only [← h.2, List.length_cons]
      omega
  · next more =>
    have := marked_length h
    simp only [List.length_cons]
    omega
  · next more =>
    cases eq : (Scan.instruction more).from ('<' :: '?' :: more) with
    | error => simp [eq, bind, Except.bind] at h
    | ok found =>
      obtain ⟨kind, behind⟩ := found
      simp only [eq, bind, Except.bind] at h
      cases kind with
      | declaration => simp at h
      | foreign =>
        simp only [Except.ok.injEq, Prod.mk.injEq] at h
        have := (Scan.instruction_suffix (Scan.from_eq_ok_iff.1 eq)).length_le
        simp only [← h.2, List.length_cons]
        omega
  · next more _ _ _ =>
    cases eq : (Scan.openTag more).from ('<' :: more) with
    | error => simp [eq, bind, Except.bind] at h
    | ok found =>
      simp only [eq, bind, Except.bind, Except.ok.injEq, Prod.mk.injEq] at h
      have := Scan.openTag_length (Scan.from_eq_ok_iff.1 eq)
      simp only [← h.2, List.length_cons]
      omega
  · next more =>
    cases eq : (Scan.reference more).from ('&' :: more) with
    | error => simp [eq, bind, Except.bind] at h
    | ok found =>
      simp only [eq, bind, Except.bind, Except.ok.injEq, Prod.mk.injEq] at h
      have := (Scan.reference_suffix (Scan.from_eq_ok_iff.1 eq)).length_le
      simp only [← h.2, List.length_cons]
      omega
  · simp at h
  · split at h
    · simp at h
    · next c more _ _ _ _ _ _ _ =>
      simp only [Except.ok.injEq, Prod.mk.injEq] at h
      have := splitData_length more
      simp only [← h.2, List.length_cons]
      omega

end Token

end XmlSettings.Xml
