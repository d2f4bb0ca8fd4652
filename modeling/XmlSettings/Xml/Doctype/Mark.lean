import XmlSettings.Xml.Token

/-! # Marks outside the root element

What stands in front of the root element and behind it, piece by piece: blanks, comments,
instructions, and the words and signs of declarations.  A mark that reaches the end of the input
counts as complete if it could end there.  Every mark takes at least one character
(`Mark.next_length`).
-/

namespace XmlSettings.Xml

inductive Mark where
  | blanks
  | comment
  | instruction
  /-- The declaration that may stand at the very start only. -/
  | documentDeclaration
  | element
  | declaration (keyword : String)
  /-- `>` -/
  | declarationEnd
  /-- `[` -/
  | subset
  /-- `]` -/
  | subsetEnd
  /-- The start or the end of a conditional section. -/
  | conditional
  /-- `(` -/
  | group
  /-- `)`, with a sign for repetition or without. -/
  | groupEnd (sign? : Option Char)
  | comma
  | bar
  | percent
  | parameter
  /-- A name behind a number sign. -/
  | reserved (name : String)
  /-- A name with at most one colon inside. -/
  | name (text : String)
  /-- Such a name with a sign for repetition behind it. -/
  | repeatedName
  /-- A run of name characters that is no name. -/
  | nameToken
  /-- What stands between quotes, and the input from the closing quote on. -/
  | literal (text behind : List Char)

namespace Mark

def endsName (c : Char) : Bool :=
  isBlank c || c == '>' || c == ')' || c == ',' || c == '|' || c == '[' || c == '%'

def endsLiteral (c : Char) : Bool :=
  isBlank c || c == '>' || c == '%' || c == '['

def endsGroup (c : Char) : Bool :=
  isBlank c || c == '>' || c == ',' || c == '|' || c == ')'

def endsReserved (c : Char) : Bool :=
  isBlank c || c == ')' || c == '>' || c == '%' || c == '|'

def isRepetition (c : Char) : Bool :=
  c == '?' || c == '*' || c == '+'

def isKeywordChar (c : Char) : Bool :=
  c.isAlpha || c == '_'

def close (mark : Mark) (ends : Char → Bool) (s : List Char) : Scan (Mark × List Char) :=
  match s with
  | [] => .ok (mark, [])
  | c :: _ => if ends c then .ok (mark, s) else .error (.before s)

def keyword (s : List Char) : Scan (Mark × List Char) :=
  let word := String.ofList (s.takeWhile isKeywordChar)
  match s.dropWhile isKeywordChar with
  | [] => .error .ended
  | '%' :: rest =>
    match rest with
    | [] => .error .ended
    | c :: _ =>
      if isBlank c ∨ c = '%' then .error (.before ('%' :: rest))
      else .ok (declaration word, '%' :: rest)
  | c :: rest =>
    if isBlank c then .ok (declaration word, c :: rest) else .error (.before (c :: rest))

/-- Take a mark of which `<!` is gone. -/
def exclaimed (s : List Char) : Scan (Mark × List Char) :=
  match s with
  | [] => .error .ended
  | '-' :: rest => do
    let rest ← Scan.expect '-' rest
    let rest ← Scan.comment rest
    .ok (comment, rest)
  | '[' :: rest => .ok (conditional, rest)
  | c :: rest => if isKeywordChar c then keyword (c :: rest) else .error (.before (c :: rest))

/-- Take what stands between quotes, of which the first is gone, and the closing quote. -/
def quoted (quote : Char) (s : List Char) : Scan (List Char × List Char) :=
  match s with
  | [] => .error .ended
  | c :: rest =>
    if c = quote then .ok ([], s)
    else if isForbidden c then .error (.before s)
    else
      match quoted quote rest with
      | .ok (text, behind) => .ok (c :: text, behind)
      | .error halt => .error halt

def isWordChar [Naming] (c : Char) : Bool :=
  isNameChar c || c == ':'

/-- The mark for a run of name characters.  A name has something on both sides of its colon. -/
def ofWord [Naming] (word : List Char) : Mark :=
  let colons := word.count ':'
  if (word.head?.map isNameStart).getD false ∧ colons ≤ 1 ∧ word.getLast? ≠ some ':' then
    name (String.ofList word)
  else nameToken

def word [Naming] (s : List Char) : Scan (Mark × List Char) :=
  let run := s.takeWhile isWordChar
  match s.dropWhile isWordChar with
  | [] =>
    if (run.head?.map isNameStart).getD false ∧ run.count ':' = 1 ∧ run.getLast? = some ':' then
      .error .ended
    else .ok (ofWord run, [])
  | c :: rest =>
    if endsName c then .ok (ofWord run, c :: rest)
    else if isRepetition c then
      match ofWord run with
      | name _ => .ok (repeatedName, rest)
      | _ => .error (.before (c :: rest))
    else .error (.before (c :: rest))

/-- Take a reference to a parameter entity, or a percent sign, of which the sign is gone. -/
def percentOrParameter [Naming] (s : List Char) : Scan (Mark × List Char) :=
  match s with
  | [] => .error .ended
  | c :: _ =>
    if isBlank c ∨ c = '%' then .ok (percent, s)
    else do
      let (_, rest) ← Scan.name s
      let rest ← Scan.expect ';' rest
      .ok (parameter, rest)

/-- Take the next mark of an input that is not empty.  The start of an element is not taken. -/
def scan [Naming] (s : List Char) : Scan (Mark × List Char) :=
  match s with
  | [] => .error .ended
  | '<' :: '!' :: rest => exclaimed rest
  | '<' :: '?' :: rest => do
    let (kind, rest) ← Scan.instruction rest
    match kind with
    | .foreign => .ok (instruction, rest)
    | .declaration => .ok (documentDeclaration, rest)
  | '<' :: c :: rest =>
    if isKeywordChar c ∨ (0x80 ≤ c.toNat ∧ ¬ isForbidden c) then .ok (element, c :: rest)
    else .error (.before (c :: rest))
  | ['<'] => .error .ended
  | '"' :: rest => do
    let (text, behind) ← quoted '"' rest
    close (literal text behind) endsLiteral behind.tail
  | '\x27' :: rest => do
    let (text, behind) ← quoted '\x27' rest
    close (literal text behind) endsLiteral behind.tail
  | '%' :: rest => percentOrParameter rest
  | ',' :: rest => .ok (comma, rest)
  | '|' :: rest => .ok (bar, rest)
  | '>' :: rest => .ok (declarationEnd, rest)
  | '[' :: rest => .ok (subset, rest)
  | [']', ']'] => .error .ended
  | ']' :: ']' :: '>' :: rest => .ok (conditional, rest)
  | ']' :: rest => .ok (subsetEnd, rest)
  | '(' :: rest => .ok (group, rest)
  | ')' :: rest =>
    match rest with
    | [] => .ok (groupEnd none, [])
    | c :: behind =>
      if isRepetition c then .ok (groupEnd (some c), behind)
      else if endsGroup c then .ok (groupEnd none, rest)
      else .error (.before rest)
  | '#' :: rest => do
    let (text, rest) ← Scan.name rest
    close (reserved text) endsReserved rest
  | c :: rest =>
    if isBlank c then .ok (blanks, Scan.skipBlanks rest)
    else if isWordChar c then word (c :: rest)
    else .error (.before (c :: rest))

def next [Naming] (s : List Char) : Except Failure (Mark × List Char) :=
  (scan s).from s

/-! ## What is left is shorter -/

theorem close_length {mark found : Mark} {ends : Char → Bool} {s rest : List Char}
    (h : close mark ends s = .ok (found, rest)) : rest.length ≤ s.length := by
  unfold close at h
  split at h
  · simp only [Except.ok.injEq, Prod.mk.injEq] at h
    simp [← h.2]
  · split at h
    · simp only [Except.ok.injEq, Prod.mk.injEq] at h
      simp [← h.2]
    · simp at h

theorem keyword_length {s rest : List Char} {found : Mark} (h : keyword s = .ok (found, rest)) :
    rest.length ≤ s.length := by
  have bound := (List.dropWhile_suffix isKeywordChar (l := s)).length_le
  unfold keyword at h
  simp only at h
  split at h
  · simp at h
  · next more eq =>
    rw [eq] at bound
    split at h
    · simp at h
    · split at h
      · simp at h
      · simp only [Except.ok.injEq, Prod.mk.injEq] at h
        rw [← h.2]
        exact bound
  · next c more _ eq =>
    rw [eq] at bound
    split at h
    · simp only [Except.ok.injEq, Prod.mk.injEq] at h
      rw [← h.2]
      exact bound
    · simp at h

theorem exclaimed_length {s rest : List Char} {found : Mark} (h : exclaimed s = .ok (found, rest)) :
    rest.length ≤ s.length := by
  unfold exclaimed at h
  split at h
  · simp at h
  · next more =>
    cases opening : Scan.expect '-' more with
    | error => simp [opening, bind, Except.bind] at h
    | ok inside =>
      simp only [opening, bind, Except.bind] at h
      cases closing : Scan.comment inside with
      | error => simp [closing] at h
      | ok behind =>
        simp only [closing, Except.ok.injEq, Prod.mk.injEq] at h
        have := ((Scan.comment_suffix closing).trans (Scan.expect_suffix opening)).length_le
        rw [← h.2]
        exact Nat.le_succ_of_le this
  · simp only [Except.ok.injEq, Prod.mk.injEq] at h
    rw [← h.2]
    exact Nat.le_succ _
  · split at h
    · exact keyword_length h
    · simp at h

theorem quoted_length {quote : Char} {s text behind : List Char}
    (h : quoted quote s = .ok (text, behind)) : behind.length ≤ s.length := by
  induction s generalizing text behind with
  | nil => simp [quoted] at h
  | cons c rest ih =>
    unfold quoted at h
    split at h
    · simp only [Except.ok.injEq, Prod.mk.injEq] at h
      simp [← h.2]
    · split at h
      · simp at h
      · split at h
        · next inner =>
          simp only [Except.ok.injEq, Prod.mk.injEq] at h
          rw [← h.2]
          exact Nat.le_succ_of_le (ih inner)
        · simp at h

theorem word_length [Naming] {c : Char} {s rest : List Char} {found : Mark} (first : isWordChar c = true)
    (h : word (c :: s) = .ok (found, rest)) : rest.length < (c :: s).length := by
  have bound := (List.dropWhile_suffix isWordChar (l := s)).length_le
  unfold word at h
  simp only [List.dropWhile_cons, first, if_true] at h
  simp only [List.length_cons]
  split at h
  · split at h
    · simp at h
    · simp only [Except.ok.injEq, Prod.mk.injEq] at h
      simp [← h.2]
  · next d more eq =>
    rw [eq, List.length_cons] at bound
    split at h
    · simp only [Except.ok.injEq, Prod.mk.injEq] at h
      rw [← h.2, List.length_cons]
      omega
    · split at h
      · split at h
        · simp only [Except.ok.injEq, Prod.mk.injEq] at h
          rw [← h.2]
          omega
        · simp at h
      · simp at h

theorem percentOrParameter_length [Naming] {s rest : List Char} {found : Mark}
    (h : percentOrParameter s = .ok (found, rest)) : rest.length ≤ s.length := by
  unfold percentOrParameter at h
  split at h
  · simp at h
  · split at h
    · simp only [Except.ok.injEq, Prod.mk.injEq] at h
      simp [← h.2]
    · next c more _ =>
      cases eq : Scan.name (c :: more) with
      | error => simp [eq, bind, Except.bind] at h
      | ok found =>
        simp only [eq, bind, Except.bind] at h
        cases closing : Scan.expect ';' found.2 with
        | error => simp [closing] at h
        | ok behind =>
          simp only [closing, Except.ok.injEq, Prod.mk.injEq] at h
          rw [← h.2]
          exact ((Scan.expect_suffix closing).trans (Scan.name_suffix eq)).length_le

theorem literal_length {quote : Char} {s rest : List Char} {found : Mark}
    (h : (do let (text, behind) ← quoted quote s
             close (literal text behind) endsLiteral behind.tail) = .ok (found, rest)) :
    rest.length ≤ s.length := by
  cases eq : quoted quote s with
  | error => simp [eq, bind, Except.bind] at h
  | ok inner =>
    obtain ⟨text, behind⟩ := inner
    simp only [eq, bind, Except.bind] at h
    have first := close_length h
    have second := quoted_length eq
    rw [List.length_tail] at first
    omega

theorem next_length [Naming] {s rest : List Char} {found : Mark} (h : next s = .ok (found, rest)) :
    rest.length < s.length := by
  replace h := Scan.from_eq_ok_iff.1 h
  unfold scan at h
  split at h
  · simp at h
  · have := exclaimed_length h
    simp only [List.length_cons]
    omega
  · next more =>
    cases eq : Scan.instruction more with
    | error => simp [eq, bind, Except.bind] at h
    | ok inner =>
      obtain ⟨kind, behind⟩ := inner
      simp only [eq, bind, Except.bind] at h
      have := (Scan.instruction_suffix eq).length_le
      simp only [List.length_cons]
      cases kind <;>
      · simp only [Except.ok.injEq, Prod.mk.injEq] at h
        rw [← h.2]
        omega
  · split at h
    · simp only [Except.ok.injEq, Prod.mk.injEq] at h
      simp [← h.2]
    · simp at h
  · simp at h
  · exact Nat.lt_succ_of_le (literal_length h)
  · exact Nat.lt_succ_of_le (literal_length h)
  · exact Nat.lt_succ_of_le (percentOrParameter_length h)
  · simp only [Except.ok.injEq, Prod.mk.injEq] at h
    simp [← h.2]
  · simp only [Except.ok.injEq, Prod.mk.injEq] at h
    simp [← h.2]
  · simp only [Except.ok.injEq, Prod.mk.injEq] at h
    simp [← h.2]
  · simp only [Except.ok.injEq, Prod.mk.injEq] at h
    simp [← h.2]
  · simp at h
  · simp only [Except.ok.injEq, Prod.mk.injEq] at h
    simp only [← h.2, List.length_cons]
    omega
  · simp only [Except.ok.injEq, Prod.mk.injEq] at h
    simp [← h.2]
  · simp only [Except.ok.injEq, Prod.mk.injEq] at h
    simp [← h.2]
  · split at h
    · simp only [Except.ok.injEq, Prod.mk.injEq] at h
      simp [← h.2]
    · split at h
      · simp only [Except.ok.injEq, Prod.mk.injEq] at h
        simp only [← h.2, List.length_cons]
        omega
      · split at h
        · simp only [Except.ok.injEq, Prod.mk.injEq] at h
          simp [← h.2]
        · simp at h
  · next more =>
    cases eq : Scan.name more with
    | error => simp [eq, bind, Except.bind] at h
    | ok inner =>
      simp only [eq, bind, Except.bind] at h
      have first := close_length h
      have second := (Scan.name_suffix eq).length_le
      simp only [List.length_cons]
      omega
  · split at h
    · simp only [Except.ok.injEq, Prod.mk.injEq] at h
      rw [← h.2]
      exact Nat.lt_succ_of_le (Scan.skipBlanks_suffix _).length_le
    · split at h
      · next first => exact word_length first h
      · simp at h

end Mark

end XmlSettings.Xml
