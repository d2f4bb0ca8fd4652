import XmlSettings.Text.Blank

/-! # Statements of a dotenv file

A dotenv file holds one statement a line: an optional word `export`, a name, and behind an equals
sign a value.  A value between quotes may span lines; any other value ends at the end of its line or
at blanks with a hash sign behind them.  A name without an equals sign sets nothing.  A line that is
no statement is skipped from the point where it goes wrong.

`Statement.all` reads the statements of a file in order; each of them uses up characters.
-/

namespace XmlSettings.Dotenv

open XmlSettings.Text (isBlank trimBoth)

inductive Statement where
  | comment
  | assignment (name : String) (value? : Option String)
  | malformed

/-- The outcome of reading one part of a statement: what was read and what is left, or what is left
    where the reader gets stuck. -/
abbrev Reading (α : Type) := Except (List Char) (α × List Char)

namespace Statement

def isInnerBlank (c : Char) : Bool :=
  isBlank c && c != '\n'

def skipInner (s : List Char) : List Char :=
  s.dropWhile isInnerBlank

def skipLine (s : List Char) : List Char :=
  (s.dropWhile (· != '\n')).drop 1

def skipExport (s : List Char) : List Char :=
  match s with
  | 'e' :: 'x' :: 'p' :: 'o' :: 'r' :: 't' :: rest =>
    if (rest.head?.any isInnerBlank) then skipInner rest else s
  | _ => s

def isNameChar (c : Char) : Bool :=
  c != '=' && c != '#' && !isBlank c

/-- Read a name; there is none in front of a comment. -/
def name (s : List Char) : Reading (Option String) :=
  match s with
  | '#' :: _ => .ok (none, s)
  | '\x27' :: rest =>
    match rest.takeWhile (· != '\x27'), rest.dropWhile (· != '\x27') with
    | c :: inside, _ :: after => .ok (some (String.ofList (c :: inside)), after)
    | _, _ => .error s
  | _ =>
    match s.takeWhile isNameChar with
    | c :: word => .ok (some (String.ofList (c :: word)), s.dropWhile isNameChar)
    | [] => .error s

/-- Split behind an opening quote at the quote that closes the value: the first one without a
    backslash in front, or else the last one. -/
def closeQuote (quote : Char) (isEscaped : Bool) : List Char → Option (List Char × List Char)
  | [] => none
  | c :: rest =>
    if c = quote ∧ !isEscaped then some ([], rest)
    else match closeQuote quote (c == '\\') rest with
      | some (inside, after) => some (c :: inside, after)
      -- No later quote closes the value, so that this one does behind a backslash, too.
      | none => if c = quote then some ([], rest) else none

def singleEscape? : Char → Option Char
  | '\\' => some '\\'
  | '\x27' => some '\x27'
  | _ => none

def doubleEscape? : Char → Option Char
  | '\\' => some '\\'
  | '\x27' => some '\x27'
  | '"' => some '"'
  | 'a' => some '\x07'
  | 'b' => some '\x08'
  | 'f' => some '\x0c'
  | 'n' => some '\n'
  | 'r' => some '\r'
  | 't' => some '\t'
  | 'v' => some '\x0b'
  | _ => none

def unescape (escape? : Char → Option Char) : List Char → List Char
  | '\\' :: c :: rest =>
    match escape? c with
    | some meant => meant :: unescape escape? rest
    | none => '\\' :: unescape escape? (c :: rest)
  | c :: rest => c :: unescape escape? rest
  | [] => []

/-- Cut a line at the first blanks with a hash sign behind them. -/
def cutComment : List Char → List Char
  | [] => []
  | c :: rest =>
    if isBlank c ∧ (rest.dropWhile isBlank).head? = some '#' then [] else c :: cutComment rest

def plainValue (line : List Char) : String :=
  String.ofList (trimBoth isBlank (cutComment line))

def value (s : List Char) : Reading String :=
  match skipInner s with
  | '\x27' :: rest =>
    match closeQuote '\x27' false rest with
    | some (inside, after) => .ok (String.ofList (unescape singleEscape? inside), after)
    | none => .error ('\x27' :: rest)
  | '"' :: rest =>
    match closeQuote '"' false rest with
    | some (inside, after) => .ok (String.ofList (unescape doubleEscape? inside), after)
    | none => .error ('"' :: rest)
  | _ => .ok (plainValue (s.takeWhile (· != '\n')), s.dropWhile (· != '\n'))

def value? (s : List Char) : Reading (Option String) :=
  match skipInner s with
  | '=' :: rest =>
    match value rest with
    | .ok (value, rest) => .ok (some value, rest)
    | .error stuck => .error stuck
  | rest => .ok (none, rest)

def lineEnd (s : List Char) : Reading Unit :=
  match skipInner s with
  | [] => .ok ((), [])
  | '#' :: rest => .ok ((), skipLine rest)
  | '\n' :: rest => .ok ((), rest)
  | _ => .error s

def read (s : List Char) : Reading Statement :=
  match name (skipExport s) with
  | .error stuck => .error stuck
  | .ok (name, rest) =>
    match value? rest with
    | .error stuck => .error stuck
    | .ok (value?, rest) =>
      match lineEnd rest with
      | .error stuck => .error stuck
      | .ok (_, rest) =>
        match name with
        | some name => .ok (.assignment name value?, rest)
        | none => .ok (.comment, rest)

def next (s : List Char) : Statement × List Char :=
  match read s with
  | .ok result => result
  | .error stuck => (.malformed, skipLine stuck)

/-! ## Progress -/

theorem skipInner_length (s : List Char) : (skipInner s).length ≤ s.length :=
  (List.dropWhile_suffix _).length_le

theorem skipLine_length (s : List Char) : (skipLine s).length ≤ s.length := by
  have := (List.dropWhile_suffix (l := s) (· != '\n')).length_le
  simp only [skipLine, List.length_drop]
  omega

theorem skipLine_length_lt {s : List Char} (h : s ≠ []) : (skipLine s).length < s.length := by
  have := (List.dropWhile_suffix (l := s) (· != '\n')).length_le
  have := List.length_pos_iff.2 h
  simp only [skipLine, List.length_drop]
  omega

theorem skipExport_length (s : List Char) :
    skipExport s = s ∨ (skipExport s).length < s.length := by
  unfold skipExport
  split
  next rest =>
    split
    · have := skipInner_length rest
      exact .inr (by simp only [List.length_cons]; omega)
    · exact .inl rfl
  · exact .inl rfl

theorem closeQuote_length {quote : Char} {isEscaped : Bool} {s inside after : List Char}
    (h : closeQuote quote isEscaped s = some (inside, after)) : after.length < s.length := by
  induction s generalizing isEscaped inside after with
  | nil => simp [closeQuote] at h
  | cons c rest ih =>
    rw [closeQuote] at h
    split at h
    · cases h; simp
    · split at h
      next found =>
        cases h
        have := ih found
        simp only [List.length_cons]; omega
      · split at h
        · cases h; simp
        · cases h

theorem name_length {s rest : List Char} {word? : Option String} (h : name s = .ok (word?, rest)) :
    rest.length < s.length ∨ rest = s ∧ s.head? = some '#' := by
  unfold name at h
  split at h
  · cases h; exact .inr ⟨rfl, rfl⟩
  next after =>
    split at h
    next dropped =>
      cases h
      have := (List.dropWhile_suffix (l := after) (· != '\x27')).length_le
      rw [dropped] at this
      simp only [List.length_cons] at this ⊢
      omega
    · cases h
  · split at h
    next word =>
      cases h
      left
      cases s with
      | nil => simp at word
      | cons c after =>
        have := (List.dropWhile_suffix (l := after) isNameChar).length_le
        by_cases hc : isNameChar c
        · simp only [List.dropWhile_cons, hc, if_true, List.length_cons]; omega
        · simp [hc] at word
    · cases h

theorem name_stuck {s stuck : List Char} (h : name s = .error stuck) : stuck = s := by
  unfold name at h
  split at h
  · cases h
  · split at h <;> cases h
    rfl
  · split at h <;> cases h
    rfl

theorem value_length {s : List Char} :
    (∀ {text rest}, value s = .ok (text, rest) → rest.length ≤ s.length) ∧
      ∀ {stuck}, value s = .error stuck → stuck.length ≤ s.length := by
  have skipped := skipInner_length s
  unfold value
  split
  next rest eq =>
    rw [eq] at skipped
    simp only [List.length_cons] at skipped
    split
    next closed =>
      have := closeQuote_length closed
      exact ⟨fun h => (by cases h; omega), fun h => (nomatch h)⟩
    · exact ⟨fun h => (nomatch h), fun h => (by cases h; simpa using skipped)⟩
  next rest eq =>
    rw [eq] at skipped
    simp only [List.length_cons] at skipped
    split
    next closed =>
      have := closeQuote_length closed
      exact ⟨fun h => (by cases h; omega), fun h => (nomatch h)⟩
    · exact ⟨fun h => (nomatch h), fun h => (by cases h; simpa using skipped)⟩
  · exact ⟨fun h => (by cases h; exact (List.dropWhile_suffix _).length_le), fun h => (nomatch h)⟩

theorem value?_length {s : List Char} :
    (∀ {text? rest}, value? s = .ok (text?, rest) → rest.length ≤ s.length) ∧
      ∀ {stuck}, value? s = .error stuck → stuck.length ≤ s.length := by
  have skipped := skipInner_length s
  unfold value?
  split
  next rest eq =>
    rw [eq] at skipped
    simp only [List.length_cons] at skipped
    have inner := value_length (s := rest)
    split
    next read =>
      have := inner.1 read
      exact ⟨fun h => (by cases h; omega), fun h => (nomatch h)⟩
    next read =>
      have := inner.2 read
      exact ⟨fun h => (nomatch h), fun h => (by cases h; omega)⟩
  · exact ⟨fun h => (by cases h; exact skipped), fun h => (nomatch h)⟩

theorem lineEnd_length {s : List Char} :
    (∀ {rest}, lineEnd s = .ok ((), rest) → rest.length ≤ s.length) ∧
      ∀ {stuck}, lineEnd s = .error stuck → stuck.length ≤ s.length := by
  have skipped := skipInner_length s
  unfold lineEnd
  split
  · exact ⟨fun h => (by cases h; exact Nat.zero_le _), fun h => (nomatch h)⟩
  next rest eq =>
    rw [eq] at skipped
    simp only [List.length_cons] at skipped
    have := skipLine_length rest
    exact ⟨fun h => (by cases h; omega), fun h => (nomatch h)⟩
  next rest eq =>
    rw [eq] at skipped
    simp only [List.length_cons] at skipped
    exact ⟨fun h => (by cases h; omega), fun h => (nomatch h)⟩
  · exact ⟨fun h => (nomatch h), fun h => (by cases h; exact Nat.le_refl _)⟩

/-- In front of a hash sign there is neither a name nor a value, and the line ends behind it. -/
theorem comment_length {s rest after : List Char} {text? : Option String}
    (start : s.head? = some '#') (none : value? s = .ok (text?, rest))
    (ended : lineEnd rest = .ok ((), after)) : after.length < s.length := by
  obtain ⟨tail, rfl⟩ : ∃ tail, s = '#' :: tail := by
    cases s with
    | nil => simp at start
    | cons c tail => exact ⟨tail, by simp_all⟩
  have here : skipInner ('#' :: tail) = '#' :: tail := by
    simp [skipInner, show isInnerBlank '#' = false by decide]
  rw [value?, here] at none
  cases none
  rw [lineEnd, here] at ended
  cases ended
  have := skipLine_length tail
  simp only [List.length_cons]; omega

theorem next_length {s : List Char} (h : s ≠ []) : (next s).2.length < s.length := by
  have pos := List.length_pos_iff.2 h
  have exported : (skipExport s).length ≤ s.length := by
    rcases skipExport_length s with eq | lt
    · exact Nat.le_of_eq (congrArg List.length eq)
    · exact Nat.le_of_lt lt
  have skip {stuck : List Char} (le : stuck.length ≤ s.length) : (skipLine stuck).length < s.length := by
    by_cases empty : stuck = []
    · subst empty; exact pos
    · exact Nat.lt_of_lt_of_le (skipLine_length_lt empty) le
  unfold next
  split
  next result eq =>
    unfold read at eq
    split at eq
    · cases eq
    next named =>
      split at eq
      · cases eq
      next valued =>
        have := value?_length.1 valued
        split at eq
        · cases eq
        next after ended =>
          have := lineEnd_length.1 ended
          have : after.length < s.length := by
            rcases name_length named with lt | ⟨same, start⟩
            · omega
            · subst same
              exact Nat.lt_of_lt_of_le (comment_length start valued ended) exported
          split at eq <;> (cases eq; exact this)
  next stuck eq =>
    unfold read at eq
    split at eq
    next named =>
      cases eq
      exact skip (name_stuck named ▸ exported)
    next rest named =>
      have first : rest.length ≤ s.length := by
        rcases name_length named with lt | ⟨same, _⟩
        · exact Nat.le_trans (Nat.le_of_lt lt) exported
        · exact same ▸ exported
      split at eq
      next valued =>
        cases eq
        exact skip (Nat.le_trans (value?_length.2 valued) first)
      next valued =>
        have second := Nat.le_trans (value?_length.1 valued) first
        split at eq
        next ended =>
          cases eq
          exact skip (Nat.le_trans (lineEnd_length.2 ended) second)
        · split at eq <;> cases eq

/-! ## Whole files -/

/-- The statements of a file, each with the line on which the one before it ended. -/
def all (line : Nat) (s : List Char) : List (Nat × Statement) :=
  match skipped : s.dropWhile isBlank with
  | [] => []
  | c :: tail =>
    have : (next (c :: tail)).2.length < s.length := by
      have := (List.dropWhile_suffix (l := s) isBlank).length_le
      have := next_length (List.cons_ne_nil c tail)
      rw [skipped] at *
      omega
    let after := (next (c :: tail)).2
    (line, (next (c :: tail)).1) :: all (line + s.count '\n' - after.count '\n') after
termination_by s.length

end Statement

end XmlSettings.Dotenv
