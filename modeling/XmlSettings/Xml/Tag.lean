import XmlSettings.Xml.Scan

/-! # Tags

The tags that open and close elements.  An opening tag holds attributes, each with its value as it
is written between the quotes; what the references in a value stand for is decided elsewhere, only
their form is checked here.
-/

namespace XmlSettings.Xml

variable [Naming]

structure QualifiedName where
  qualifier? : Option String
  localName : String
deriving DecidableEq

def QualifiedName.written (name : QualifiedName) : String :=
  match name.qualifier? with
  | none => name.localName
  | some qualifier => qualifier ++ ":" ++ name.localName

structure RawAttribute where
  name : QualifiedName
  start : List Char
  value : List Char
  /-- The input behind the value, from the closing quote on. -/
  behind : List Char

structure OpenTag where
  name : QualifiedName
  attributes : List RawAttribute
  isClosed : Bool

namespace Scan

def qualifiedName (s : List Char) : Scan (QualifiedName × List Char) := do
  let (first, rest) ← name s
  match rest with
  | ':' :: behind => do
    let (second, rest) ← name behind
    .ok (⟨some first, second⟩, rest)
  | _ => .ok (⟨none, first⟩, rest)

/-- Check that a reference is well formed where an ampersand is met. -/
def checkReference (c : Char) (rest : List Char) : Scan Unit :=
  if c = '&' then
    match reference rest with
    | .ok _ => .ok ()
    | .error halt => .error halt
  else .ok ()

def quotedValue (quote : Char) : List Char → Scan (List Char × List Char)
  | [] => .error .ended
  | c :: rest =>
    if c = quote then .ok ([], c :: rest)
    else if c = '<' ∨ isForbidden c then .error (.before (c :: rest))
    else
      match checkReference c rest with
      | .error halt => .error halt
      | .ok () =>
        match quotedValue quote rest with
        | .error halt => .error halt
        | .ok (value, behind) => .ok (c :: value, behind)

def oneAttribute (s : List Char) : Scan (RawAttribute × List Char) := do
  let (name, rest) ← qualifiedName s
  let rest ← expect '=' (skipBlanks rest)
  match skipBlanks rest with
  | [] => .error .ended
  | quote :: inside =>
    if quote = '"' ∨ quote = '\x27' then do
      let (value, behind) ← quotedValue quote inside
      .ok (⟨name, s, value, behind⟩, behind.tail)
    else .error (.before (quote :: inside))

theorem qualifiedName_suffix {s rest : List Char} {n : QualifiedName}
    (h : qualifiedName s = .ok (n, rest)) : rest <:+ s := by
  unfold qualifiedName at h
  cases eq : name s with
  | error halt => simp [eq, bind, Except.bind] at h
  | ok found =>
    obtain ⟨first, behind⟩ := found
    refine List.IsSuffix.trans ?_ (name_suffix eq)
    simp only [eq, bind, Except.bind] at h
    split at h
    · next more =>
      cases second : name more with
      | error halt => simp [second] at h
      | ok found =>
        simp only [second, Except.ok.injEq, Prod.mk.injEq] at h
        rw [← h.2]
        exact (name_suffix second).trans (List.suffix_cons _ _)
    · simp only [Except.ok.injEq, Prod.mk.injEq] at h
      exact h.2 ▸ List.suffix_refl _

theorem quotedValue_suffix {quote : Char} {s value behind : List Char}
    (h : quotedValue quote s = .ok (value, behind)) : behind <:+ s := by
  induction s generalizing value behind with
  | nil => simp [quotedValue] at h
  | cons c rest ih =>
    unfold quotedValue at h
    split at h
    · simp only [Except.ok.injEq, Prod.mk.injEq] at h
      exact h.2 ▸ List.suffix_refl _
    · split at h
      · simp at h
      · split at h
        · simp at h
        · split at h
          · simp at h
          · next inner =>
            simp only [Except.ok.injEq, Prod.mk.injEq] at h
            rw [← h.2]
            exact (ih inner).trans (List.suffix_cons c rest)

theorem oneAttribute_length {s rest : List Char} {a : RawAttribute}
    (h : oneAttribute s = .ok (a, rest)) : rest.length < s.length := by
  unfold oneAttribute at h
  cases eq : qualifiedName s with
  | error halt => simp [eq, bind, Except.bind] at h
  | ok found =>
    obtain ⟨n, more⟩ := found
    simp only [eq, bind, Except.bind] at h
    cases sign : expect '=' (skipBlanks more) with
    | error halt => simp [sign] at h
    | ok more' =>
      simp only [sign] at h
      have consumed := (skipBlanks_suffix more).length_le
      rw [expect_eq_ok_iff.1 sign, List.length_cons] at consumed
      have fromName := (qualifiedName_suffix eq).length_le
      split at h
      · simp at h
      · next quote inside opening =>
        have blanks := (skipBlanks_suffix more').length_le
        rw [opening, List.length_cons] at blanks
        split at h
        · cases closing : quotedValue quote inside with
          | error halt => simp [closing] at h
          | ok found =>
            obtain ⟨value, behind⟩ := found
            simp only [closing, Except.ok.injEq, Prod.mk.injEq] at h
            have inner := (quotedValue_suffix closing).length_le
            rw [← h.2, List.length_tail]
            omega
        · simp at h

/-- Take the attributes of a tag and its end; the truth value says whether the tag closes its
    element. -/
def attributes (s : List Char) : Scan (List RawAttribute × Bool × List Char) :=
  match shown : skipBlanks s with
  | [] => .error .ended
  | '>' :: rest => .ok ([], false, rest)
  | '/' :: rest => do
    let rest ← expect '>' rest
    .ok ([], true, rest)
  | c :: rest =>
    if s.length = (c :: rest).length then .error (.before s)
    else
      match taken : oneAttribute (c :: rest) with
      | .error halt => .error halt
      | .ok (first, behind) =>
        have : behind.length < s.length := by
          have blanks := (skipBlanks_suffix s).length_le
          rw [shown] at blanks
          exact Nat.lt_of_lt_of_le (oneAttribute_length taken) blanks
        match attributes behind with
        | .error halt => .error halt
        | .ok (more, isClosed, rest) => .ok (first :: more, isClosed, rest)
termination_by s.length

theorem attributes_length {s rest : List Char} {found : List RawAttribute} {isClosed : Bool}
    (h : attributes s = .ok (found, isClosed, rest)) : rest.length ≤ s.length := by
  fun_induction attributes s generalizing found isClosed rest with
  | case1 => simp at h
  | case2 s more shown =>
    simp only [Except.ok.injEq, Prod.mk.injEq] at h
    have blanks := (skipBlanks_suffix s).length_le
    rw [shown, List.length_cons] at blanks
    rw [← h.2.2]
    omega
  | case3 s more shown =>
    cases closing : expect '>' more with
    | error halt => simp [closing, bind, Except.bind] at h
    | ok behind =>
      simp only [closing, bind, Except.bind, Except.ok.injEq, Prod.mk.injEq] at h
      have blanks := (skipBlanks_suffix s).length_le
      have closed := (expect_suffix closing).length_le
      rw [shown, List.length_cons] at blanks
      rw [← h.2.2]
      omega
  | case4 => simp at h
  | case5 => simp at h
  | case6 => simp at h
  | case7 s c more _ _ _ _ first behind _ shorter inner innerClosed innerRest eq ih =>
    simp only [Except.ok.injEq, Prod.mk.injEq] at h
    rw [← h.2.2]
    exact Nat.le_of_lt (Nat.lt_of_le_of_lt (ih eq) shorter)

def openTag (s : List Char) : Scan (OpenTag × List Char) := do
  let (name, rest) ← qualifiedName s
  let (found, isClosed, rest) ← attributes rest
  .ok (⟨name, found, isClosed⟩, rest)

/-- Whether a character may go on the name in a closing tag.  Colons are not looked at, since the
    name has to agree with that of the opening tag. -/
def isClosingNameChar (c : Char) : Bool :=
  isNameChar c || c == ':'

def closeTag (s : List Char) : Scan (String × List Char) :=
  match s with
  | [] => .error .ended
  | c :: rest =>
    if isNameStart c then do
      let behind ← expect '>' (skipBlanks (rest.dropWhile isClosingNameChar))
      .ok (String.ofList (c :: rest.takeWhile isClosingNameChar), behind)
    else .error (.before s)

theorem openTag_length {s rest : List Char} {tag : OpenTag} (h : openTag s = .ok (tag, rest)) :
    rest.length ≤ s.length := by
  unfold openTag at h
  cases eq : qualifiedName s with
  | error halt => simp [eq, bind, Except.bind] at h
  | ok found =>
    obtain ⟨n, more⟩ := found
    simp only [eq, bind, Except.bind] at h
    cases inner : attributes more with
    | error halt => simp [inner] at h
    | ok found =>
      obtain ⟨as, isClosed, behind⟩ := found
      simp only [inner, Except.ok.injEq, Prod.mk.injEq] at h
      rw [← h.2]
      exact Nat.le_trans (attributes_length inner) (qualifiedName_suffix eq).length_le

theorem closeTag_length {s rest : List Char} {n : String} (h : closeTag s = .ok (n, rest)) :
    rest.length ≤ s.length := by
  cases s with
  | nil => simp [closeTag] at h
  | cons c more =>
    simp only [closeTag] at h
    split at h
    · cases closing : expect '>' (skipBlanks (more.dropWhile isClosingNameChar)) with
      | error halt => simp [closing, bind, Except.bind] at h
      | ok behind =>
        simp only [closing, bind, Except.bind, Except.ok.injEq, Prod.mk.injEq] at h
        rw [← h.2]
        exact ((expect_suffix closing).trans ((skipBlanks_suffix _).trans
          ((List.dropWhile_suffix _).trans (List.suffix_cons c more)))).length_le
    · simp at h

end Scan

end XmlSettings.Xml
