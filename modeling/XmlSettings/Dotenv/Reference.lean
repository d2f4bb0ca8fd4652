import XmlSettings.Text.Basic

/-! # References in dotenv values

A value may refer to variables: `${NAME}` stands for the value of a variable and `${NAME:-default}`
for a default where there is no such variable.  A name ends at the first colon or closing brace, and
a default at the first closing brace.  Anything else stands for itself.
-/

namespace XmlSettings.Dotenv

structure Reference where
  name : String
  default : List Char

namespace Reference

def isNameChar (c : Char) : Bool :=
  c != '\x7d' && c != ':'

def read? (s : List Char) : Option (Reference × List Char) :=
  match s.dropWhile isNameChar with
  | '\x7d' :: rest => some (⟨String.ofList (s.takeWhile isNameChar), []⟩, rest)
  | ':' :: '-' :: more =>
    match more.dropWhile (· != '\x7d') with
    | _ :: rest =>
      some (⟨String.ofList (s.takeWhile isNameChar), more.takeWhile (· != '\x7d')⟩, rest)
    | [] => none
  | _ => none

theorem read?_length {s rest : List Char} {reference : Reference}
    (h : read? s = some (reference, rest)) : rest.length < s.length := by
  have named := (List.dropWhile_suffix (l := s) isNameChar).length_le
  unfold read? at h
  split at h
  next eq =>
    cases h
    rw [eq] at named
    exact named
  next more eq =>
    rw [eq] at named
    have := (List.dropWhile_suffix (l := more) (· != '\x7d')).length_le
    split at h
    next closed =>
      cases h
      rw [closed] at this
      simp only [List.length_cons] at *
      omega
    · cases h
  · cases h

/-- Replace the references in a value.  A variable may be known without having a value. -/
def replaceAll (lookup : String → Option (Option Text)) (s : List Char) : List Rune :=
  match s with
  | [] => []
  | '$' :: '\x7b' :: behind =>
    match found : read? behind with
    | some (reference, rest) =>
      have := read?_length found
      let text := match lookup reference.name with
        | some (some value) => value.toList
        | some none => []
        | none => reference.default.map .char
      text ++ replaceAll lookup rest
    | none => .char '$' :: replaceAll lookup ('\x7b' :: behind)
  | c :: rest => .char c :: replaceAll lookup rest
termination_by s.length

end Reference

end XmlSettings.Dotenv
