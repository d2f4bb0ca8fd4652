import XmlSettings.Environment
import XmlSettings.Value.Basic

/-! # Placeholders

A text that is entirely a placeholder, `${KEY}` or `${KEY||default}`, stands for the value of an
environment variable.  A variable that is unset or empty gives the default, or
nothing where there is none.  Any other text stands for itself, whatever it holds.
-/

namespace XmlSettings

open Environment (Unencodable)

namespace Placeholder

/-- Split the part of a placeholder behind the opening brace: the key ends at the first `||` or at
    the first closing brace, and a default reaches from `||` to the last character, which is the
    closing brace. -/
def split : List Rune → List Rune × List Rune
  | [] => ([], [])
  | '\x7d' :: _ => ([], [])
  | '|' :: '|' :: rest => ([], rest.dropLast)
  | c :: rest =>
    let (key, default) := split rest
    (c :: key, default)

def body? (t : Text) : Option (List Rune) :=
  match t.toList with
  | '$' :: '\x7b' :: body => if body.getLast? = some (.char '\x7d') then some body else none
  | _ => none

def expand (env : Environment) (t : Text) : Except Unencodable Text :=
  match body? t with
  | none => .ok t
  | some body => do
    let (key, default) := split body
    match ← env.lookup (.ofList key) with
    | none => .ok (.ofList default)
    | some value => .ok (if value = "" then .ofList default else value)

end Placeholder

namespace Value

mutual

/-- Expand every text in a value; names are left alone. -/
def expand (env : Environment) : Value → Except Unencodable Value
  | text t => text <$> Placeholder.expand env t
  | list items => list <$> expandItems env items
  | table entries => table <$> expandEntries env entries
  | value => .ok value
termination_by structural v => v

def expandItems (env : Environment) : List Value → Except Unencodable (List Value)
  | [] => .ok []
  | item :: rest => do
    let item ← expand env item
    let rest ← expandItems env rest
    .ok (item :: rest)
termination_by structural items => items

def expandEntries (env : Environment) : List (Text × Value) → Except Unencodable (List (Text × Value))
  | [] => .ok []
  | (key, value) :: rest => do
    let value ← expand env value
    let rest ← expandEntries env rest
    .ok ((key, value) :: rest)
termination_by structural entries => entries

end

end Value

end XmlSettings
