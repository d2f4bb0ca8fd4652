import Mathlib.Data.Prod.Lex
import XmlSettings.Proofs.Schema.Keys

/-! # The recursion of the decoder

While a value is decoded, the decoder is called again: for the values inside, and for the value itself
where it stands for a list of one or is tried for the members of a union.  Each of these calls is for a
smaller value, or for the same value and a smaller type.  So decoding ends, also for classes that refer to
themselves, and there is a bound for how deep calls are nested (`recursion_bounded`).

What is called is not seen in a result.  So the decoder is written once more here with its calls left open
(`valueBy`): the values inside are decoded by some function that is given, and that may give no answer.
-/

namespace XmlSettings

/-! ## Sizes -/

/-- A list is at least as large as each of its elements if every element adds to it. -/
theorem le_of_mem_of_cons {α : Type} (part : α → Nat) (whole : List α → Nat)
    (first : ∀ a rest, part a ≤ whole (a :: rest)) (more : ∀ a rest, whole rest ≤ whole (a :: rest))
    {a : α} {all : List α} (inside : a ∈ all) : part a ≤ whole all := by
  induction inside with
  | head rest => exact first a rest
  | tail b _ ih => exact Nat.le_trans ih (more b _)

namespace Value

mutual

/-- How many values there are in a value, itself included. -/
def size : Value → Nat
  | list items => sizeOfItems items + 1
  | table entries => sizeOfEntries entries + 1
  | record _ fields => sizeOfEntries fields + 1
  | _ => 1
termination_by structural value => value

def sizeOfItems : List Value → Nat
  | [] => 0
  | item :: rest => size item + sizeOfItems rest
termination_by structural items => items

def sizeOfEntries : List (Text × Value) → Nat
  | [] => 0
  | (_, value) :: rest => size value + sizeOfEntries rest
termination_by structural entries => entries

end

theorem size_lt_of_item {items : List Value} {item : Value} (inside : item ∈ items) :
    item.size < (list items).size := by
  rw [size, Nat.lt_succ_iff]
  exact le_of_mem_of_cons size sizeOfItems (fun _ _ => Nat.le_add_right _ _)
    (fun _ _ => Nat.le_add_left _ _) inside

theorem size_lt_of_entry {entries : List (Text × Value)} {key : Text} {value : Value}
    (inside : (key, value) ∈ entries) : value.size < (table entries).size := by
  rw [size, Nat.lt_succ_iff]
  exact le_of_mem_of_cons (·.2.size) sizeOfEntries (fun _ _ => Nat.le_add_right _ _)
    (fun _ _ => Nat.le_add_left _ _) inside

end Value

namespace Schema

namespace Hint

mutual

/-- How many types there are in a type, itself included. -/
def size : Hint → Nat
  | list _ item => size item + 1
  | table _ value => size value + 1
  | union _ members => sizeOfMembers members + 1
  | _ => 1
termination_by structural hint => hint

def sizeOfMembers : List Hint → Nat
  | [] => 0
  | member :: rest => size member + sizeOfMembers rest
termination_by structural members => members

end

theorem size_lt_of_member {spelling : Spelling} {members : List Hint} {member : Hint}
    (inside : member ∈ members) : member.size < (union spelling members).size := by
  rw [size, Nat.lt_succ_iff]
  exact le_of_mem_of_cons size sizeOfMembers (fun _ _ => Nat.le_add_right _ _)
    (fun _ _ => Nat.le_add_left _ _) inside

theorem size_pos (hint : Hint) : 0 < hint.size := by
  cases hint <;> exact Nat.succ_pos _

theorem size_lt_of_list (spelling : Spelling) (item : Hint) : item.size < (list spelling item).size :=
  Nat.lt_succ_self _

theorem size_lt_of_table (spelling : Spelling) (value : Hint) : value.size < (table spelling value).size :=
  Nat.lt_succ_self _

end Hint

variable {classes : Classes} {settings : Settings} {className key : Text} {field : Field} {path : Path}
  {raw inner : Value} {hint wanted : Hint} {entries values : List (Text × Value)} {items : List Value}
  {members : List Hint}

/-! ## Nested calls -/

/-- For which values and types the decoder is called while it decodes a value into a type. -/
inductive Calls (classes : Classes) : Value → Hint → Value → Hint → Prop where
  | member {spelling : Spelling} {members : List Hint} {member : Hint} {raw : Value}
      (inside : member ∈ members) : Calls classes raw (.union spelling members) raw member
  | item {spelling : Spelling} {hint : Hint} {items : List Value} {item : Value}
      (inside : item ∈ items) : Calls classes (.list items) (.list spelling hint) item hint
  | only {spelling : Spelling} {hint : Hint} {raw : Value} (single : ∀ items, raw ≠ .list items) :
      Calls classes raw (.list spelling hint) raw hint
  | entry {spelling : Spelling} {hint : Hint} {entries : List (Text × Value)} {key : Text}
      {raw : Value} (inside : (key, raw) ∈ entries) :
      Calls classes (.table entries) (.table spelling hint) raw hint
  | field {className : Text} {entries : List (Text × Value)} {key : Text} {field : Field}
      {raw : Value} (inside : (key, raw) ∈ entries)
      (named : (fieldsOf classes className).get? (normal key) = some field) :
      Calls classes (.table entries) (.record className) raw field.hint

/-- The size of the largest type that a field is declared with. -/
def Classes.largest (classes : Classes) : Nat :=
  (classes.flatMap (·.2)).foldr (fun field most => max field.hint.size most) 0

theorem Classes.size_le_largest (named : (fieldsOf classes className).get? key = some field) :
    field.hint.size ≤ classes.largest := by
  obtain ⟨_, _, declared, known, member⟩ := of_get?_settable named
  have inside : field ∈ classes.flatMap (·.2) :=
    List.mem_flatMap.2 ⟨_, Entries.mem_of_get? known, member⟩
  exact le_of_mem_of_cons (·.hint.size) (·.foldr (fun field most => max field.hint.size most) 0)
    (fun _ _ => Nat.le_max_left _ _) (fun _ _ => Nat.le_max_right _ _) inside

/-- A nested call is for the same value and a smaller type, or for a smaller value.  Only for the fields
    of a class the type may get larger. -/
theorem Calls.smaller (calls : Calls classes raw hint inner wanted) :
    (inner = raw ∧ wanted.size < hint.size) ∨
      (inner.size < raw.size ∧ (wanted.size < hint.size ∨ wanted.size ≤ classes.largest)) := by
  cases calls with
  | member inside => exact .inl ⟨rfl, Hint.size_lt_of_member inside⟩
  | item inside => exact .inr ⟨Value.size_lt_of_item inside, .inl (Hint.size_lt_of_list _ _)⟩
  | only => exact .inl ⟨rfl, Hint.size_lt_of_list _ _⟩
  | entry inside => exact .inr ⟨Value.size_lt_of_entry inside, .inl (Hint.size_lt_of_table _ _)⟩
  | field inside named =>
    exact .inr ⟨Value.size_lt_of_entry inside, .inr (Classes.size_le_largest named)⟩

/-! ## Weights and depths -/

/-- The sizes of a value and of the type that it is decoded into, in lexicographic order. -/
def weight (raw : Value) (hint : Hint) : ℕ ×ₗ ℕ :=
  toLex (raw.size, hint.size)

theorem Calls.weight_lt (calls : Calls classes raw hint inner wanted) :
    weight inner wanted < weight raw hint := by
  refine Prod.Lex.toLex_lt_toLex.2 ?_
  rcases calls.smaller with ⟨rfl, smaller⟩ | ⟨smaller, _⟩
  · exact .inr ⟨rfl, smaller⟩
  · exact .inl smaller

/-- A bound for how deep calls are nested: each value inside may be decoded into the largest type. -/
def nesting (classes : Classes) (raw : Value) (hint : Hint) : Nat :=
  raw.size * (classes.largest + 1) + hint.size

theorem Calls.nesting_lt (calls : Calls classes raw hint inner wanted) :
    nesting classes inner wanted < nesting classes raw hint := by
  unfold nesting
  rcases calls.smaller with ⟨rfl, smaller⟩ | ⟨smaller, bounded⟩
  · exact Nat.add_lt_add_left smaller _
  · -- The smaller value pays for any declared type.
    have step : (inner.size + 1) * (classes.largest + 1) ≤ raw.size * (classes.largest + 1) :=
      Nat.mul_le_mul_right _ smaller
    rw [Nat.succ_mul] at step
    omega

/-! ## Runs without an answer -/

namespace Run

variable {α β : Type u}

protected theorem bind_assoc {γ : Type u} (run : Run α) (next : α → Run β) (after : β → Run γ) :
    (run.bind next).bind after = run.bind fun a => (next a).bind after := by
  obtain ⟨notes, result⟩ := run
  cases result with
  | error => rfl
  | ok a =>
    simp only [Run.bind]
    cases (next a).result with
    | error => rfl
    | ok b => simp only [List.append_assoc]

instance : LawfulMonad Run :=
  LawfulMonad.mk' Run
    (fun ⟨notes, result⟩ => by
      cases result with
      | error => rfl
      | ok a => exact congrArg (Run.mk · (.ok a)) (List.append_nil notes))
    (fun _ _ => rfl)
    Run.bind_assoc

/-- Go on with another run if a value turned out not to fit, but not if there is no answer. -/
def retried (run : OptionT Run α) (next : DecodeError → OptionT Run α) : OptionT Run α :=
  OptionT.mk (run.run.orElseRejected fun e => (next e).run)

theorem lift_orElseRejected (run : Run α) (next : DecodeError → Run α) :
    OptionT.lift (run.orElseRejected next) = retried (OptionT.lift run) fun e => OptionT.lift (next e) := by
  obtain ⟨notes, result⟩ := run
  cases result with
  | ok a => rfl
  | error e =>
    cases e with
    | rejected e =>
      show OptionT.lift (Run.mk (notes ++ (next e).notes) (next e).result) =
        OptionT.mk (Run.mk (notes ++ (OptionT.lift (next e)).run.notes) (OptionT.lift (next e)).run.result)
      obtain ⟨later, result⟩ := next e
      cases result with
      | error => rfl
      | ok a => exact congrArg (fun notes => OptionT.mk (Run.mk notes _)) (List.append_assoc _ _ _)
    | _ => rfl

end Run

/-! ## The decoder with its calls left open -/

/-- What decodes a value at a path into a type, or gives no answer. -/
abbrev Call := Path → Value → Hint → OptionT Run Value

/-- The decoder, which always gives an answer. -/
def answer (classes : Classes) (settings : Settings) : Call :=
  fun path raw hint => OptionT.lift (decodeValue classes settings path raw hint)

section Open

variable (classes : Classes) (settings : Settings) (call : Call)

/-- Decode a value into the first member of a union that it fits. -/
def memberBy (path : Path) (raw : Value) (whole : Hint) (errors : List DecodeError) :
    List Hint → OptionT Run Value
  | [] => OptionT.lift (Run.reject (.noMember path whole errors.reverse))
  | member :: rest =>
    if member.isNothing then memberBy path raw whole errors rest
    else
      Run.retried (call path raw member) fun e => memberBy path raw whole (e :: errors) rest

/-- Decode the items of a list from an index on. -/
def itemsBy (path : Path) (hint : Hint) (i : Nat) : List Value → OptionT Run (List Value)
  | [] => pure []
  | item :: rest => do
    let item ← call (.index i :: path) item hint
    let rest ← itemsBy path hint (i + 1) rest
    pure (item :: rest)

/-- Decode the values of a table. -/
def entriesBy (path : Path) (hint : Hint) : List (Text × Value) → OptionT Run (List (Text × Value))
  | [] => pure []
  | (key, value) :: rest => do
    let value ← call (.key key :: path) value hint
    let rest ← entriesBy path hint rest
    pure ((key, value) :: rest)

/-- Decode the values under keys that name fields, and add them to the values so far. -/
def keysBy (path : Path) (className : Text) (values : Entries Text Value) :
    List (Text × Value) → OptionT Run (Entries Text Value)
  | [] => pure values
  | (key, raw) :: rest =>
    match (fieldsOf classes className).get? (normal key) with
    | none =>
      if settings.rejectUnused then OptionT.lift (Run.reject (.unusedKey path className key))
      else do
        OptionT.lift (Run.note ⟨key, className⟩)
        keysBy path className values rest
    | some field => do
      let value ← call (.field field.name :: path) raw field.hint
      keysBy path className (values.put field.name value) rest

def fieldsBy (path : Path) (className : Text) (raw : Value) : OptionT Run (Entries Text Value) :=
  match raw with
  | .table entries => keysBy classes settings call path className [] entries
  | raw => OptionT.lift (Run.reject (.noTable path className raw.kindName))

/-- Decode a value into a type by means of a function that decodes other values. -/
def valueBy (path : Path) (raw : Value) (hint : Hint) : OptionT Run Value :=
  match hint with
  | .any | .unchecked _ _ => pure raw
  | .scalar type => OptionT.lift (decodeScalar settings path raw type)
  | .plain type =>
    if type.accepts raw then pure raw
    else OptionT.lift (Run.reject (.unexpected path type.name raw.kindName))
  | .union spelling members =>
    match raw with
    | .nothing =>
      if members.any Hint.isNothing then pure .nothing
      else memberBy call path .nothing (.union spelling members) [] members
    | raw => memberBy call path raw (.union spelling members) [] members
  | .list _ item =>
    match raw with
    | .list items => do
      let items ← itemsBy call path item 0 items
      pure (.list items)
    | raw => do
      let only ← call (.index 0 :: path) raw item
      pure (.list [only])
  | .table _ value =>
    match raw with
    | .table entries => do
      let entries ← entriesBy call path value entries
      pure (.table entries)
    | raw => OptionT.lift (Run.reject (.noTable path "" raw.kindName))
  | .record className => do
    let values ← fieldsBy classes settings call path className raw
    OptionT.lift (checkGiven path values ((fieldsOf classes className).map (·.2)))
    OptionT.lift (construct classes className values)

end Open

/-! ## Calls that are answered -/

section Answered

variable {call : Call}

theorem memberBy_of_calls {whole : Hint} {errors : List DecodeError}
    (each : ∀ member ∈ members, call path raw member = answer classes settings path raw member) :
    memberBy call path raw whole errors members =
      OptionT.lift (decodeMember classes settings path raw whole errors members) := by
  induction members generalizing errors with
  | nil => rw [memberBy, decodeMember]
  | cons member rest ih =>
    obtain ⟨first, more⟩ := List.forall_mem_cons.1 each
    rw [memberBy, decodeMember_cons]
    split
    next => exact ih more
    next =>
      rw [Run.lift_orElseRejected, first]
      exact congrArg _ (funext fun e => ih more)

theorem itemsBy_of_calls {i : Nat}
    (each : ∀ item ∈ items, ∀ path, call path item hint = answer classes settings path item hint) :
    itemsBy call path hint i items = OptionT.lift (decodeItems classes settings path i items hint) := by
  induction items generalizing i with
  | nil => rw [itemsBy, decodeItems, OptionT.lift_pure]
  | cons item rest ih =>
    obtain ⟨first, more⟩ := List.forall_mem_cons.1 each
    rw [itemsBy, decodeItems, first, ih more]
    simp only [OptionT.lift_bind, OptionT.lift_pure, answer]

theorem entriesBy_of_calls
    (each : ∀ key raw, (key, raw) ∈ entries →
      ∀ path, call path raw hint = answer classes settings path raw hint) :
    entriesBy call path hint entries = OptionT.lift (decodeEntries classes settings path entries hint) := by
  induction entries with
  | nil => rw [entriesBy, decodeEntries, OptionT.lift_pure]
  | cons entry rest ih =>
    obtain ⟨key, raw⟩ := entry
    rw [entriesBy, decodeEntries, each key raw List.mem_cons_self,
      ih fun key raw inside => each key raw (List.mem_cons_of_mem _ inside)]
    simp only [OptionT.lift_bind, OptionT.lift_pure, answer]

theorem keysBy_of_calls
    (each : ∀ key raw field, (key, raw) ∈ entries →
      (fieldsOf classes className).get? (normal key) = some field →
        ∀ path, call path raw field.hint = answer classes settings path raw field.hint) :
    keysBy classes settings call path className values entries =
      OptionT.lift (decodeKeys classes settings path className values entries) := by
  induction entries generalizing values with
  | nil => rw [keysBy, decodeKeys_nil, OptionT.lift_pure]
  | cons entry rest ih =>
    obtain ⟨key, raw⟩ := entry
    have later (values : Entries Text Value) :
        keysBy classes settings call path className values rest =
          OptionT.lift (decodeKeys classes settings path className values rest) :=
      ih fun key raw field inside => each key raw field (List.mem_cons_of_mem _ inside)
    rw [keysBy]
    cases found : (fieldsOf classes className).get? (normal key) with
    | none =>
      rw [decodeKeys_unnamed found]
      simp only [later]
      split
      next => rfl
      next => rw [OptionT.lift_bind]
    | some field =>
      rw [decodeKeys_cons found, OptionT.lift_bind]
      simp only [later, each key raw field List.mem_cons_self found, answer]

theorem fieldsBy_of_calls
    (each : ∀ path inner wanted, Calls classes raw (.record className) inner wanted →
      call path inner wanted = answer classes settings path inner wanted) :
    fieldsBy classes settings call path className raw =
      OptionT.lift (decodeFields classes settings path className raw) := by
  cases raw with
  | table entries =>
    rw [fieldsBy, decodeFields]
    exact keysBy_of_calls fun key raw field inside named path =>
      each path raw field.hint (.field inside named)
  | _ =>
    rw [decodeFields]
    · rfl
    · rintro _ ⟨⟩

/-- A value is decoded if the calls for the values inside are answered. -/
theorem valueBy_of_calls
    (each : ∀ path inner wanted, Calls classes raw hint inner wanted →
      call path inner wanted = answer classes settings path inner wanted) :
    valueBy classes settings call path raw hint = answer classes settings path raw hint := by
  unfold answer
  -- Each kind of type is decoded through the calls that `Calls` names for it.
  cases hint with
  | any | unchecked =>
    rw [decodeValue, OptionT.lift_pure]
    rfl
  | scalar type =>
    rw [decodeValue_scalar]
    rfl
  | plain type =>
    rw [decodeValue, valueBy]
    split
    next => rw [OptionT.lift_pure]
    next => rfl
  | union spelling members =>
    have tried : memberBy call path raw (.union spelling members) [] members =
        OptionT.lift (decodeMember classes settings path raw (.union spelling members) [] members) :=
      memberBy_of_calls fun member inside => each path raw member (.member inside)
    cases raw with
    | nothing =>
      rw [decodeValue, valueBy]
      split
      next => rw [OptionT.lift_pure]
      next => exact tried
    | _ =>
      rw [decodeValue]
      · exact tried
      · rintro ⟨⟩
  | list spelling item =>
    by_cases several : ∃ items, raw = .list items
    · obtain ⟨items, rfl⟩ := several
      rw [decodeValue_items, valueBy, OptionT.lift_bind,
        itemsBy_of_calls fun inner inside path => each path inner item (.item inside)]
      rfl
    · have single : ∀ items, raw ≠ .list items := fun items same => several ⟨items, same⟩
      rw [decodeValue_only single, OptionT.lift_bind, valueBy]
      · rw [each _ raw item (.only single)]
        rfl
      · exact single
  | table spelling value =>
    cases raw with
    | table entries =>
      rw [decodeValue_entries, valueBy, OptionT.lift_bind,
        entriesBy_of_calls fun key raw inside path => each path raw value (.entry inside)]
      rfl
    | _ =>
      rw [decodeValue]
      · rfl
      · rintro _ ⟨⟩
  | record className =>
    rw [decodeValue, valueBy, fieldsBy_of_calls each]
    simp only [OptionT.lift_bind]

end Answered

/-! ## Bounds -/

/-- Answer calls that weigh less than some bound, and no others. -/
def below (bound : ℕ ×ₗ ℕ) (call : Call) : Call :=
  fun path raw hint => if weight raw hint < bound then call path raw hint else failure

/-- The decoder that gives no answer where calls are nested too deep. -/
def decodeWithin (classes : Classes) (settings : Settings) : Nat → Call
  | 0 => fun _ _ _ => failure
  | depth + 1 => valueBy classes settings (decodeWithin classes settings depth)

theorem below_of_calls (calls : Calls classes raw hint inner wanted) (call : Call) :
    below (weight raw hint) call path inner wanted = call path inner wanted :=
  if_pos calls.weight_lt

theorem decodeWithin_of_nesting {depth : Nat} (enough : nesting classes raw hint ≤ depth) :
    decodeWithin classes settings depth path raw hint = answer classes settings path raw hint := by
  induction depth generalizing path raw hint with
  | zero =>
    have some : 0 < nesting classes raw hint := Nat.add_pos_right _ hint.size_pos
    exact absurd enough (Nat.not_le.2 some)
  | succ depth ih =>
    refine valueBy_of_calls fun path inner wanted calls => ih ?_
    exact Nat.le_of_lt_succ (Nat.lt_of_lt_of_le calls.nesting_lt enough)

/-- While a value is decoded into a type, or into the fields of a class, the decoder is called for pairs of
    less weight only: what comes of it is the same if no other call is answered.  So the decoder gives an
    answer for every value and every type, with calls nested no deeper than their sizes allow. -/
theorem recursion_bounded (classes : Classes) (settings : Settings) (path : Path) (raw : Value) :
    (∀ hint, valueBy classes settings (below (weight raw hint) (answer classes settings)) path raw hint =
      OptionT.lift (decodeValue classes settings path raw hint)) ∧
    (∀ className, fieldsBy classes settings
        (below (weight raw (.record className)) (answer classes settings)) path className raw =
      OptionT.lift (decodeFields classes settings path className raw)) ∧
    ∀ hint spare, decodeWithin classes settings (nesting classes raw hint + spare) path raw hint =
      OptionT.lift (decodeValue classes settings path raw hint) := by
  refine ⟨fun hint => ?_, fun className => ?_, fun hint spare => ?_⟩
  · exact valueBy_of_calls fun path inner wanted calls => below_of_calls calls _
  · exact fieldsBy_of_calls fun path inner wanted calls => below_of_calls calls _
  · exact decodeWithin_of_nesting (Nat.le_add_right _ _)

/-- A node inside a node takes three nested calls: for the two nodes, and for what may be one. -/
example :
    let node : Hint := .record "Node"
    let classes : Classes :=
      [("Node", [⟨"next", .union .long [node, .nothing], .value .nothing, true⟩])]
    let last := Value.record "Node" [("next", .nothing)]
    let decoded (depth : Nat) :=
      (decodeWithin classes .standard depth [] (.table [("next", .table [])]) node).run.result
    decoded 2 = .ok none ∧ decoded 3 = .ok (some (.record "Node" [("next", last)])) := by
  intro node classes last decoded
  simp only [decoded]
  exact ⟨by cbv, by cbv⟩

end Schema

end XmlSettings
