import Mathlib.Data.List.Infix
import XmlSettings.Placeholder
import XmlSettings.Proofs.Environment

/-! # What placeholders stand for

The scan of a placeholder stops at the first closing brace or at the first `||`, and it always stops
(`exists_stopsAt`).  So both forms of a placeholder stand for what their key and default say, as long
as the key can go to the operating system (`expand_placeholder`).  It is not looked at whether a text
ends where the scan stops: a text that opens and ends like a placeholder never stands for itself, and
what follows the first closing brace of a bare key is dropped (`stands_for_itself_iff`).
-/

namespace XmlSettings

namespace Placeholder

/-! ## Keys -/

/-- Whether some characters hold neither a closing brace nor `||`. -/
def IsKey (key : List Rune) : Prop := .char '\x7d' ∉ key ∧ ¬[.char '|', .char '|'] <:+: key

/-- Whether some characters are the whole key in front of `||`: a bar at their end would be the first
    of the two. -/
def IsKeyOfDefault (key : List Rune) : Prop := IsKey key ∧ key.getLast? ≠ some (.char '|')

instance (key : List Rune) : Decidable (IsKey key) := inferInstanceAs (Decidable (_ ∧ _))

instance (key : List Rune) : Decidable (IsKeyOfDefault key) := inferInstanceAs (Decidable (_ ∧ _))

theorem singleton_prefix_iff {c : Rune} {rest : List Rune} : [c] <+: rest ↔ rest.head? = some c := by
  cases rest <;> simp [eq_comm]

theorem isKey_nil : IsKey [] := by simp [IsKey]

theorem isKey_cons {c : Rune} {rest : List Rune} :
    IsKey (c :: rest) ↔ (c ≠ .char '\x7d' ∧ ¬(c = .char '|' ∧ rest.head? = some (.char '|'))) ∧ IsKey rest := by
  simp only [IsKey, List.mem_cons, List.infix_cons_iff, List.cons_prefix_cons, singleton_prefix_iff,
    not_or, eq_comm (b := c)]
  tauto

/-! ## The scan -/

/-- Where the scan of a placeholder stops, with the key and the default that it comes to. -/
inductive StopsAt : List Rune → List Rune → List Rune → Prop where
  | brace {key : List Rune} (isKey : IsKey key) (rest : List Rune) :
      StopsAt (key ++ .char '\x7d' :: rest) key []
  | bars {key : List Rune} (isKey : IsKeyOfDefault key) (default : List Rune) :
      StopsAt (key ++ .char '|' :: .char '|' :: (default ++ [Rune.char '\x7d'])) key default

theorem split_cons {c : Rune} {rest : List Rune} (noBrace : c ≠ .char '\x7d')
    (noBars : ¬(c = .char '|' ∧ rest.head? = some (.char '|'))) :
    split (c :: rest) = (c :: (split rest).1, (split rest).2) := by
  rw [split]
  · exact noBrace
  · rintro behind rfl rfl
    exact noBars ⟨rfl, rfl⟩

theorem split_brace {key : List Rune} (isKey : IsKey key) (rest : List Rune) :
    split (key ++ .char '\x7d' :: rest) = (key, []) := by
  induction key with
  | nil => rfl
  | cons c key ih =>
    obtain ⟨⟨noBrace, noBars⟩, more⟩ := isKey_cons.1 isKey
    rw [List.cons_append, split_cons noBrace, ih more]
    cases key with
    | nil => simp
    | cons d key => exact noBars

theorem split_bars {key : List Rune} (isKey : IsKeyOfDefault key) (rest : List Rune) :
    split (key ++ .char '|' :: .char '|' :: rest) = (key, rest.dropLast) := by
  obtain ⟨isKey, noBar⟩ := isKey
  induction key with
  | nil => rfl
  | cons c key ih =>
    obtain ⟨⟨noBrace, noBars⟩, more⟩ := isKey_cons.1 isKey
    cases key with
    | nil =>
      have single : c ≠ .char '|' := by simpa using noBar
      rw [List.cons_append, split_cons noBrace (fun both => single both.1), ih more (by simp)]
    | cons d key =>
      have step := @split_cons c (d :: key ++ .char '|' :: .char '|' :: rest) noBrace noBars
      rw [List.cons_append, step, ih more (by simpa using noBar)]

theorem split_of_stopsAt {body key default : List Rune} (stops : StopsAt body key default) :
    split body = (key, default) := by
  cases stops with
  | brace isKey rest => exact split_brace isKey rest
  | bars isKey default => rw [split_bars isKey, List.dropLast_concat]

/-- A scan that does not stop at the first character goes on with the others. -/
theorem StopsAt.cons {c : Rune} {body key default : List Rune} (noBrace : c ≠ .char '\x7d')
    (noBars : ¬(c = .char '|' ∧ body.head? = some (.char '|'))) (stops : StopsAt body key default) :
    StopsAt (c :: body) (c :: key) default := by
  cases stops with
  | brace isKey rest =>
    refine .brace (isKey_cons.2 ⟨⟨noBrace, ?_⟩, isKey⟩) rest
    cases key with
    | nil => simp
    | cons d key => exact noBars
  | bars isKey default =>
    obtain ⟨isKey, noBar⟩ := isKey
    cases key with
    | nil =>
      have single : c ≠ .char '|' := fun bar => noBars ⟨bar, rfl⟩
      have longer : IsKeyOfDefault [c] :=
        ⟨isKey_cons.2 ⟨⟨noBrace, fun both => single both.1⟩, isKey⟩, by simpa⟩
      exact .bars longer default
    | cons d key =>
      have longer : IsKeyOfDefault (c :: d :: key) :=
        ⟨isKey_cons.2 ⟨⟨noBrace, noBars⟩, isKey⟩, by simpa using noBar⟩
      exact .bars longer default

/-- A scan of what ends with a closing brace stops. -/
theorem exists_stopsAt {body : List Rune} (closed : body.getLast? = some (.char '\x7d')) :
    ∃ key default, StopsAt body key default := by
  induction body with
  | nil => cases closed
  | cons c body ih =>
    by_cases brace : c = .char '\x7d'
    · subst brace
      exact ⟨[], [], .brace isKey_nil body⟩
    have more : body.getLast? = some (.char '\x7d') := by
      cases body with
      | nil => simp_all
      | cons d body => simpa using closed
    by_cases bars : c = .char '|' ∧ body.head? = some (.char '|')
    · obtain ⟨rfl, head⟩ := bars
      obtain ⟨rest, rfl⟩ := List.head?_eq_some_iff.1 head
      have ends : rest.getLast? = some (.char '\x7d') := by
        cases rest with
        | nil => simp at more
        | cons d rest => simpa using more
      obtain ⟨default, rfl⟩ := List.getLast?_eq_some_iff.1 ends
      exact ⟨[], default, .bars ⟨isKey_nil, by simp⟩ default⟩
    · obtain ⟨key, default, stops⟩ := ih more
      exact ⟨c :: key, default, stops.cons brace bars⟩

/-! ## Placeholders and other texts -/

/-- Whether a text is nothing but one placeholder. -/
def IsPlaceholder (s : Text) : Prop :=
  ∃ key : Text,
    IsKey key.toList ∧ s = "$\x7b" ++ key ++ "\x7d" ∨
    IsKeyOfDefault key.toList ∧ ∃ default, s = "$\x7b" ++ key ++ "||" ++ default ++ "\x7d"

/-- Whether a text opens and ends like a placeholder. -/
def IsWrapped (s : Text) : Prop := ∃ inner, s = "$\x7b" ++ inner ++ "\x7d"

theorem body?_eq_some_iff {s : Text} {body : List Rune} :
    body? s = some body ↔ s.toList = .char '$' :: .char '\x7b' :: body ∧ body.getLast? = some (.char '\x7d') := by
  simp only [body?]
  split <;> grind

theorem isWrapped_iff {s : Text} : IsWrapped s ↔ ∃ body, body? s = some body := by
  simp only [body?_eq_some_iff]
  constructor
  · rintro ⟨inner, rfl⟩
    exact ⟨inner.toList ++ [Rune.char '\x7d'], by simp⟩
  · rintro ⟨body, opens, closed⟩
    obtain ⟨inner, rfl⟩ := List.getLast?_eq_some_iff.1 closed
    exact ⟨Text.ofList inner, by rw [← Text.toList_inj, opens]; simp⟩

theorem expand_of_stopsAt {env : Environment} {s : Text} {body key default : List Rune}
    (wrapped : body? s = some body) (stops : StopsAt body key default) :
    expand env s = env.valueOr (.ofList key) (.ofList default) := by
  simp only [expand, wrapped, split_of_stopsAt stops, Environment.valueOr]
  cases env.lookup (.ofList key) with
  | error e => rfl
  | ok found =>
    cases found with
    | none => rfl
    | some value =>
      by_cases empty : value = "" <;> simp [empty, Option.filter_some, Except.map, bind, Except.bind]

/-- The key stands in front of what stops the scan. -/
theorem prefix_split {s : Text} {body : List Rune} (wrapped : body? s = some body) :
    (split body).1 <+: body := by
  obtain ⟨key, default, stops⟩ := exists_stopsAt (body?_eq_some_iff.1 wrapped).2
  rw [split_of_stopsAt stops]
  cases stops <;> exact List.prefix_append key _

theorem expand_of_not_wrapped {env : Environment} {s : Text} (other : ¬IsWrapped s) :
    expand env s = .ok s := by
  have none : body? s = none := by
    simpa [isWrapped_iff, ← Option.eq_none_iff_forall_ne_some] using other
  simp [expand, none]

/-- Without any variable, a text that opens and ends like a placeholder gets shorter if it stands for one. -/
theorem expand_nil_ne {s : Text} (wrapped : IsWrapped s) : expand [] s ≠ .ok s := by
  obtain ⟨body, part⟩ := isWrapped_iff.1 wrapped
  obtain ⟨opens, closed⟩ := body?_eq_some_iff.1 part
  obtain ⟨key, default, stops⟩ := exists_stopsAt closed
  have shorter : default.length ≤ body.length := by
    cases stops with
    | brace => simp
    | bars => simp; omega
  intro same
  rw [expand_of_stopsAt part stops] at same
  rcases Environment.exists_lookup_eq (.ofList key) with failed | ⟨sent, -, found⟩
  · rw [Environment.valueOr, failed] at same
    cases same
  · have unset : Text.ofList default = s := by
      simpa [Environment.valueOr, found, Except.map, Entries.get?] using same
    have lengths := congrArg (fun t => t.toList.length) unset
    simp [opens] at lengths
    omega

/-- Both forms of a placeholder stand for the value of the variable that their key comes back as, or
    for their default where it is unset or empty.  A key without surrogates comes back as it is, a key
    that cannot go to the operating system is refused, and the scan stops inside whatever opens and ends
    like a placeholder. -/
theorem expand_placeholder (env : Environment) :
    (∀ key : Text, IsKey key.toList →
      expand env ("$\x7b" ++ key ++ "\x7d") = env.valueOr key "") ∧
    (∀ key default : Text, IsKeyOfDefault key.toList →
      expand env ("$\x7b" ++ key ++ "||" ++ default ++ "\x7d") = env.valueOr key default) ∧
    (∀ (key : String) (default : Text),
      env.valueOr key default = .ok (((env.get? key).filter (· ≠ ("" : Text))).getD default)) ∧
    (∀ key sent default : Text, key.systemForm? = some sent →
      env.valueOr key default = .ok (((env.get? sent).filter (· ≠ ("" : Text))).getD default)) ∧
    (∀ (key default : Text) e, env.valueOr key default = .error e ↔ ¬key.IsSendable ∧ e = ⟨key⟩) ∧
    ∀ s body, body? s = some body →
      ∃ key default, StopsAt body key default ∧ split body = (key, default) := by
  refine ⟨fun key isKey => ?_, fun key default isKey => ?_, fun key default => Environment.valueOr_ofString key,
    fun key sent default => Environment.valueOr_of_systemForm,
    fun key default e => Environment.valueOr_eq_error_iff, fun s body wrapped => ?_⟩
  · have part : body? ("$\x7b" ++ key ++ "\x7d") = some (key.toList ++ [Rune.char '\x7d']) := by
      simp [body?_eq_some_iff]
    simpa using expand_of_stopsAt part (.brace isKey [])
  · have part : body? ("$\x7b" ++ key ++ "||" ++ default ++ "\x7d")
        = some (key.toList ++ .char '|' :: .char '|' :: (default.toList ++ [Rune.char '\x7d'])) := by
      simp [body?_eq_some_iff, List.getLast?_cons]
    simpa using expand_of_stopsAt part (.bars isKey default.toList)
  · obtain ⟨key, default, stops⟩ := exists_stopsAt (body?_eq_some_iff.1 wrapped).2
    exact ⟨key, default, stops, split_of_stopsAt stops⟩

/-- A bare bar is part of a key, a default may hold whatever ends the scan of a key, the escape of a
    byte may name a variable, and a key with another surrogate is refused. -/
theorem expand_placeholder_bars :
    expand [("A|B", "x")] "$\x7bA|B\x7d" = .ok "x" ∧
    expand [("A|B", "")] "$\x7bA|B||\x7d||$\x7bx\x7d" = .ok "\x7d||$\x7bx" ∧
    expand [(.ofList [.surrogate 0x4ff], "x")] ("$\x7b" ++ .ofList [.surrogate 0x4ff] ++ "\x7d") = .ok "x" ∧
    expand [] ("$\x7b" ++ .ofList [.surrogate 0] ++ "\x7d") = .error ⟨.ofList [.surrogate 0]⟩ := by
  have isKey : IsKeyOfDefault ("A|B" : Text).toList := by decide
  obtain ⟨bare, -, value, -⟩ := expand_placeholder [("A|B", "x")]
  obtain ⟨-, defaulted, unset, -⟩ := expand_placeholder [("A|B", "")]
  obtain ⟨escaped, -, -, returned, -⟩ := expand_placeholder [(.ofList [.surrogate 0x4ff], "x")]
  obtain ⟨unsendable, -, -, -, fails, -⟩ := expand_placeholder []
  have form : (Text.ofList [.surrogate 0x4ff]).systemForm? = some (.ofList [.surrogate 0x4ff]) := by
    decide +kernel
  have unsent : ¬(Text.ofList [.surrogate 0]).IsSendable := fun sendable => by
    have escape := sendable 0 (by simp)
    omega
  refine ⟨(bare "A|B" isKey.1).trans (value "A|B" ""),
    (defaulted "A|B" "\x7d||$\x7bx" isKey).trans (unset "A|B" _),
    (escaped (.ofList [.surrogate 0x4ff]) (by decide)).trans (returned _ _ "" form), ?_⟩
  exact (unsendable (.ofList [.surrogate 0]) (by decide)).trans ((fails _ "" _).2 ⟨unsent, rfl⟩)

/-- What follows the first closing brace of a bare key is dropped. -/
theorem expand_trailing (env : Environment) {key : Text} (isKey : IsKey key.toList) (rest : Text) :
    expand env ("$\x7b" ++ key ++ "\x7d" ++ rest ++ "\x7d") = env.valueOr key "" := by
  have part : body? ("$\x7b" ++ key ++ "\x7d" ++ rest ++ "\x7d")
      = some (key.toList ++ .char '\x7d' :: (rest.toList ++ [Rune.char '\x7d'])) := by
    simp [body?_eq_some_iff, List.getLast?_cons]
  simpa using expand_of_stopsAt part (.brace isKey _)

/-- A text that goes on behind the closing brace of a bare key is no placeholder. -/
theorem not_isPlaceholder_trailing {key rest : Text} (isKey : IsKey key.toList) :
    ¬IsPlaceholder ("$\x7b" ++ key ++ "\x7d" ++ rest ++ "\x7d") := by
  rintro ⟨key', ⟨isKey', same⟩ | ⟨isKey', default, same⟩⟩
  · have whole : key' = key ++ "\x7d" ++ rest := by
      simpa [← Text.toList_inj, ← List.append_assoc] using same.symm
    exact isKey'.1 (by simp [whole])
  · -- Both scans stop behind the same key, at different characters.
    have whole : key.toList ++ .char '\x7d' :: (rest.toList ++ [Rune.char '\x7d'])
        = key'.toList ++ .char '|' :: .char '|' :: (default.toList ++ [Rune.char '\x7d']) := by
      simpa [← Text.toList_inj] using same
    have first := split_brace isKey (rest.toList ++ [Rune.char '\x7d'])
    rw [whole, split_bars isKey'] at first
    have keys : key'.toList = key.toList := congrArg Prod.fst first
    simp [keys] at whole

/-- A text that opens and ends like a placeholder is one, or goes on behind the closing brace of a
    bare key. -/
theorem IsWrapped.cases {s : Text} (wrapped : IsWrapped s) :
    IsPlaceholder s ∨
      ∃ key rest : Text, IsKey key.toList ∧ s = "$\x7b" ++ key ++ "\x7d" ++ rest ++ "\x7d" := by
  obtain ⟨body, part⟩ := isWrapped_iff.1 wrapped
  obtain ⟨opens, closed⟩ := body?_eq_some_iff.1 part
  obtain ⟨key, default, stops⟩ := exists_stopsAt closed
  cases stops with
  | bars isKey default =>
    refine .inl ⟨Text.ofList key, .inr ⟨by simpa, Text.ofList default, ?_⟩⟩
    simp [← Text.toList_inj, opens]
  | brace isKey rest =>
    rcases rest.eq_nil_or_concat with rfl | ⟨rest, last, rfl⟩
    · exact .inl ⟨Text.ofList key, .inl ⟨by simpa, by simp [← Text.toList_inj, opens]⟩⟩
    · obtain rfl : last = .char '\x7d' := by simpa [List.getLast?_cons] using closed
      exact .inr ⟨Text.ofList key, Text.ofList rest, by simpa,
        by simp [← Text.toList_inj, opens]⟩

/-- The texts that stand for themselves under every environment are those that do not open and end
    like a placeholder.  The others that are no placeholder either go on behind the closing brace of a
    bare key, and stand for the value of that variable alone. -/
theorem stands_for_itself_iff (s : Text) :
    ((∀ env, expand env s = .ok s) ↔ ¬IsWrapped s) ∧
    (IsWrapped s → (¬IsPlaceholder s ↔ ∃ key rest : Text, IsKey key.toList ∧
      s = "$\x7b" ++ key ++ "\x7d" ++ rest ++ "\x7d" ∧
      ∀ env, expand env s = env.valueOr key "")) := by
  refine ⟨⟨fun same wrapped => expand_nil_ne wrapped (same []), fun other env =>
    expand_of_not_wrapped other⟩, fun wrapped => ⟨fun other => ?_, ?_⟩⟩
  · obtain ⟨key, rest, isKey, rfl⟩ := wrapped.cases.resolve_left other
    exact ⟨key, rest, isKey, rfl, fun env => expand_trailing env isKey rest⟩
  · rintro ⟨key, rest, isKey, rfl, -⟩
    exact not_isPlaceholder_trailing isKey

/-- Two placeholders in a row are no placeholder, and stand for the value of the first variable. -/
theorem stands_for_itself_not_two :
    ¬IsPlaceholder "$\x7bA\x7d$\x7bB\x7d" ∧
    expand [("A", "x"), ("B", "y")] "$\x7bA\x7d$\x7bB\x7d" = .ok "x" := by
  have isKey : IsKey "A".toList := by decide
  have law := (stands_for_itself_iff "$\x7bA\x7d$\x7bB\x7d").2 ⟨"A\x7d$\x7bB", rfl⟩
  have value (env : Environment) : expand env "$\x7bA\x7d$\x7bB\x7d" = env.valueOr "A" "" :=
    expand_trailing env isKey "$\x7bB"
  exact ⟨law.2 ⟨"A", "$\x7bB", isKey, rfl, value⟩, (value _).trans (Environment.valueOr_ofString "A")⟩

end Placeholder

end XmlSettings
