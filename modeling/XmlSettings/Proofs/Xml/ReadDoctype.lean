import XmlSettings.Proofs.Entries
import XmlSettings.Proofs.Xml.ReadToken
import XmlSettings.Xml.Doctype.Grammar
import XmlSettings.Xml.Namespace

/-! # What declarations and attributes hold

The texts of entities, the default values of attributes and the values that references are replaced in
hold no forbidden character.  Every mark in front of the root element adds at most one declaration
to those before it (`Doctype.Grows`).
-/

namespace XmlSettings.Xml

/-! ## Marks -/

namespace Mark

/-- What is known of a mark that was read. -/
def IsRead : Mark → Prop
  | literal text _ => IsClean text
  | _ => True

variable {s rest : List Char} {mark found : Mark}

theorem eq_of_close {ends : Char → Bool} (h : close mark ends s = .ok (found, rest)) :
    found = mark := by
  unfold close at h
  split at h
  next =>
    cases h
    rfl
  next =>
    split at h
    next =>
      cases h
      rfl
    next => cases h

theorem isRead_of_keyword (h : keyword s = .ok (found, rest)) : found.IsRead := by
  unfold keyword at h
  simp only at h
  split at h
  next => cases h
  next =>
    split at h
    next => cases h
    next =>
      split at h
      next => cases h
      next =>
        cases h
        trivial
  next =>
    split at h
    next =>
      cases h
      trivial
    next => cases h

theorem isRead_of_exclaimed (h : exclaimed s = .ok (found, rest)) : found.IsRead := by
  unfold exclaimed at h
  split at h
  next => cases h
  next =>
    obtain ⟨_, _, h⟩ := bind_eq_ok.1 h
    obtain ⟨_, _, h⟩ := bind_eq_ok.1 h
    cases h
    trivial
  next =>
    cases h
    trivial
  next =>
    split at h
    next => exact isRead_of_keyword h
    next => cases h

theorem isClean_of_quoted {quote : Char} {text behind : List Char}
    (h : quoted quote s = .ok (text, behind)) : IsClean text := by
  induction s generalizing text behind with
  | nil => cases h
  | cons c more ih =>
    unfold quoted at h
    split at h
    next =>
      cases h
      exact .nil
    next =>
      split at h
      next => cases h
      next allowed =>
        split at h
        next inner =>
          cases h
          exact IsClean.cons_iff.2 ⟨by simpa using allowed, ih inner⟩
        next => cases h

theorem isRead_of_literal {quote : Char}
    (h : (do let (text, behind) ← quoted quote s
             close (literal text behind) endsLiteral behind.tail) = .ok (found, rest)) :
    found.IsRead := by
  obtain ⟨⟨text, behind⟩, taken, h⟩ := bind_eq_ok.1 h
  rw [eq_of_close h]
  exact isClean_of_quoted taken

theorem isRead_ofWord [Naming] (run : List Char) : (ofWord run).IsRead := by
  unfold ofWord
  simp only
  split <;> trivial

theorem isRead_of_word [Naming] (h : word s = .ok (found, rest)) : found.IsRead := by
  unfold word at h
  simp only at h
  split at h
  next =>
    split at h
    next => cases h
    next =>
      cases h
      exact isRead_ofWord _
  next =>
    split at h
    next =>
      cases h
      exact isRead_ofWord _
    next =>
      split at h
      next =>
        split at h
        next =>
          cases h
          trivial
        next => cases h
      next => cases h

theorem isRead_of_percentOrParameter [Naming] (h : percentOrParameter s = .ok (found, rest)) :
    found.IsRead := by
  unfold percentOrParameter at h
  split at h
  next => cases h
  next =>
    split at h
    next =>
      cases h
      trivial
    next =>
      obtain ⟨_, _, h⟩ := bind_eq_ok.1 h
      obtain ⟨_, _, h⟩ := bind_eq_ok.1 h
      cases h
      trivial

/-- A mark holds what documents may hold. -/
theorem isRead_of_next [Naming] (h : next s = .ok (found, rest)) : found.IsRead := by
  replace h := Scan.from_eq_ok_iff.1 h
  unfold scan at h
  split at h
  next => cases h
  next => exact isRead_of_exclaimed h
  next =>
    obtain ⟨⟨kind, behind⟩, _, h⟩ := bind_eq_ok.1 h
    cases kind <;>
    · cases h
      trivial
  next =>
    split at h
    next =>
      cases h
      trivial
    next => cases h
  next => cases h
  next => exact isRead_of_literal h
  next => exact isRead_of_literal h
  next => exact isRead_of_percentOrParameter h
  next => cases h; trivial
  next => cases h; trivial
  next => cases h; trivial
  next => cases h; trivial
  next => cases h
  next => cases h; trivial
  next => cases h; trivial
  next => cases h; trivial
  next =>
    split at h
    next => cases h; trivial
    next =>
      split at h
      next => cases h; trivial
      next =>
        split at h
        next => cases h; trivial
        next => cases h
  next =>
    obtain ⟨⟨text, behind⟩, _, h⟩ := bind_eq_ok.1 h
    rw [eq_of_close h]
    trivial
  next =>
    split at h
    next => cases h; trivial
    next =>
      split at h
      next => exact isRead_of_word h
      next => cases h

end Mark

/-! ## Entities in values -/

/-- Whether the texts of entities hold no forbidden character. -/
def Entity.AreClean (entities : Entries String Entity) : Prop :=
  ∀ name text, (name, Entity.internal text) ∈ entities → IsClean text

theorem Entity.AreClean.erase {entities : Entries String Entity} (clean : AreClean entities) (name : String) :
    AreClean (entities.erase name) :=
  fun other text member => clean other text (List.mem_filter.1 member).1

theorem Entity.AreClean.get? {entities : Entries String Entity} (clean : AreClean entities) {name : String}
    {text : List Char} (found : entities.get? name = some (.internal text)) : IsClean text :=
  clean name text (Entries.mem_of_get? found)

theorem isForbidden_of_predefined? {name : String} {d : Char} (h : Doctype.predefined? name = some d) :
    isForbidden d = false := by
  unfold Doctype.predefined? at h
  split at h
  next => cases h; decide +kernel
  next =>
    split at h
    next => cases h; decide +kernel
    next =>
      split at h
      next => cases h; decide +kernel
      next =>
        split at h
        next => cases h; decide +kernel
        next =>
          split at h
          next => cases h; decide +kernel
          next => cases h

theorem Scan.isClean_behind [Naming] {c : Char} {rest behind : List Char} {target : Reference}
    (h : Scan.reference rest = .ok (target, behind)) (clean : IsClean (c :: rest)) : IsClean behind :=
  fun d member => clean d (List.mem_cons_of_mem c ((Scan.reference_suffix h).subset member))

namespace AttributeValue

variable {doctype : Doctype} {closed : Entries String Entity} {origin : Origin} {s value : List Char}

/-- What a value stands for is clean if it is written so and every entity is. -/
theorem isClean_of_expand [Naming] (h : expand doctype closed origin s = .ok value) (clean : IsClean s)
    (entities : Entity.AreClean closed) : IsClean value := by
  -- The induction is on the value and on the entities that are not being replaced already: inside the
  -- text of an entity there is one fewer.
  fun_induction expand doctype closed origin s generalizing value with
  | case1 =>
    cases h
    exact .nil
  | case5 closed origin rest behind d taken _ _ ih =>
    obtain ⟨more, expanded, h⟩ := bind_eq_ok.1 h
    cases h
    have later := ih expanded (Scan.isClean_behind taken clean) entities
    exact IsClean.cons_iff.2 ⟨Scan.isForbidden_of_reference taken, later⟩
  | case6 closed origin rest behind name taken d known _ _ ih =>
    obtain ⟨more, expanded, h⟩ := bind_eq_ok.1 h
    cases h
    have later := ih expanded (Scan.isClean_behind taken clean) entities
    exact IsClean.cons_iff.2 ⟨isForbidden_of_predefined? known, later⟩
  | case8 closed origin rest behind name taken _ _ _ _ _ ih =>
    exact ih h (Scan.isClean_behind taken clean) entities
  | case13 closed origin rest behind name taken _ _ _ text opened _ inner replaced _ _ ihText ih =>
    obtain ⟨more, expanded, h⟩ := bind_eq_ok.1 h
    cases h
    have first := ihText replaced (entities.get? opened) (entities.erase name)
    have later := ih expanded (Scan.isClean_behind taken clean) entities
    exact IsClean.append_iff.2 ⟨first, later⟩
  | case15 closed origin c rest _ _ _ ih => exact ih h (IsClean.cons_iff.1 clean).2 entities
  | case16 closed origin c rest _ _ _ ih =>
    obtain ⟨more, expanded, h⟩ := bind_eq_ok.1 h
    cases h
    obtain ⟨first, behind⟩ := IsClean.cons_iff.1 clean
    refine IsClean.cons_iff.2 ⟨?_, ih expanded behind entities⟩
    split
    next => decide
    next => exact first
  | _ => cases h

theorem mem_of_mem_collapse_go {c : Char} (member : c ∈ collapse.go s) : c ∈ s := by
  induction s with
  | nil => cases member
  | cons d rest ih =>
    rw [collapse.go] at member
    split at member
    next => exact List.mem_cons_of_mem d (ih member)
    next =>
      rcases List.mem_cons.1 member with rfl | later
      · exact List.mem_cons_self
      · exact List.mem_cons_of_mem d (ih later)

theorem isClean_collapse (clean : IsClean s) : IsClean (collapse s) := by
  intro c member
  exact clean c ((List.dropWhile_suffix _).subset (mem_of_mem_collapse_go member))

theorem isClean_of_ofWritten [Naming] {isTokenized : Bool}
    (h : ofWritten doctype closed origin isTokenized s = .ok value) (clean : IsClean s)
    (entities : Entity.AreClean closed) : IsClean value := by
  obtain ⟨expanded, replaced, h⟩ := bind_eq_ok.1 h
  cases h
  have inside := isClean_of_expand replaced clean entities
  split
  next => exact isClean_collapse inside
  next => exact inside

end AttributeValue

/-! ## Declarations -/

namespace Doctype

/-- Whether the texts of entities and the values of attributes hold no forbidden character. -/
structure IsClean (doctype : Doctype) : Prop where
  entities : Entity.AreClean doctype.entities
  defaults : ∀ rule ∈ doctype.attributes, ∀ value ∈ rule.default?, Xml.IsClean value

/-- What one mark in front of the root element does to the declarations. -/
inductive Grows (doctype : Doctype) : Doctype → Prop where
  | kept : Grows doctype doctype
  | partly : Grows doctype { doctype with isPartial := true }
  | elsewhere {name : String} {entity : Entity} (outside : ∀ text, entity ≠ .internal text) :
      Grows doctype (doctype.declareEntity name entity)
  | text {name : String} {text : List Char} (clean : Xml.IsClean text) :
      Grows doctype (doctype.declareEntity name (.internal text))
  | rule {rule : AttributeRule} (clean : ∀ value ∈ rule.default?, Xml.IsClean value) :
      Grows doctype (doctype.declareAttribute rule)

theorem IsClean.declareEntity {doctype : Doctype} (clean : doctype.IsClean) {name : String}
    {entity : Entity} (inside : ∀ text, entity = .internal text → Xml.IsClean text) :
    (doctype.declareEntity name entity).IsClean := by
  unfold Doctype.declareEntity
  split
  next => exact clean
  next =>
    refine { clean with entities := ?_ }
    intro other text member
    rcases List.mem_append.1 member with old | new
    · exact clean.entities other text old
    · simp only [List.mem_singleton, Prod.mk.injEq] at new
      exact inside text new.2.symm

theorem IsClean.grow {before after : Doctype} (clean : before.IsClean) (grows : Grows before after) :
    after.IsClean := by
  cases grows with
  | kept => exact clean
  | partly => exact { clean with }
  | elsewhere outside => exact clean.declareEntity fun text same => absurd same (outside text)
  | text inside =>
    refine clean.declareEntity fun text same => ?_
    cases same
    exact inside
  | rule inside =>
    unfold Doctype.declareAttribute
    split
    next => exact clean
    next =>
      refine { clean with defaults := ?_ }
      exact List.forall_mem_append.2 ⟨clean.defaults, List.forall_mem_singleton.2 inside⟩

theorem isClean_of_entityText [Naming] {s value : List Char} (h : entityText s = .ok value)
    (clean : Xml.IsClean s) : Xml.IsClean value := by
  fun_induction entityText s generalizing value with
  | case1 =>
    cases h
    exact .nil
  | case5 rest behind d taken _ _ ih =>
    obtain ⟨more, inside, h⟩ := bind_eq_ok.1 h
    cases h
    have later := ih inside (Scan.isClean_behind taken clean)
    exact IsClean.cons_iff.2 ⟨Scan.isForbidden_of_reference taken, later⟩
  | case6 rest behind name taken _ _ ih =>
    obtain ⟨more, inside, h⟩ := bind_eq_ok.1 h
    cases h
    obtain ⟨mark, after⟩ := IsClean.cons_iff.1 clean
    have later := ih inside (Scan.isClean_behind taken clean)
    have named : Xml.IsClean name.toList := fun c member => after c (Scan.mem_of_reference taken c member)
    refine IsClean.append_iff.2 ⟨IsClean.cons_iff.2 ⟨mark, named⟩, ?_⟩
    exact IsClean.cons_iff.2 ⟨by decide, later⟩
  | case11 rest _ _ ih =>
    obtain ⟨more, inside, h⟩ := bind_eq_ok.1 h
    cases h
    obtain ⟨_, behind⟩ := IsClean.cons_iff.1 clean
    refine IsClean.cons_iff.2 ⟨by decide, ih inside ?_⟩
    split
    next => exact fun c member => behind c (List.mem_of_mem_tail member)
    next => exact behind
  | case12 c rest _ _ _ ih =>
    obtain ⟨more, inside, h⟩ := bind_eq_ok.1 h
    cases h
    obtain ⟨first, behind⟩ := IsClean.cons_iff.1 clean
    exact IsClean.cons_iff.2 ⟨first, ih inside behind⟩
  | _ => cases h

namespace State

variable {state after : State} {start : List Char} {mark : Mark} {text behind : List Char}
  {head : AttributeHead} {isTokenized : Bool}

theorem doctype_of_expect {expecting : Expecting} (h : state.expect expecting = .ok after) :
    after.doctype = state.doctype := by
  cases h
  rfl

theorem grows_of_declareEntity {name? : Option String} {entity : Entity} {expecting : Expecting}
    (h : (state.declareEntity name? entity).expect expecting = .ok after)
    (outside : ∀ text, entity ≠ .internal text) :
    state.doctype.Grows after.doctype := by
  rw [doctype_of_expect h]
  unfold declareEntity
  split
  next =>
    split
    next => exact .elsewhere outside
    next => exact .kept
  next => exact .kept

theorem grows_declareAttribute {default? : Option (List Char)}
    (clean : ∀ value ∈ default?, Xml.IsClean value) :
    state.doctype.Grows (state.declareAttribute head isTokenized default?).doctype := by
  unfold declareAttribute
  split
  next => exact .rule clean
  next => exact .kept

theorem grows_of_declareDefault [Naming]
    (h : state.declareDefault start head isTokenized text behind = .ok after)
    (clean : state.doctype.IsClean) (inside : Xml.IsClean text) :
    state.doctype.Grows after.doctype := by
  unfold declareDefault at h
  split at h
  next =>
    split at h
    next value replaced =>
      cases h
      refine grows_declareAttribute fun value member => ?_
      cases member
      exact AttributeValue.isClean_of_ofWritten replaced inside clean.entities
    next => cases h
  next =>
    cases h
    exact grows_declareAttribute nofun

theorem grows_of_declareText [Naming] {name? : Option String}
    (h : state.declareText start name? text behind = .ok after) (inside : Xml.IsClean text) :
    state.doctype.Grows after.doctype := by
  unfold declareText at h
  split at h
  next reading =>
    split at h
    next value replaced =>
      rw [doctype_of_expect h]
      unfold declareEntity
      split
      next =>
        rw [if_pos reading]
        exact .text (isClean_of_entityText replaced inside)
      next => exact .kept
    next => cases h
  next =>
    rw [doctype_of_expect h]
    exact .kept

theorem grows_of_closeGroup {groups : List (Option Char)} (h : state.closeGroup groups = .ok after) :
    state.doctype.Grows after.doctype := by
  unfold closeGroup at h
  split at h <;>
  · rw [doctype_of_expect h]
    exact .kept

theorem grows_of_guarded {p : Prop} [Decidable p] {expecting : Expecting} {failure : Failure}
    (h : (if p then state.expect expecting else .error failure) = .ok after) :
    state.doctype.Grows after.doctype := by
  split at h
  next =>
    rw [doctype_of_expect h]
    exact .kept
  next => cases h

/-- One mark adds at most one declaration. -/
theorem grows_of_step [Naming] (h : state.step start mark = .ok after) (clean : state.doctype.IsClean)
    (read : mark.IsRead) : state.doctype.Grows after.doctype := by
  unfold step at h
  split at h
  all_goals try
    rw [doctype_of_expect h]
    exact .kept
  all_goals try exact grows_of_guarded h
  next =>
    obtain ⟨_, _, h⟩ := bind_eq_ok.1 h
    rw [doctype_of_expect h]
    exact .partly
  next =>
    rw [doctype_of_expect h]
    exact .partly
  next =>
    cases h
    exact .partly
  next => exact grows_of_declareText h read
  next =>
    obtain ⟨_, _, h⟩ := bind_eq_ok.1 h
    rw [doctype_of_expect h]
    exact .kept
  next => exact grows_of_declareEntity h nofun
  next =>
    split at h
    next => exact grows_of_declareEntity h nofun
    next => cases h
  next =>
    obtain ⟨_, _, h⟩ := bind_eq_ok.1 h
    rw [doctype_of_expect h]
    exact .kept
  next =>
    split at h
    next =>
      rw [doctype_of_expect h]
      exact .kept
    next => cases h
  next =>
    cases h
    exact grows_declareAttribute nofun
  next =>
    cases h
    exact grows_declareAttribute nofun
  next => exact grows_of_declareDefault h clean read
  next => exact grows_of_declareDefault h clean read
  next => exact grows_of_closeGroup h
  next =>
    split at h
    next => cases h
    next =>
      rw [doctype_of_expect h]
      exact .kept
  next =>
    split at h
    next => cases h
    next =>
      rw [doctype_of_expect h]
      exact .kept
  next => cases h

end State

/-- What is declared in front of the root element holds no forbidden character. -/
theorem isClean_of_read [Naming] {state : State} {s rest : List Char} {doctype : Doctype}
    (h : read state s = .ok (doctype, rest)) (clean : state.doctype.IsClean) : doctype.IsClean := by
  -- Every step starts from clean declarations, and adds a clean one or none.
  fun_induction read state s generalizing doctype rest with
  | case3 =>
    cases h
    exact clean
  | case5 state c tail behind _ _ _ ih => exact ih h clean
  | case6 state c tail mark behind _ _ failure _ _ _ stuck =>
    rw [stuck] at h
    cases h
  | case7 state c tail mark behind taken _ next _ _ _ stepped ih =>
    rw [stepped] at h
    exact ih h (clean.grow (State.grows_of_step stepped clean (Mark.isRead_of_next taken)))
  | _ => cases h

end Doctype

end XmlSettings.Xml
