import XmlSettings.Dotenv.Load
import XmlSettings.Proofs.Outcome
import XmlSettings.Proofs.Placeholder
import XmlSettings.Proofs.Settings.Saved
import XmlSettings.Proofs.Xml.Declared
import XmlSettings.Schema.Run
import XmlSettings.Settings.Load

/-! # Expanded settings

Expanding the placeholders in settings changes texts only: keys, lists and nesting stay
(`outline_expanded`), every text becomes what it alone stands for (`at?_expanded`), and no variables
matter but those that some placeholder may name (`expanded_congr`).  So the environment has no say in
whether a document given as text is loaded, nor in the shape of what is loaded (`load_text`).
-/

namespace XmlSettings

/-! ## Placeholders -/

namespace Placeholder

/-- Whether a text looks like a placeholder and a name is somewhere in it. -/
def MayName (s name : Text) : Prop :=
  [.char '$', .char '\x7b'] <+: s.toList ∧ [.char '\x7d'] <:+ s.toList ∧ name.toList <:+: s.toList

theorem mayName_of_body? {s : Text} {body : List Rune} (found : body? s = some body) :
    MayName s (Text.ofList (split body).1) := by
  have key := prefix_split found
  obtain ⟨opens, closed⟩ := body?_eq_some_iff.1 found
  obtain ⟨front, ends⟩ := List.getLast?_eq_some_iff.1 closed
  rw [MayName, opens, Text.toList_ofList]
  refine ⟨List.prefix_append [.char '$', .char '\x7b'] body, ?_, ?_⟩
  · rw [ends]
    exact List.suffix_append (.char '$' :: .char '\x7b' :: front) [.char '\x7d']
  · exact key.isInfix.trans (List.suffix_append [Rune.char '$', .char '\x7b'] body).isInfix

/-- What a text stands for depends on variables that it may name only. -/
theorem expand_congr {env other : Environment} {s : Text} (plain : s.hasSurrogate = false)
    (same : ∀ name, MayName s name → env.get? name = other.get? name) : expand env s = expand other s := by
  unfold expand
  cases found : body? s with
  | none => rfl
  | some body =>
    have mayName := mayName_of_body? found
    obtain ⟨name, named⟩ := Text.exists_of_not_hasSurrogate (hasSurrogate_key plain found)
    simp only [named, Environment.lookup_ofString, same name (named ▸ mayName)]

end Placeholder

/-! ## Values -/

namespace Value

theorem expandedItems_eq_map (env : Environment) (items : List Value) :
    expandedItems env items = items.map (expanded env) := by
  induction items with
  | nil => rfl
  | cons item rest ih => rw [expandedItems, List.map_cons, ih]

/-- The value that one step leads to. -/
def inner? : Value → Schema.Step → Option Value
  | table entries, .key key => Entries.get? entries key
  | list items, .index i => items[i]?
  | _, _ => none

/-- The value that a path leads to. -/
def at? (value : Value) (path : List Schema.Step) : Option Value :=
  path.foldlM inner? value

theorem inner?_expanded (env : Environment) (value : Value) (step : Schema.Step) :
    (value.expanded env).inner? step = (value.inner? step).map (expanded env) := by
  cases value with
  | table entries =>
    cases step with
    | key key => exact Settings.get?_expandedEntries env entries key
    | _ => rfl
  | list items =>
    cases step with
    | index i =>
      rw [expanded, expandedItems_eq_map]
      exact List.getElem?_map
    | _ => rfl
  | _ => rfl

/-- Expanding takes place wherever a path leads, and opens no paths. -/
theorem at?_expanded (env : Environment) (value : Value) (path : List Schema.Step) :
    (value.expanded env).at? path = (value.at? path).map (expanded env) := by
  induction path generalizing value with
  | nil => rfl
  | cons step rest ih =>
    simp only [at?, List.foldlM_cons] at ih ⊢
    rw [inner?_expanded]
    cases value.inner? step with
    | none => rfl
    | some inner => exact ih inner

/-- The text at a path of an expanded value is what the text there before stands for. -/
theorem at?_expanded_eq_text_iff {env : Environment} {value : Value} {path : List Schema.Step}
    {s : Text} : (value.expanded env).at? path = some (.text s) ↔
      ∃ before, value.at? path = some (.text before) ∧ s = Placeholder.expanded env before := by
  rw [at?_expanded]
  cases value.at? path with
  | none => simp
  | some found => cases found <;> simp [expanded, eq_comm]

theorem mem_texts_of_inner? {value inner : Value} {step : Schema.Step}
    (found : value.inner? step = some inner) {s : Text} (member : s ∈ inner.texts) : s ∈ value.texts := by
  cases value with
  | table entries =>
    cases step with
    | key key => exact mem_textsOfEntries_iff.2 ⟨key, inner, Entries.mem_of_get? found, member⟩
    | _ => cases found
  | list items =>
    cases step with
    | index i => exact mem_textsOfItems_iff.2 ⟨inner, List.mem_of_getElem? found, member⟩
    | _ => cases found
  | _ => cases found

theorem mem_texts_of_at? {value : Value} {path : List Schema.Step} {s : Text}
    (found : value.at? path = some (.text s)) : s ∈ value.texts := by
  induction path generalizing value with
  | nil =>
    cases found
    exact List.mem_cons_self
  | cons step rest ih =>
    rw [at?, List.foldlM_cons] at found
    obtain ⟨inner, first, later⟩ := Option.bind_eq_some_iff.1 found
    exact mem_texts_of_inner? first (ih later)

mutual

/-- A value with its texts left out. -/
def outline : Value → Value
  | text _ => text ""
  | list items => list (outlineItems items)
  | table entries => table (outlineEntries entries)
  | value => value
termination_by structural value => value

def outlineItems : List Value → List Value
  | [] => []
  | item :: rest => outline item :: outlineItems rest
termination_by structural items => items

def outlineEntries : List (Text × Value) → List (Text × Value)
  | [] => []
  | (key, value) :: rest => (key, outline value) :: outlineEntries rest
termination_by structural entries => entries

end

mutual

theorem outline_expanded (env : Environment) :
    ∀ value : Value, (value.expanded env).outline = value.outline
  | .list items => congrArg list (outlineItems_expandedItems env items)
  | .table entries => congrArg table (outlineEntries_expandedEntries env entries)
  | .text _ | .flag _ | .nothing | .integer _ | .real _ | .record _ _ => rfl
termination_by structural value => value

theorem outlineItems_expandedItems (env : Environment) :
    ∀ items : List Value, outlineItems (expandedItems env items) = outlineItems items
  | [] => rfl
  | item :: rest => by
    rw [expandedItems, outlineItems, outlineItems, outline_expanded env item,
      outlineItems_expandedItems env rest]
termination_by structural items => items

theorem outlineEntries_expandedEntries (env : Environment) : ∀ entries : List (Text × Value),
    outlineEntries (expandedEntries env entries) = outlineEntries entries
  | [] => rfl
  | (key, value) :: rest => by
    rw [expandedEntries, outlineEntries, outlineEntries, outline_expanded env value,
      outlineEntries_expandedEntries env rest]
termination_by structural entries => entries

end

section Congruence

variable {env other : Environment}

mutual

/-- Values are expanded alike if their texts are. -/
theorem expanded_congr : ∀ {value : Value},
    (∀ s ∈ value.texts, Placeholder.expanded env s = Placeholder.expanded other s) →
      value.expanded env = value.expanded other
  | .text s, same => congrArg text (same s List.mem_cons_self)
  | .list _, same => congrArg list (expandedItems_congr same)
  | .table _, same => congrArg table (expandedEntries_congr same)
  | .flag _, _ | .nothing, _ | .integer _, _ | .real _, _ | .record _ _, _ => rfl
termination_by structural value => value

theorem expandedItems_congr : ∀ {items : List Value},
    (∀ s ∈ textsOfItems items, Placeholder.expanded env s = Placeholder.expanded other s) →
      expandedItems env items = expandedItems other items
  | [], _ => rfl
  | _ :: _, same => by
    obtain ⟨here, later⟩ := List.forall_mem_append.1 same
    rw [expandedItems, expandedItems, expanded_congr here, expandedItems_congr later]
termination_by structural items => items

theorem expandedEntries_congr : ∀ {entries : List (Text × Value)},
    (∀ s ∈ textsOfEntries entries, Placeholder.expanded env s = Placeholder.expanded other s) →
      expandedEntries env entries = expandedEntries other entries
  | [], _ => rfl
  | _ :: _, same => by
    obtain ⟨here, later⟩ := List.forall_mem_append.1 same
    rw [expandedEntries, expandedEntries, expanded_congr here, expandedEntries_congr later]
termination_by structural entries => entries

end

end Congruence

end Value

namespace Settings

section Shape

variable {named called : Text → Prop} {held other : Text → Text → Prop} {env : Environment}

mutual

/-- A setting keeps its shape, with what is known of the texts that its texts stand for. -/
theorem IsSetting.expanded (names : ∀ key, named key → called key)
    (texts : ∀ key s, held key s → other key (Placeholder.expanded env s)) {key : Text} {value : Value} :
    IsSetting named held key value → IsSetting called other key (value.expanded env)
  | .text holds => .text (texts _ _ holds)
  | .table isChild inside => .table isChild (inside.expanded names texts)

theorem IsSection.expanded (names : ∀ key, named key → called key)
    (texts : ∀ key s, held key s → other key (Placeholder.expanded env s)) {entries : Entries Text Value} :
    IsSection named held entries → IsSection called other (Value.expandedEntries env entries)
  | .mk distinct notOnlyText each => by
    rw [← keys_expandedEntries env] at distinct notOnlyText
    apply IsSection.mk distinct notOnlyText
    intro key value member
    rw [expandedEntries_eq_map] at member
    obtain ⟨⟨name, before⟩, inside, same⟩ := List.mem_map.1 member
    cases same
    exact (each key before inside).expanded names texts

theorem IsEntry.expanded (names : ∀ key, named key → called key)
    (texts : ∀ key s, held key s → other key (Placeholder.expanded env s)) {key : Text} {value : Value} :
    IsEntry named held key value → IsEntry called other key (value.expanded env)
  | .single known setting => .single (names key known) (setting.expanded names texts)
  | .several known isChild many inside => by
    rw [Value.expanded, Value.expandedItems_eq_map]
    apply IsEntry.several (names key known) isChild
    · rw [List.length_map]
      exact many
    · intro item member
      obtain ⟨before, old, same⟩ := List.mem_map.1 member
      cases same
      exact (inside before old).expanded names texts

end

end Shape

/-! ## Loading texts -/

open XmlSettings.Dotenv (Loader)
open XmlSettings.Xml (Document Element)

/-- Whether an error says that a document holds no settings. -/
def LoadError.isParseError : LoadError → Bool
  | noDocument (.refused _) | otherRoot | flatRoot => true
  | _ => false

theorem isParseError_noDocument (e : Document.ReadError) :
    (LoadError.noDocument e).isParseError = e.isRefused := by
  cases e <;> rfl

/-- Only where no root element is read something else than a fault may be the reason. -/
theorem root_of_raw {document : Document} {e : LoadError} (failed : raw document = .error e)
    (other : e.isParseError = false) :
    ∃ failure, document.root = .error failure ∧ failure.isRefused = false := by
  unfold raw at failed
  split at failed
  next failure read =>
    cases failed
    exact ⟨failure, read, isParseError_noDocument failure ▸ other⟩
  next =>
    split at failed
    next =>
      split at failed
      next => cases failed
      next =>
        cases failed
        cases other
    next =>
      cases failed
      cases other

/-- A text without surrogates is refused for a fault in it, any other one since it cannot be encoded. -/
theorem isParseError_of_raw {t : Text} {e : LoadError} (failed : raw (.text t) = .error e) :
    e.isParseError = !t.hasSurrogate := by
  cases surrogate : t.hasSurrogate with
  | true =>
    rw [raw, Document.root_text_of_hasSurrogate surrogate] at failed
    cases failed
    rfl
  | false =>
    cases said : e.isParseError with
    | true => rfl
    | false =>
      obtain ⟨failure, read, noFault⟩ := root_of_raw failed said
      cases (Document.isRefused_of_root_text surrogate read).symm.trans noFault

theorem exists_table_iff {element : Element String} :
    (∃ entries, ofElement element = .table entries) ↔
      (element.children ≠ [] ∨ element.attributes ≠ []) := by
  cases element with
  | mk name attributes text children =>
    rw [ofElement, Element.children, Element.attributes]
    by_cases bare : children.isEmpty = true ∧ attributes.isEmpty = true
    · rw [if_pos bare]
      rw [List.isEmpty_iff, List.isEmpty_iff] at bare
      constructor
      · rintro ⟨entries, same⟩
        cases same
      · exact fun filled => filled.elim (absurd bare.1) (absurd bare.2)
    · rw [if_neg bare]
      rw [List.isEmpty_iff, List.isEmpty_iff, Decidable.not_and_iff_or_not] at bare
      exact ⟨fun _ => bare, fun _ => ⟨_, rfl⟩⟩

theorem raw_of_root {document : Document} {root : Element String} {entries : Section}
    (read : document.root = .ok root) :
    raw document = .ok entries ↔ (root.name : Text) = rootName ∧ ofElement root = .table entries := by
  rw [raw_eq_ok_iff, read]
  simp [Except.map, ofRoot]

theorem exists_raw_iff {document : Document} :
    (∃ entries, raw document = .ok entries) ↔ ∃ root, document.root = .ok root ∧
      (root.name : Text) = rootName ∧ (root.children ≠ [] ∨ root.attributes ≠ []) := by
  constructor
  · rintro ⟨entries, accepted⟩
    obtain ⟨root, read, _⟩ := map_eq_ok.1 (raw_eq_ok_iff.1 accepted)
    obtain ⟨named, made⟩ := (raw_of_root read).1 accepted
    exact ⟨root, read, named, exists_table_iff.1 ⟨entries, made⟩⟩
  · rintro ⟨root, read, named, filled⟩
    obtain ⟨entries, made⟩ := exists_table_iff.2 filled
    exact ⟨entries, (raw_of_root read).2 ⟨named, made⟩⟩

theorem result_load (loader : Loader) (env : Environment) (files : FileTree) (document : Document) :
    (load loader env files none document).result = (raw document).map (Value.expandedEntries env) := by
  unfold load
  cases accepted : raw document with
  | error e => rfl
  | ok entries =>
    simp only [loadEnv, expandEntries_eq_ok (isSection_of_raw accepted) env]
    rfl

/-- How settings come from an element in one environment: texts stand where they stood, each of them
    expanded once. -/
structure IsExpansion (env : Environment) (root : Element String) (entries : Section) : Prop where
  outline : (Value.table entries).outline = (ofElement root).outline
  text : ∀ path text, (Value.table entries).at? path = some (.text text) ↔
    ∃ written, (ofElement root).at? path = some (.text written) ∧
      Placeholder.expand env written = .ok text

/-- Whether no text of an element may name a variable that differs between environments. -/
def AreAlikeFor (root : Element String) (env other : Environment) : Prop :=
  ∀ name, (∃ text ∈ (ofElement root).texts, Placeholder.MayName text name) →
    env.get? name = other.get? name

theorem at?_expanded_of_raw {source : Section} (inside : IsSection IsReadKey IsReadText source)
    (env : Environment) (path : List Schema.Step) (text : Text) :
    (Value.table (Value.expandedEntries env source)).at? path = some (.text text) ↔
      ∃ written, (Value.table source).at? path = some (.text written) ∧
        Placeholder.expand env written = .ok text := by
  refine (@Value.at?_expanded_eq_text_iff env (.table source) path text).trans ?_
  refine exists_congr fun written => and_congr_right fun found => ?_
  have plain := hasSurrogate_of_mem_texts inside written (Value.mem_texts_of_at? found)
  rw [Placeholder.expand_eq_ok_expanded plain, Except.ok.injEq, eq_comm]

/-- A document given as text is accepted or not whatever the environment is, and settings have the shape
    of their root element.  Each text is expanded once, and no variables matter but those that some text
    may name.  A document that is not accepted is refused as one without settings exactly if there are no
    surrogates in it. -/
theorem load_text (loader : Loader) (files : FileTree) (t : Text) :
    (∀ env, (∃ entries, (load loader env files none (.text t)).result = .ok entries) ↔
      ∃ root, (Document.text t).root = .ok root ∧ (root.name : Text) = rootName ∧
        (root.children ≠ [] ∨ root.attributes ≠ [])) ∧
    (∀ env e, (load loader env files none (.text t)).result = .error e →
      (e.isParseError = true ↔ t.hasSurrogate = false) ∧
        ∀ other, (load loader other files none (.text t)).result = .error e) ∧
    (t.hasSurrogate = true →
      ∀ env, (load loader env files none (.text t)).result = .error (.noDocument .unencodable)) ∧
    ∀ root, (Document.text t).root = .ok root →
      ∀ env entries, (load loader env files none (.text t)).result = .ok entries →
        IsExpansion env root entries ∧
        ∀ other others, (load loader other files none (.text t)).result = .ok others →
          (Value.table entries).outline = (Value.table others).outline ∧
          (AreAlikeFor root env other → entries = others) := by
  simp only [result_load]
  refine ⟨fun env => ?_, fun env e failed => ?_, fun surrogate env => ?_, fun root read env entries loaded => ?_⟩
  · rw [← exists_raw_iff]
    constructor
    · rintro ⟨_, loaded⟩
      obtain ⟨source, accepted, _⟩ := map_eq_ok.1 loaded
      exact ⟨source, accepted⟩
    · rintro ⟨source, accepted⟩
      exact ⟨_, map_eq_ok.2 ⟨source, accepted, rfl⟩⟩
  · have failed := map_eq_error.1 failed
    exact ⟨by simp [isParseError_of_raw failed], fun other => map_eq_error.2 failed⟩
  · rw [raw, Document.root_text_of_hasSurrogate surrogate]
    rfl
  · obtain ⟨source, accepted, rfl⟩ := map_eq_ok.1 loaded
    have made := ((raw_of_root read).1 accepted).2
    have inside := isSection_of_raw accepted
    refine ⟨⟨?_, fun path text => ?_⟩, fun other others again => ?_⟩
    · rw [made]
      exact Value.outline_expanded env (.table source)
    · rw [made]
      exact at?_expanded_of_raw inside env path text
    · rw [accepted] at again
      cases again
      refine ⟨?_, fun alike => Value.expandedEntries_congr fun text member => ?_⟩
      · have first := Value.outline_expanded env (.table source)
        exact first.trans (Value.outline_expanded other (.table source)).symm
      · refine congrArg (fun found => found.toOption.getD text) (Placeholder.expand_congr ?_ ?_)
        · exact hasSurrogate_of_mem_texts inside text member
        · exact fun name mayName => alike name ⟨text, made ▸ member, mayName⟩

/-- A surrogate is no fault in a document. -/
theorem load_text_surrogate :
    (load Dotenv.load [] (.empty []) none
        (.text ("<config><a>" ++ .ofList [.surrogate 0] ++ "</a></config>"))).result =
      .error (.noDocument .unencodable) ∧
    ¬(LoadError.noDocument .unencodable).isParseError := by
  obtain ⟨-, -, unencodable, -⟩ := load_text Dotenv.load (.empty [])
    ("<config><a>" ++ .ofList [.surrogate 0] ++ "</a></config>")
  exact ⟨unencodable (by decide) [], by decide⟩

end Settings

end XmlSettings
