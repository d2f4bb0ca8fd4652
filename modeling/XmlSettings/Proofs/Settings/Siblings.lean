import Mathlib
import XmlSettings.Proofs.Settings.Kept
import XmlSettings.Proofs.Xml.ReadElement
import XmlSettings.Proofs.Xml.WrittenDocument

/-! # The table of an element

Children are added to a table one after the other, and whether a child is the first, the second or a
further one of its name is told from the value that stands under the name.  That is right since no
child is read as a list.  With the values of a name so far as the invariant (`get?_ofChildren`), what
stands under each key of the table is known for any number of children in any order
(`isTableOf_ofElement`).
-/

namespace XmlSettings

/-! ## Elements inside elements -/

namespace Xml.Element

/-- An element is another one or stands at some depth inside it. -/
inductive IsWithin : Element String → Element String → Prop where
  | refl (element : Element String) : IsWithin element element
  | child {inner child outer : Element String} {behind : String}
      (member : (child, behind) ∈ outer.children) (deeper : IsWithin inner child) :
      IsWithin inner outer

theorem AreRead.of_mem {children : List (Element String × String)} {child : Element String} {behind : String}
    (read : AreRead children) (member : (child, behind) ∈ children) : child.IsRead := by
  induction children with
  | nil => cases member
  | cons first rest ih =>
    cases read with
    | cons here more =>
      cases member with
      | head => exact here
      | tail _ later => exact ih more later

theorem IsRead.areRead {element : Element String} (read : element.IsRead) : AreRead element.children := by
  cases read with
  | mk _ _ _ inside => exact inside

theorem IsRead.named {element : Element String} (read : element.IsRead) : IsReadName element.name := by
  cases read with
  | mk named => exact named

theorem IsRead.of_isWithin {inner outer : Element String} (read : outer.IsRead)
    (inside : inner.IsWithin outer) : inner.IsRead := by
  induction inside with
  | refl => exact read
  | child member _ ih => exact ih (read.areRead.of_mem member)

mutual

/-- An element without the texts behind the children in it, at any depth. -/
def withoutTails : Element String → Element String
  | mk name attributes text children => ⟨name, attributes, text, withoutTailsAll children⟩
termination_by structural e => e

/-- Children without the texts behind them. -/
def withoutTailsAll : List (Element String × String) → List (Element String × String)
  | [] => []
  | (child, _) :: rest => (withoutTails child, "") :: withoutTailsAll rest
termination_by structural children => children

end

theorem name_withoutTails (element : Element String) : element.withoutTails.name = element.name := by
  cases element
  rw [withoutTails]
  rfl

theorem isEmpty_withoutTailsAll (children : List (Element String × String)) :
    (withoutTailsAll children).isEmpty = children.isEmpty := by
  cases children <;> rfl

end Xml.Element

namespace Settings

open XmlSettings.Xml (Element Document)
open XmlSettings.Text (strip)

mutual

/-- The texts behind children make no difference to the value of an element. -/
theorem ofElement_withoutTails : ∀ element : Element String, ofElement element.withoutTails = ofElement element
  | .mk name attributes text children => by
    rw [Element.withoutTails, ofElement, ofElement, ofChildren_withoutTailsAll,
      Element.isEmpty_withoutTailsAll]

theorem ofChildren_withoutTailsAll : ∀ (before : Entries Text Value) (children : List (Element String × String)),
    ofChildren before (Element.withoutTailsAll children) = ofChildren before children
  | before, [] => by rw [Element.withoutTailsAll]
  | before, (child, behind) :: rest => by
    rw [Element.withoutTailsAll, ofChildren, ofChildren, Element.name_withoutTails,
      ofElement_withoutTails child, ofChildren_withoutTailsAll _ rest]

end

/-! ## The keys -/

variable {before : Entries Text Value} {key : Text}

theorem keys_addChild (before : Entries Text Value) (name : Text) (value : Value) :
    Entries.keys (addChild before name value) =
      if name ∈ before.keys then before.keys else before.keys ++ [name] := by
  unfold addChild
  split <;> exact Entries.keys_put ..

/-- What adds its key if it is new leaves the keys in the order in which they came first. -/
theorem keys_foldl {α : Type} {add : Entries Text Value → α → Entries Text Value} (keyOf : α → Text)
    (adds : ∀ entries item, Entries.keys (add entries item) =
      if keyOf item ∈ entries.keys then entries.keys else entries.keys ++ [keyOf item])
    (before : Entries Text Value) (items : List α) : Entries.keys (items.foldl add before) =
      before.keys ++ ((items.map keyOf).removeAll before.keys).eraseDups := by
  induction items generalizing before with
  | nil => simp [List.removeAll]
  | cons item rest ih =>
    rw [List.foldl_cons, ih, adds]
    by_cases known : keyOf item ∈ before.keys
    · simp [known, List.removeAll]
    · have first : (((item :: rest).map keyOf).removeAll before.keys) =
          keyOf item :: (rest.map keyOf).removeAll before.keys := by
        simp [known, List.removeAll]
      rw [if_neg known, first, List.eraseDups_cons]
      simp [List.removeAll, List.filter_filter, Bool.and_comm, beq_eq_decide]

theorem keys_ofAttributes (attributes : List (String × String)) : Entries.keys (ofAttributes attributes) =
    (attributes.map fun pair => attributeMark ++ (pair.1 : Text)).eraseDups := by
  rw [ofAttributes, Entries.ofPairs, Entries.putAll,
    keys_foldl Prod.fst (fun entries pair => Entries.keys_put entries pair.1 pair.2)]
  simp [List.removeAll, Function.comp_def]

theorem keys_ofChildren {children : List (Element String × String)}
    (beside : ∀ child ∈ children, (child.1.name : Text) ∉ before.keys) :
    Entries.keys (ofChildren before children) =
      before.keys ++ (children.map fun child => (child.1.name : Text)).eraseDups := by
  rw [ofChildren_eq_addAll, addAll,
    keys_foldl Prod.fst (fun entries child => keys_addChild entries child.1 child.2)]
  simp only [List.map_map, Function.comp_def]
  have kept : (children.map fun child => (child.1.name : Text)).removeAll before.keys =
      children.map fun child => (child.1.name : Text) := by
    refine List.filter_eq_self.2 fun name member => ?_
    obtain ⟨child, inside, rfl⟩ := List.mem_map.1 member
    simpa using beside child inside
  rw [kept]

theorem keys_addText {entries : Entries Text Value} (text : Text) (new : textKey ∉ entries.keys) :
    Entries.keys (addText entries text) =
      entries.keys ++ if text = "" then [] else [textKey] := by
  unfold addText
  split
  next => rw [List.append_nil]
  next => rw [Entries.keys_put, if_neg new]

/-! ## What stands under a key -/

/-- What stands under the name of some children: the value of a single one, or the list of their
    values. -/
def together : List Value → Option Value
  | [] => none
  | [single] => some single
  | several => some (.list several)

/-- The values of the children of a name, in order. -/
def valuesOf (children : List (Element String × String)) (name : String) : List Value :=
  (children.filter fun child => child.1.name == name).map fun child => ofElement child.1

theorem ofElement_ne_list (element : Element String) (items : List Value) : ofElement element ≠ .list items := by
  obtain ⟨name, attributes, text, children⟩ := element
  rw [ofElement]
  split <;> exact nofun

theorem get?_addChild_of_ne {name : Text} (other : key ≠ name) (value : Value) :
    Entries.get? (addChild before name value) key = before.get? key := by
  unfold addChild
  split <;> rw [Entries.get?_put, if_neg other.symm]

/-- A further child goes to the others of its name, since none of them is a list itself. -/
theorem get?_addChild_self {values : List Value} (single : ∀ value ∈ values, ∀ items, value ≠ .list items)
    (sofar : before.get? key = together values) (value : Value) :
    Entries.get? (addChild before key value) key = together (values ++ [value]) := by
  have added (next : Value) : Entries.get? (before.put key next) key = some next := by simp
  match values with
  | [] =>
    rw [addChild, sofar]
    exact added value
  | [first] =>
    have noList := single first List.mem_cons_self
    rw [addChild, sofar, together]
    split
    next => simp_all
    next => simp_all
    next found =>
      cases found
      exact added _
  | first :: second :: rest =>
    have several : together (first :: second :: rest) = some (.list (first :: second :: rest)) := rfl
    rw [addChild, sofar, several]
    exact added _

/-- After any number of children there is under a name what the children of that name make. -/
theorem get?_ofChildren {values : List Value} {name : String} (children : List (Element String × String))
    (single : ∀ value ∈ values, ∀ items, value ≠ .list items) (sofar : before.get? name = together values) :
    Entries.get? (ofChildren before children) name = together (values ++ valuesOf children name) := by
  induction children generalizing before values with
  | nil =>
    rw [ofChildren, sofar]
    simp [valuesOf]
  | cons first rest ih =>
    obtain ⟨child, behind⟩ := first
    rw [ofChildren]
    by_cases same : child.name = name
    · have more : valuesOf ((child, behind) :: rest) name = ofElement child :: valuesOf rest name := by
        simp [valuesOf, same]
      have singles : ∀ value ∈ values ++ [ofElement child], ∀ items, value ≠ .list items := by
        refine List.forall_mem_append.2 ⟨single, ?_⟩
        exact List.forall_mem_singleton.2 (ofElement_ne_list child)
      rw [ih singles (same ▸ get?_addChild_self single (same ▸ sofar) _), more]
      simp
    · have more : valuesOf ((child, behind) :: rest) name = valuesOf rest name := by
        simp [valuesOf, same]
      have other : (name : Text) ≠ child.name := fun eq => same (Text.ofString_inj.1 eq).symm
      rw [ih single ((get?_addChild_of_ne other _).trans sofar), more]

theorem get?_ofChildren_of_new {name : String} (children : List (Element String × String))
    (new : (name : Text) ∉ before.keys) :
    Entries.get? (ofChildren before children) name = together (valuesOf children name) := by
  have sofar : before.get? name = together [] := Entries.get?_eq_none_iff.2 new
  have noList : ∀ value ∈ ([] : List Value), ∀ items, value ≠ .list items := nofun
  exact get?_ofChildren children noList sofar

/-- Under a name with the mark stands the last attribute of that name. -/
theorem get?_ofAttributes (attributes : List (String × String)) (name : String) :
    Entries.get? (ofAttributes attributes) (attributeMark ++ name) =
      (Entries.get? attributes.reverse name).map fun s => .text s := by
  rw [ofAttributes, Entries.get?_ofPairs, ← List.map_reverse]
  induction attributes.reverse with
  | nil => rfl
  | cons first rest ih =>
    obtain ⟨other, value⟩ := first
    by_cases same : other = name
    · simp [Entries.get?, same]
    · have marked : attributeMark ++ (other : Text) ≠ attributeMark ++ name := fun eq =>
        same (Text.ofString_inj.1 (Text.append_left_cancel eq))
      simp only [List.map_cons, Entries.get?, if_neg same, if_neg marked]
      exact ih

/-! ## The table -/

/-- The table that an element with children or attributes is read as. -/
structure IsTableOf (element : Element String) (entries : Entries Text Value) : Prop where
  filled : entries ≠ []
  /-- Attributes come first, then the children by the first of each name, and last the text. -/
  keys : entries.keys = (element.attributes.map fun pair => attributeMark ++ (pair.1 : Text)).eraseDups ++
    (element.children.map fun child => (child.1.name : Text)).eraseDups ++
      if strip element.text = "" then [] else [textKey]
  distinct : entries.keys.Nodup
  marked : ∀ name : String, entries.get? (attributeMark ++ name) =
    (Entries.get? element.attributes.reverse name).map fun s => .text s
  single : ∀ (name : String) value, valuesOf element.children name = [value] → entries.get? name = some value
  several : ∀ name : String, 2 ≤ (valuesOf element.children name).length →
    entries.get? name = some (.list (valuesOf element.children name))
  text : entries.get? textKey =
    if strip element.text = "" then none else some (.text (strip element.text))

/-- The keys of attributes are not names of children, and neither is the key of the text. -/
theorem not_mem_keys_ofAttributes {attributes : List (String × String)} (isChild : isChildKey key = true) :
    key ∉ Entries.keys (ofAttributes attributes) := by
  rw [keys_ofAttributes, List.mem_eraseDups]
  intro member
  obtain ⟨pair, _, rfl⟩ := List.mem_map.1 member
  simp [isChildKey_attribute] at isChild

theorem textKey_not_mem_keys_ofAttributes (attributes : List (String × String)) :
    textKey ∉ Entries.keys (ofAttributes attributes) := by
  rw [keys_ofAttributes, List.mem_eraseDups]
  intro member
  obtain ⟨pair, _, same⟩ := List.mem_map.1 member
  exact attribute_ne_textKey pair.1 same

theorem mem_names_of_valuesOf {children : List (Element String × String)} {name : String}
    (some : valuesOf children name ≠ []) : name ∈ children.map (·.1.name) := by
  obtain ⟨value, member⟩ := List.exists_mem_of_ne_nil _ some
  obtain ⟨child, found, _⟩ := List.mem_map.1 member
  obtain ⟨inside, named⟩ := List.mem_filter.1 found
  exact List.mem_map.2 ⟨child, inside, by simpa using named⟩

/-- The entries of an element besides that of its text. -/
def besideText (element : Element String) : Entries Text Value :=
  ofChildren (ofAttributes element.attributes) element.children

theorem ofElement_eq (element : Element String) : ofElement element =
    if element.children.isEmpty ∧ element.attributes.isEmpty then .text (strip element.text)
    else .table (addText (besideText element) (strip element.text)) := by
  cases element
  rw [ofElement]
  rfl

section Read

variable {element : Element String} (read : element.IsRead)

include read

theorem isChildKey_of_mem_names {name : String} (member : name ∈ element.children.map (·.1.name)) :
    isChildKey name = true := by
  obtain ⟨⟨child, behind⟩, inside, rfl⟩ := List.mem_map.1 member
  exact isChildKey_of_isReadName (read.areRead.of_mem inside).named

theorem keys_besideText : Entries.keys (besideText element) =
    (element.attributes.map fun pair => attributeMark ++ (pair.1 : Text)).eraseDups ++
      (element.children.map fun child => (child.1.name : Text)).eraseDups := by
  rw [besideText, keys_ofChildren, keys_ofAttributes]
  intro child member
  exact not_mem_keys_ofAttributes (isChildKey_of_mem_names read (List.mem_map.2 ⟨child, member, rfl⟩))

theorem textKey_not_mem_keys_besideText : textKey ∉ Entries.keys (besideText element) := by
  rw [keys_besideText read, List.mem_append, ← keys_ofAttributes, List.mem_eraseDups]
  rintro (marked | named)
  · exact textKey_not_mem_keys_ofAttributes _ marked
  · obtain ⟨child, inside, same⟩ := List.mem_map.1 named
    have isChild := isChildKey_of_mem_names read (List.mem_map.2 ⟨child, inside, rfl⟩)
    exact absurd (same ▸ isChild) (by decide)

theorem get?_besideText_attribute (name : String) :
    Entries.get? (besideText element) (attributeMark ++ name) =
      (Entries.get? element.attributes.reverse name).map fun s => .text s := by
  have spelled := Text.ofString_append "-" name
  have none : valuesOf element.children ("-" ++ name) = [] := by
    by_contra some
    have isChild := isChildKey_of_mem_names read (mem_names_of_valuesOf some)
    rw [spelled] at isChild
    exact absurd isChild (Bool.eq_false_iff.1 (isChildKey_attribute name))
  obtain ⟨values, single, sofar⟩ : ∃ values : List Value,
      (∀ value ∈ values, ∀ items, value ≠ .list items) ∧
        (Entries.get? element.attributes.reverse name).map (fun s => .text s) = together values := by
    cases Entries.get? element.attributes.reverse name with
    | none => exact ⟨[], nofun, rfl⟩
    | some s => exact ⟨[.text s], by simp, rfl⟩
  have under : Entries.get? (ofAttributes element.attributes) (("-" ++ name : String) : Text) =
      together values := spelled ▸ (get?_ofAttributes _ _).trans sofar
  have all := get?_ofChildren element.children single under
  rw [none, List.append_nil, spelled] at all
  exact all.trans sofar.symm

theorem get?_besideText_child {name : String} (some : valuesOf element.children name ≠ []) :
    Entries.get? (besideText element) name = together (valuesOf element.children name) := by
  have isChild := isChildKey_of_mem_names read (mem_names_of_valuesOf some)
  exact get?_ofChildren_of_new _ (not_mem_keys_ofAttributes isChild)

theorem isTableOf_addText (filled : ¬(element.children.isEmpty ∧ element.attributes.isEmpty)) :
    IsTableOf element (addText (besideText element) (strip element.text)) := by
  have noText := textKey_not_mem_keys_besideText read
  have under {name : String} (some : valuesOf element.children name ≠ []) :
      Entries.get? (addText (besideText element) (strip element.text)) name =
        together (valuesOf element.children name) := by
    have isChild := isChildKey_of_mem_names read (mem_names_of_valuesOf some)
    rw [get?_addText_of_ne _ (isChildKey_eq_true_iff.1 isChild).1, get?_besideText_child read some]
  have keys := keys_addText (strip element.text) noText
  rw [keys_besideText read] at keys
  refine ⟨?_, keys, ?_, ?_, ?_, ?_, get?_addText_textKey _ noText⟩
  · obtain ⟨key, known, _⟩ := notOnlyText_ofElement read.areRead filled
    intro none
    have added : key ∈ Entries.keys (addText (besideText element) (strip element.text)) :=
      mem_keys_addText known
    rw [none] at added
    cases added
  · cases read with
    | mk _ clean textClean inside =>
      have entries := areEntries_ofChildren inside (areEntries_ofAttributes clean)
      exact (entries.addText (isDocumentText_strip textClean)).distinct
  · intro name
    rw [get?_addText_of_ne _ (attribute_ne_textKey name), get?_besideText_attribute read]
  · intro name value single
    rw [under (by simp [single]), single, together]
  · intro name several
    have some : valuesOf element.children name ≠ [] := by
      intro none
      simp [none] at several
    rw [under some]
    match valuesOf element.children name, several with
    | _ :: _ :: _, _ => rfl

/-- What an element is read as.  Without children and attributes it is its text, and otherwise a table
    in which everything stands once, in order. -/
theorem isTableOf_ofElement (filled : ¬(element.children.isEmpty ∧ element.attributes.isEmpty)) :
    ∃ entries, ofElement element = .table entries ∧ IsTableOf element entries := by
  refine ⟨_, ?_, isTableOf_addText read filled⟩
  rw [ofElement_eq, if_neg filled]

end Read

/-- An element of a document is its text, or a table in which each of its attributes, of its children
    and its text stand once and in order.  Texts behind children make no difference. -/
theorem ofElement_of_isWithin {document : Document} {root element : Element String}
    (read : document.root = .ok root) (inside : element.IsWithin root) :
    (element.children = [] ∧ element.attributes = [] →
      ofElement element = .text (strip element.text)) ∧
    (¬(element.children = [] ∧ element.attributes = []) →
      ∃ entries, ofElement element = .table entries ∧ IsTableOf element entries) ∧
    ∀ other, other.withoutTails = element.withoutTails → ofElement other = ofElement element := by
  have isRead := (Document.isRead_of_root read).of_isWithin inside
  refine ⟨?_, ?_, ?_⟩
  · intro bare
    rw [ofElement_eq, if_pos (by simpa using bare)]
  · intro filled
    exact isTableOf_ofElement isRead (by simpa using filled)
  · intro other same
    rw [← ofElement_withoutTails, same, ofElement_withoutTails]

/-- Two children of a name with another one between them, and an attribute of their name. -/
def interleaved : Element Text :=
  ⟨"config", [("b", "1")], "t",
    [(⟨"b", [], "x", []⟩, ""), (⟨"c", [("d", "2")], "", []⟩, ""), (⟨"b", [], "y", []⟩, "")]⟩

theorem ofElement_of_isWithin_interleaved : ∃ root entries,
    (Document.bytes (Xml.Writer.document "  " interleaved).toByteArray).root = .ok root ∧
    ofElement root = .table entries ∧ IsTableOf root entries ∧
    entries = ([("-b", .text "1"), ("b", .list [.text "x", .text "y"]),
      ("c", .table [("-d", .text "2")]), ("#text", .text "t")] : Entries Text Value) := by
  have leaf {name : String} {text : Text} {found : List (String × Text)} (named : isName name = true)
      (attributes : ∀ a ∈ found, isName a.1 = true ∧ Xml.IsClean a.2.chars)
      (distinct : (found.map (·.1)).Nodup) (clean : Xml.IsClean text.chars) :
      Element.IsWritable ⟨name, found, text, []⟩ := .mk named attributes distinct clean .nil
  have writable : interleaved.IsWritable := by
    refine .mk ?_ ?_ ?_ ?_ (.cons (leaf ?_ ?_ ?_ ?_) (.cons (leaf ?_ ?_ ?_ ?_)
      (.cons (leaf ?_ ?_ ?_ ?_) .nil))) <;> decide
  have isStep : Xml.Writer.IsStep ("  " : Text).toList := ⟨by decide, by decide⟩
  have read := Document.root_of_readable writable (by decide) isStep
  obtain ⟨_, filled, _⟩ := ofElement_of_isWithin read (.refl _)
  obtain ⟨entries, same, table⟩ := filled (by decide)
  refine ⟨_, entries, read, same, table, ?_⟩
  have value : ofElement (interleaved.reread ("  " : Text).toList 0) = .table [("-b", .text "1"),
      ("b", .list [.text "x", .text "y"]), ("c", .table [("-d", .text "2")]), ("#text", .text "t")] := by
    cbv
  rw [same] at value
  exact Value.table.inj value

end Settings

end XmlSettings
