import Mathlib
import XmlSettings.Proofs.Settings.Siblings

/-! # Text between children

Of the character data directly inside an element only the run in front of the first child is read.
What stands behind a child is lost, unless it happens to be said in front as well.
-/

namespace XmlSettings

/-- The runs of character data directly inside an element: the one in front of the first child, and
    those behind the children. -/
def Xml.Element.runs (element : Xml.Element String) : List String :=
  element.text :: element.children.map Prod.snd

namespace Settings

open XmlSettings.Xml
open XmlSettings.Text (strip)

/-- A run of character data appears in the text among entries, up to the blanks around it. -/
def IsRetained (entries : Entries Text Value) (run : Text) : Prop :=
  ∃ s, entries.get? textKey = some (.text s) ∧ (strip run).toList <:+: s.toList

theorem IsTableOf.isRetained_iff {element : Element String} {entries : Entries Text Value}
    (table : IsTableOf element entries) {run : Text} (filled : strip run ≠ "") :
    IsRetained entries run ↔ (strip run).toList <:+: (strip element.text).toList := by
  rw [IsRetained, table.text]
  split
  next blank =>
    constructor
    · rintro ⟨_, none, _⟩
      cases none
    · intro inside
      rw [blank, Text.toList_empty, List.infix_nil, Text.toList_eq_nil_iff] at inside
      exact absurd inside filled
  next =>
    constructor
    · rintro ⟨_, same, inside⟩
      cases same
      exact inside
    · exact fun inside => ⟨_, rfl, inside⟩

/-- All character data directly inside an element is retained exactly if the runs behind its children
    say nothing that the run in front does not say. -/
theorem runs_retained_iff {document : Document} {root element : Element String}
    (read : document.root = .ok root) (inside : element.IsWithin root)
    (filled : ¬(element.children = [] ∧ element.attributes = [])) :
    ∃ entries, ofElement element = .table entries ∧
      ((∀ run ∈ element.runs, strip run ≠ "" → IsRetained entries run) ↔
        ∀ behind ∈ element.children.map Prod.snd, strip behind ≠ "" →
          (strip behind).toList <:+: (strip element.text).toList) := by
  have isRead := (Document.isRead_of_root read).of_isWithin inside
  obtain ⟨entries, same, table⟩ := isTableOf_ofElement isRead (by simpa using filled)
  refine ⟨entries, same, ?_⟩
  rw [Element.runs, List.forall_mem_cons]
  constructor
  · rintro ⟨_, every⟩ behind member some
    exact (table.isRetained_iff some).1 (every behind member some)
  · intro said
    refine ⟨fun some => (table.isRetained_iff some).2 (List.infix_refl _), ?_⟩
    intro behind member some
    exact (table.isRetained_iff some).2 (said behind member some)

/-- A text behind the only child of an element. -/
def mixed : String := "<config><a/>tail</config>"

theorem rootElement_mixed : rootElement Doctype.empty mixed.toList =
    .ok (⟨"config", [], "", [(⟨"a", [], "", []⟩, "tail")]⟩, []) := by
  have first : Token.next mixed.toList =
      .ok (.opening ⟨⟨none, "config"⟩, [], false⟩, "<a/>tail</config>".toList) := by cbv
  have second : Token.next "<a/>tail</config>".toList =
      .ok (.opening ⟨⟨none, "a"⟩, [], true⟩, "tail</config>".toList) := by cbv
  have third : Token.next "tail</config>".toList = .ok (.data "tail".toList, "</config>".toList) := by
    cbv
  have last : Token.next "</config>".toList = .ok (.closing "config", []) := by cbv
  have bare (name : String) (isClosed : Bool) (s : List Char) :
      OpenTag.resolve Doctype.empty [] .document s Scope.initial ⟨⟨none, name⟩, [], isClosed⟩ =
        .ok ([], Scope.initial) := by cbv
  have inside (frame : Frame) (scope : frame.scope = Scope.initial) (written : frame.written = "config") :
      content Doctype.empty [] .document ⟨frame, []⟩ "<a/>tail</config>".toList =
        .ok (.closed ((frame.addChild ⟨"a", [], "", []⟩).addText "tail".toList).element []) := by
    rw [content_of_opening second, scope, bare]
    simp only [if_true]
    rw [content_of_data third]
    exact content_of_lastClosing last written.symm
  rw [rootElement_of_opening first, bare]
  simp only [Bool.false_eq_true, if_false]
  rw [inside _ rfl rfl]
  rfl

/-- The text as a whole document. -/
def mixedDocument : String := "<?xml version='1.0' encoding='utf-8'?>" ++ mixed

theorem root_mixed : (Document.text mixedDocument).root =
    .ok ⟨"config", [], "", [(⟨"a", [], "", []⟩, "tail")]⟩ := by
  have opened : mixedDocument.toList = '<' :: '?' :: (Writer.openingInside ++ mixed.toList) := rfl
  have doctype : Doctype.read ⟨{ Doctype.empty with isStandalone := false }, true, .root false⟩
      mixed.toList = .ok (Doctype.empty, mixed.toList) := by cbv
  have ended : Document.checkEnd [] = .ok () := by rw [Document.checkEnd]
  rw [Document.root_text_of_opening opened (by decide), Document.body, doctype]
  simp only [bind, Except.bind, rootElement_mixed, ended, Except.mapError]

theorem runs_retained_not_behind : ∃ (root : Element String) (entries : Entries Text Value),
    (Document.text mixedDocument).root = .ok root ∧ root.runs = ["", "tail"] ∧
    ofElement root = .table entries ∧ entries = ([("a", .text "")] : Entries Text Value) ∧
    ¬∀ run ∈ root.runs, strip run ≠ "" → IsRetained entries run := by
  obtain ⟨entries, same, retained⟩ := runs_retained_iff root_mixed (.refl _) (by decide)
  refine ⟨_, entries, root_mixed, rfl, same, ?_, fun every => ?_⟩
  · exact Value.table.inj (same.symm.trans (by cbv))
  · have said := retained.1 every "tail" (by decide) (by decide)
    exact absurd said (by decide)

end Settings

end XmlSettings
