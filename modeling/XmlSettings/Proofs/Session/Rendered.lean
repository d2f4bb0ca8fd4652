import XmlSettings.Proofs.Session.Findings
import XmlSettings.Proofs.Value.Compact

/-! # What the text of a child tells

A section shows its lists and tables as compact documents.  Two of them that are shown by one text are
equal, wherever they were found (`rendered_tells`).
-/

namespace XmlSettings

open Schema (isComposite)

theorem Value.rendered_of_isComposite {value : Value} (composite : isComposite value = true) :
    value.rendered = Text.ofList value.compact := by
  cases value with
  | list | table => rfl
  | _ => cases composite

/-- Lists and tables are rendered differently unless they are equal. -/
theorem Value.rendered_inj {first second : Value} (exact : first.IsExact) (otherExact : second.IsExact)
    (composite : isComposite first = true) (otherComposite : isComposite second = true)
    (same : first.rendered = second.rendered) : first = second := by
  rw [rendered_of_isComposite composite, rendered_of_isComposite otherComposite] at same
  exact compact_inj exact otherExact (congrArg Text.toList same)

/-- Texts, truth values, `nothing` and integers with few enough digits can be written. -/
theorem Value.IsExact.isShowable {value : Value} (exact : value.IsExact) : value.isShowable = true := by
  induction exact with
  | text | flag | nothing => rfl
  | integer few => exact decide_eq_true few
  | list _ ih => exact Value.areShowable_iff.2 ih
  | table _ ih => exact Value.holdsShowable_iff.2 ih

namespace Session

variable {session : Session} {handle : Nat} {key name s : Text} {child : Value} {inner : Section}

/-- Only what a handle leads to is asked. -/
theorem known_of_reply {query : Query} {given : Reply} (replied : session.reply handle query = .ok given) :
    ∃ id, session.handles[handle]? = some id := by
  cases known : session.handles[handle]? with
  | some id => exact ⟨id, rfl⟩
  | none =>
    have failed : (Command.ask handle query).action.run.run session.taken =
        (.error .noHandle, session.taken) :=
      run_bind_error (run_bind_error (run_sectionOf_unknown session.taken known))
    cases (result_of_run_error failed).symm.trans replied

/-- Whether the section under a key has a child that it shows by a text. -/
def ShowsChild (session : Session) (handle : Nat) (key name : Text) (child : Value) (s : Text) : Prop :=
  ∃ inner shown : Section, session.reply handle (.value key) = .ok (.value (.table inner)) ∧
    inner.get? name = some child ∧
    session.reply handle (.entries key) = .ok (.value (.table shown)) ∧ shown.get? name = some (.text s)

theorem showsChild_rendered (held : session.reply handle (.value key) = .ok (.value (.table inner)))
    (showable : (Value.table inner).isShowable = true) (found : inner.get? name = some child) :
    session.ShowsChild handle key name child child.rendered := by
  obtain ⟨id, known⟩ := known_of_reply held
  refine ⟨inner, asTexts inner, held, found,
    reply_entries known ((reply_value_iff known).1 held) showable, ?_⟩
  rw [get?_asTexts_eq, found, Option.map_some]

theorem ShowsChild.eq_rendered (shows : session.ShowsChild handle key name child s) :
    s = child.rendered := by
  obtain ⟨inner, shown, held, found, entries, text⟩ := shows
  obtain ⟨id, known⟩ := known_of_reply held
  cases ((reply_entries_iff known ((reply_value_iff known).1 held)).1 entries).2
  rw [get?_asTexts_eq, found, Option.map_some, Option.some.injEq, Value.text.injEq] at text
  exact text.symm

/-- No two lists or tables of texts, truth values, integers and `nothing` are rendered as one text.  So a
    section of these shows every child, and the text by which a section shows a list or a table tells the
    child, in all sessions and sections. -/
theorem rendered_tells :
    (∀ first second : Value, first.IsExact → second.IsExact → isComposite first = true →
      isComposite second = true → first.rendered = second.rendered → first = second) ∧
    ∀ (session : Session) (handle : Nat) (key name : Text) (inner : Section) (child : Value),
      session.reply handle (.value key) = .ok (.value (.table inner)) → inner.get? name = some child →
        child.IsExact → isComposite child = true →
        ((Value.table inner).IsExact → ∃ s, session.ShowsChild handle key name child s) ∧
        ∀ s, session.ShowsChild handle key name child s →
          ∀ (other : Session) (otherHandle : Nat) (otherKey otherName : Text) (value : Value),
            other.ShowsChild otherHandle otherKey otherName value s → value.IsExact →
              isComposite value = true → value = child := by
  refine ⟨fun first second exact otherExact => Value.rendered_inj exact otherExact, ?_⟩
  intro session handle key name inner child held found exact composite
  refine ⟨fun each => ⟨_, showsChild_rendered held each.isShowable found⟩, fun s shows => ?_⟩
  intro other otherHandle otherKey otherName value too valueExact valueComposite
  exact Value.rendered_inj valueExact exact valueComposite composite
    (too.eq_rendered.symm.trans shows.eq_rendered)

/-- A text that holds the marks between two texts is told apart from the two texts. -/
theorem rendered_tells_marks :
    let inner : Section := [("c", .list [.text "1\",\"2", .integer (-7), .nothing])]
    let session := reached Dotenv.load [] (.empty []) false [.create [("b", .table inner)]]
    ∃ s, session.ShowsChild 0 "b" "c" (.list [.text "1\",\"2", .integer (-7), .nothing]) s ∧
      ¬session.ShowsChild 0 "b" "c" (.list [.text "1", .text "2", .integer (-7), .nothing]) s := by
  have integer : (Value.integer (-7)).IsExact :=
    .integer (by rw [Decimal.digitCount_of_lt (by decide)]; decide)
  have marks : (Value.list [.text "1\",\"2", .integer (-7), .nothing]).IsExact := by
    refine .list fun item member => ?_
    simp only [List.mem_cons, List.not_mem_nil, or_false] at member
    rcases member with rfl | rfl | rfl
    exacts [.text _, integer, .nothing]
  have plain : (Value.list [.text "1", .text "2", .integer (-7), .nothing]).IsExact := by
    refine .list fun item member => ?_
    simp only [List.mem_cons, List.not_mem_nil, or_false] at member
    rcases member with rfl | rfl | rfl | rfl
    exacts [.text _, .text _, integer, .nothing]
  intro inner session
  have table : (session.store.table 1).get? "b" = some (.table inner) :=
    congrArg (fun entries : Section => entries.get? "b") (Store.table_add Store.empty [("b", .table inner)])
  have held := (reply_value_iff (show session.handles[0]? = some 1 from rfl)).2 table
  obtain ⟨shown, tells⟩ := rendered_tells.2 session 0 "b" "c" inner _ held rfl marks rfl
  obtain ⟨s, shows⟩ := shown (.table (List.forall_mem_singleton.2 marks))
  refine ⟨s, shows, fun too => ?_⟩
  have same := tells s shows session 0 "b" "c" _ too plain rfl
  simp at same

end Session

end XmlSettings
