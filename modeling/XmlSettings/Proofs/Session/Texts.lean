import XmlSettings.Proofs.Session.Replies
import XmlSettings.Proofs.Text.Pieces

/-! # Lists of texts

A list is kept as one text with semicolons between its texts.  What is read under a key is the only list
without semicolons that the text can stand for, and a list that is written is read back, unless it is empty
or holds nothing but an empty text (`texts_exact`).
-/

namespace XmlSettings.Session

open Section (separator)
open Text (eq_pieces_iff intercalate_eq_empty_iff length_pieces pieces)

/-! ## Joined texts -/

/-- The texts of a list with semicolons between them. -/
def joined (texts : List Text) : Text :=
  Text.intercalate (.ofList [separator]) texts

/-- Whether there is no semicolon in any text. -/
def AreSeparable (texts : List Text) : Prop :=
  ∀ s ∈ texts, separator ∉ s.toList

instance (texts : List Text) : Decidable (AreSeparable texts) :=
  List.decidableBAll _ texts

/-- Whether a text stands for a list, and for no other one. -/
structure StandsFor (s : Text) (texts : List Text) : Prop where
  separable : AreSeparable texts
  joined : Session.joined texts = s
  length : texts.length = s.toList.count separator + 1
  only : ∀ other, AreSeparable other → Session.joined other = s → other = texts

theorem standsFor_pieces {s : Text} (filled : s ≠ "") : StandsFor s (pieces separator s) := by
  obtain ⟨separable, joined⟩ := (eq_pieces_iff filled).1 rfl
  refine ⟨separable, joined, length_pieces separator s, fun other free same => ?_⟩
  exact (eq_pieces_iff filled).2 ⟨free, same⟩

/-! ## Reading and writing -/

/-- A list of texts as a value. -/
def listOf (texts : List Text) : Value :=
  .list (texts.map .text)

/-- Whether a list is read under a key, also where a default might stand in for it. -/
structure IsListed (session : Session) (handle : Nat) (key : Text) (texts : List Text) : Prop where
  strict : session.reply handle (.texts key) = .ok (.value (listOf texts))
  lenient : ∀ default, session.reply handle (.textsOr key default) = .ok (.value (listOf texts))

section Listed

variable {session : Session} {handle : Nat} {id : SectionId} {key s : Text}
  (known : session.handles[handle]? = some id)

include known

theorem isListed_pieces (filled : s ≠ "")
    (found : (session.store.table id).get? key = some (.text s)) :
    session.IsListed handle key (pieces separator s) := by
  have read : Section.texts? (session.store.table id) key = some (pieces separator s) := by
    rw [Section.texts?, Section.text_of_text found, if_neg filled]
  have answer (default : Value) :
      Section.textsOr (session.store.table id) key default = listOf (pieces separator s) := by
    rw [Section.textsOr, read]
    rfl
  constructor
  · rw [reply_eq_ok_iff known, Query.answer, answer]
  · intro default
    rw [reply_eq_ok_iff known, Query.answer, answer]

theorem isListed_write (inside : id < session.store.next) {texts : List Text}
    (separable : AreSeparable texts) (filled : joined texts ≠ "") :
    (session.step (.write handle key (.text (joined texts)))).1.IsListed handle key texts := by
  obtain ⟨journal, _, written⟩ := session.gives_write known key (Value.written_text (joined texts))
  have found : ((session.store.set id key (joined texts)).table id).get? key =
      some (.text (joined texts)) := by
    rw [Store.table_set inside, Entries.get?_put, if_pos rfl]
  have listed := @isListed_pieces
    { session with store := session.store.set id key (joined texts), journal } _ _ _ _ known filled found
  rw [← (standsFor_pieces filled).only texts separable rfl] at listed
  rw [written]
  exact listed

end Listed

/-- A text that is not empty is read as the only list that it stands for, and a list that is written is
    read back unless it comes to an empty text. -/
theorem texts_exact (loader : Dotenv.Loader) (environment : Environment) (files : FileTree)
    (isWatched : Bool) (commands : List Command) {handle : Nat}
    (isHandle : handle < (reached loader environment files isWatched commands).handles.length) (key : Text) :
    (∀ s : Text, s ≠ "" → (reached loader environment files isWatched commands).reply handle (.value key) =
        .ok (.value (.text s)) →
      ∃ texts, (reached loader environment files isWatched commands).reply handle (.texts key) =
        .ok (.value (listOf texts)) ∧ StandsFor s texts) ∧
    ∀ texts, AreSeparable texts → texts ≠ [] → texts ≠ [("" : Text)] →
      ((reached loader environment files isWatched commands).step
        (.write handle key (.text (joined texts)))).1.IsListed handle key texts := by
  have known := List.getElem?_eq_getElem isHandle
  constructor
  · intro s filled held
    have listed := isListed_pieces known filled ((reply_value_iff known).1 held)
    exact ⟨pieces separator s, listed.strict, standsFor_pieces filled⟩
  · intro texts separable some notEmpty
    have inside := inside_reached loader environment files isWatched commands _ (List.getElem_mem isHandle)
    refine isListed_write known inside separable fun empty => ?_
    exact (intercalate_eq_empty_iff.1 empty).elim some notEmpty

/-- Semicolons at both ends and next to each other, in a text that is held and in one that is written. -/
theorem texts_exact_empty :
    let session := reached Dotenv.load [] (.empty []) false [.create [("a", .text ";x;;")]]
    (∃ texts, session.reply 0 (.texts "a") = .ok (.value (listOf texts)) ∧ StandsFor ";x;;" texts) ∧
      (session.step (.write 0 "b" (.text (joined ["", "", "y"])))).1.IsListed 0 "b" ["", "", "y"] := by
  intro session
  have both (key : Text) := @texts_exact Dotenv.load [] (.empty []) false [.create [("a", .text ";x;;")]] 0
    (by decide) key
  constructor
  · exact (both "a").1 ";x;;" (by decide) (by cbv)
  · exact (both "b").2 ["", "", "y"] (by decide) (by decide) (by decide)

end XmlSettings.Session
