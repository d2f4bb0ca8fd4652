import Mathlib
import XmlSettings.Proofs.Schema.Equations
import XmlSettings.Proofs.Schema.Inhabits

/-! # Decoding gives values of the declared type

Whatever is decoded for a declared type is a value of it, and texts, lists and tables are decoded or
found not to fit, whatever classes refer to each other (`decodeValue_sound`).  Both are shown along the
recursion of the decoder, which goes to a smaller raw value or to a smaller type.
-/

namespace XmlSettings.Schema

/-! ## Runs that meet a condition -/

/-- Whether a run gives only what it should, and, where that is known to be so, fails only because a
    value does not fit. -/
structure Run.Meets {α : Type} (run : Run α) (closed : Prop) (post : α → Prop) : Prop where
  gives : ∀ a, run.result = .ok a → post a
  rejects : closed → ∀ e, run.result = .error e → ∃ reason, e = .rejected reason

namespace Run.Meets

variable {α β : Type} {closed : Prop} {post : α → Prop} {run : Run α}

theorem pure {a : α} (holds : post a) : (Pure.pure a : Run α).Meets closed post := by
  constructor
  · intro b given
    cases given
    exact holds
  · intro _ e failed
    cases failed

theorem reject (e : DecodeError) : (Run.reject e : Run α).Meets closed post := by
  constructor
  · intro a given
    cases given
  · intro _ failure failed
    cases failed
    exact ⟨e, rfl⟩

theorem fail {e : Failure} (unclosed : ¬closed) : (Run.fail e : Run α).Meets closed post := by
  constructor
  · intro a given
    cases given
  · intro isClosed
    exact absurd isClosed unclosed

/-- Nothing is asked of a run that may fail. -/
theorem any (unclosed : ¬closed) (run : Run α) : run.Meets closed fun _ => True :=
  ⟨fun _ _ => trivial, fun isClosed => absurd isClosed unclosed⟩

theorem mono {other : Prop} {more : α → Prop} (meets : run.Meets closed post)
    (weaker : other → closed) (stronger : ∀ a, post a → more a) : run.Meets other more :=
  ⟨fun a given => stronger a (meets.gives a given), fun isClosed => meets.rejects (weaker isClosed)⟩

theorem bind {next : α → Run β} {after : β → Prop} (meets : run.Meets closed post)
    (rest : ∀ a, post a → (next a).Meets closed after) : (run >>= next).Meets closed after := by
  obtain ⟨notes, result⟩ := run
  cases result with
  | ok a =>
    obtain ⟨gives, rejects⟩ := rest a (meets.gives a rfl)
    exact ⟨gives, rejects⟩
  | error e =>
    constructor
    · intro b given
      cases given
    · intro isClosed failure failed
      cases failed
      exact meets.rejects isClosed e rfl

theorem orElseRejected {next : DecodeError → Run α} (meets : run.Meets closed post)
    (otherwise : ∀ e, (next e).Meets closed post) : (run.orElseRejected next).Meets closed post := by
  unfold Run.orElseRejected
  split
  next e _ =>
    obtain ⟨gives, rejects⟩ := otherwise e
    exact ⟨gives, rejects⟩
  next => exact meets

theorem note (n : Note) {next : PUnit → Run α} (meets : (next ⟨⟩).Meets closed post) :
    (Run.note n >>= next).Meets closed post :=
  ⟨meets.gives, meets.rejects⟩

end Run.Meets

/-! ## Scalars -/

section Steps

variable {classes : Classes} {className : Text} {declared : List Field} {path : Path}
  {settings : Settings} {raw : Value}

theorem exists_text_of_isOfTexts (ofTexts : raw.isOfTexts = true) (single : isComposite raw = false) :
    ∃ s, raw = .text s := by
  cases raw with
  | text s => exact ⟨s, rfl⟩
  | list | table => cases single
  | _ => cases ofTexts

theorem isShowable_of_isOfTexts (ofTexts : raw.isOfTexts = true) (single : isComposite raw = false) :
    raw.isShowable = true := by
  obtain ⟨s, rfl⟩ := exists_text_of_isOfTexts ofTexts single
  rfl

theorem refuse_meets {type : Scalar} {post : Value → Prop} (single : isComposite raw = false) :
    (refuse path raw type).Meets (raw.isOfTexts = true) post := by
  unfold refuse
  split
  next => exact .reject _
  next hidden => exact .fail fun ofTexts => hidden (isShowable_of_isOfTexts ofTexts single)

theorem convertNumber_meets {α : Type} {type : Scalar} {wrap : α → Value}
    {converted : Except NumberError α} (single : isComposite raw = false)
    (accepted : ∀ x, type.accepts (wrap x) = true)
    (bounded : raw.isOfTexts = true →
      converted ≠ .error .infiniteAsInteger ∧ converted ≠ .error .beyondReals) :
    (convertNumber path raw type wrap converted).Meets (raw.isOfTexts = true)
      (type.accepts · = true) := by
  unfold convertNumber
  split
  next x => exact .pure (accepted x)
  next => exact .fail fun ofTexts => (bounded ofTexts).1 rfl
  next => exact .fail fun ofTexts => (bounded ofTexts).2 rfl
  next => exact refuse_meets single

/-- A text is read as a number, or is none. -/
theorem toInteger_of_isOfTexts (ofTexts : raw.isOfTexts = true) (single : isComposite raw = false) :
    raw.toInteger ≠ .error .infiniteAsInteger ∧ raw.toInteger ≠ .error .beyondReals := by
  obtain ⟨s, rfl⟩ := exists_text_of_isOfTexts ofTexts single
  rw [Value.toInteger, integerOfText]
  split <;> simp

theorem toReal_of_isOfTexts (ofTexts : raw.isOfTexts = true) (single : isComposite raw = false) :
    raw.toReal ≠ .error .infiniteAsInteger ∧ raw.toReal ≠ .error .beyondReals := by
  obtain ⟨s, rfl⟩ := exists_text_of_isOfTexts ofTexts single
  rw [Value.toReal, realOfText]
  split <;> simp

theorem decodeScalar_meets (settings : Settings) (path : Path) (raw : Value) (type : Scalar) :
    (decodeScalar settings path raw type).Meets (raw.isOfTexts = true) (type.accepts · = true) := by
  unfold decodeScalar
  split
  next accepted => exact .pure accepted
  next =>
    split
    next => exact .reject _
    next converts =>
      have single : isComposite raw = false := by
        cases composite : isComposite raw with
        | false => rfl
        | true => simp [composite] at converts
      cases type with
      | text =>
        simp only
        split
        next => exact .pure rfl
        next unwritten =>
          refine .fail fun ofTexts => ?_
          obtain ⟨hidden, _⟩ := Value.written_eq_error_iff.1 unwritten
          rw [isShowable_of_isOfTexts ofTexts single] at hidden
          cases hidden
      | flag =>
        cases raw.flag? with
        | some b => exact .pure rfl
        | none => exact refuse_meets single
      | integer =>
        exact convertNumber_meets single (fun _ => rfl) fun ofTexts => toInteger_of_isOfTexts ofTexts single
      | real =>
        exact convertNumber_meets single (fun _ => rfl) fun ofTexts => toReal_of_isOfTexts ofTexts single

/-! ## Instances -/

/-- After the check every field that has to be given is given. -/
theorem checkGiven_meets (path : Path) (values : Entries Text Value) (fields : List Field) {closed : Prop} :
    (checkGiven path values fields).Meets closed fun _ =>
      ∀ field ∈ fields, field.isRequired = true → values.hasKey field.name = true := by
  induction fields with
  | nil => exact .pure nofun
  | cons field rest ih =>
    rw [checkGiven]
    split
    next => exact .reject _
    next given =>
      apply ih.mono id
      intro _ later
      apply List.forall_mem_cons.2 ⟨fun required => ?_, later⟩
      simpa [required] using given

theorem construct_meets {raws values : Entries Text Value} (known : classes.get? className = some declared)
    (taken : AreTaken classes declared raws [] values)
    (complete : GivesRequired values declared) :
    (construct classes className values).Meets classes.AreComplete
      (Inhabits classes (.record className) (.table raws)) := by
  unfold construct
  split
  next value built =>
    apply Run.Meets.pure
    obtain ⟨_, fields, again, _, filled, rfl⟩ := build_eq_ok_iff.1 built
    cases known.symm.trans again
    exact .record known (fieldsInhabit_of_areFilled taken complete filled)
  next e failed =>
    apply Run.Meets.fail
    intro areComplete
    obtain ⟨fields, filled⟩ := @exists_areFilled _ _ _ values declared known
      (areComplete.gives _ (Entries.mem_of_get? known)) fun _ => id
    rw [build_eq_ok_iff.2 ⟨declared, fields, known, complete, filled, rfl⟩] at failed
    cases failed

/-- No instance of a class that is not known is built. -/
theorem construct_meets_of_unknown {values : Entries Text Value} {closed : Prop} {post : Value → Prop}
    (unknown : classes.get? className = none) (unclosed : ¬closed) :
    (construct classes className values).Meets closed post := by
  unfold construct
  split
  next value built =>
    obtain ⟨declared, _, known, _⟩ := build_eq_ok_iff.1 built
    rw [unknown] at known
    cases known
  next => exact .fail unclosed

/-! ## One step -/

/-- Whether data and types are such that every failure to decode means that a value does not fit. -/
def IsClosed (classes : Classes) (hint : Hint) (raw : Value) : Prop :=
  classes.AreComplete ∧ hint.isKnown classes = true ∧ raw.isOfTexts = true

variable {hint : Hint} {spelling : Spelling} {members : List Hint}

theorem eq_nothing_of_isNothing (isNothing : hint.isNothing = true) : hint = .plain .nothing := by
  unfold Hint.isNothing at isNothing
  split at isNothing
  next => rfl
  next => cases isNothing

theorem decodeValue_meets_union
    (inside : (decodeMember classes settings path raw (.union spelling members) [] members).Meets
      (classes.AreComplete ∧ Hint.areKnown classes members = true ∧ raw.isOfTexts = true)
      fun value => ∃ hint ∈ members, Inhabits classes hint raw value) :
    (decodeValue classes settings path raw (.union spelling members)).Meets
      (IsClosed classes (.union spelling members) raw) (Inhabits classes (.union spelling members) raw) := by
  have inside : (decodeMember classes settings path raw (.union spelling members) [] members).Meets
      (IsClosed classes (.union spelling members) raw) (Inhabits classes (.union spelling members) raw) := by
    apply inside.mono fun closed => closed
    rintro value ⟨hint, member, inhabits⟩
    exact .union member inhabits
  -- Only `nothing` is ever taken as it is; every other value goes to the members.
  cases raw with
  | nothing =>
    rw [decodeValue]
    split
    next some =>
      obtain ⟨member, known, isNothing⟩ := List.any_eq_true.1 some
      exact .pure (.union (eq_nothing_of_isNothing isNothing ▸ known) (.plain rfl))
    next => exact inside
  | _ =>
    rw [decodeValue]
    · exact inside
    · intro same
      cases same

theorem decodeValue_meets_list
    (items : ∀ items, raw = .list items → (decodeItems classes settings path 0 items hint).Meets
      (classes.AreComplete ∧ hint.isKnown classes = true ∧ Value.areOfTexts items = true)
      (AllInhabit classes hint items))
    (only : (decodeValue classes settings (.index 0 :: path) raw hint).Meets (IsClosed classes hint raw)
      (Inhabits classes hint raw)) :
    (decodeValue classes settings path raw (.list spelling hint)).Meets
      (IsClosed classes (.list spelling hint) raw) (Inhabits classes (.list spelling hint) raw) := by
  by_cases several : ∃ items, raw = .list items
  · obtain ⟨raws, rfl⟩ := several
    rw [decodeValue_items]
    exact (items raws rfl).bind fun values each => .pure (.items each)
  · have single : ∀ items, raw ≠ .list items := fun items same => several ⟨items, same⟩
    rw [decodeValue_only single]
    exact only.bind fun value inside => .pure (.only single inside)

theorem decodeValue_meets_table
    (entries : ∀ entries, raw = .table entries → (decodeEntries classes settings path entries hint).Meets
      (classes.AreComplete ∧ hint.isKnown classes = true ∧ Value.holdsTexts entries = true)
      (EntriesInhabit classes hint entries)) :
    (decodeValue classes settings path raw (.table spelling hint)).Meets
      (IsClosed classes (.table spelling hint) raw) (Inhabits classes (.table spelling hint) raw) := by
  cases raw with
  | table raws =>
    rw [decodeValue_entries]
    exact (entries raws rfl).bind fun values each => .pure (.table each)
  | _ =>
    rw [decodeValue]
    · exact .reject _
    · intro _ same
      cases same

theorem decodeValue_meets_record (distinct : classes.HaveDistinctNames)
    (keys : ∀ entries declared, raw = .table entries → classes.get? className = some declared →
      (decodeKeys classes settings path className [] entries).Meets
        (classes.AreComplete ∧ Value.holdsTexts entries = true) (AreTaken classes declared entries [])) :
    (decodeValue classes settings path raw (.record className)).Meets
      (IsClosed classes (.record className) raw) (Inhabits classes (.record className) raw) := by
  cases raw with
  | table raws =>
    rw [decodeValue_record]
    cases known : classes.get? className with
    | none =>
      -- Closed types name known classes only, so nothing is asked of failures here.
      have unknown : ¬IsClosed classes (.record className) (.table raws) := by
        intro isClosed
        have isKnown : classes.hasKey className = true := isClosed.2.1
        rw [Entries.hasKey, known] at isKnown
        cases isKnown
      apply (Run.Meets.any unknown _).bind
      intro values _
      apply (checkGiven_meets path values _).bind
      intro _ _
      exact construct_meets_of_unknown known unknown
    | some declared =>
      have closed (isClosed : IsClosed classes (.record className) (.table raws)) :
          classes.AreComplete ∧ Value.holdsTexts raws = true := ⟨isClosed.1, isClosed.2.2⟩
      apply ((keys raws declared rfl known).mono closed fun _ => id).bind
      intro values taken
      apply (checkGiven_meets path values _).bind
      intro _ complete
      apply (construct_meets known taken ?_).mono (fun isClosed => isClosed.1) fun _ => id
      intro field member settable
      apply complete field
      have found := get?_fieldsOf_of_distinct known (distinct.of_get? known) member settable
      exact List.mem_map_of_mem (Entries.mem_of_get? found)
  | _ =>
    rw [decodeValue, decodeFields]
    · exact Run.Meets.reject _
    · intro _ same
      cases same

theorem decodeMember_meets_cons {whole member : Hint} {errors : List DecodeError} {rest : List Hint}
    (first : (decodeValue classes settings path raw member).Meets (IsClosed classes member raw)
      (Inhabits classes member raw))
    (later : ∀ errors, (decodeMember classes settings path raw whole errors rest).Meets
      (classes.AreComplete ∧ Hint.areKnown classes rest = true ∧ raw.isOfTexts = true)
      fun value => ∃ hint ∈ rest, Inhabits classes hint raw value) :
    (decodeMember classes settings path raw whole errors (member :: rest)).Meets
      (classes.AreComplete ∧ Hint.areKnown classes (member :: rest) = true ∧ raw.isOfTexts = true)
      fun value => ∃ hint ∈ member :: rest, Inhabits classes hint raw value := by
  have parts (closed : classes.AreComplete ∧ Hint.areKnown classes (member :: rest) = true ∧
      raw.isOfTexts = true) : IsClosed classes member raw ∧ Hint.areKnown classes rest = true := by
    obtain ⟨areComplete, known, ofTexts⟩ := closed
    rw [Hint.areKnown, Bool.and_eq_true] at known
    exact ⟨⟨areComplete, known.1, ofTexts⟩, known.2⟩
  have later (errors : List DecodeError) :
      (decodeMember classes settings path raw whole errors rest).Meets
        (classes.AreComplete ∧ Hint.areKnown classes (member :: rest) = true ∧ raw.isOfTexts = true)
        fun value => ∃ hint ∈ member :: rest, Inhabits classes hint raw value := by
    apply (later errors).mono fun closed => ⟨closed.1, (parts closed).2, closed.2.2⟩
    rintro value ⟨hint, inside, inhabits⟩
    exact ⟨hint, List.mem_cons_of_mem _ inside, inhabits⟩
  rw [decodeMember_cons]
  split
  next => exact later errors
  next =>
    apply (first.mono (fun closed => (parts closed).1) ?_).orElseRejected fun e => later (e :: errors)
    exact fun value inhabits => ⟨member, List.mem_cons_self, inhabits⟩

theorem decodeItems_meets_cons {item : Value} {rest : List Value} {i : Nat}
    (first : (decodeValue classes settings (.index i :: path) item hint).Meets
      (IsClosed classes hint item) (Inhabits classes hint item))
    (later : (decodeItems classes settings path (i + 1) rest hint).Meets
      (classes.AreComplete ∧ hint.isKnown classes = true ∧ Value.areOfTexts rest = true)
      (AllInhabit classes hint rest)) :
    (decodeItems classes settings path i (item :: rest) hint).Meets
      (classes.AreComplete ∧ hint.isKnown classes = true ∧ Value.areOfTexts (item :: rest) = true)
      (AllInhabit classes hint (item :: rest)) := by
  rw [decodeItems, Value.areOfTexts, Bool.and_eq_true]
  apply (first.mono (fun closed => ⟨closed.1, closed.2.1, closed.2.2.1⟩) fun _ => id).bind
  intro value inhabits
  apply (later.mono (fun closed => ⟨closed.1, closed.2.1, closed.2.2.2⟩) fun _ => id).bind
  intro values each
  exact .pure (.cons inhabits each)

theorem decodeEntries_meets_cons {key : Text} {rest : List (Text × Value)}
    (first : (decodeValue classes settings (.key key :: path) raw hint).Meets
      (IsClosed classes hint raw) (Inhabits classes hint raw))
    (later : (decodeEntries classes settings path rest hint).Meets
      (classes.AreComplete ∧ hint.isKnown classes = true ∧ Value.holdsTexts rest = true)
      (EntriesInhabit classes hint rest)) :
    (decodeEntries classes settings path ((key, raw) :: rest) hint).Meets
      (classes.AreComplete ∧ hint.isKnown classes = true ∧ Value.holdsTexts ((key, raw) :: rest) = true)
      (EntriesInhabit classes hint ((key, raw) :: rest)) := by
  rw [decodeEntries, Value.holdsTexts, Bool.and_eq_true]
  apply (first.mono (fun closed => ⟨closed.1, closed.2.1, closed.2.2.1⟩) fun _ => id).bind
  intro value inhabits
  apply (later.mono (fun closed => ⟨closed.1, closed.2.1, closed.2.2.2⟩) fun _ => id).bind
  intro values each
  exact .pure (.cons inhabits each)

/-- One key more: it names no field, or the value under it is decoded for the field that it names. -/
theorem decodeKeys_meets_cons (distinct : classes.HaveDistinctNames)
    (known : classes.get? className = some declared) {key : Text} {rest : List (Text × Value)}
    {values : Entries Text Value}
    (first : ∀ field : Field,
      (decodeValue classes settings (.field field.name :: path) raw field.hint).Meets
        (IsClosed classes field.hint raw) (Inhabits classes field.hint raw))
    (later : ∀ values, (decodeKeys classes settings path className values rest).Meets
      (classes.AreComplete ∧ Value.holdsTexts rest = true) (AreTaken classes declared rest values)) :
    (decodeKeys classes settings path className values ((key, raw) :: rest)).Meets
      (classes.AreComplete ∧ Value.holdsTexts ((key, raw) :: rest) = true)
      (AreTaken classes declared ((key, raw) :: rest) values) := by
  have distinct := distinct.of_get? known
  rw [Value.holdsTexts, Bool.and_eq_true]
  have later (before : Entries Text Value) := (later before).mono
    (fun closed : classes.AreComplete ∧ raw.isOfTexts = true ∧ Value.holdsTexts rest = true =>
      ⟨closed.1, closed.2.2⟩) fun _ => id
  cases found : (fieldsOf classes className).get? (normal key) with
  | none =>
    rw [decodeKeys_unnamed found]
    split
    next => exact .reject _
    next =>
      apply Run.Meets.note
      apply (later values).mono id
      intro final taken field member settable
      apply (taken field member settable).cons_of_ne
      intro same
      rw [same, get?_fieldsOf_of_distinct known distinct member settable] at found
      cases found
  | some named =>
    obtain ⟨inside, settable, same⟩ := of_get?_fieldsOf known distinct found
    rw [decodeKeys_cons found]
    have closed (isClosed : classes.AreComplete ∧ raw.isOfTexts = true ∧ Value.holdsTexts rest = true) :
        IsClosed classes named.hint raw :=
      ⟨isClosed.1, isClosed.1.isKnown _ (Entries.mem_of_get? known) named inside, isClosed.2.1⟩
    apply ((first named).mono closed fun _ => id).bind
    intro value inhabits
    apply (later _).mono id
    intro final taken field member settable
    have taken := taken field member settable
    by_cases isNamed : normal key = normal field.name
    · have own : named = field := by
        rw [isNamed, get?_fieldsOf_of_distinct known distinct member settable] at found
        exact (Option.some.inj found).symm
      subst own
      exact taken.cons_of_eq isNamed inhabits
    · apply (taken.of_put ?_).cons_of_ne isNamed
      intro sameName
      exact isNamed (sameName ▸ same)

end Steps

/-! ## Every step -/

section Values

variable {classes : Classes}

mutual

/-- What is decoded for a type is of the type. -/
theorem decodeValue_meets (distinct : classes.HaveDistinctNames) (settings : Settings) (path : Path) :
    ∀ (raw : Value) (hint : Hint), (decodeValue classes settings path raw hint).Meets
      (IsClosed classes hint raw) (Inhabits classes hint raw)
  | raw, .any => by
    rw [decodeValue]
    exact .pure .any
  | raw, .unchecked _ _ => by
    rw [decodeValue]
    exact .pure .unchecked
  | raw, .scalar type => by
    rw [decodeValue]
    exact (decodeScalar_meets settings path raw type).mono (fun closed => closed.2.2) fun _ => .scalar
  | raw, .plain type => by
    rw [decodeValue]
    split
    next accepted => exact .pure (.plain accepted)
    next => exact .reject _
  | raw, .union spelling members =>
    decodeValue_meets_union
      (decodeMember_meets distinct settings path (.union spelling members) [] raw members)
  | raw, .list _ hint =>
    decodeValue_meets_list (fun items same => decodeItems_meets distinct settings path 0 items hint)
      (decodeValue_meets distinct settings (.index 0 :: path) raw hint)
  | raw, .table _ hint =>
    decodeValue_meets_table fun entries same => decodeEntries_meets distinct settings path entries hint
  | raw, .record className =>
    decodeValue_meets_record distinct fun entries declared same known =>
      decodeKeys_meets distinct settings path known [] entries
termination_by raw hint => (sizeOf raw, 2 * sizeOf hint + 1)

theorem decodeMember_meets (distinct : classes.HaveDistinctNames) (settings : Settings) (path : Path)
    (whole : Hint) (errors : List DecodeError) : ∀ (raw : Value) (members : List Hint),
      (decodeMember classes settings path raw whole errors members).Meets
        (classes.AreComplete ∧ Hint.areKnown classes members = true ∧ raw.isOfTexts = true)
        (fun value => ∃ hint ∈ members, Inhabits classes hint raw value)
  | raw, [] => by
    rw [decodeMember]
    exact .reject _
  | raw, member :: rest =>
    decodeMember_meets_cons (decodeValue_meets distinct settings path raw member) fun errors =>
      decodeMember_meets distinct settings path whole errors raw rest
termination_by raw members => (sizeOf raw, 2 * sizeOf members)

theorem decodeItems_meets (distinct : classes.HaveDistinctNames) (settings : Settings) (path : Path)
    (i : Nat) : ∀ (items : List Value) (hint : Hint),
      (decodeItems classes settings path i items hint).Meets
        (classes.AreComplete ∧ hint.isKnown classes = true ∧ Value.areOfTexts items = true)
        (AllInhabit classes hint items)
  | [], hint => by
    rw [decodeItems]
    exact .pure .nil
  | item :: rest, hint =>
    decodeItems_meets_cons (decodeValue_meets distinct settings (.index i :: path) item hint)
      (decodeItems_meets distinct settings path (i + 1) rest hint)
termination_by items => (sizeOf items, 0)

theorem decodeEntries_meets (distinct : classes.HaveDistinctNames) (settings : Settings) (path : Path) :
    ∀ (entries : List (Text × Value)) (hint : Hint),
      (decodeEntries classes settings path entries hint).Meets
        (classes.AreComplete ∧ hint.isKnown classes = true ∧ Value.holdsTexts entries = true)
        (EntriesInhabit classes hint entries)
  | [], hint => by
    rw [decodeEntries]
    exact .pure .nil
  | (key, raw) :: rest, hint =>
    decodeEntries_meets_cons (decodeValue_meets distinct settings (.key key :: path) raw hint)
      (decodeEntries_meets distinct settings path rest hint)
termination_by entries => (sizeOf entries, 0)

theorem decodeKeys_meets (distinct : classes.HaveDistinctNames) (settings : Settings) (path : Path)
    {className : Text} {declared : List Field} (known : classes.get? className = some declared)
    (values : Entries Text Value) : ∀ entries : List (Text × Value),
      (decodeKeys classes settings path className values entries).Meets
        (classes.AreComplete ∧ Value.holdsTexts entries = true) (AreTaken classes declared entries values)
  | [] => by
    rw [decodeKeys]
    exact .pure (areTaken_nil declared values)
  | (key, raw) :: rest =>
    decodeKeys_meets_cons distinct known
      (fun field => decodeValue_meets distinct settings (.field field.name :: path) raw field.hint)
      fun values => decodeKeys_meets distinct settings path known values rest
termination_by entries => (sizeOf entries, 0)

end

/-- Every value that is decoded for a type is of the type, also where classes refer to themselves.  Data
    of texts, lists and tables can only fail by not fitting, if every default gives a value. -/
theorem decodeValue_sound (distinct : classes.HaveDistinctNames) (settings : Settings) (path : Path)
    (raw : Value) (hint : Hint) :
    (∀ value, (decodeValue classes settings path raw hint).result = .ok value →
      Inhabits classes hint raw value) ∧
    (classes.AreComplete → hint.isKnown classes = true → raw.isOfTexts = true →
      ∀ e, (decodeValue classes settings path raw hint).result = .error e →
        ∃ reason, e = .rejected reason) := by
  obtain ⟨gives, rejects⟩ := decodeValue_meets distinct settings path raw hint
  exact ⟨gives, fun areComplete isKnown ofTexts => rejects ⟨areComplete, isKnown, ofTexts⟩⟩

/-- A class with lists of its own instances, and with a default instance of another class: of what is
    given for it, and for nothing given. -/
theorem decodeValue_sound_node :
    let classes : Classes :=
      [("Node", [⟨"name", .scalar .text, .required, true⟩,
          ⟨"inner_nodes", .list .long (.record "Node"), .value (.list []), true⟩,
          ⟨"size", .record "Size", .instance "Size", true⟩]),
        ("Size", [⟨"lines", .scalar .integer, .value (.integer 1), true⟩])]
    let size := Value.record "Size" [("lines", .integer 1)]
    Inhabits classes (.record "Node")
        (.table [("NAME", .text "a"), ("inner-nodes", .table [("name", .text "b")])])
        (.record "Node" [("name", .text "a"), ("inner_nodes", .list [.record "Node"
          [("name", .text "b"), ("inner_nodes", .list []), ("size", size)]]), ("size", size)]) ∧
      (decodeValue classes .standard [] (.table []) (.record "Node")).result ≠
        .error (.unbuilt .incomplete) := by
  intro classes size
  have distinct : classes.HaveDistinctNames := by
    unfold Classes.HaveDistinctNames
    decide +kernel
  have areComplete : classes.AreComplete := by
    refine ⟨by decide, fun entry member field inside optional => ?_⟩
    simp only [classes, List.mem_cons, List.not_mem_nil, or_false] at member
    rcases member with rfl | rfl
    · simp only [List.mem_cons, List.not_mem_nil, or_false] at inside
      rcases inside with rfl | rfl | rfl
      · cases optional
      · exact ⟨_, .value _⟩
      · exact ⟨size, .record rfl (by decide) (.held (.value _) .nil)⟩
    · cases List.mem_singleton.1 inside
      exact ⟨_, .value _⟩
  refine ⟨(decodeValue_sound distinct .standard [] _ (.record "Node")).1 _ (by cbv), fun failed => ?_⟩
  obtain ⟨reason, same⟩ :=
    (decodeValue_sound distinct .standard [] _ (.record "Node")).2 areComplete rfl rfl _ failed
  cases same

end Values

end XmlSettings.Schema
