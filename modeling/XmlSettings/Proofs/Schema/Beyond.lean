import XmlSettings.Proofs.Schema.Equations

/-! # Values beyond a scalar type

A scalar is converted or found not to fit, unless it is a number that is beyond the wanted type or too
long to be shown (`decodeScalar_eq_error_iff`).
-/

namespace XmlSettings.Schema

open Decimal (Binary64 digitCount maxDigits)

variable {settings : Settings} {path : Path} {raw : Value} {type : Scalar} {e : Failure}
  {error seen : NumberError}

/-- Whether a failure does not just mean that a value does not fit. -/
def Failure.IsOther (e : Failure) : Prop := ∀ reason, e ≠ .rejected reason

/-- Whether a value of another type can neither be converted to a scalar type nor be shown as one that
    does not fit, and why: it is beyond the numbers that there are, or has too many digits. -/
inductive Scalar.IsBeyond : Scalar → Value → NumberError → Prop where
  | infinite {x : Binary64} (isInfinite : x.isInfinite = true) :
      IsBeyond .integer (.real x) .infiniteAsInteger
  | large {n : Int} (beyond : Binary64.ofInt? n = none) : IsBeyond .real (.integer n) .beyondReals
  | long {type : Scalar} {n : Int} (shown : type = .text ∨ type = .flag)
      (long : maxDigits < digitCount n) : IsBeyond type (.integer n) .unwritable
  | holding {type : Scalar} {className : Text} {fields : List (Text × Value)}
      (hidden : Value.holdsShowable fields = false) : IsBeyond type (.record className fields) .unwritable

theorem refuse_eq_error (other : e.IsOther) (failed : (refuse path raw type).result = .error e) :
    e = .number .unwritable ∧ raw.isShowable = false := by
  unfold refuse at failed
  split at failed
  next =>
    cases failed
    exact absurd rfl (other _)
  next hidden =>
    cases failed
    exact ⟨rfl, Bool.eq_false_iff.2 hidden⟩

/-- Whether there is no way to tell that a value does not stand for a number, and which error is seen
    instead. -/
def CannotTell (raw : Value) (seen : NumberError) : NumberError → Prop
  | .infiniteAsInteger => seen = .infiniteAsInteger
  | .beyondReals => seen = .beyondReals
  | _ => raw.isShowable = false ∧ seen = .unwritable

theorem convertNumber_eq_error {α : Type} {wrap : α → Value} {converted : Except NumberError α}
    (other : e.IsOther) (failed : (convertNumber path raw type wrap converted).result = .error e) :
    ∃ error seen, e = .number seen ∧ converted = .error error ∧ CannotTell raw seen error := by
  unfold convertNumber at failed
  split at failed
  next => cases failed
  next =>
    cases failed
    exact ⟨_, _, rfl, rfl, rfl⟩
  next =>
    cases failed
    exact ⟨_, _, rfl, rfl, rfl⟩
  next error isFinite isReal =>
    obtain ⟨same, hidden⟩ := refuse_eq_error other failed
    refine ⟨error, _, same, rfl, ?_⟩
    cases error with
    | infiniteAsInteger => exact absurd rfl isFinite
    | beyondReals => exact absurd rfl isReal
    | _ => exact ⟨hidden, rfl⟩

theorem isBeyond_of_toInteger (failed : raw.toInteger = .error error)
    (cannotTell : CannotTell raw seen error) (single : isComposite raw = false) :
    Scalar.IsBeyond .integer raw seen := by
  cases raw with
  | real x =>
    rw [Value.toInteger, Binary64.toInteger] at failed
    split at failed
    next =>
      cases failed
      cases cannotTell.1
    next =>
      split at failed
      next isInfinite =>
        cases failed
        cases cannotTell
        exact .infinite isInfinite
      next => cases failed
  | text s =>
    rw [Value.toInteger, integerOfText] at failed
    split at failed
    next => cases failed
    all_goals
      cases failed
      cases cannotTell.1
  | record className fields =>
    cases failed
    obtain ⟨hidden, rfl⟩ := cannotTell
    exact .holding hidden
  | nothing =>
    cases failed
    cases cannotTell.1
  | list | table => cases single
  | flag | integer => cases failed

theorem isBeyond_of_toReal (failed : raw.toReal = .error error)
    (cannotTell : CannotTell raw seen error) (single : isComposite raw = false) :
    Scalar.IsBeyond .real raw seen := by
  cases raw with
  | integer n =>
    rw [Value.toReal] at failed
    split at failed
    next => cases failed
    next beyond =>
      cases failed
      cases cannotTell
      exact .large beyond
  | text s =>
    rw [Value.toReal, realOfText] at failed
    split at failed
    next => cases failed
    next =>
      cases failed
      cases cannotTell.1
  | record className fields =>
    cases failed
    obtain ⟨hidden, rfl⟩ := cannotTell
    exact .holding hidden
  | nothing =>
    cases failed
    cases cannotTell.1
  | list | table => cases single
  | flag | real => cases failed

theorem isBeyond_of_hidden (hidden : raw.isShowable = false) (single : isComposite raw = false)
    (shown : type = .text ∨ type = .flag) : type.IsBeyond raw .unwritable := by
  cases raw with
  | integer n => exact .long shown (by simpa [Value.isShowable] using hidden)
  | record className fields => exact .holding hidden
  | list | table => cases single
  | _ => cases hidden

theorem decodeScalar_of_isBeyond (converts : settings.convert = true)
    (beyond : type.IsBeyond raw seen) (path : Path) :
    decodeScalar settings path raw type = Run.fail (.number seen) := by
  cases beyond with
  | @infinite x isInfinite =>
    have isNumber : x.isNaN = false := by
      simp only [Binary64.isInfinite, beq_iff_eq] at isInfinite
      simp [Binary64.isNaN, isInfinite]
    simp [decodeScalar, Scalar.accepts, isComposite, converts, convertNumber, Value.toInteger,
      Binary64.toInteger, isNumber, isInfinite]
  | large beyond =>
    simp [decodeScalar, Scalar.accepts, isComposite, converts, convertNumber, Value.toReal, beyond]
  | @long _ n shown long =>
    have hidden : Value.isShowable (.integer n) = false := by simpa [Value.isShowable] using long
    rcases shown with rfl | rfl
    · simp [decodeScalar, Scalar.accepts, isComposite, converts, Value.written, hidden]
    · have other : n ≠ 1 ∧ n ≠ 0 := by
        constructor <;>
        · rintro rfl
          rw [Decimal.digitCount_of_lt (by decide)] at long
          exact absurd long (by decide)
      simp [decodeScalar, Scalar.accepts, isComposite, converts, refuse, Value.flag?, hidden, other]
  | holding hidden =>
    cases type <;> simp [decodeScalar, Scalar.accepts, isComposite, converts, convertNumber, refuse,
      Value.toReal, Value.toInteger, Value.flag?, Value.written, Value.isShowable, hidden]

theorem decodeScalar_eq_error_iff (other : e.IsOther) :
    (decodeScalar settings path raw type).result = .error e ↔
      ∃ seen, e = .number seen ∧ settings.convert = true ∧ type.IsBeyond raw seen := by
  constructor
  · intro failed
    unfold decodeScalar at failed
    split at failed
    next => cases failed
    next =>
      split at failed
      next =>
        cases failed
        exact absurd rfl (other _)
      next converts =>
        simp only [Bool.or_eq_true, Bool.not_eq_true', not_or, Bool.not_eq_false, Bool.not_eq_true] at converts
        obtain ⟨single, converts⟩ := converts
        cases type with
        | text =>
          simp only at failed
          split at failed
          next => cases failed
          next error unwritten =>
            cases failed
            obtain ⟨hidden, rfl⟩ := Value.written_eq_error_iff.1 unwritten
            exact ⟨_, rfl, converts, isBeyond_of_hidden hidden single (.inl rfl)⟩
        | flag =>
          simp only at failed
          split at failed
          next => cases failed
          next =>
            obtain ⟨same, hidden⟩ := refuse_eq_error other failed
            exact ⟨_, same, converts, isBeyond_of_hidden hidden single (.inr rfl)⟩
        | integer =>
          obtain ⟨_, _, same, none, cannotTell⟩ := convertNumber_eq_error other failed
          exact ⟨_, same, converts, isBeyond_of_toInteger none cannotTell single⟩
        | real =>
          obtain ⟨_, _, same, none, cannotTell⟩ := convertNumber_eq_error other failed
          exact ⟨_, same, converts, isBeyond_of_toReal none cannotTell single⟩
  · rintro ⟨_, rfl, converts, beyond⟩
    rw [decodeScalar_of_isBeyond converts beyond path]
    rfl

end XmlSettings.Schema
