import XmlSettings.Proofs.Schema.Beyond

/-! # Outcomes that agree

Two runs of the decoder are compared step by step.  They agree if both give values that are alike, or
both find that a value does not fit; where one of them fails in another way, nothing is asked of the
other one.
-/

namespace XmlSettings.Schema

/-- Whether two outcomes are alike, unless one of them is a failure that does not just mean that a value
    does not fit. -/
inductive Agree {α : Type} (same : α → α → Prop) : Except Failure α → Except Failure α → Prop where
  | given {a b : α} (alike : same a b) : Agree same (.ok a) (.ok b)
  | rejected (first second : DecodeError) :
      Agree same (.error (.rejected first)) (.error (.rejected second))
  | left {e : Failure} {second : Except Failure α} (other : e.IsOther) : Agree same (.error e) second
  | right {first : Except Failure α} {e : Failure} (other : e.IsOther) : Agree same first (.error e)

namespace Agree

variable {α β : Type} {same : α → α → Prop} {first second : Except Failure α}

/-- Two outcomes agree unless one value fits and the other does not. -/
theorem intro (given : ∀ a b, first = .ok a → second = .ok b → same a b)
    (left : ∀ reason b, first = .error (.rejected reason) → second ≠ .ok b)
    (right : ∀ a reason, first = .ok a → second ≠ .error (.rejected reason)) : Agree same first second := by
  have settled (e : Failure) : e.IsOther ∨ ∃ reason, e = .rejected reason := by
    cases e with
    | rejected reason => exact .inr ⟨reason, rfl⟩
    | _ => exact .inl nofun
  cases first with
  | error e =>
    rcases settled e with other | ⟨reason, rfl⟩
    · exact .left other
    · cases second with
      | ok b => exact absurd rfl (left reason b rfl)
      | error d =>
        rcases settled d with other | ⟨again, rfl⟩
        · exact .right other
        · exact .rejected reason again
  | ok a =>
    cases second with
    | ok b => exact .given (given a b rfl rfl)
    | error e =>
      rcases settled e with other | ⟨reason, rfl⟩
      · exact .right other
      · exact absurd rfl (right a reason rfl)

theorem alike {a b : α} (agree : Agree same (.ok a) (.ok b)) : same a b := by
  cases agree with
  | given alike => exact alike

theorem not_given {reason : DecodeError} {b : α} :
    ¬Agree same (.error (.rejected reason)) (.ok b) := by
  intro agree
  cases agree with
  | left other => exact other reason rfl

theorem not_rejected {a : α} {reason : DecodeError} :
    ¬Agree same (.ok a) (.error (.rejected reason)) := by
  intro agree
  cases agree with
  | right other => exact other reason rfl

theorem mono {more : α → α → Prop} (agree : Agree same first second)
    (weaker : ∀ a b, same a b → more a b) : Agree more first second := by
  cases agree with
  | given alike => exact .given (weaker _ _ alike)
  | rejected => exact .rejected _ _
  | left other => exact .left other
  | right other => exact .right other

theorem bind {run run' : Run α} {next next' : α → Run β} {after : β → β → Prop}
    (agree : Agree same run.result run'.result)
    (rest : ∀ a b, same a b → Agree after (next a).result (next' b).result) :
    Agree after (run >>= next).result (run' >>= next').result := by
  rw [Run.result_bind, Run.result_bind]
  obtain ⟨_, result⟩ := run
  obtain ⟨_, result'⟩ := run'
  cases agree with
  | given alike => exact rest _ _ alike
  | rejected => exact .rejected _ _
  | left other => exact .left other
  | right other => exact .right other

theorem map {run run' : Run α} {f g : α → β} {after : β → β → Prop}
    (agree : Agree same run.result run'.result) (keeps : ∀ a b, same a b → after (f a) (g b)) :
    Agree after (run >>= fun a => pure (f a)).result (run' >>= fun a => pure (g a)).result :=
  agree.bind fun a b alike => .given (keeps a b alike)

theorem orElseRejected {run run' : Run α} {next next' : DecodeError → Run α}
    (agree : Agree same run.result run'.result)
    (otherwise : ∀ d e, Agree same (next d).result (next' e).result) :
    Agree same (run.orElseRejected next).result (run'.orElseRejected next').result := by
  obtain ⟨_, result⟩ := run
  obtain ⟨_, result'⟩ := run'
  cases agree with
  | given alike => exact .given alike
  | rejected d e => exact otherwise d e
  | @left e _ other =>
    cases e with
    | rejected reason => exact absurd rfl (other reason)
    | _ => exact .left other
  | @right _ e other =>
    cases e with
    | rejected reason => exact absurd rfl (other reason)
    | _ => exact .right other

end Agree

end XmlSettings.Schema
