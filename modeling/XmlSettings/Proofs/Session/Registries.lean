import XmlSettings.Proofs.Registry
import XmlSettings.Proofs.Session.Change

/-! # Registries over whole runs

What the registries of a session find depends on nothing but the calls that registered something: each name
is served by the first adapter that was given for it (`lookup?_runAll`).  A refused call leaves the session
as it was, and no command touches a registry that it does not name (`first_come`).
-/

namespace XmlSettings.Session

/-! ## Calls -/

/-- A call to register an adapter, or nothing, under a name. -/
structure Call where
  registry : Nat
  name : Text
  adapter? : Option Adapter

/-- The call that a command makes at a registry that there is.  A standard registry starts with one. -/
def Command.call? (session : Session) : Command → Option Call
  | addRegistry true => some ⟨session.registries.length, Registry.standardName, some (.xml none)⟩
  | register number name new =>
    if number < session.registries.length then some ⟨number, name, (new.adapter? session.store).2⟩
    else none
  | _ => none

/-- The calls that commands make one after the other. -/
def calls (session : Session) : List Command → List Call
  | [] => []
  | command :: rest => (command.call? session).toList ++ calls (session.step command).1 rest

/-- The adapter of the first call at a registry that gives one for a name. -/
def firstAdapter? (calls : List Call) (number : Nat) (name : Text) : Option Adapter :=
  calls.findSome? fun call => if call.registry = number ∧ call.name = name then call.adapter? else none

theorem firstAdapter?_append (first second : List Call) (number : Nat) (name : Text) :
    firstAdapter? (first ++ second) number name =
      (firstAdapter? first number name).or (firstAdapter? second number name) :=
  List.findSome?_append

theorem firstAdapter?_singleton (call : Call) (number : Nat) (name : Text) :
    firstAdapter? [call] number name =
      if call.registry = number ∧ call.name = name then call.adapter? else none := by
  rw [firstAdapter?, List.findSome?_singleton]

/-! ## Registering -/

/-- The registry of a number with one adapter more, unless the adapter is refused. -/
def registeredAt (session : Session) (number : Nat) (name : Text) (new : NewAdapter) :
    Except Failure Registry :=
  (registryAt session.registries number).bind fun registry =>
    (registry.register name (new.adapter? session.store).2).mapError .registry

theorem adapter?_eq_none_iff {new : NewAdapter} {store : Store} :
    (new.adapter? store).2 = none ↔ new = .nothing := by
  cases new <;> simp [NewAdapter.adapter?]

section Register

variable {session : Session} {number : Nat} {name : Text} {new : NewAdapter} {e : Failure}
  {registry later : Registry}

theorem registryAt_eq_ok (found : session.registries[number]? = some registry) :
    registryAt session.registries number = .ok registry := by
  rw [registryAt, found]

theorem registeredAt_eq (found : session.registries[number]? = some registry) :
    session.registeredAt number name new =
      (registry.register name (new.adapter? session.store).2).mapError .registry := by
  rw [registeredAt, registryAt_eq_ok found]
  rfl

theorem run_register (session : Session) (number : Nat) (name : Text) (new : NewAdapter) :
    (∃ e, session.registeredAt number name new = .error e ∧
      (register number name new).run.run session = (.error e, session)) ∨
    ∃ later after, session.registeredAt number name new = .ok later ∧
      (register number name new).run.run session = (.ok (), after) ∧
      after.registries = session.registries.set number later := by
  unfold register registeredAt
  have looked := run_registryOf session number
  cases known : registryAt session.registries number with
  | error e =>
    rw [known] at looked
    exact .inl ⟨e, rfl, run_bind_error looked⟩
  | ok registry =>
    rw [known] at looked
    rw [run_bind_ok looked, run_bind_ok (run_get session)]
    simp only [Except.bind]
    cases registry.register name (new.adapter? session.store).2 with
    | error refusal => exact .inl ⟨_, rfl, rfl⟩
    | ok later => exact .inr ⟨later, _, rfl, rfl, rfl⟩

theorem action_register : (Command.register number name new).action =
    (fun _ => .value .nothing) <$> register number name new := (map_eq_pure_bind _ _).symm

theorem result_register : (session.step (.register number name new)).2.result =
    (session.registeredAt number name new).map fun _ => .value .nothing := by
  rw [step_eq, action_register, run_map]
  rcases run_register session.taken number name new with
    ⟨e, refused, run⟩ | ⟨later, after, taken, run, _⟩
  · rw [run, show session.registeredAt number name new = _ from refused]
    rfl
  · rw [run, show session.registeredAt number name new = _ from taken]
    rfl

theorem step_register_of_error (refused : session.registeredAt number name new = .error e) :
    (session.step (.register number name new)).1 = session.taken := by
  rw [step_eq, action_register, run_map]
  rcases run_register session.taken number name new with ⟨_, _, run⟩ | ⟨later, _, taken, _⟩
  · rw [run]
  · cases (show session.registeredAt number name new = _ from taken).symm.trans refused

theorem registries_register_of_ok (registered : session.registeredAt number name new = .ok later) :
    (session.step (.register number name new)).1.registries = session.registries.set number later := by
  rw [step_eq, action_register, run_map]
  rcases run_register session.taken number name new with
    ⟨_, refused, _⟩ | ⟨_, after, taken, run, same⟩
  · cases (show session.registeredAt number name new = _ from refused).symm.trans registered
  · cases (show session.registeredAt number name new = _ from taken).symm.trans registered
    rw [run]
    exact same

end Register

/-! ## Registries after a command -/

/-- The registries that a command leaves. -/
def registriesAfter (session : Session) : Command → List Registry
  | .addRegistry isStandard =>
    session.registries ++ [if isStandard then Registry.standard else Registry.empty]
  | .register number name new =>
    match session.registeredAt number name new with
    | .ok later => session.registries.set number later
    | .error _ => session.registries
  | _ => session.registries

theorem registries_step (session : Session) (command : Command) :
    (session.step command).1.registries = session.registriesAfter command := by
  by_cases touched : .registries ∈ command.parts
  · cases command with
    | addRegistry isStandard => cases isStandard <;> rfl
    | register number name new =>
      rw [registriesAfter]
      split
      next later registered => exact registries_register_of_ok registered
      next e refused => rw [step_register_of_error refused, taken]
    | _ => simp [Command.parts] at touched
  · have kept : (session.step command).1.registries = session.registries :=
      session.kept_step touched (by simp)
    cases command with
    | addRegistry | register => simp [Command.parts] at touched
    | _ => exact kept

section Others

variable {session : Session} {command : Command} {number : Nat}

/-- Only registering at a registry changes it. -/
theorem getElem?_registries_step (known : number < session.registries.length)
    (other : ∀ name new, command ≠ .register number name new) :
    (session.step command).1.registries[number]? = session.registries[number]? := by
  rw [registries_step]
  cases command with
  | addRegistry isStandard => exact List.getElem?_append_left known
  | register elsewhere name new =>
    have apart : elsewhere ≠ number := by
      rintro rfl
      exact other name new rfl
    rw [registriesAfter]
    split
    next later _ => exact List.getElem?_set_ne apart
    next => rfl
  | _ => rfl

end Others

/-! ## What is found -/

/-- The adapter that is found under a name in the registry of a number. -/
def lookup? (registries : List Registry) (number : Nat) (name : Text) : Option Adapter :=
  registries[number]?.bind fun registry => registry.adapters.get? name

theorem lookup?_eq {registries : List Registry} {number : Nat} {registry : Registry}
    (found : registries[number]? = some registry) (name : Text) :
    lookup? registries number name = registry.adapters.get? name := by
  rw [lookup?, found, Option.bind_some]

theorem lookup?_of_le {registries : List Registry} {number : Nat} (beyond : registries.length ≤ number)
    (name : Text) : lookup? registries number name = none := by
  rw [lookup?, List.getElem?_eq_none beyond, Option.bind_none]

theorem adapterAt_eq_ok_iff {registries : List Registry} {number : Nat} {name : Text} {found : Adapter} :
    adapterAt registries number name = .ok found ↔ lookup? registries number name = some found := by
  rw [adapterAt, registryAt, lookup?]
  cases registries[number]? with
  | none => simp [Except.bind]
  | some registry =>
    show (registry.find name).mapError Failure.registry = _ ↔ _
    rw [mapError_eq_ok, Registry.find_eq_ok_iff, Option.bind_some]

section Lookup

variable {session : Session} {command : Command}

theorem lookup?_addRegistry (session : Session) (isStandard : Bool) (number : Nat) (name : Text) :
    lookup? (session.registriesAfter (.addRegistry isStandard)) number name =
      (lookup? session.registries number name).or
        (firstAdapter? ((Command.addRegistry isStandard).call? session).toList number name) := by
  rw [registriesAfter]
  rcases Nat.lt_trichotomy number session.registries.length with old | rfl | beyond
  · have apart : session.registries.length ≠ number := Nat.ne_of_gt old
    rw [lookup?, List.getElem?_append_left old, ← lookup?]
    cases isStandard with
    | false => exact Option.or_none.symm
    | true =>
      rw [Command.call?, Option.toList_some, firstAdapter?_singleton, if_neg fun both => apart both.1,
        Option.or_none]
  · rw [lookup?_of_le (Nat.le_refl _), Option.none_or, lookup?_eq List.getElem?_concat_length]
    cases isStandard with
    | false => rfl
    | true =>
      rw [Command.call?, Option.toList_some, firstAdapter?_singleton]
      simp [Registry.standard, Entries.get?]
  · have apart : session.registries.length ≠ number := Nat.ne_of_lt beyond
    have longer : (session.registries ++ [if isStandard then Registry.standard else Registry.empty]).length ≤
        number := by rwa [List.length_append]
    rw [lookup?_of_le longer, lookup?_of_le (Nat.le_of_lt beyond), Option.none_or]
    cases isStandard with
    | false => rfl
    | true => rw [Command.call?, Option.toList_some, firstAdapter?_singleton, if_neg fun both => apart both.1]

theorem lookup?_register (session : Session) (number : Nat) (name : Text) (new : NewAdapter)
    (wanted : Nat) (other : Text) :
    lookup? (session.registriesAfter (.register number name new)) wanted other =
      (lookup? session.registries wanted other).or
        (firstAdapter? ((Command.register number name new).call? session).toList wanted other) := by
  rw [registriesAfter, Command.call?]
  cases found : session.registries[number]? with
  | none =>
    have unknown : ¬number < session.registries.length := Nat.not_lt.2 (List.getElem?_eq_none_iff.1 found)
    rw [registeredAt, registryAt, found, if_neg unknown]
    exact Option.or_none.symm
  | some registry =>
    have known : number < session.registries.length := (List.getElem?_eq_some_iff.1 found).1
    rw [if_pos known, Option.toList_some, firstAdapter?_singleton, registeredAt_eq found]
    by_cases here : number = wanted
    · subst here
      rw [lookup?_eq found]
      cases given : registry.register name (new.adapter? session.store).2 with
      | error refusal =>
        simp only [Except.mapError, true_and]
        rw [lookup?_eq found]
        rcases Registry.register_eq_error_iff.1 given with ⟨nothing, _⟩ | ⟨_, taken, _⟩
        · rw [nothing, ite_self, Option.or_none]
        · split
          next same =>
            subst same
            rw [Registry.contains, Entries.hasKey, Option.isSome_iff_exists] at taken
            obtain ⟨adapter, held⟩ := taken
            rw [held, Option.some_or]
          next => rw [Option.or_none]
      | ok later =>
        simp only [Except.mapError, true_and]
        rw [lookup?_eq (List.getElem?_set_self known), Registry.get?_of_register given]
    · rw [if_neg fun both => here both.1, Option.or_none]
      split
      next later _ => rw [lookup?, List.getElem?_set_ne here, ← lookup?]
      next => rfl

/-- A command changes what is found only where nothing was found before. -/
theorem lookup?_step (session : Session) (command : Command) (number : Nat) (name : Text) :
    lookup? (session.step command).1.registries number name =
      (lookup? session.registries number name).or
        (firstAdapter? (command.call? session).toList number name) := by
  rw [registries_step]
  cases command with
  | addRegistry isStandard => exact lookup?_addRegistry session isStandard number name
  | register elsewhere other new => exact lookup?_register session elsewhere other new number name
  | _ => exact Option.or_none.symm

/-- What is found after commands was found before, or comes from the first call for it. -/
theorem lookup?_runAll (session : Session) (commands : List Command) (number : Nat) (name : Text) :
    lookup? (session.runAll commands).1.registries number name =
      (lookup? session.registries number name).or (firstAdapter? (session.calls commands) number name) := by
  induction commands generalizing session with
  | nil => exact Option.or_none.symm
  | cons command rest ih =>
    rw [runAll, calls, firstAdapter?_append, ← Option.or_assoc, ← lookup?_step]
    exact ih (session.step command).1

end Lookup

/-! ## Distinct names -/

/-- Whether the names in every registry are distinct. -/
def HaveDistinctNames (registries : List Registry) : Prop :=
  ∀ registry ∈ registries, registry.adapters.keys.Nodup

theorem haveDistinctNames_step {session : Session} (distinct : HaveDistinctNames session.registries)
    (command : Command) : HaveDistinctNames (session.step command).1.registries := by
  rw [registries_step]
  cases command with
  | addRegistry isStandard =>
    refine List.forall_mem_append.2 ⟨distinct, List.forall_mem_singleton.2 ?_⟩
    cases isStandard with
    | false => exact List.nodup_nil
    | true => exact List.nodup_singleton _
  | register number name new =>
    rw [registriesAfter]
    split
    next later registered =>
      intro registry member
      rcases List.mem_or_eq_of_mem_set member with old | rfl
      · exact distinct registry old
      · obtain ⟨before, found, taken⟩ := bind_eq_ok.1 registered
        rw [registryAt] at found
        split at found
        next known =>
          cases found
          exact Registry.nodup_of_register (mapError_eq_ok.1 taken) (distinct _ (List.mem_of_getElem? known))
        next => cases found
    next => exact distinct
  | _ => exact distinct

theorem haveDistinctNames_runAll {session : Session} (distinct : HaveDistinctNames session.registries)
    (commands : List Command) : HaveDistinctNames (session.runAll commands).1.registries := by
  induction commands generalizing session with
  | nil => exact distinct
  | cons command rest ih => exact ih (haveDistinctNames_step distinct command)

/-! ## First come, first served -/

/-- What comes of a call to register something: without an adapter, or for a name that is taken, it is
    refused and changes nothing. -/
structure IsSettledCall (session : Session) (number : Nat) (registry : Registry) (name : Text)
    (new : NewAdapter) : Prop where
  empty : (session.step (.register number name new)).2.result = .error (.registry .noAdapter) ↔
    new = .nothing
  taken : (session.step (.register number name new)).2.result = .error (.registry (.taken name)) ↔
    new ≠ .nothing ∧ registry.contains name = true
  accepted : (session.step (.register number name new)).2.result = .ok (.value .nothing) ↔
    new ≠ .nothing ∧ registry.contains name = false
  /-- Nothing changes but that the observers' records have been taken. -/
  unchanged : ∀ e, (session.step (.register number name new)).2.result = .error e →
    (session.step (.register number name new)).1 = session.taken

/-- Whether a registry serves those first who came first. -/
structure IsFirstCome (session : Session) (calls : List Call) (number : Nat) (registry : Registry) :
    Prop where
  first : ∀ name, registry.find name =
    match firstAdapter? calls number name with
    | some adapter => .ok adapter
    | none => .error (.unknown name)
  forever : ∀ name adapter commands, registry.find name = .ok adapter →
    adapterAt (session.runAll commands).1.registries number name = .ok adapter
  found : ∀ name, registry.contains name = true ↔ registry.find name ≠ .error (.unknown name)
  listed : ∀ name, name ∈ registry.names ↔ registry.contains name = true
  sorted : registry.names.Pairwise (· < ·)
  settled : ∀ name new, session.IsSettledCall number registry name new

section FirstCome

variable {session : Session} {number : Nat} {registry : Registry}
  (known : session.registries[number]? = some registry)

include known

theorem isSettledCall (name : Text) (new : NewAdapter) :
    session.IsSettledCall number registry name new := by
  have result := @result_register session number name new
  rw [registeredAt_eq known] at result
  have refused (refusal : Registry.Refusal) :
      (session.step (.register number name new)).2.result = .error (.registry refusal) ↔
        registry.register name (new.adapter? session.store).2 = .error refusal := by
    rw [result, map_eq_error, mapError_eq_error]
    simp
  refine ⟨?_, ?_, ?_, fun e failed => ?_⟩
  · rw [refused, Registry.register_eq_error_iff, adapter?_eq_none_iff]
    simp
  · rw [refused, Registry.register_eq_error_iff, ne_eq, adapter?_eq_none_iff]
    simp
  · rw [result, map_eq_ok]
    simp only [mapError_eq_ok, and_true, Registry.register_eq_ok_iff, ne_eq,
      ← @adapter?_eq_none_iff new session.store]
    cases (new.adapter? session.store).2 <;> simp
  · rw [result_register, map_eq_error] at failed
    exact step_register_of_error failed

theorem isFirstCome {calls : List Call} (distinct : HaveDistinctNames session.registries)
    (first : ∀ name, lookup? session.registries number name = firstAdapter? calls number name) :
    session.IsFirstCome calls number registry where
  first name := by
    have found := registry.find_eq name
    rw [← lookup?_eq known, first] at found
    exact found
  forever name adapter commands held := by
    rw [Registry.find_eq_ok_iff, ← lookup?_eq known] at held
    rw [adapterAt_eq_ok_iff, lookup?_runAll, held, Option.some_or]
  found _ := Registry.contains_iff_find
  listed _ := Registry.mem_names_iff
  sorted := Registry.pairwise_names (distinct registry (List.mem_of_getElem? known))
  settled := isSettledCall known

end FirstCome

/-- In every session each registry serves under a name the first adapter that was registered for it, and
    only registering at a registry changes it. -/
theorem first_come (loader : Dotenv.Loader) (environment : Environment) (files : FileTree)
    (isWatched : Bool) (commands : List Command) :
    (∀ number registry,
      (reached loader environment files isWatched commands).registries[number]? = some registry →
        (reached loader environment files isWatched commands).IsFirstCome
          ((start loader environment files isWatched).calls commands) number registry) ∧
    ∀ command number, number < (reached loader environment files isWatched commands).registries.length →
      (∀ name new, command ≠ .register number name new) →
        ((reached loader environment files isWatched commands).step command).1.registries[number]? =
          (reached loader environment files isWatched commands).registries[number]? := by
  refine ⟨fun number registry known => ?_, fun command number known other => ?_⟩
  · have none : HaveDistinctNames (start loader environment files isWatched).registries :=
      fun _ member => nomatch member
    refine isFirstCome known (haveDistinctNames_runAll none commands) fun name => ?_
    rw [reached, lookup?_runAll, start, lookup?, List.getElem?_nil, Option.bind_none, Option.none_or]
  · exact getElem?_registries_step known other

/-- A standard registry beside one to which nothing, an adapter and another adapter are given under one
    name. -/
theorem first_come_again :
    let commands : List Command := [.addRegistry true, .addRegistry false, .register 1 "a" .nothing,
      .register 1 "a" (.fixed [("b", .text "1")]), .register 0 "xml" (.xml (some ".env")),
      .register 1 "a" (.xml none)]
    let session := reached Dotenv.load [] (.empty []) false commands
    (∃ registry, session.registries[0]? = some registry ∧ registry.find "xml" = .ok (.xml none)) ∧
      ∃ registry, session.registries[1]? = some registry ∧ registry.find "a" = .ok (.fixed 0) ∧
        (session.step (.register 1 "a" (.xml none))).1 = session.taken := by
  intro commands session
  obtain ⟨each, -⟩ := first_come Dotenv.load [] (.empty []) false commands
  have standard := each 0 _ (show session.registries[0]? = some _ from rfl)
  have other := each 1 _ (show session.registries[1]? = some _ from rfl)
  refine ⟨⟨_, rfl, standard.first "xml"⟩, _, rfl, other.first "a", ?_⟩
  exact (other.settled "a" (.xml none)).unchanged _
    ((other.settled "a" (.xml none)).taken.2 ⟨nofun, rfl⟩)

end XmlSettings.Session
