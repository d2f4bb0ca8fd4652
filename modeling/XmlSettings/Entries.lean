/-! # Ordered entries

Tables keep their entries in the order in which the keys were first written: `put` replaces the
value of a key in place and appends a key that is new.  `get?` finds the value of a key.
-/

namespace XmlSettings

abbrev Entries (κ : Type v) (α : Type u) := List (κ × α)

namespace Entries

variable {κ : Type v} {α : Type u} [DecidableEq κ]

def get? : Entries κ α → κ → Option α
  | [], _ => none
  | (key, value) :: rest, wanted => if key = wanted then some value else get? rest wanted

def hasKey (entries : Entries κ α) (key : κ) : Bool :=
  (get? entries key).isSome

def put (key : κ) (value : α) : Entries κ α → Entries κ α
  | [] => [(key, value)]
  | (old, current) :: rest =>
    if old = key then (old, value) :: rest else (old, current) :: put key value rest

@[simp]
theorem get?_put (entries : Entries κ α) (key : κ) (value : α) (wanted : κ) :
    get? (put key value entries) wanted = if key = wanted then some value else get? entries wanted := by
  induction entries with
  | nil => rfl
  | cons first rest ih =>
    obtain ⟨old, current⟩ := first
    by_cases same : old = key
    · subst same
      by_cases found : old = wanted <;> simp [put, get?, found]
    · by_cases found : old = wanted
      · subst found
        simp [put, get?, same, Ne.symm same]
      · simp [put, get?, same, found, ih]

theorem get?_append (first second : Entries κ α) (wanted : κ) :
    get? (first ++ second) wanted = (get? first wanted).or (get? second wanted) := by
  induction first with
  | nil => rfl
  | cons entry rest ih =>
    obtain ⟨key, value⟩ := entry
    by_cases found : key = wanted
    · simp [get?, found]
    · simp only [List.cons_append, get?, if_neg found]
      exact ih

theorem get?_map {β : Type w} (f : α → β) (entries : Entries κ α) (wanted : κ) :
    get? (entries.map fun (key, value) => (key, f value)) wanted = (get? entries wanted).map f := by
  induction entries with
  | nil => rfl
  | cons entry rest ih =>
    obtain ⟨key, value⟩ := entry
    by_cases found : key = wanted
    · simp [get?, found]
    · simp only [List.map_cons, get?, if_neg found]
      exact ih

theorem mem_put {key : κ} {value : α} {entries : Entries κ α} {entry : κ × α}
    (h : entry ∈ put key value entries) : entry = (key, value) ∨ entry ∈ entries := by
  induction entries with
  | nil => simpa [put] using h
  | cons first rest ih =>
    obtain ⟨old, current⟩ := first
    rw [put] at h
    split at h
    next same => cases h with
      | head => exact .inl (by rw [same])
      | tail _ later => exact .inr (.tail _ later)
    next => cases h with
      | head => exact .inr (.head _)
      | tail _ later => exact (ih later).imp_right (.tail _)

def putAll (entries additions : Entries κ α) : Entries κ α :=
  additions.foldl (fun acc (key, value) => put key value acc) entries

def ofPairs (pairs : List (κ × α)) : Entries κ α :=
  putAll [] pairs

def erase (entries : Entries κ α) (key : κ) : Entries κ α :=
  entries.filter fun entry => entry.1 ≠ key

theorem erase_length_lt {entries : Entries κ α} {key : κ} {value : α}
    (h : get? entries key = some value) : (entries.erase key).length < entries.length := by
  induction entries with
  | nil => simp [get?] at h
  | cons entry rest ih =>
    obtain ⟨first, current⟩ := entry
    by_cases same : first = key
    · have := List.length_filter_le (fun entry : κ × α => decide (entry.1 ≠ key)) rest
      simp only [erase, List.filter_cons, same, ne_eq, not_true_eq_false, decide_false,
        Bool.false_eq_true, if_false, List.length_cons] at *
      omega
    · rw [get?, if_neg same] at h
      have := ih h
      simp only [erase, List.filter_cons, same, ne_eq, not_false_eq_true, decide_true, if_true,
        List.length_cons] at *
      omega

def keys (entries : Entries κ α) : List κ :=
  entries.map (·.1)

/-- Writing a value keeps the keys, and appends the key if it is new. -/
theorem keys_put (entries : Entries κ α) (key : κ) (value : α) :
    keys (put key value entries) = if key ∈ keys entries then keys entries else keys entries ++ [key] := by
  induction entries with
  | nil => rfl
  | cons entry rest ih =>
    obtain ⟨old, current⟩ := entry
    by_cases same : old = key
    · simp [put, keys, same]
    · have other : ¬ key = old := fun eq => same eq.symm
      simp only [keys] at ih
      by_cases known : key ∈ rest.map (·.1) <;> simp_all [put, keys]

end Entries

end XmlSettings
