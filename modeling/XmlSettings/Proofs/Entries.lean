import XmlSettings.Entries

/-! # Entries with distinct keys

A key that is new goes to the end, and a key that is known keeps its place.  So entries with distinct
keys are what comes of writing them one after the other.
-/

namespace XmlSettings.Entries

variable {κ : Type v} {α : Type u} {entries : Entries κ α} {key : κ} {value : α}

@[simp] theorem keys_nil : keys ([] : Entries κ α) = [] := rfl

@[simp] theorem keys_cons (entry : κ × α) (rest : Entries κ α) :
    keys (entry :: rest) = entry.1 :: keys rest := rfl

@[simp] theorem keys_append (first second : Entries κ α) :
    keys (first ++ second) = keys first ++ keys second := List.map_append

theorem forall_mem_cons {P : κ → α → Prop} :
    (∀ name held, (name, held) ∈ (key, value) :: entries → P name held) ↔
      P key value ∧ ∀ name held, (name, held) ∈ entries → P name held := by
  simp only [List.mem_cons, Prod.mk.injEq]
  constructor
  · exact fun every => ⟨every key value (.inl ⟨rfl, rfl⟩), fun name held member => every name held (.inr member)⟩
  · rintro ⟨here, later⟩ name held (⟨rfl, rfl⟩ | member)
    · exact here
    · exact later name held member

variable [DecidableEq κ]

theorem get?_eq_none_iff : get? entries key = none ↔ key ∉ keys entries := by
  induction entries with
  | nil => simp [get?]
  | cons entry rest ih =>
    obtain ⟨old, current⟩ := entry
    by_cases same : old = key
    · simp [get?, same]
    · simp only [get?, if_neg same, ih, keys_cons, List.mem_cons, not_or]
      exact ⟨fun later => ⟨fun eq => same eq.symm, later⟩, fun both => both.2⟩

/-- Mapping the values commutes with writing one. -/
theorem map_put {β : Type v} (f : α → β) (entries : Entries κ α) (key : κ) (value : α) :
    (put key value entries).map (fun (key, value) => (key, f value)) =
      put key (f value) (entries.map fun (key, value) => (key, f value)) := by
  induction entries with
  | nil => rfl
  | cons entry rest ih =>
    obtain ⟨old, current⟩ := entry
    by_cases same : old = key
    · simp [put, same]
    · simp only [put, if_neg same, List.map_cons, ih]

theorem hasKey_iff : hasKey entries key = true ↔ key ∈ keys entries := by
  rw [hasKey, Option.isSome_iff_ne_none, ne_eq, get?_eq_none_iff, Decidable.not_not]

theorem get?_of_mem (distinct : (keys entries).Nodup) (member : (key, value) ∈ entries) :
    get? entries key = some value := by
  induction entries with
  | nil => cases member
  | cons entry rest ih =>
    obtain ⟨old, current⟩ := entry
    rw [keys_cons, List.nodup_cons] at distinct
    cases member with
    | head => simp [get?]
    | tail _ later =>
      have other : old ≠ key := by
        rintro rfl
        exact distinct.1 (List.mem_map.2 ⟨_, later, rfl⟩)
      rw [get?, if_neg other]
      exact ih distinct.2 later

theorem mem_of_get? (found : get? entries key = some value) : (key, value) ∈ entries := by
  induction entries with
  | nil => simp [get?] at found
  | cons entry rest ih =>
    obtain ⟨old, current⟩ := entry
    by_cases same : old = key
    · simp only [get?, if_pos same, Option.some.injEq] at found
      rw [same, found]
      exact List.mem_cons_self
    · rw [get?, if_neg same] at found
      exact List.mem_cons_of_mem _ (ih found)

/-- Erasing a key leaves the others alone. -/
theorem get?_erase (entries : Entries κ α) (key wanted : κ) :
    get? (entries.erase key) wanted = if wanted = key then none else get? entries wanted := by
  induction entries with
  | nil => simp [erase, get?]
  | cons entry rest ih =>
    obtain ⟨old, current⟩ := entry
    by_cases dropped : old = key
    · have same : erase ((old, current) :: rest) key = erase rest key :=
        List.filter_cons_of_neg (by simp [dropped])
      rw [same, ih]
      by_cases found : wanted = key
      · rw [if_pos found, if_pos found]
      · rw [if_neg found, if_neg found, get?, if_neg (dropped ▸ Ne.symm found)]
    · have same : erase ((old, current) :: rest) key = (old, current) :: erase rest key :=
        List.filter_cons_of_pos (by simp [dropped])
      rw [same, get?, get?, ih]
      by_cases found : old = wanted
      · rw [if_pos found, if_neg (found ▸ dropped), if_pos found]
      · rw [if_neg found, if_neg found]

theorem put_of_not_mem (new : key ∉ keys entries) : put key value entries = entries ++ [(key, value)] := by
  induction entries with
  | nil => rfl
  | cons entry rest ih =>
    obtain ⟨old, current⟩ := entry
    simp only [keys_cons, List.mem_cons, not_or] at new
    rw [put, if_neg fun same => new.1 same.symm, ih new.2]
    rfl

/-- The last entry is written anew. -/
theorem put_last (new : key ∉ keys entries) (old : α) :
    put key value (entries ++ [(key, old)]) = entries ++ [(key, value)] := by
  induction entries with
  | nil => simp [put]
  | cons entry rest ih =>
    obtain ⟨first, current⟩ := entry
    simp only [keys_cons, List.mem_cons, not_or] at new
    rw [List.cons_append, put, if_neg fun same => new.1 same.symm, ih new.2]
    rfl

theorem nodup_keys_put (distinct : (keys entries).Nodup) : (keys (put key value entries)).Nodup := by
  rw [keys_put]
  split
  next => exact distinct
  next new =>
    refine List.nodup_append.2 ⟨distinct, by simp, ?_⟩
    intro a first b second same
    rw [List.mem_singleton.1 second] at same
    exact new (same ▸ first)

theorem mem_keys_put {other : κ} :
    other ∈ keys (put key value entries) ↔ other = key ∨ other ∈ keys entries := by
  rw [keys_put]
  split
  next known =>
    constructor
    · exact .inr
    · rintro (rfl | old)
      · exact known
      · exact old
  next => simp [or_comm]

theorem mem_keys_putAll {additions : Entries κ α} {other : κ} :
    other ∈ keys (putAll entries additions) ↔ other ∈ keys entries ∨ other ∈ keys additions := by
  induction additions generalizing entries with
  | nil => simp [putAll]
  | cons addition rest ih =>
    obtain ⟨first, current⟩ := addition
    have moved : putAll entries ((first, current) :: rest) = putAll (put first current entries) rest := rfl
    rw [moved, ih, mem_keys_put, keys_cons, List.mem_cons]
    constructor
    · rintro ((new | old) | later)
      · exact .inr (.inl new)
      · exact .inl old
      · exact .inr (.inr later)
    · rintro (old | new | later)
      · exact .inl (.inr old)
      · exact .inl (.inl new)
      · exact .inr later

/-- Of several values that are written under a key the last one is found. -/
theorem get?_putAll (entries additions : Entries κ α) (wanted : κ) :
    get? (putAll entries additions) wanted = get? (additions.reverse ++ entries) wanted := by
  induction additions generalizing entries with
  | nil => rfl
  | cons addition rest ih =>
    obtain ⟨first, current⟩ := addition
    have moved : putAll entries ((first, current) :: rest) = putAll (put first current entries) rest := rfl
    simp [moved, ih, get?_append, get?]

theorem mem_of_mem_putAll {additions : Entries κ α} {entry : κ × α}
    (member : entry ∈ putAll entries additions) : entry ∈ entries ∨ entry ∈ additions := by
  induction additions generalizing entries with
  | nil => exact .inl member
  | cons addition rest ih =>
    rcases ih member with early | late
    · rcases mem_put early with rfl | old
      · exact .inr List.mem_cons_self
      · exact .inl old
    · exact .inr (List.mem_cons_of_mem _ late)

theorem nodup_keys_putAll {additions : Entries κ α} (distinct : (keys entries).Nodup) :
    (keys (putAll entries additions)).Nodup := by
  induction additions generalizing entries with
  | nil => exact distinct
  | cons addition rest ih => exact ih (nodup_keys_put distinct)

theorem putAll_of_nodup {entries additions : Entries κ α} (distinct : (keys (entries ++ additions)).Nodup) :
    putAll entries additions = entries ++ additions := by
  induction additions generalizing entries with
  | nil => simp [putAll]
  | cons entry rest ih =>
    obtain ⟨first, current⟩ := entry
    have new : first ∉ keys entries := by
      intro known
      rw [keys_append, List.nodup_append] at distinct
      exact distinct.2.2 _ known _ List.mem_cons_self rfl
    have moved : entries ++ (first, current) :: rest = entries ++ [(first, current)] ++ rest := by simp
    rw [moved] at distinct ⊢
    rw [← ih distinct, ← put_of_not_mem new]
    rfl

/-- Entries with distinct keys are what comes of writing them. -/
theorem ofPairs_of_nodup (distinct : (keys entries).Nodup) : ofPairs entries = entries :=
  putAll_of_nodup distinct

theorem get?_reverse_eq_none_iff : get? entries.reverse key = none ↔ key ∉ keys entries := by
  rw [get?_eq_none_iff, keys, List.map_reverse, List.mem_reverse]
  exact Iff.rfl

theorem get?_ofPairs (pairs : List (κ × α)) (wanted : κ) :
    get? (ofPairs pairs) wanted = get? pairs.reverse wanted := by
  rw [ofPairs, get?_putAll, List.append_nil]

theorem get?_reverse (distinct : (keys entries).Nodup) (wanted : κ) :
    get? entries.reverse wanted = get? entries wanted := by
  rw [← get?_ofPairs, ofPairs_of_nodup distinct]

theorem nodup_keys_ofPairs (pairs : List (κ × α)) : (keys (ofPairs pairs)).Nodup :=
  nodup_keys_putAll List.nodup_nil

theorem get?_reverse_ofPairs (pairs : List (κ × α)) (wanted : κ) :
    get? (ofPairs pairs).reverse wanted = get? pairs.reverse wanted := by
  rw [get?_reverse (nodup_keys_ofPairs pairs), get?_ofPairs]

theorem mem_keys_ofPairs {pairs : List (κ × α)} : key ∈ keys (ofPairs pairs) ↔ key ∈ keys pairs := by
  simp [ofPairs, mem_keys_putAll]

/-! ## Writing under known keys -/

theorem keys_putAll_of_known {additions : Entries κ α} (known : ∀ key ∈ keys additions, key ∈ keys entries) :
    keys (putAll entries additions) = keys entries := by
  induction additions generalizing entries with
  | nil => rfl
  | cons addition rest ih =>
    obtain ⟨first, current⟩ := addition
    obtain ⟨here, later⟩ := List.forall_mem_cons.1 known
    have same : keys (put first current entries) = keys entries := by rw [keys_put, if_pos here]
    exact (ih (same ▸ later)).trans same

theorem put_of_mem (distinct : (keys entries).Nodup) (known : key ∈ keys entries) :
    put key value entries =
      entries.map fun entry => (entry.1, if entry.1 = key then value else entry.2) := by
  induction entries with
  | nil => cases known
  | cons entry rest ih =>
    obtain ⟨old, current⟩ := entry
    rw [keys_cons, List.nodup_cons] at distinct
    rw [put, List.map_cons]
    split
    next same =>
      subst same
      have others : rest.map (fun entry => (entry.1, if entry.1 = old then value else entry.2)) = rest := by
        refine (List.map_congr_left fun entry member => ?_).trans (List.map_id rest)
        have other : entry.1 ≠ old := fun same => distinct.1 (List.mem_map.2 ⟨entry, member, same⟩)
        simp [other]
      rw [others]
    next other =>
      have later := (List.mem_cons.1 known).resolve_left (Ne.symm other)
      rw [ih distinct.2 later]

/-- Writing under known keys sets the values of these keys. -/
theorem putAll_of_known {additions : Entries κ α} (distinct : (keys entries).Nodup)
    (known : ∀ key ∈ keys additions, key ∈ keys entries) : putAll entries additions =
      entries.map fun entry => (entry.1, (get? additions.reverse entry.1).getD entry.2) := by
  induction additions generalizing entries with
  | nil => exact (List.map_id entries).symm
  | cons addition rest ih =>
    obtain ⟨first, current⟩ := addition
    obtain ⟨here, later⟩ := List.forall_mem_cons.1 known
    have moved : putAll entries ((first, current) :: rest) = putAll (put first current entries) rest := rfl
    have same : keys (put first current entries) = keys entries := by rw [keys_put, if_pos here]
    rw [moved, ih (nodup_keys_put distinct) (same ▸ later), put_of_mem distinct here, List.map_map]
    refine List.map_congr_left fun entry _ => ?_
    by_cases written : entry.1 = first
    · simp [written, get?_append, get?]
    · simp [written, Ne.symm written, get?_append, get?]

end XmlSettings.Entries
