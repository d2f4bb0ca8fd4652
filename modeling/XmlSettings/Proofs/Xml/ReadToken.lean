import XmlSettings.Proofs.Outcome
import XmlSettings.Proofs.Xml.Name
import XmlSettings.Proofs.Xml.Decoding

/-! # What tokens hold

Reading lets no forbidden character pass: neither in the data of a token nor in the values of its
attributes, nor as the number of a character.  The names of tags are names to the reader.
-/

namespace XmlSettings.Xml

/-! ## Parts of tokens -/

namespace Scan

variable {s rest : List Char}

theorem isReadableName_of_name [Naming] {name : String} (h : Scan.name s = .ok (name, rest)) :
    isReadableName name = true := by
  cases s with
  | nil => simp [Scan.name] at h
  | cons c more =>
    simp only [Scan.name] at h
    split at h
    next start =>
      simp only [Except.ok.injEq, Prod.mk.injEq] at h
      rw [← h.1]
      refine isReadableName_iff.2 ⟨c, more.takeWhile isNameChar, by simp, start, ?_⟩
      intro d member
      exact List.all_eq_true.1 List.all_takeWhile d member
    next => simp at h

theorem mem_of_name [Naming] {name : String} (h : Scan.name s = .ok (name, rest)) :
    ∀ c ∈ name.toList, c ∈ s := by
  cases s with
  | nil => simp [Scan.name] at h
  | cons c more =>
    simp only [Scan.name] at h
    split at h
    next =>
      simp only [Except.ok.injEq, Prod.mk.injEq] at h
      rw [← h.1, String.toList_ofList]
      intro d member
      rcases List.mem_cons.1 member with rfl | later
      · exact List.mem_cons_self
      · exact List.mem_cons_of_mem _ ((List.takeWhile_prefix _).subset later)
    next => simp at h

theorem isReadableName_of_qualifiedName [Naming] {name : QualifiedName}
    (h : qualifiedName s = .ok (name, rest)) : isReadableName name.localName = true := by
  obtain ⟨⟨first, more⟩, taken, h⟩ := bind_eq_ok.1 h
  simp only at h
  split at h
  next behind =>
    obtain ⟨⟨second, _⟩, qualified, h⟩ := bind_eq_ok.1 h
    cases h
    exact isReadableName_of_name qualified
  next =>
    cases h
    exact isReadableName_of_name taken

theorem isForbidden_of_characterOfNumber? {n : Nat} {c : Char} (h : characterOfNumber? n = some c) :
    isForbidden c = false := by
  by_cases valid : n.isValidChar
  · replace h := (dif_pos valid).symm.trans h
    by_cases forbidden : isForbidden (Char.ofNatAux n valid) = true
    · cases (if_pos forbidden).symm.trans h
    · cases (if_neg forbidden).symm.trans h
      exact (Bool.not_eq_true _).mp forbidden
  · cases (dif_neg valid).symm.trans h

theorem isForbidden_of_characterNumber {base : Nat} {isDigit : Char → Bool} {target : Reference}
    (h : characterNumber base isDigit s = .ok (target, rest)) {c : Char}
    (found : target = .character (some c)) : isForbidden c = false := by
  unfold characterNumber at h
  simp only at h
  split at h
  next => cases h
  next =>
    obtain ⟨behind, _, h⟩ := bind_eq_ok.1 h
    simp only [Except.ok.injEq, Prod.mk.injEq] at h
    exact isForbidden_of_characterOfNumber? (Reference.character.inj (h.1.trans found))

theorem entity_ne_characterNumber {base : Nat} {isDigit : Char → Bool} {name : String}
    (h : characterNumber base isDigit s = .ok (.entity name, rest)) : False := by
  unfold characterNumber at h
  simp only at h
  split at h
  next => cases h
  next =>
    obtain ⟨behind, _, h⟩ := bind_eq_ok.1 h
    simp at h

/-- A reference to a character is to one that documents may hold. -/
theorem isForbidden_of_reference [Naming] {c : Char}
    (h : reference s = .ok (.character (some c), rest)) : isForbidden c = false := by
  unfold reference at h
  split at h
  next => exact isForbidden_of_characterNumber h rfl
  next => exact isForbidden_of_characterNumber h rfl
  next =>
    obtain ⟨⟨entity, more⟩, _, h⟩ := bind_eq_ok.1 h
    obtain ⟨behind, _, h⟩ := bind_eq_ok.1 h
    cases h

/-- The name of an entity that is referred to stands in the reference. -/
theorem mem_of_reference [Naming] {name : String} (h : reference s = .ok (.entity name, rest)) :
    ∀ c ∈ name.toList, c ∈ s := by
  unfold reference at h
  split at h
  next => exact (entity_ne_characterNumber h).elim
  next => exact (entity_ne_characterNumber h).elim
  next =>
    obtain ⟨⟨entity, more⟩, named, h⟩ := bind_eq_ok.1 h
    obtain ⟨behind, _, h⟩ := bind_eq_ok.1 h
    cases h
    exact mem_of_name named

theorem isClean_of_quotedValue [Naming] {quote : Char} {value behind : List Char}
    (h : quotedValue quote s = .ok (value, behind)) : IsClean value := by
  induction s generalizing value with
  | nil => simp [quotedValue] at h
  | cons c rest ih =>
    unfold quotedValue at h
    split at h
    next =>
      cases h
      exact .nil
    next =>
      split at h
      next => cases h
      next allowed =>
        split at h
        next => cases h
        next =>
          split at h
          next => cases h
          next inner =>
            cases h
            rw [not_or, Bool.not_eq_true] at allowed
            exact IsClean.cons_iff.2 ⟨allowed.2, ih inner⟩

theorem isClean_of_oneAttribute [Naming] {a : RawAttribute} (h : oneAttribute s = .ok (a, rest)) :
    IsClean a.value := by
  obtain ⟨⟨name, more⟩, _, h⟩ := bind_eq_ok.1 h
  obtain ⟨inside, _, h⟩ := bind_eq_ok.1 h
  simp only at h
  split at h
  next => cases h
  next =>
    split at h
    next =>
      obtain ⟨⟨value, behind⟩, taken, h⟩ := bind_eq_ok.1 h
      cases h
      exact isClean_of_quotedValue taken
    next => cases h

theorem isClean_of_attributes [Naming] {found : List RawAttribute} {isClosed : Bool}
    (h : attributes s = .ok (found, isClosed, rest)) : ∀ a ∈ found, IsClean a.value := by
  fun_induction attributes s generalizing found isClosed rest with
  | case1 => cases h
  | case2 =>
    cases h
    simp
  | case3 =>
    obtain ⟨behind, _, h⟩ := bind_eq_ok.1 h
    cases h
    simp
  | case4 => cases h
  | case5 => cases h
  | case6 => cases h
  | case7 s c more _ _ _ _ first behind taken _ inner innerClosed innerRest eq ih =>
    cases h
    exact List.forall_mem_cons.2 ⟨isClean_of_oneAttribute taken, ih eq⟩

theorem isRead_of_openTag [Naming] {tag : OpenTag} (h : openTag s = .ok (tag, rest)) :
    isReadableName tag.name.localName = true ∧ ∀ a ∈ tag.attributes, IsClean a.value := by
  obtain ⟨⟨name, more⟩, named, h⟩ := bind_eq_ok.1 h
  obtain ⟨⟨found, isClosed, behind⟩, taken, h⟩ := bind_eq_ok.1 h
  cases h
  exact ⟨isReadableName_of_qualifiedName named, isClean_of_attributes taken⟩

end Scan

/-! ## Tokens -/

namespace Token

/-- What is known of a token that was read. -/
inductive IsRead [Naming] : Token → Prop where
  | opening {tag : OpenTag} (named : isReadableName tag.name.localName = true)
      (clean : ∀ a ∈ tag.attributes, IsClean a.value) : IsRead (.opening tag)
  | closing {name : String} : IsRead (.closing name)
  | data {text : List Char} (clean : IsClean text) : IsRead (.data text)
  | verbatim {text : List Char} (clean : IsClean text) : IsRead (.verbatim text)
  | reference {target : Scan.Reference}
      (allowed : ∀ c, target = .character (some c) → isForbidden c = false) :
      IsRead (.reference target)
  | skipped : IsRead .skipped

theorem isClean_splitData (s : List Char) : IsClean (splitData s).1 := by
  fun_induction splitData s with
  | case1 => exact .nil
  | case2 => exact .nil
  | case3 => exact .nil
  | case4 c rest _ allowed text behind eq ih =>
    rw [eq] at ih
    simp only [not_or, Bool.not_eq_true] at allowed
    exact IsClean.cons_iff.2 ⟨allowed.2.2, ih⟩

theorem isClean_of_verbatimText {s text rest : List Char} (h : verbatimText s = .ok (text, rest)) :
    IsClean text := by
  fun_induction verbatimText s generalizing text rest with
  | case1 => cases h
  | case2 => cases h
  | case3 => cases h
  | case4 => cases h
  | case5 =>
    cases h
    exact .nil
  | case6 => cases h
  | case7 c more _ _ _ _ allowed inner behind eq ih =>
    cases h
    exact IsClean.cons_iff.2 ⟨by simpa using allowed, ih eq⟩
  | case8 => cases h

theorem isRead_of_marked [Naming] {start s rest : List Char} {token : Token}
    (h : marked start s = .ok (token, rest)) : token.IsRead := by
  unfold marked at h
  split at h
  next =>
    obtain ⟨_, _, h⟩ := bind_eq_ok.1 h
    obtain ⟨_, _, h⟩ := bind_eq_ok.1 h
    cases h
    exact .skipped
  next =>
    obtain ⟨_, _, h⟩ := bind_eq_ok.1 h
    obtain ⟨⟨text, behind⟩, taken, h⟩ := bind_eq_ok.1 h
    cases h
    exact .verbatim (isClean_of_verbatimText taken)
  next => cases h

/-- A token holds what documents may hold. -/
theorem isRead_of_next [Naming] {s rest : List Char} {token : Token} (h : next s = .ok (token, rest)) :
    token.IsRead := by
  unfold next at h
  split at h
  next => cases h
  next =>
    obtain ⟨⟨name, behind⟩, _, h⟩ := bind_eq_ok.1 h
    cases h
    exact .closing
  next => exact isRead_of_marked h
  next =>
    obtain ⟨⟨kind, behind⟩, _, h⟩ := bind_eq_ok.1 h
    cases kind with
    | foreign =>
      cases h
      exact .skipped
    | declaration => cases h
  next =>
    obtain ⟨⟨tag, behind⟩, taken, h⟩ := bind_eq_ok.1 h
    cases h
    obtain ⟨named, clean⟩ := Scan.isRead_of_openTag (Scan.from_eq_ok_iff.1 taken)
    exact .opening named clean
  next =>
    obtain ⟨⟨target, behind⟩, taken, h⟩ := bind_eq_ok.1 h
    cases h
    refine .reference fun c found => ?_
    subst found
    exact Scan.isForbidden_of_reference (Scan.from_eq_ok_iff.1 taken)
  next => cases h
  next c more _ _ _ _ _ _ =>
    split at h
    next => cases h
    next allowed =>
      cases h
      exact .data (IsClean.cons_iff.2 ⟨by simpa using allowed, isClean_splitData more⟩)

end Token

end XmlSettings.Xml
