import XmlSettings.Proofs.Decimal.Integer
import XmlSettings.Proofs.Xml.Decoding
import XmlSettings.Proofs.Xml.Name
import XmlSettings.Xml.Content
import XmlSettings.Xml.Writer

/-! # Reading character data that was written

A text that is written stands for runs of plain characters with references between them.  Reading
it adds the text to the innermost element, with every line end a line feed (`content_text`), unless it
holds a surrogate: no document may refer to one (`content_of_hasSurrogate`).
-/

namespace XmlSettings.Xml

/-! ## Line ends -/

theorem lineFeeds_cons {c : Char} (other : c ≠ '\r') (rest : List Char) :
    lineFeeds (c :: rest) = c :: lineFeeds rest := by
  rw [lineFeeds, if_neg other]
  exact fun _ eq _ => absurd eq other

theorem lineFeeds_of_not_mem {cs : List Char} (noReturn : '\r' ∉ cs) : lineFeeds cs = cs := by
  induction cs with
  | nil => rfl
  | cons c rest ih =>
    rw [List.mem_cons, not_or] at noReturn
    rw [lineFeeds_cons (Ne.symm noReturn.1), ih noReturn.2]

/-- Line ends are made alike piece by piece, unless a line end is cut in two. -/
theorem lineFeeds_append {first second : List Char} (apart : ∀ c ∈ second.head?, c ≠ '\n') :
    lineFeeds (first ++ second) = lineFeeds first ++ lineFeeds second := by
  fun_induction lineFeeds first with
  | case1 => rfl
  | case2 rest ih => simp only [List.cons_append, lineFeeds, ih]
  | case3 c rest single ih =>
    rw [List.cons_append, lineFeeds, ih, List.cons_append]
    rintro behind rfl eq
    cases rest with
    | nil =>
      rw [List.nil_append] at eq
      exact apart '\n' (by simp [eq]) rfl
    | cons d rest =>
      cases eq
      exact single rest rfl rfl

/-! ## One token of content -/

section Steps

variable {doctype : Doctype} {closed : Entries String Entity} {tree : Tree} {s rest : List Char}

theorem content_of_data {text : List Char} (h : Token.next s = .ok (.data text, rest)) :
    content doctype closed .document tree s =
      content doctype closed .document (tree.addText (lineFeeds text)) rest := by
  cases s with
  | nil => simp [Token.next] at h
  | cons c tail =>
    rw [content]
    split
    next failed => simp [h] at failed
    next taken => cases h.symm.trans taken; rfl

theorem content_of_predefined {name : String} {d : Char} (known : Doctype.predefined? name = some d)
    (h : Token.next s = .ok (.reference (.entity name), rest)) :
    content doctype closed .document tree s =
      content doctype closed .document (tree.addText [d]) rest := by
  cases s with
  | nil => simp [Token.next] at h
  | cons c tail =>
    rw [content]
    split
    next failed => simp [h] at failed
    next taken =>
      cases h.symm.trans taken
      simp only [known]

theorem content_of_noCharacter (h : Token.next s = .ok (.reference (.character none), rest)) :
    content doctype closed .document tree s = .error ⟨.invalidCharacterNumber, s⟩ := by
  cases s with
  | nil => simp [Token.next] at h
  | cons c tail =>
    rw [content]
    split
    next failed => simp [h] at failed
    next taken => cases h.symm.trans taken; rfl

theorem content_of_error {failure : Failure} (h : Token.next s = .error failure) (some : s ≠ []) :
    content doctype closed .document tree s = .error failure := by
  cases s with
  | nil => exact absurd rfl some
  | cons c tail =>
    rw [content]
    split
    next failed => cases h.symm.trans failed; rfl
    next taken => simp [h] at taken

end Steps

/-! ## Adding text -/

@[simp] theorem Tree.addText_nil (tree : Tree) : tree.addText [] = tree := by
  obtain ⟨⟨_, _, _, _, _, children⟩, _⟩ := tree
  cases children <;> simp [Tree.addText, Frame.addText]

@[simp] theorem Tree.addText_addText (tree : Tree) (first second : List Char) :
    (tree.addText first).addText second = tree.addText (first ++ second) := by
  obtain ⟨⟨_, _, _, _, _, children⟩, _⟩ := tree
  cases children <;> simp [Tree.addText, Frame.addText]

/-! ## Runs of plain characters -/

/-- Whether a character of a text is written as it is. -/
def isPlain (c : Char) : Bool := c != '&' && c != '<' && c != '>'

theorem isPlain_eq_false_iff {c : Char} : isPlain c = false ↔ c = '&' ∨ c = '<' ∨ c = '>' := by
  simp only [isPlain, Bool.and_eq_false_iff, bne_eq_false_iff_eq, or_assoc]

theorem escapeChar_of_isPlain {c : Char} (plain : isPlain c = true) : Writer.escapeChar c = [c] := by
  simp only [isPlain, Bool.and_eq_true, bne_iff_ne] at plain
  simp [Writer.escapeChar, plain]

theorem flatMap_escapeChar_of_isPlain {run : List Char} (plain : ∀ c ∈ run, isPlain c = true) :
    run.flatMap Writer.escapeChar = run := by
  induction run with
  | nil => rfl
  | cons c run ih =>
    obtain ⟨first, more⟩ := List.forall_mem_cons.1 plain
    rw [List.flatMap_cons, escapeChar_of_isPlain first, ih more]
    rfl

/-- A run of plain characters in front of markup does not go on with the end of a verbatim section. -/
theorem ne_sectionEnd {run rest : List Char} (plain : ∀ c ∈ run, isPlain c = true)
    (ends : rest.head? = some '<' ∨ rest.head? = some '&') (behind : List Char) :
    run ++ rest ≠ ']' :: '>' :: behind := by
  intro eq
  match run, plain, eq with
  | [], _, eq =>
    rw [List.nil_append] at eq
    simp [eq] at ends
  | [_], _, eq =>
    simp only [List.cons_append, List.nil_append, List.cons.injEq] at eq
    simp [eq.2] at ends
  | _ :: d :: _, plain, eq =>
    simp only [List.cons_append, List.cons.injEq] at eq
    have := plain d (by simp)
    simp [eq.2.1, isPlain] at this

theorem splitData_append {run rest : List Char} (plain : ∀ c ∈ run, isPlain c = true)
    (clean : IsClean run) (ends : rest.head? = some '<' ∨ rest.head? = some '&') :
    Token.splitData (run ++ rest) = (run, rest) := by
  induction run with
  | nil =>
    cases rest with
    | nil => simp at ends
    | cons c rest =>
      simp only [List.head?_cons, Option.some.injEq] at ends
      rcases ends with rfl | rfl <;> simp [Token.splitData]
  | cons c run ih =>
    obtain ⟨first, more⟩ := List.forall_mem_cons.1 plain
    obtain ⟨allowed, clean⟩ := IsClean.cons_iff.1 clean
    have behind := ne_sectionEnd more ends
    simp only [isPlain, Bool.and_eq_true, bne_iff_ne] at first
    rw [List.cons_append, Token.splitData]
    · simp [first, allowed, ih more clean]
    · exact fun rest _ eq => behind rest eq

theorem next_plain {c : Char} {run rest : List Char} (plain : ∀ d ∈ c :: run, isPlain d = true)
    (clean : IsClean (c :: run)) (ends : rest.head? = some '<' ∨ rest.head? = some '&') :
    Token.next (c :: run ++ rest) = .ok (.data (c :: run), rest) := by
  obtain ⟨first, more⟩ := List.forall_mem_cons.1 plain
  obtain ⟨allowed, clean⟩ := IsClean.cons_iff.1 clean
  have split := splitData_append more clean ends
  have behind := ne_sectionEnd more ends
  simp only [isPlain, Bool.and_eq_true, bne_iff_ne] at first
  rw [List.cons_append, Token.next]
  · simp [allowed, split]
  all_goals simp_all

/-! ## Written characters -/

/-- A character that is not plain is written as a reference to it. -/
theorem next_escapeChar {c : Char} (escaped : isPlain c = false) (rest : List Char) :
    ∃ name, Doctype.predefined? name = some c ∧
      Token.next (Writer.escapeChar c ++ rest) = .ok (.reference (.entity name), rest) := by
  rcases isPlain_eq_false_iff.1 escaped with rfl | rfl | rfl
  · exact ⟨"amp", rfl, rfl⟩
  · exact ⟨"lt", rfl, rfl⟩
  · exact ⟨"gt", rfl, rfl⟩

theorem head?_escapeChar {c : Char} (escaped : isPlain c = false) (rest : List Char) :
    (Writer.escapeChar c ++ rest).head? = some '&' := by
  rcases isPlain_eq_false_iff.1 escaped with rfl | rfl | rfl <;> rfl

/-- Reading characters that were written, in front of a tag or a reference, adds them to the innermost
    element. -/
theorem content_characters (doctype : Doctype) (closed : Entries String Entity) (tree : Tree)
    (cs : List Char) (clean : IsClean cs) {rest : List Char}
    (ends : rest.head? = some '<' ∨ rest.head? = some '&') :
    content doctype closed .document tree (cs.flatMap Writer.escapeChar ++ rest) =
      content doctype closed .document (tree.addText (lineFeeds cs)) rest := by
  -- One token is taken at a time: a reference, or a run of plain characters.
  match cs, clean with
  | [], _ => simp [lineFeeds]
  | c :: more, clean =>
    cases kind : isPlain c with
    | false =>
      obtain ⟨name, known, next⟩ := next_escapeChar kind (more.flatMap Writer.escapeChar ++ rest)
      have noReturn : c ≠ '\r' := by
        rintro rfl
        simp [isPlain] at kind
      rw [List.flatMap_cons, List.append_assoc, content_of_predefined known next,
        content_characters doctype closed _ more (IsClean.cons_iff.1 clean).2 ends, Tree.addText_addText,
        lineFeeds_cons noReturn]
      rfl
    | true =>
      let run := more.takeWhile isPlain
      let behind := more.dropWhile isPlain
      have parts : c :: more = c :: run ++ behind :=
        congrArg (c :: ·) List.takeWhile_append_dropWhile.symm
      have plain : ∀ d ∈ c :: run, isPlain d = true :=
        List.forall_mem_cons.2 ⟨kind, List.all_eq_true.1 List.all_takeWhile⟩
      have endsRun : (behind.flatMap Writer.escapeChar ++ rest).head? = some '<' ∨
          (behind.flatMap Writer.escapeChar ++ rest).head? = some '&' := by
        cases eq : behind with
        | nil => exact ends
        | cons d later =>
          have escaped : isPlain d = false := by
            have := List.head?_dropWhile_not isPlain more
            simpa [show more.dropWhile isPlain = d :: later from eq] using this
          refine .inr ?_
          rw [List.flatMap_cons, List.append_assoc]
          exact head?_escapeChar escaped _
      have noFeed : ∀ d ∈ behind.head?, d ≠ '\n' := by
        intro d first eq
        have := List.head?_dropWhile_not isPlain more
        rw [show (more.dropWhile isPlain).head? = some d from first, eq] at this
        exact absurd this (by decide)
      rw [parts] at clean ⊢
      obtain ⟨cleanRun, cleanBehind⟩ := IsClean.append_iff.1 clean
      rw [List.flatMap_append, flatMap_escapeChar_of_isPlain plain, List.append_assoc,
        content_of_data (next_plain plain cleanRun endsRun),
        content_characters doctype closed _ behind cleanBehind ends, Tree.addText_addText,
        lineFeeds_append noFeed]
termination_by cs.length
decreasing_by
  · exact Nat.lt_succ_self more.length
  · exact Nat.lt_succ_of_le (List.dropWhile_suffix isPlain).length_le

/-! ## Surrogates -/

theorem hexValue?_of_isDigit {c : Char} (digit : c.isDigit = true) :
    Text.hexValue? c = some (c.toNat - 48) := by
  simp only [Char.isDigit, Bool.and_eq_true, decide_eq_true_eq] at digit
  exact if_pos digit

/-- The value of digits is read in decimal. -/
theorem foldl_hexValue {digits : List Char} (each : ∀ c ∈ digits, c.isDigit = true) (n : Nat) :
    digits.foldl (fun n c => 10 * n + (Text.hexValue? c).getD 0) n =
      (digits.map fun c => c.toNat - 48).foldl (fun value digit => 10 * value + digit) n := by
  induction digits generalizing n with
  | nil => rfl
  | cons c rest ih =>
    obtain ⟨digit, more⟩ := List.forall_mem_cons.1 each
    rw [List.foldl_cons, hexValue?_of_isDigit digit, ih more]
    rfl

/-- No character has the number of a surrogate. -/
theorem characterOfNumber?_surrogate (n : Fin 0x800) :
    Scan.characterOfNumber? (Rune.surrogate n).toNat = none := by
  have invalid : ¬(Rune.surrogate n).toNat.isValidChar := by
    simp only [Rune.toNat, Nat.isValidChar]
    omega
  rw [Scan.characterOfNumber?, dif_neg invalid]

/-- A reference to a surrogate is read, but refers to no character. -/
theorem reference_surrogate (n : Fin 0x800) (s : List Char) :
    Scan.reference (('#' :: Decimal.naturalText (Rune.surrogate n).toNat ++ [';']) ++ s) =
      .ok (.character none, s) := by
  have digits : ∀ c ∈ Decimal.naturalText (Rune.surrogate n).toNat, c.isDigit = true :=
    Decimal.isDigit_of_mem_naturalText
  have value : (Decimal.naturalText (Rune.surrogate n).toNat).foldl
      (fun n c => 10 * n + (Text.hexValue? c).getD 0) 0 = (Rune.surrogate n).toNat :=
    (foldl_hexValue digits 0).trans (Decimal.valueOfChars_naturalText _)
  have some := Decimal.naturalText_ne_nil (Rune.surrogate n).toNat
  generalize Decimal.naturalText (Rune.surrogate n).toNat = shown at digits value some
  obtain ⟨first, more, rfl⟩ := List.exists_cons_of_ne_nil some
  have taken : (first :: more ++ ';' :: s).takeWhile Char.isDigit = first :: more := by
    rw [List.takeWhile_append_of_pos digits, List.takeWhile_cons_of_neg (by decide), List.append_nil]
  have left : (first :: more ++ ';' :: s).dropWhile Char.isDigit = ';' :: s := by
    rw [List.dropWhile_append_of_pos digits, List.dropWhile_cons_of_neg (by decide)]
  have noLetter : first ≠ 'x' := by
    rintro rfl
    exact absurd (digits _ List.mem_cons_self) (by decide)
  rw [List.append_assoc, List.cons_append, Scan.reference]
  · simp only [List.singleton_append, Scan.characterNumber, taken, left, value,
      characterOfNumber?_surrogate, List.isEmpty_cons, Scan.expect, if_true, bind, Except.bind]
    rfl
  · rintro rest same
    exact noLetter (List.cons.inj same).1

theorem next_surrogate (n : Fin 0x800) (s : List Char) :
    Token.next (Writer.reference (Rune.surrogate n).toNat ++ s) =
      .ok (.reference (.character none), s) := by
  show (Scan.reference (('#' :: Decimal.naturalText (Rune.surrogate n).toNat ++ [';']) ++ s)).from _ >>= _ =
    _
  rw [reference_surrogate n]
  rfl

/-! ## Written text -/

variable {doctype : Doctype} {closed : Entries String Entity} {tree : Tree} {cs : List Rune}
  {rest : List Char}

theorem text_map_char (cs : List Char) : Writer.text (cs.map .char) = cs.flatMap Writer.escapeChar := by
  rw [Writer.text, List.flatMap_map]
  rfl

/-- Reading a text that was written, in front of a tag or a reference, adds it to the innermost element
    if it has no surrogates. -/
theorem content_text (clean : IsClean (cs.map (·.toChar))) (plain : cs.any (·.isSurrogate) = false)
    (ends : rest.head? = some '<' ∨ rest.head? = some '&') :
    content doctype closed .document tree (Writer.text cs ++ rest) =
      content doctype closed .document (tree.addText (lineFeeds (cs.map (·.toChar)))) rest := by
  rw [← content_characters _ _ _ _ clean ends, ← text_map_char, Text.map_char_toChar plain]

/-- A text with a surrogate is a fault. -/
theorem content_of_hasSurrogate (clean : IsClean (cs.map (·.toChar)))
    (some : cs.any (·.isSurrogate) = true) (rest : List Char) :
    ∃ failure, content doctype closed .document tree (Writer.text cs ++ rest) = .error failure := by
  let front := cs.takeWhile fun c => !c.isSurrogate
  have parts : front ++ cs.dropWhile (fun c => !c.isSurrogate) = cs := List.takeWhile_append_dropWhile
  have plain : front.any (·.isSurrogate) = false :=
    List.any_eq_false.2 fun c member => by simpa using List.all_eq_true.1 List.all_takeWhile c member
  -- The text in front of the first surrogate is read, and the reference to it is none.
  cases behind : cs.dropWhile fun c => !c.isSurrogate with
  | nil =>
    rw [behind, List.append_nil] at parts
    rw [← parts, plain] at some
    cases some
  | cons first more =>
    have isFirst := List.head?_dropWhile_not (fun c : Rune => !c.isSurrogate) cs
    rw [behind] at isFirst
    cases first with
    | char c => simp at isFirst
    | surrogate n =>
      rw [← parts, behind, List.map_append] at clean
      have written : Writer.text cs ++ rest =
          Writer.text front ++ (Writer.reference (Rune.surrogate n).toNat ++ (Writer.text more ++ rest)) := by
        rw [← parts, behind, Writer.text, List.flatMap_append, List.flatMap_cons, List.append_assoc,
          List.append_assoc]
        rfl
      rw [written, content_text (IsClean.append_iff.1 clean).1 plain (.inr rfl),
        content_of_noCharacter (next_surrogate n _)]
      exact ⟨_, rfl⟩

end XmlSettings.Xml
