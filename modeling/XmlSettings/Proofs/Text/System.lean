import XmlSettings.Text.System

/-! # Texts that have come back

Bytes come back character by character, with an escape for each byte that starts none
(`received_char`, `received_escape`).  So what has come back goes out as the same bytes
(`sent?_received`), and texts come back piece by piece (`systemForm?_append_separator`).
-/

namespace XmlSettings.Text

/-! ## Reading bytes -/

/-- The code points that bytes come back as. -/
def received (bytes : List UInt8) : List Rune := ofSystem bytes.toByteArray 0

/-- Whether bytes start with a character. -/
def StartsWithChar (bytes : List UInt8) : Prop := ∃ c rest, bytes = String.utf8EncodeChar c ++ rest

variable {before : ByteArray} {bytes rest : List UInt8} {byte : UInt8} {c : Char}

theorem decode_behind (before : ByteArray) (bytes : List UInt8) :
    (before ++ bytes.toByteArray).utf8DecodeChar? before.size = bytes.toByteArray.utf8DecodeChar? 0 := by
  rw [ByteArray.utf8DecodeChar?_eq_utf8DecodeChar?_extract,
    ByteArray.extract_append_eq_right rfl ByteArray.size_append]

theorem decode_char (c : Char) (rest : List UInt8) :
    (String.utf8EncodeChar c ++ rest).toByteArray.utf8DecodeChar? 0 = some c := by
  rw [List.toByteArray_append]
  exact ByteArray.utf8DecodeChar?_utf8EncodeChar_append

theorem decode_eq_none (other : ¬StartsWithChar bytes) : bytes.toByteArray.utf8DecodeChar? 0 = none := by
  cases found : bytes.toByteArray.utf8DecodeChar? 0 with
  | none => rfl
  | some c =>
    obtain ⟨behind, split⟩ := ByteArray.exists_of_utf8DecodeChar?_eq_some found
    refine absurd ⟨c, behind.data.toList, ?_⟩ other
    have lists := congrArg (fun b => b.data.toList) split
    simpa using lists

theorem ofSystem_char (before : ByteArray) (c : Char) (rest : List UInt8) :
    ofSystem (before ++ (String.utf8EncodeChar c ++ rest).toByteArray) before.size =
      .char c :: ofSystem (before ++ (String.utf8EncodeChar c).toByteArray ++ rest.toByteArray)
        (before ++ (String.utf8EncodeChar c).toByteArray).size := by
  have read := (decode_behind before _).trans (decode_char c rest)
  have inside := ByteArray.le_size_of_utf8DecodeChar?_eq_some read
  have positive := c.utf8Size_pos
  rw [ofSystem, dif_pos (by omega)]
  split
  next d found =>
    cases read.symm.trans found
    have size : (before ++ (String.utf8EncodeChar c).toByteArray).size = before.size + c.utf8Size := by
      simp [ByteArray.size_append]
    rw [size, ByteArray.append_assoc, ← List.toByteArray_append]
  next missing => cases read.symm.trans missing

theorem ofSystem_escape (before : ByteArray) (other : ¬StartsWithChar (byte :: rest)) :
    ofSystem (before ++ (byte :: rest).toByteArray) before.size =
      escape byte :: ofSystem (before ++ [byte].toByteArray ++ rest.toByteArray)
        (before ++ [byte].toByteArray).size := by
  have read := (decode_behind before _).trans (decode_eq_none other)
  have inside : before.size < (before ++ (byte :: rest).toByteArray).size := by
    simp [ByteArray.size_append]
  rw [ofSystem, dif_pos inside]
  split
  next d found => simp [read] at found
  next =>
    have size : (before ++ [byte].toByteArray).size = before.size + 1 := by simp
    have here : (before ++ (byte :: rest).toByteArray)[before.size] = byte := by
      rw [ByteArray.getElem_append_right (Nat.le_refl _)]
      simp
    rw [size, here, ByteArray.append_assoc, ← List.toByteArray_append, List.singleton_append]

/-- Bytes start with a character, or with a byte that starts none. -/
@[elab_as_elim]
theorem bytesInduction {motive : List UInt8 → Prop} (nil : motive [])
    (char : ∀ c rest, motive rest → motive (String.utf8EncodeChar c ++ rest))
    (escape : ∀ byte rest, ¬StartsWithChar (byte :: rest) → motive rest → motive (byte :: rest))
    (bytes : List UInt8) : motive bytes := by
  induction size : bytes.length using Nat.strongRecOn generalizing bytes with
  | ind size ih =>
    subst size
    by_cases starts : StartsWithChar bytes
    · obtain ⟨c, rest, rfl⟩ := starts
      have positive := c.utf8Size_pos
      exact char c rest (ih _ (by simp; omega) rest rfl)
    · cases bytes with
      | nil => exact nil
      | cons byte rest => exact escape byte rest starts (ih _ (by simp) rest rfl)

/-- What is read does not depend on what the reader is past. -/
theorem ofSystem_behind (bytes : List UInt8) (before : ByteArray) :
    ofSystem (before ++ bytes.toByteArray) before.size = received bytes := by
  induction bytes using bytesInduction generalizing before with
  | nil => simp [received, ofSystem]
  | char c rest ih =>
    have first := ofSystem_char ByteArray.empty c rest
    rw [ByteArray.empty_append, ByteArray.size_empty] at first
    rw [ofSystem_char, received, first, ih, ih]
  | escape byte rest other ih =>
    have first := ofSystem_escape ByteArray.empty other
    rw [ByteArray.empty_append, ByteArray.size_empty] at first
    rw [ofSystem_escape before other, received, first, ih, ih]

@[simp] theorem received_nil : received [] = [] := by simp [received, ofSystem]

theorem received_char (c : Char) (rest : List UInt8) :
    received (String.utf8EncodeChar c ++ rest) = .char c :: received rest := by
  have first := ofSystem_char ByteArray.empty c rest
  rw [ofSystem_behind, ofSystem_behind] at first
  exact first

theorem received_escape (other : ¬StartsWithChar (byte :: rest)) :
    received (byte :: rest) = escape byte :: received rest := by
  have first := ofSystem_escape ByteArray.empty other
  rw [ofSystem_behind, ofSystem_behind] at first
  exact first

/-! ## Sending bytes -/

/-- The bytes that code points go out as. -/
def sent? (cs : List Rune) : Option (List UInt8) := (cs.mapM systemBytes?).map List.flatten

theorem systemForm?_eq (t : Text) :
    t.systemForm? = (sent? t.toList).map fun bytes => ofList (received bytes) := by
  rw [systemForm?, sent?, Option.map_map]
  rfl

@[simp] theorem sent?_nil : sent? [] = some [] := rfl

theorem sent?_append (first second : List Rune) :
    sent? (first ++ second) = (sent? first).bind fun bytes => (sent? second).map (bytes ++ ·) := by
  simp only [sent?, List.mapM_append]
  cases first.mapM systemBytes? with
  | none => rfl
  | some parts =>
    cases second.mapM systemBytes? with
    | none => rfl
    | some more => simp

theorem sent?_singleton (c : Rune) : sent? [c] = systemBytes? c := by
  rw [sent?, List.mapM_cons]
  cases systemBytes? c <;> simp

theorem sent?_cons (c : Rune) (cs : List Rune) :
    sent? (c :: cs) = (systemBytes? c).bind fun bytes => (sent? cs).map (bytes ++ ·) := by
  rw [← List.singleton_append, sent?_append, sent?_singleton]

/-- A character of ASCII is one byte. -/
theorem utf8EncodeChar_ofNat {byte : UInt8} (ascii : byte < 0x80) :
    String.utf8EncodeChar (Char.ofNat byte.toNat) = [byte] := by
  have each : ∀ n : Fin 0x80, String.utf8EncodeChar (Char.ofNat n) = [UInt8.ofNat n] := by decide +kernel
  have small : byte.toNat < 0x80 := by simpa [UInt8.lt_iff_toNat_lt] using ascii
  simpa using each ⟨byte.toNat, small⟩

theorem systemBytes?_escape {byte : UInt8} (high : 0x80 ≤ byte) : systemBytes? (escape byte) = some [byte] := by
  have low := byte.toNat_lt
  have high : 0x80 ≤ byte.toNat := by simpa [UInt8.le_iff_toNat_le] using high
  rw [escape, systemBytes?, if_pos (by simp; omega)]
  simp

/-- What has come back goes out as the bytes that it came from. -/
theorem sent?_received (bytes : List UInt8) : sent? (received bytes) = some bytes := by
  induction bytes using bytesInduction with
  | nil => simp
  | char c rest ih => simp [received_char, sent?_cons, systemBytes?, ih]
  | escape byte rest other ih =>
    have high : 0x80 ≤ byte := UInt8.not_lt.1 fun ascii =>
      other ⟨_, rest, congrArg (· ++ rest) (utf8EncodeChar_ofNat ascii).symm⟩
    simp [received_escape other, sent?_cons, systemBytes?_escape high, ih]

/-- A text without surrogates comes back as it is. -/
@[simp] theorem systemForm?_ofString (s : String) : (ofString s).systemForm? = some (ofString s) := by
  have bytes : ∃ bytes, sent? (s.toList.map .char) = some bytes ∧ received bytes = s.toList.map .char := by
    induction s.toList with
    | nil => exact ⟨[], rfl, received_nil⟩
    | cons c rest ih =>
      obtain ⟨bytes, sent, read⟩ := ih
      refine ⟨String.utf8EncodeChar c ++ bytes, ?_, ?_⟩
      · simp [sent?_cons, systemBytes?, sent]
      · rw [received_char, read, List.map_cons]
  obtain ⟨bytes, sent, read⟩ := bytes
  rw [systemForm?_eq, toList_ofString, sent, Option.map_some, read]
  rfl

/-! ## Separators -/

/-- Whether a character goes out as a single byte. -/
structure IsAscii (c : Char) (byte : UInt8) : Prop where
  low : byte < 0x80
  spelled : String.utf8EncodeChar c = [byte]

theorem IsAscii.isFirstByte {c : Char} {byte : UInt8} (ascii : IsAscii c byte) : byte.IsUTF8FirstByte := by
  have first := @UInt8.isUTF8FirstByte_getElem_zero_utf8EncodeChar c
  simpa [ascii.spelled] using first

theorem IsAscii.eq_of_mem {c d : Char} {byte : UInt8} (ascii : IsAscii c byte)
    (member : byte ∈ String.utf8EncodeChar d) : d = c := by
  -- Only the first byte of a character can start one, and that byte tells the character.
  obtain ⟨i, inside, here⟩ := List.getElem_of_mem member
  obtain rfl : i = 0 := UInt8.isUTF8FirstByte_getElem_utf8EncodeChar.1 (here ▸ ascii.isFirstByte)
  obtain ⟨rest, split⟩ : ∃ rest, String.utf8EncodeChar d = byte :: rest := by
    cases encoded : String.utf8EncodeChar d with
    | nil => simp [encoded] at inside
    | cons first rest => exact ⟨rest, by simpa [encoded] using here⟩
  have read := decode_char c rest
  rw [ascii.spelled, List.singleton_append, ← split] at read
  have whole := decode_char d []
  rw [List.append_nil] at whole
  exact Option.some.inj (whole.symm.trans read)

theorem IsAscii.mem_systemBytes_iff {c : Char} {byte : UInt8} {r : Rune} {bytes : List UInt8}
    (ascii : IsAscii c byte) (sent : systemBytes? r = some bytes) : byte ∈ bytes ↔ r = .char c := by
  cases r with
  | char d =>
    cases sent
    constructor
    · intro member
      rw [ascii.eq_of_mem member]
    · intro same
      cases same
      simp [ascii.spelled]
  | surrogate n =>
    rw [systemBytes?] at sent
    split at sent
    next escapes =>
      cases sent
      have high : ¬UInt8.ofNat (n.val - 0x400) < 0x80 := by
        rw [UInt8.lt_iff_toNat_lt]
        simp
        omega
      constructor
      · intro member
        rw [List.mem_singleton] at member
        exact absurd (member ▸ ascii.low) high
      · intro same
        cases same
    next => cases sent

theorem IsAscii.mem_sent_iff {c : Char} {byte : UInt8} {cs : List Rune} {bytes : List UInt8}
    (ascii : IsAscii c byte) (sent : sent? cs = some bytes) : byte ∈ bytes ↔ .char c ∈ cs := by
  induction cs generalizing bytes with
  | nil =>
    cases sent
    simp
  | cons r rest ih =>
    rw [sent?_cons] at sent
    cases first : systemBytes? r with
    | none => simp [first] at sent
    | some front =>
      cases others : sent? rest with
      | none => simp [first, others] at sent
      | some back =>
        obtain rfl : front ++ back = bytes := by simpa [first, others] using sent
        rw [List.mem_append, ascii.mem_systemBytes_iff first, ih others, List.mem_cons, eq_comm]

theorem systemBytes?_ne_nil {r : Rune} {bytes : List UInt8} (sent : systemBytes? r = some bytes) :
    bytes ≠ [] := by
  rintro rfl
  cases r with
  | char c =>
    have positive := c.utf8Size_pos
    have none := congrArg List.length (Option.some.inj sent)
    simp at none
    omega
  | surrogate n =>
    rw [systemBytes?] at sent
    split at sent <;> cases sent

theorem IsAscii.head?_sent_iff {c : Char} {byte : UInt8} {cs : List Rune} {bytes : List UInt8}
    (ascii : IsAscii c byte) (sent : sent? cs = some bytes) :
    bytes.head? = some byte ↔ cs.head? = some (.char c) := by
  cases cs with
  | nil =>
    cases sent
    simp
  | cons r rest =>
    rw [sent?_cons, Option.bind_eq_some_iff] at sent
    obtain ⟨front, first, sent⟩ := sent
    obtain ⟨back, _, rfl⟩ := Option.map_eq_some_iff.1 sent
    obtain ⟨next, more, rfl⟩ := List.exists_cons_of_ne_nil (systemBytes?_ne_nil first)
    rw [List.cons_append, List.head?_cons, List.head?_cons, Option.some_inj, Option.some_inj]
    constructor
    · rintro rfl
      exact (ascii.mem_systemBytes_iff first).1 List.mem_cons_self
    · rintro rfl
      have whole := Option.some.inj first
      rw [ascii.spelled, List.cons.injEq] at whole
      exact whole.1.symm

theorem sent?_eq_nil_iff {cs : List Rune} : sent? cs = some [] ↔ cs = [] := by
  refine ⟨fun sent => ?_, fun same => same ▸ rfl⟩
  cases cs with
  | nil => rfl
  | cons r rest =>
    rw [sent?_cons, Option.bind_eq_some_iff] at sent
    obtain ⟨front, first, sent⟩ := sent
    obtain ⟨back, _, none⟩ := Option.map_eq_some_iff.1 sent
    exact absurd (List.append_eq_nil_iff.1 none).1 (systemBytes?_ne_nil first)

theorem IsAscii.sent?_eq_singleton_iff {c : Char} {byte : UInt8} {cs : List Rune} (ascii : IsAscii c byte) :
    sent? cs = some [byte] ↔ cs = [.char c] := by
  refine ⟨fun sent => ?_, fun same => same ▸ (sent?_singleton _).trans (congrArg some ascii.spelled)⟩
  have head := (ascii.head?_sent_iff sent).1 rfl
  obtain ⟨rest, rfl⟩ := List.head?_eq_some_iff.1 head
  have front : systemBytes? (.char c) = some [byte] := congrArg some ascii.spelled
  rw [sent?_cons, front, Option.bind_some, Option.map_eq_some_iff] at sent
  obtain ⟨back, others, split⟩ := sent
  obtain rfl : back = [] := by simpa using split
  rw [sent?_eq_nil_iff.1 others]

theorem eq_empty_iff_of_systemForm {t form : Text} (comes : t.systemForm? = some form) :
    form = "" ↔ t = "" := by
  rw [systemForm?_eq, Option.map_eq_some_iff] at comes
  obtain ⟨bytes, sent, rfl⟩ := comes
  rw [← toList_eq_nil_iff, ← toList_eq_nil_iff, ← sent?_eq_nil_iff, ← sent?_eq_nil_iff, sent,
    toList_ofList, sent?_received]

theorem IsAscii.eq_singleton_iff_of_systemForm {c : Char} {byte : UInt8} {t form : Text}
    (ascii : IsAscii c byte) (comes : t.systemForm? = some form) :
    form = .ofList [.char c] ↔ t = .ofList [.char c] := by
  rw [systemForm?_eq, Option.map_eq_some_iff] at comes
  obtain ⟨bytes, sent, rfl⟩ := comes
  rw [← toList_inj, ← toList_inj, toList_ofList, ← ascii.sent?_eq_singleton_iff,
    ← ascii.sent?_eq_singleton_iff, sent, sent?_received]

/-- A character of ASCII stands in what has come back exactly if it stood in the text that went out. -/
theorem IsAscii.mem_systemForm_iff {c : Char} {byte : UInt8} {t form : Text} (ascii : IsAscii c byte)
    (comes : t.systemForm? = some form) : .char c ∈ form.toList ↔ .char c ∈ t.toList := by
  rw [systemForm?_eq, Option.map_eq_some_iff] at comes
  obtain ⟨bytes, sent, rfl⟩ := comes
  rw [← ascii.mem_sent_iff sent, ← ascii.mem_sent_iff (sent?_received bytes)]

theorem IsAscii.head?_systemForm_iff {c : Char} {byte : UInt8} {t form : Text} (ascii : IsAscii c byte)
    (comes : t.systemForm? = some form) :
    form.toList.head? = some (.char c) ↔ t.toList.head? = some (.char c) := by
  rw [systemForm?_eq, Option.map_eq_some_iff] at comes
  obtain ⟨bytes, sent, rfl⟩ := comes
  rw [← ascii.head?_sent_iff sent, ← ascii.head?_sent_iff (sent?_received bytes)]

theorem received_append {first second : List UInt8}
    (starts : ∀ byte rest, second = byte :: rest → byte.IsUTF8FirstByte) :
    received (first ++ second) = received first ++ received second := by
  induction first using bytesInduction with
  | nil => simp
  | char c rest ih => rw [List.append_assoc, received_char, received_char, ih, List.cons_append]
  | escape byte rest other ih =>
    rw [List.cons_append, received_escape, received_escape other, ih, List.cons_append]
    -- A character over the border would go on with a byte that starts one.
    rintro ⟨c, behind, same⟩
    rw [← List.cons_append, List.append_eq_append_iff] at same
    rcases same with ⟨middle, encoded, split⟩ | ⟨middle, split, _⟩
    · cases middle with
      | nil => exact other ⟨c, [], by simpa using encoded.symm⟩
      | cons next middle =>
        have inside : rest.length + 1 < (String.utf8EncodeChar c).length := by simp [encoded]
        have here : (String.utf8EncodeChar c)[rest.length + 1] = next := by simp [encoded]
        have first := UInt8.isUTF8FirstByte_getElem_utf8EncodeChar.1 (here ▸ starts next _ split)
        cases first
    · exact other ⟨c, middle, split⟩

/-- Texts come back piece by piece. -/
theorem systemForm?_append_separator {c : Char} {byte : UInt8} (ascii : IsAscii c byte)
    (first second : Text) :
    (first ++ .ofList [.char c] ++ second).systemForm? =
      first.systemForm?.bind fun front => second.systemForm?.map (front ++ .ofList [.char c] ++ ·) := by
  have single : systemBytes? (.char c) = some [byte] := congrArg some ascii.spelled
  simp only [systemForm?_eq, toList_append, List.append_assoc, List.singleton_append, sent?_append,
    sent?_cons, single]
  cases sent? first.toList with
  | none => rfl
  | some front =>
    cases sent? second.toList with
    | none => rfl
    | some back =>
      have border : ∀ next rest, byte :: back = next :: rest → next.IsUTF8FirstByte := by
        rintro next rest same
        cases same
        exact ascii.isFirstByte
      have read : received (byte :: back) = .char c :: received back := by
        simpa [ascii.spelled] using received_char c back
      have whole : received (front ++ byte :: back) = _ := received_append border
      rw [read] at whole
      simp [whole, ← toList_inj]

end XmlSettings.Text
