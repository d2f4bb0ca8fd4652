import XmlSettings.Xml.Document

/-! # Decoding what was encoded

Texts are written in UTF-8.  Decoding the bytes of a text gives its characters, each as a decoder
hands it on, and a text that opens with `<?` is taken for UTF-8.
-/

namespace XmlSettings.Xml

/-- Whether no character of a text is one that no document may hold. -/
def IsClean (cs : List Char) : Prop := ∀ c ∈ cs, isForbidden c = false

instance (cs : List Char) : Decidable (IsClean cs) :=
  List.decidableBAll _ cs

namespace IsClean

theorem nil : IsClean [] := fun _ member => nomatch member

theorem cons_iff {c : Char} {cs : List Char} :
    IsClean (c :: cs) ↔ isForbidden c = false ∧ IsClean cs := List.forall_mem_cons

theorem append_iff {first second : List Char} :
    IsClean (first ++ second) ↔ IsClean first ∧ IsClean second := List.forall_mem_append

theorem map_admitted {cs : List Char} (clean : IsClean cs) : cs.map admitted = cs := by
  refine (List.map_congr_left fun c member => ?_).trans (List.map_id cs)
  simp [admitted, clean c member]

end IsClean

namespace Encoding

/-- Decoding goes on behind any bytes as it would at the start. -/
theorem utf8Characters_append (before : ByteArray) (cs : List Char) :
    utf8Characters (before ++ cs.utf8Encode) before.size = cs.map admitted := by
  -- The reader counts bytes from the start, so the bytes that it is past vary.
  induction cs generalizing before with
  | nil =>
    rw [utf8Characters]
    simp
  | cons c rest ih =>
    have read : (before ++ (c :: rest).utf8Encode).utf8DecodeChar? before.size = some c := by
      rw [ByteArray.utf8DecodeChar?_eq_utf8DecodeChar?_extract,
        ByteArray.extract_append_eq_right rfl ByteArray.size_append]
      exact List.utf8DecodeChar?_utf8Encode_cons
    have moved : before ++ (c :: rest).utf8Encode = before ++ [c].utf8Encode ++ rest.utf8Encode := by
      rw [ByteArray.append_assoc, ← List.utf8Encode_append]
      rfl
    have size : (before ++ [c].utf8Encode).size = before.size + c.utf8Size := by
      simp [ByteArray.size_append, List.utf8Encode_singleton]
    have inside : before.size < (before ++ (c :: rest).utf8Encode).size := by
      have := c.utf8Size_pos
      rw [moved, ByteArray.size_append, size]
      omega
    rw [utf8Characters, dif_pos inside]
    simp only
    split
    next d found =>
      cases read.symm.trans found
      rw [List.map_cons, moved, ← size, ih]
    next missing => simp [read] at missing

theorem decode_toByteArray (s : String) : decode .utf8 s.toByteArray = s.toList.map admitted := by
  have := utf8Characters_append ByteArray.empty s.toList
  simpa [decode] using this

/-! ## The first bytes -/

theorem toList_loop (bytes : ByteArray) (i : Nat) (sofar : List UInt8) :
    ByteArray.toList.loop bytes i sofar = sofar.reverse ++ bytes.data.toList.drop i := by
  fun_induction ByteArray.toList.loop bytes i sofar with
  | case1 i sofar inside ih =>
    have inside : i < bytes.data.toList.length := inside
    have read : bytes.get! i = bytes.data.toList[i] := getElem!_pos bytes.data i inside
    rw [ih, List.drop_eq_getElem_cons inside, read]
    simp
  | case2 i sofar outside =>
    have outside : bytes.data.toList.length ≤ i := Nat.le_of_not_lt outside
    rw [List.drop_eq_nil_of_le outside, List.append_nil]

theorem toList_eq_data (bytes : ByteArray) : bytes.toList = bytes.data.toList :=
  toList_loop bytes 0 []

/-- The bytes of a text that opens with `<?`. -/
theorem toList_utf8Encode_opening (rest : List Char) :
    ∃ more, ('<' :: '?' :: rest).utf8Encode.toList = 0x3C :: 0x3F :: more := by
  refine ⟨rest.utf8Encode.data.toList, ?_⟩
  rw [toList_eq_data]
  simp [List.utf8Encode, String.utf8EncodeChar]

theorem isUndecided_opening (more : List UInt8) : isUndecided (0x3C :: 0x3F :: more) = false := by
  cases more <;> rfl

theorem ofStart_opening (more : List UInt8) : ofStart (0x3C :: 0x3F :: more) = (utf8, false) := rfl

end Encoding

end XmlSettings.Xml
