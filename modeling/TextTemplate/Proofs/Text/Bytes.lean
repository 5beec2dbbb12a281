import TextTemplate.Text.Offset

/-! Pieces of a source by their bytes. Where a text is cut between characters, the cut is a
character boundary and the bytes on either side are those of the two parts. Pieces with a
separator between each two are joined again. -/
namespace TextTemplate.Text

theorem size_utf8Encode (text : List Char) : text.utf8Encode.size = byteLength text := by
  induction text with
  | nil => rfl
  | cons c text ih =>
    rw [List.utf8Encode_cons, ByteArray.size_append, ih, byteLength_cons, List.utf8Encode_singleton,
      List.size_toByteArray, String.length_utf8EncodeChar]

theorem utf8ByteSize_eq (text : String) : text.utf8ByteSize = byteLength text.toList := by
  rw [← size_utf8Encode, String.utf8Encode_toList, String.size_toByteArray]

theorem utf8ByteSize_ofList (text : List Char) : (String.ofList text).utf8ByteSize = byteLength text := by
  rw [utf8ByteSize_eq, String.toList_ofList]

/-- A piece of a source lies between two bytes of it, and both are character boundaries. -/
structure Slice (source : String) (start stop : Nat) (piece : String) : Prop where
  begins : (⟨start⟩ : String.Pos.Raw).IsValid source
  ends : (⟨stop⟩ : String.Pos.Raw).IsValid source
  ordered : start ≤ stop
  bytes : source.toByteArray.extract start stop = piece.toByteArray

/-- The text of a source from a byte on. -/
def Rest (source : String) (position : Nat) (later : List Char) : Prop :=
  ∃ before, source.toList = before ++ later ∧ position = byteLength before

theorem rest_all (source : String) : Rest source 0 source.toList := ⟨[], rfl, rfl⟩

theorem Rest.skip {piece later : List Char} (rest : Rest source position (piece ++ later)) :
    Rest source (position + byteLength piece) later := by
  obtain ⟨before, whole, rfl⟩ := rest
  exact ⟨before ++ piece, by rw [whole, List.append_assoc], (byteLength_append _ _).symm⟩

theorem Rest.isValid (rest : Rest source position later) : (⟨position⟩ : String.Pos.Raw).IsValid source := by
  obtain ⟨before, whole, rfl⟩ := rest
  refine String.Pos.Raw.isValid_iff_exists_append.mpr ⟨String.ofList before, String.ofList later, ?_, ?_⟩
  · rw [← String.ofList_append, ← whole, String.ofList_toList]
  · simp [String.rawEndPos, utf8ByteSize_eq]

theorem Rest.size (rest : Rest source position later) :
    source.toByteArray.size = position + byteLength later := by
  obtain ⟨before, whole, rfl⟩ := rest
  rw [String.size_toByteArray, utf8ByteSize_eq, whole, byteLength_append]

theorem Rest.slice {piece later : List Char} (rest : Rest source position (piece ++ later)) :
    Slice source position (position + byteLength piece) (String.ofList piece) := by
  refine ⟨rest.isValid, rest.skip.isValid, Nat.le_add_right _ _, ?_⟩
  obtain ⟨before, whole, rfl⟩ := rest
  have bytes : source.toByteArray = before.utf8Encode ++ (piece.utf8Encode ++ later.utf8Encode) := by
    rw [← String.utf8Encode_toList, whole, List.utf8Encode_append, List.utf8Encode_append]
  have inner : (piece.utf8Encode ++ later.utf8Encode).extract 0 piece.utf8Encode.size = piece.utf8Encode :=
    ByteArray.extract_append_eq_left rfl
  have outer : before.utf8Encode.extract before.utf8Encode.size (before.utf8Encode.size + piece.utf8Encode.size) =
      ByteArray.empty := ByteArray.extract_eq_empty_iff.mpr (Nat.min_le_right _ _)
  rw [String.toByteArray_ofList, bytes, ← size_utf8Encode before, ← size_utf8Encode piece,
    ByteArray.extract_append, outer, Nat.sub_self, Nat.add_sub_cancel_left, inner, ByteArray.empty_append]

theorem Slice.unique (slice : Slice source start stop piece) (again : Slice source start stop piece') :
    piece = piece' :=
  String.toByteArray_inj.mp (slice.bytes.symm.trans again.bytes)

theorem intercalate_cons (separator : Char) (first : List Char) (later : List (List Char)) :
    [separator].intercalate (first :: later) = first ++ later.flatMap (separator :: ·) := by
  induction later generalizing first with
  | nil => simp [List.intercalate]
  | cons second later ih =>
    rw [List.intercalate_cons_cons, ih, List.flatMap_cons, List.append_assoc]
    rfl

/-- The bytes of the UTF-8 form of a text. -/
def bytes (text : String) : List UInt8 := text.toByteArray.data.toList

theorem bytes_ofList (text : List Char) : bytes (String.ofList text) = text.flatMap String.utf8EncodeChar := by
  rw [bytes, String.toByteArray_ofList, List.utf8Encode, List.toList_data_toByteArray]

theorem bytes_ascii {c : Char} (ascii : c.toNat < 128) (rest : List Char) :
    bytes (String.ofList (c :: rest)) = c.toUInt8 :: bytes (String.ofList rest) := by
  have single : c.utf8Size = 1 := Char.utf8Size_eq_one_iff.mpr (Nat.le_of_lt_succ ascii)
  rw [bytes_ofList, bytes_ofList, List.flatMap_cons, String.utf8EncodeChar_eq_singleton single]
  rfl

/-- Any other character begins with a byte that is no character by itself. -/
theorem bytes_wide {c : Char} (wide : 128 ≤ c.toNat) (rest : List Char) :
    ∃ first, (bytes (String.ofList (c :: rest)))[0]? = some first ∧ 128 ≤ first.toNat := by
  have large : ¬c.val.toNat ≤ 127 := Nat.not_le_of_lt wide
  rw [bytes_ofList, List.flatMap_cons, String.utf8EncodeChar]
  simp only [large, if_false]
  split
  · exact ⟨_, rfl, by rw [UInt8.toNat_ofNat']; omega⟩
  · split
    · exact ⟨_, rfl, by rw [UInt8.toNat_ofNat']; omega⟩
    · exact ⟨_, rfl, by rw [UInt8.toNat_ofNat']; omega⟩

end TextTemplate.Text
