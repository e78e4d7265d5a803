import Mathlib
import Harvest.Proofs.Text.Utf8
import Harvest.Text.FormEncoding

/-!
# Encoded texts

An encoded text is written in a small alphabet without slashes, tildes or the characters that part
the pairs of a form.  Read as a form it gives the text back, so no two texts are encoded alike.
-/

namespace Harvest.FormEncoding

/-! ## The alphabet -/

/-- Whether a character may stand in an encoded text. -/
def isCode (c : Char) : Bool :=
  c.isAlphanum || c == '*' || c == '-' || c == '.' || c == '_' || c == '+' || c == '%'

theorem isCode_hexDigit : ∀ n < 16, isCode (hexDigit n) = true := by decide

theorem isCode_of_mem_encodeByte {b : UInt8} {c : Char} (member : c ∈ encodeByte b) :
    isCode c = true := by
  rw [encodeByte] at member
  split at member
  · next plain =>
      obtain rfl := List.mem_singleton.mp member
      simp only [isPlain, Bool.and_eq_true, Bool.or_eq_true] at plain
      simp only [isCode, Bool.or_eq_true]
      exact .inl (.inl plain.2)
  · split at member
    · obtain rfl := List.mem_singleton.mp member
      rfl
    · have small : b.toNat < 256 := b.toNat_lt
      rcases List.mem_cons.mp member with rfl | member
      · rfl
      rcases List.mem_cons.mp member with rfl | member
      · exact isCode_hexDigit _ (by omega)
      obtain rfl := List.mem_singleton.mp member
      exact isCode_hexDigit _ (by omega)

theorem toList_encode (s : String) : (encode s).toList = (Bytes.ofString s).flatMap encodeByte :=
  String.toList_ofList

theorem isCode_of_mem_encode {s : String} {c : Char} (member : c ∈ (encode s).toList) :
    isCode c = true := by
  rw [toList_encode] at member
  obtain ⟨b, -, here⟩ := List.mem_flatMap.mp member
  exact isCode_of_mem_encodeByte here

theorem encode_append (s t : String) : encode (s ++ t) = encode s ++ encode t := by
  rw [encode, Bytes.ofString_append, List.flatMap_append, String.ofList_append]
  rfl

theorem toNat_lt_of_isCode {c : Char} (written : isCode c = true) : c.toNat < 0x80 := by
  simp only [isCode, Char.isAlphanum, Char.isAlpha, Char.isUpper, Char.isLower, Char.isDigit,
    Bool.or_eq_true, Bool.and_eq_true, decide_eq_true_eq, beq_iff_eq, ge_iff_le,
    UInt32.le_iff_toNat_le] at written
  rcases written with (((((alphanumeric | rfl) | rfl) | rfl) | rfl) | rfl) | rfl
  · change c.val.toNat < 0x80
    rcases alphanumeric with (upper | lower) | digit
    · exact upper.2.trans_lt (by decide)
    · exact lower.2.trans_lt (by decide)
    · exact digit.2.trans_lt (by decide)
  all_goals decide

/-! ## The bytes of an encoded text -/

/-- The bytes that a byte is written as. -/
def code (b : UInt8) : Bytes := (encodeByte b).map fun c => c.toNat.toUInt8

theorem utf8EncodeChar_of_isCode {c : Char} (written : isCode c = true) :
    String.utf8EncodeChar c = [c.toNat.toUInt8] := by
  rw [← Utf8.encode_toNat, Utf8.encode, if_pos (toNat_lt_of_isCode written)]

/-- A text in the alphabet takes a byte for each character. -/
theorem utf8ByteSize_of_isCode {s : String} (written : ∀ c ∈ s.toList, isCode c = true) :
    s.utf8ByteSize = s.toList.length := by
  have bytes : s.toList.flatMap String.utf8EncodeChar =
      s.toList.map fun c => c.toNat.toUInt8 := by
    rw [List.map_eq_flatMap]
    exact List.flatMap_congr fun c member => utf8EncodeChar_of_isCode (written c member)
  rw [← Bytes.length_ofString, Bytes.ofString_eq, bytes, List.length_map]

theorem ofString_encode (s : String) :
    Bytes.ofString (encode s) = (Bytes.ofString s).flatMap code := by
  rw [encode, Bytes.ofString_ofList, List.flatMap_assoc]
  refine List.flatMap_congr fun b _ => ?_
  rw [code, List.map_eq_flatMap]
  exact List.flatMap_congr fun c member =>
    utf8EncodeChar_of_isCode (isCode_of_mem_encodeByte member)

theorem code_ne_nil (b : UInt8) : code b ≠ [] := by
  rw [code, encodeByte]
  split
  · exact List.cons_ne_nil _ _
  · split <;> exact List.cons_ne_nil _ _

/-- A character that is not in the alphabet is not written for any byte. -/
theorem ne_of_mem_code {b x : UInt8} {c : Char} (member : x ∈ code b) (foreign : isCode c = false)
    (small : c.toNat < 0x80) : x ≠ c.toNat.toUInt8 := by
  rintro rfl
  obtain ⟨d, written, same⟩ := List.mem_map.mp member
  have known : isCode d = true := isCode_of_mem_encodeByte written
  have bound : d.toNat < 0x80 := toNat_lt_of_isCode known
  have number : d.toNat = c.toNat := by
    rw [← Utf8.toNat_toUInt8 (by omega : d.toNat < 256), same, Utf8.toNat_toUInt8 (by omega)]
  obtain rfl : d = c := Char.toNat_inj.mp number
  exact Bool.false_ne_true (foreign.symm.trans known)

/-! ## Reading -/

theorem decodeBytes_cons {b : UInt8} (rest : Bytes) (unescaped : b ≠ 0x25) :
    decodeBytes (b :: rest) = (if b == 0x2B then 0x20 else b) :: decodeBytes rest := by
  rw [decodeBytes]
  rintro x y rest rfl
  exact absurd rfl unescaped

theorem hexValue?_hexDigit :
    ∀ n < 16, hexValue? (hexDigit n).toNat.toUInt8 = some n.toUInt8 := by decide

theorem decodeBytes_code (b : UInt8) (rest : Bytes) :
    decodeBytes (code b ++ rest) = b :: decodeBytes rest := by
  have small : b.toNat < 256 := b.toNat_lt
  rw [code, encodeByte]
  split
  · next plain =>
      have char : (Char.ofNat b.toNat).toNat.toUInt8 = b := by
        have valid : b.toNat.isValidChar := .inl (by omega)
        rw [Char.ofNat, dif_pos valid]
        exact UInt8.ofNat_toNat
      have escape : b ≠ 0x25 := by
        rintro rfl
        exact absurd plain (by decide)
      have plus : (b == 0x2B) = false := by
        refine beq_false_of_ne ?_
        rintro rfl
        exact absurd plain (by decide)
      rw [List.map_singleton, char, List.singleton_append, decodeBytes_cons rest escape, plus]
      rfl
  · split
    · next blank =>
        obtain rfl := eq_of_beq blank
        exact decodeBytes_cons rest (by decide)
    · have upper := hexValue?_hexDigit (b.toNat / 16) (by omega)
      have lower := hexValue?_hexDigit (b.toNat % 16) (by omega)
      have value : (b.toNat / 16).toUInt8 * 16 + (b.toNat % 16).toUInt8 = b := by
        rw [← UInt8.toNat_inj]
        simp
        omega
      rw [List.map_cons, List.map_cons, List.map_singleton]
      change decodeBytes (0x25 :: _ :: _ :: rest) = _
      rw [decodeBytes, upper, lower]
      exact congrArg (· :: decodeBytes rest) value

theorem decodeBytes_flatMap_code (bytes : Bytes) : decodeBytes (bytes.flatMap code) = bytes := by
  induction bytes with
  | nil => rfl
  | cons b bytes ih => rw [List.flatMap_cons, decodeBytes_code, ih]

/-- An encoded text, read as a form, is the text, unless there is nothing to read. -/
theorem firstName?_encode {s : String} (filled : s ≠ "") : firstName? (encode s) = some s := by
  have name (x : UInt8) (member : x ∈ (Bytes.ofString s).flatMap code) : x ≠ 0x26 ∧ x ≠ 0x3D := by
    obtain ⟨b, -, written⟩ := List.mem_flatMap.mp member
    exact ⟨ne_of_mem_code (c := '&') written rfl (by decide),
      ne_of_mem_code (c := '=') written rfl (by decide)⟩
  have pair : ((Bytes.ofString s).flatMap code).dropWhile (· == 0x26) =
      (Bytes.ofString s).flatMap code :=
    List.dropWhile_eq_self_iff.mpr fun nonempty => by
      simpa using (name _ (List.getElem_mem nonempty)).1
  have whole : ((Bytes.ofString s).flatMap code).takeWhile (fun b => b != 0x26 && b != 0x3D) =
      (Bytes.ofString s).flatMap code :=
    List.takeWhile_eq_self_iff.mpr fun x member => by
      simpa using name x member
  have bytes : Bytes.ofString s ≠ [] := fun empty =>
    filled (Bytes.ofString_injective empty)
  obtain ⟨first, rest, split⟩ := List.exists_cons_of_ne_nil bytes
  have written : (Bytes.ofString s).flatMap code ≠ [] := by
    rw [split, List.flatMap_cons]
    exact List.append_ne_nil_of_left_ne_nil (code_ne_nil first) _
  rw [firstName?, ofString_encode, pair]
  split
  · contradiction
  · rw [whole, decodeBytes_flatMap_code, Utf8.lossy_ofString]

theorem encode_injective {s t : String} (same : encode s = encode t) : s = t := by
  have bytes := congrArg (decodeBytes ∘ Bytes.ofString) same
  simp only [Function.comp, ofString_encode, decodeBytes_flatMap_code] at bytes
  exact Bytes.ofString_injective bytes

end Harvest.FormEncoding
