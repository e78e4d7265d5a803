import Mathlib
import Harvest.Text.Utf8

/-!
# Texts and their bytes

The bytes of a text encode it: read as UTF-8 they give the text back, whether ill-formed bytes would
be refused or replaced.  Where they are replaced, a character of ASCII still stands only for the byte
that it is.
-/

namespace Harvest

theorem Bytes.ofString_ofList (cs : List Char) :
    Bytes.ofString (String.ofList cs) = cs.flatMap String.utf8EncodeChar := by
  rw [ofString, String.toUTF8_eq_toByteArray, String.toByteArray_ofList, List.utf8Encode,
    List.data_toByteArray]

theorem Bytes.ofString_eq (s : String) :
    Bytes.ofString s = s.toList.flatMap String.utf8EncodeChar := by
  rw [← ofString_ofList, String.ofList_toList]

theorem Bytes.length_ofString (s : String) : (Bytes.ofString s).length = s.utf8ByteSize := rfl

theorem Bytes.ofString_append (s t : String) :
    Bytes.ofString (s ++ t) = Bytes.ofString s ++ Bytes.ofString t := by
  rw [ofString_eq, String.toList_append, List.flatMap_append, ← ofString_eq, ← ofString_eq]

theorem Bytes.text?_ofString (s : String) : (Bytes.ofString s).text? = some s := by
  have whole : (⟨(Bytes.ofString s).toArray⟩ : ByteArray) = s.toByteArray := rfl
  rw [text?, whole, String.fromUTF8?, dif_pos s.isValidUTF8]
  rfl

theorem Bytes.text?_eq_some_iff {bytes : Bytes} {s : String} :
    bytes.text? = some s ↔ bytes = Bytes.ofString s := by
  constructor
  · intro decoded
    rw [text?, String.fromUTF8?] at decoded
    split at decoded
    · obtain rfl := Option.some.inj decoded
      rfl
    · cases decoded
  · rintro rfl
    exact text?_ofString s

theorem Bytes.ofString_injective {s t : String} (same : Bytes.ofString s = Bytes.ofString t) :
    s = t :=
  Option.some.inj ((text?_ofString s).symm.trans ((congrArg text? same).trans (text?_ofString t)))

namespace Utf8

/-! ## Bytes as numbers -/

theorem toNat_toUInt8 {n : Nat} (small : n < 256) : n.toUInt8.toNat = n := by
  simpa using small

theorem isTail_iff {b : UInt8} : isTail b = true ↔ 0x80 ≤ b.toNat ∧ b.toNat ≤ 0xBF := by
  simp [isTail, UInt8.le_iff_toNat_le]

theorem admitsSecond_iff {lead b : UInt8} :
    admitsSecond lead b = true ↔ isTail b = true ∧
      (lead.toNat = 0xE0 → 0xA0 ≤ b.toNat) ∧ (lead.toNat = 0xED → b.toNat ≤ 0x9F) ∧
      (lead.toNat = 0xF0 → 0x90 ≤ b.toNat) ∧ (lead.toNat = 0xF4 → b.toNat ≤ 0x8F) := by
  rw [admitsSecond, Bool.and_eq_true]
  refine and_congr_right fun _ => ?_
  simp only [beq_iff_eq, ← UInt8.toNat_inj]
  split
  · next three => simp [three, UInt8.le_iff_toNat_le]
  · split
    · next three => simp [three, UInt8.le_iff_toNat_le]
    · split
      · next four => simp [four, UInt8.le_iff_toNat_le]
      · split
        · next four => simp [four, UInt8.le_iff_toNat_le]
        · next not224 not237 not240 not244 =>
            simp at not224 not237 not240 not244
            simp [not224, not237, not240, not244]

theorem length?_eq (lead : UInt8) :
    length? lead =
      if lead.toNat < 0x80 then some 1
      else if lead.toNat < 0xC2 then none
      else if lead.toNat < 0xE0 then some 2
      else if lead.toNat < 0xF0 then some 3
      else if lead.toNat < 0xF5 then some 4
      else none := rfl

/-! ## The front of a byte sequence -/

variable {lead b c d : UInt8} {rest : Bytes}

theorem head_one (upper : lead.toNat < 0x80) :
    head lead rest = .char (Char.ofNat lead.toNat) 1 := by
  have width : length? lead = some 1 := by rw [length?_eq, if_pos upper]
  simp only [head, width]

theorem head_two (lower : 0xC2 ≤ lead.toNat) (upper : lead.toNat < 0xE0) (second : isTail b = true) :
    head lead (b :: rest) = .char (Char.ofNat (lead.toNat % 32 * 64 + payload b)) 2 := by
  have width : length? lead = some 2 := by
    rw [length?_eq, if_neg (by omega), if_neg (by omega), if_pos upper]
  have admitted : admitsSecond lead b = true :=
    admitsSecond_iff.mpr ⟨second, by omega, by omega, by omega, by omega⟩
  simp only [head, width, admitted, if_true]

theorem head_three (lower : 0xE0 ≤ lead.toNat) (upper : lead.toNat < 0xF0)
    (second : admitsSecond lead b = true) (third : isTail c = true) :
    head lead (b :: c :: rest) =
      .char (Char.ofNat ((lead.toNat % 16 * 64 + payload b) * 64 + payload c)) 3 := by
  have width : length? lead = some 3 := by
    rw [length?_eq, if_neg (by omega), if_neg (by omega), if_neg (by omega), if_pos upper]
  simp only [head, width, second, third, if_true]

theorem head_four (lower : 0xF0 ≤ lead.toNat) (upper : lead.toNat < 0xF5)
    (second : admitsSecond lead b = true) (third : isTail c = true) (fourth : isTail d = true) :
    head lead (b :: c :: d :: rest) =
      .char (Char.ofNat
        (((lead.toNat % 8 * 64 + payload b) * 64 + payload c) * 64 + payload d)) 4 := by
  have width : length? lead = some 4 := by
    rw [length?_eq, if_neg (by omega), if_neg (by omega), if_neg (by omega), if_neg (by omega),
      if_pos upper]
  simp only [head, width, second, third, fourth, if_true]

theorem toNat_tail (n : Nat) : ((0x80 + n % 64).toUInt8).toNat = 0x80 + n % 64 :=
  toNat_toUInt8 (by omega)

theorem isTail_tail (n : Nat) : isTail (0x80 + n % 64).toUInt8 = true := by
  rw [isTail_iff, toNat_tail]
  omega

theorem payload_tail (n : Nat) : payload (0x80 + n % 64).toUInt8 = n % 64 := by
  rw [payload, toNat_tail]
  omega

/-! ## Encoding and decoding -/

theorem encode_toNat (c : Char) : encode c.toNat = String.utf8EncodeChar c := by
  have bound : c.toNat < 0x110000 := by
    rcases c.valid with low | high
    · exact low.trans (by decide)
    · exact high.2
  simp only [encode, String.utf8EncodeChar, Char.toNat] at bound ⊢
  generalize c.val.toNat = n at bound ⊢
  by_cases one : n < 0x80
  · rw [if_pos one, if_pos (by omega : n ≤ 0x7f)]
  rw [if_neg one, if_neg (by omega : ¬n ≤ 0x7f)]
  by_cases two : n < 0x800
  · rw [if_pos two, if_pos (by omega : n ≤ 0x7ff)]
    have lead : 0xC0 + n / 64 = n / 64 % 32 + 0xC0 := by omega
    have last : 0x80 + n / 1 % 64 = n % 64 + 0x80 := by omega
    rw [lead, last]
  rw [if_neg two, if_neg (by omega : ¬n ≤ 0x7ff)]
  by_cases three : n < 0x10000
  · rw [if_pos three, if_pos (by omega : n ≤ 0xffff)]
    have lead : 0xE0 + n / 4096 = n / 4096 % 16 + 0xE0 := by omega
    have second : 0x80 + n / 64 % 64 = n / 64 % 64 + 0x80 := by omega
    have last : 0x80 + n / 1 % 64 = n % 64 + 0x80 := by omega
    rw [lead, second, last]
  rw [if_neg three, if_neg (by omega : ¬n ≤ 0xffff)]
  have lead : 0xF0 + n / 262144 = n / 262144 % 8 + 0xF0 := by omega
  have second : 0x80 + n / 4096 % 64 = n / 4096 % 64 + 0x80 := by omega
  have third : 0x80 + n / 64 % 64 = n / 64 % 64 + 0x80 := by omega
  have last : 0x80 + n / 1 % 64 = n % 64 + 0x80 := by omega
  rw [lead, second, third, last]

/-- No byte of a character from 128 on is a character of its own. -/
theorem le_of_mem_encode {c : Char} (high : 0x80 ≤ c.toNat) {b : UInt8}
    (member : b ∈ encode c.toNat) : 0x80 ≤ b.toNat := by
  have bound : c.toNat < 0x110000 := by
    rcases c.valid with low | high
    · exact low.trans (by decide)
    · exact high.2
  have lead {k : Nat} (low : 0x80 ≤ k) (upper : k < 256) : 0x80 ≤ k.toUInt8.toNat := by
    rwa [toNat_toUInt8 upper]
  have tail (n : Nat) : 0x80 ≤ ((0x80 + n % 64).toUInt8).toNat := lead (by omega) (by omega)
  generalize c.toNat = n at high bound member
  rw [encode, if_neg (by omega)] at member
  split at member
  · simp only [List.mem_cons, List.not_mem_nil, or_false] at member
    rcases member with rfl | rfl
    · exact lead (by omega) (by omega)
    · exact tail _
  · split at member
    · simp only [List.mem_cons, List.not_mem_nil, or_false] at member
      rcases member with rfl | rfl | rfl
      · exact lead (by omega) (by omega)
      · exact tail _
      · exact tail _
    · simp only [List.mem_cons, List.not_mem_nil, or_false] at member
      rcases member with rfl | rfl | rfl | rfl
      · exact lead (by omega) (by omega)
      · exact tail _
      · exact tail _
      · exact tail _

/-- The first character of the bytes that begin with the encoding of a character is that one. -/
theorem head_encode (c : Char) (rest : Bytes) :
    ∃ lead tail, encode c.toNat = lead :: tail ∧
      head lead (tail ++ rest) = .char c (tail.length + 1) := by
  have valid : c.toNat < 0xD800 ∨ 0xDFFF < c.toNat ∧ c.toNat < 0x110000 := c.valid
  have char : Char.ofNat c.toNat = c := Char.ofNat_toNat c
  generalize c.toNat = n at valid char ⊢
  simp only [encode]
  by_cases one : n < 0x80
  · rw [if_pos one]
    have lead : n.toUInt8.toNat = n := toNat_toUInt8 (by omega)
    refine ⟨_, _, rfl, ?_⟩
    rw [head_one (lead.trans_lt one), lead, char]
    rfl
  rw [if_neg one]
  by_cases two : n < 0x800
  · rw [if_pos two]
    have lead : (0xC0 + n / 64).toUInt8.toNat = 0xC0 + n / 64 := toNat_toUInt8 (by omega)
    refine ⟨_, _, rfl, (head_two (by omega) (by omega) (isTail_tail _)).trans ?_⟩
    have value : (0xC0 + n / 64) % 32 * 64 + n / 1 % 64 = n := by omega
    rw [lead, payload_tail, value, char]
    rfl
  rw [if_neg two]
  by_cases three : n < 0x10000
  · rw [if_pos three]
    have lead : (0xE0 + n / 4096).toUInt8.toNat = 0xE0 + n / 4096 := toNat_toUInt8 (by omega)
    have second : admitsSecond (0xE0 + n / 4096).toUInt8 (0x80 + n / 64 % 64).toUInt8 = true := by
      rw [admitsSecond_iff, lead, toNat_tail]
      exact ⟨isTail_tail _, by omega, by omega, by omega, by omega⟩
    refine ⟨_, _, rfl, (head_three (by omega) (by omega) second (isTail_tail _)).trans ?_⟩
    have value : ((0xE0 + n / 4096) % 16 * 64 + n / 64 % 64) * 64 + n / 1 % 64 = n := by omega
    rw [lead, payload_tail, payload_tail, value, char]
    rfl
  rw [if_neg three]
  have lead : (0xF0 + n / 262144).toUInt8.toNat = 0xF0 + n / 262144 := toNat_toUInt8 (by omega)
  have second :
      admitsSecond (0xF0 + n / 262144).toUInt8 (0x80 + n / 4096 % 64).toUInt8 = true := by
    rw [admitsSecond_iff, lead, toNat_tail]
    exact ⟨isTail_tail _, by omega, by omega, by omega, by omega⟩
  refine ⟨_, _, rfl,
    (head_four (by omega) (by omega) second (isTail_tail _) (isTail_tail _)).trans ?_⟩
  have value :
      (((0xF0 + n / 262144) % 8 * 64 + n / 4096 % 64) * 64 + n / 64 % 64) * 64 + n / 1 % 64 = n := by
    omega
  rw [lead, payload_tail, payload_tail, payload_tail, value, char]
  rfl

theorem lossyChars_append_skip (bytes rest : Bytes) :
    lossyChars (bytes ++ rest) bytes.length = lossyChars rest 0 := by
  induction bytes with
  | nil => rfl
  | cons b bytes ih => exact ih

theorem lossyChars_encode (c : Char) (rest : Bytes) :
    lossyChars (encode c.toNat ++ rest) 0 = c :: lossyChars rest 0 := by
  obtain ⟨lead, tail, bytes, front⟩ := head_encode c rest
  rw [bytes, List.cons_append, lossyChars, front]
  exact congrArg (c :: ·) (lossyChars_append_skip tail rest)

/-- The bytes of a text give the text back. -/
theorem lossy_ofString (s : String) : lossy (Bytes.ofString s) = s := by
  have chars (cs : List Char) : lossyChars (cs.flatMap String.utf8EncodeChar) 0 = cs := by
    induction cs with
    | nil => rfl
    | cons c cs ih => rw [List.flatMap_cons, ← encode_toNat, lossyChars_encode, ih]
  rw [lossy, Bytes.ofString_eq, chars, String.ofList_toList]

/-! ## Characters of ASCII among other bytes -/

theorem bounds_of_length? {width : Nat} (counted : length? lead = some width) :
    width = 1 ∧ lead.toNat < 0x80 ∨ width = 2 ∧ 0xC2 ≤ lead.toNat ∧ lead.toNat < 0xE0 ∨
      width = 3 ∧ 0xE0 ≤ lead.toNat ∧ lead.toNat < 0xF0 ∨
      width = 4 ∧ 0xF0 ≤ lead.toNat ∧ lead.toNat < 0xF5 := by
  rw [length?_eq] at counted
  split_ifs at counted <;> simp only [Option.some.injEq] at counted <;> omega

/-- What a byte above ASCII begins is no character of ASCII. -/
theorem exists_ofNat_of_head {ch : Char} {width : Nat} (high : 0x80 ≤ lead.toNat)
    (front : head lead rest = .char ch width) : ∃ n, 0x80 ≤ n ∧ ch = Char.ofNat n := by
  unfold head at front
  split at front
  · cases front
  · next counted => exact absurd (bounds_of_length? counted) (by omega)
  · cases front
  -- two bytes: the first alone is worth enough
  · next b _ counted =>
      have bounds := bounds_of_length? counted
      split at front
      · cases front
        exact ⟨_, by omega, rfl⟩
      · cases front
  -- three or four: the second must not leave a character that fewer bytes would do for
  · next b _ counted =>
      have bounds := bounds_of_length? counted
      split at front
      · next second =>
          obtain ⟨tail, least, -⟩ := admitsSecond_iff.mp second
          rw [isTail_iff] at tail
          split at front
          · split at front
            · cases front
              exact ⟨_, by rw [payload]; omega, rfl⟩
            · cases front
          · cases front
      · cases front
  · next width b _ one two three counted =>
      have several : width ≠ 1 ∧ width ≠ 2 ∧ width ≠ 3 := ⟨one, two, three⟩
      have bounds := bounds_of_length? counted
      split at front
      · next second =>
          obtain ⟨tail, -, -, least, -⟩ := admitsSecond_iff.mp second
          rw [isTail_iff] at tail
          split at front
          · split at front
            · split at front
              · cases front
                exact ⟨_, by rw [payload]; omega, rfl⟩
              · cases front
            · cases front
          · split at front <;> cases front
          · cases front
      · cases front

theorem ofNat_ne_of_le {n : Nat} (high : 0x80 ≤ n) {x : Char} (low : 0 < x.toNat ∧ x.toNat < 0x80) :
    Char.ofNat n ≠ x := by
  rintro rfl
  rw [Char.toNat_ofNat] at low
  split at low <;> omega

/-- A character of ASCII at the front is the first byte. -/
theorem eq_of_head {x : Char} {width : Nat} (low : 0 < x.toNat ∧ x.toNat < 0x80)
    (front : head lead rest = .char x width) : lead.toNat = x.toNat ∧ width = 1 := by
  by_cases upper : lead.toNat < 0x80
  · rw [head_one upper] at front
    cases front
    refine ⟨?_, rfl⟩
    rw [Char.toNat_ofNat, if_pos (.inl (by omega))]
  · obtain ⟨n, high, rfl⟩ := exists_ofNat_of_head (Nat.le_of_not_lt upper) front
    exact absurd rfl (ofNat_ne_of_le high low)

/-- Bytes shown with a character of ASCII at the front begin with it. -/
theorem exists_cons_of_lossyChars {bytes : Bytes} {x : Char} {cs : List Char}
    (low : 0 < x.toNat ∧ x.toNat < 0x80) (shown : lossyChars bytes 0 = x :: cs) :
    ∃ rest, bytes = x.toNat.toUInt8 :: rest ∧ lossyChars rest 0 = cs := by
  cases bytes with
  | nil => cases shown
  | cons b rest =>
      rw [lossyChars] at shown
      split at shown
      · next front =>
          obtain ⟨rfl, later⟩ := List.cons.inj shown
          obtain ⟨same, rfl⟩ := eq_of_head low front
          exact ⟨rest, by rw [← same]; simp, later⟩
      · obtain ⟨rfl, -⟩ := List.cons.inj shown
        exact absurd low (by decide)

/-- A character of ASCII is shown only where it is among the bytes. -/
theorem mem_of_mem_lossyChars {bytes : Bytes} {skip : Nat} {x : Char}
    (low : 0 < x.toNat ∧ x.toNat < 0x80) (shown : x ∈ lossyChars bytes skip) :
    x.toNat.toUInt8 ∈ bytes := by
  induction bytes generalizing skip with
  | nil => cases shown
  | cons b rest ih =>
      cases skip with
      | succ skip => exact .tail b (ih shown)
      | zero =>
          rw [lossyChars] at shown
          split at shown
          · next front =>
              rcases List.mem_cons.mp shown with rfl | later
              · rw [← (eq_of_head low front).1]
                simp
              · exact .tail b (ih later)
          · rcases List.mem_cons.mp shown with rfl | later
            · exact absurd low (by decide)
            · exact .tail b (ih later)

theorem eq_nil_of_lossyChars {bytes : Bytes} (shown : lossyChars bytes 0 = []) : bytes = [] := by
  cases bytes with
  | nil => rfl
  | cons b rest =>
      rw [lossyChars] at shown
      split at shown <;> cases shown

end Utf8

end Harvest
