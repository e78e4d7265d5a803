import Mathlib
import Harvest.Capture.Archive
import Harvest.Proofs.Folder
import Harvest.Proofs.Text.FormEncoding

/-!
# Names of captured pages

The file of a page is named by the encoded address, or by its digest if that is too long.  Which of
the two it is shows in the first character.  No two addresses go by one name unless their digests
collide, but the name of an address and that of its address file may well be those of two pages.
-/

namespace Harvest.Archive

variable {u v : String}

/-- The digest of an address. -/
def digest (url : String) : Bytes := Sha256.digest (Bytes.ofString url)

/-- Whether an address goes by its digest, because it is too long for a name of its own. -/
def Long (url : String) : Prop := longestPlainName < (FormEncoding.encode url).utf8ByteSize

instance : DecidablePred Long := fun _ => inferInstanceAs (Decidable (_ < _))

theorem fileName_of_long (long : Long u) : fileName u = hashedName u := if_neg (not_le.mpr long)

theorem fileName_of_short (short : ¬Long u) : fileName u = FormEncoding.encode u :=
  if_pos (not_lt.mp short)

/-! ## Digests in hexadecimal -/

theorem digitChar_injective :
    ∀ m < 16, ∀ n < 16, Nat.digitChar m = Nat.digitChar n → m = n := by decide

theorem hexText_injective {a b : Bytes} (same : hexText a = hexText b) : a = b := by
  have chars := String.ofList_injective same
  clear same
  induction a generalizing b with
  | nil =>
      cases b with
      | nil => rfl
      | cons y b => cases chars
  | cons x a ih =>
      cases b with
      | nil => cases chars
      | cons y b =>
          simp only [List.flatMap_cons, List.cons_append, List.nil_append, List.cons.injEq]
            at chars
          obtain ⟨upper, lower, rest⟩ := chars
          have smallX : x.toNat < 256 := x.toNat_lt
          have smallY : y.toNat < 256 := y.toNat_lt
          have high := digitChar_injective _ (by omega) _ (by omega) upper
          have low := digitChar_injective _ (by omega) _ (by omega) lower
          obtain rfl : x = y := UInt8.toNat_inj.mp (by omega)
          rw [ih rest]

/-- Neither the tilde nor the letters of the ending of an address file are digits. -/
theorem digitChar_foreign :
    ∀ n < 16, FormEncoding.isCode (Nat.digitChar n) = true ∧ Nat.digitChar n ≠ 'l' := by decide

theorem of_mem_hexText {bytes : Bytes} {c : Char} (member : c ∈ (hexText bytes).toList) :
    FormEncoding.isCode c = true ∧ c ≠ 'l' := by
  rw [hexText, String.toList_ofList] at member
  obtain ⟨b, -, digit⟩ := List.mem_flatMap.mp member
  have small : b.toNat < 256 := b.toNat_lt
  rcases List.mem_cons.mp digit with rfl | digit
  · exact digitChar_foreign _ (by omega)
  · obtain rfl := List.mem_singleton.mp digit
    exact digitChar_foreign _ (by omega)

theorem length_digest (message : Bytes) : (Sha256.digest message).length = 32 := by
  simp [Sha256.digest, Sha256.bigEndian]

theorem utf8ByteSize_hexText (bytes : Bytes) : (hexText bytes).utf8ByteSize = 2 * bytes.length := by
  rw [FormEncoding.utf8ByteSize_of_isCode fun c member => (of_mem_hexText member).1, hexText,
    String.toList_ofList, List.length_flatMap]
  simp [mul_comm]

theorem utf8ByteSize_hashedName (url : String) : (hashedName url).utf8ByteSize = 65 := by
  rw [hashedName, String.utf8ByteSize_append, utf8ByteSize_hexText, length_digest]
  rfl

theorem toList_hashedName (url : String) :
    (hashedName url).toList = '~' :: (hexText (digest url)).toList := by
  rw [hashedName, String.toList_append]
  rfl

theorem hashedName_injective (same : hashedName u = hashedName v) : digest u = digest v := by
  have chars := congrArg String.toList same
  rw [toList_hashedName, toList_hashedName] at chars
  exact hexText_injective (String.toList_injective (List.cons.inj chars).2)

/-! ## Which addresses go by which names -/

theorem isHashed_iff {name : String} : isHashed name = true ↔ name.toList.head? = some '~' := by
  rw [isHashed, String.startsWith_string_iff]
  cases name.toList <;> simp [eq_comm]

theorem isHashed_encode (url : String) : isHashed (FormEncoding.encode url) = false := by
  refine eq_false_of_ne_true fun hashed => ?_
  have tilde := FormEncoding.isCode_of_mem_encode (List.mem_of_mem_head? (isHashed_iff.mp hashed))
  exact absurd tilde (by decide)

theorem isHashed_fileName : isHashed (fileName u) = true ↔ Long u := by
  by_cases long : Long u
  · rw [fileName_of_long long, isHashed_iff, toList_hashedName]
    simp [long]
  · rw [fileName_of_short long, isHashed_encode]
    simp [long]

/-- Different addresses go by one name only if both go by their digests and these collide. -/
theorem fileName_eq_iff :
    fileName u = fileName v ↔ u = v ∨ Long u ∧ Long v ∧ digest u = digest v := by
  constructor
  · intro same
    have agree : Long u ↔ Long v := by rw [← isHashed_fileName, same, isHashed_fileName]
    by_cases long : Long u
    · rw [fileName_of_long long, fileName_of_long (agree.mp long)] at same
      exact .inr ⟨long, agree.mp long, hashedName_injective same⟩
    · rw [fileName_of_short long, fileName_of_short (agree.not.mp long)] at same
      exact .inl (FormEncoding.encode_injective same)
  · rintro (rfl | ⟨longU, longV, collision⟩)
    · rfl
    · rw [fileName_of_long longU, fileName_of_long longV, hashedName, hashedName]
      exact congrArg (fun bytes => "~" ++ hexText bytes) collision

theorem isHashed_addressName (long : Long u) : isHashed (addressName (fileName u)) = true := by
  rw [fileName_of_long long, isHashed_iff, addressName, String.toList_append, toList_hashedName]
  rfl

theorem mem_toList_addressName (name : String) : 'l' ∈ (addressName name).toList := by
  rw [addressName, String.toList_append]
  exact List.mem_append_right _ (by decide)

theorem not_mem_toList_fileName (long : Long u) : 'l' ∉ (fileName u).toList := by
  rw [fileName_of_long long, toList_hashedName]
  intro member
  rcases List.mem_cons.mp member with tilde | digit
  · exact absurd tilde (by decide)
  · exact (of_mem_hexText digit).2 rfl

/-- The name of the address file of an address that goes by its digest is that of no page. -/
theorem fileName_ne_addressName (long : Long u) : fileName v ≠ addressName (fileName u) := by
  intro same
  have longV : Long v := by
    rw [← isHashed_fileName, same]
    exact isHashed_addressName long
  have ending := mem_toList_addressName (fileName u)
  rw [← same] at ending
  exact not_mem_toList_fileName longV ending

theorem encode_address (url : String) :
    FormEncoding.encode (url ++ ".url") = addressName (FormEncoding.encode url) := by
  have ending : FormEncoding.encode ".url" = ".url" := by decide
  rw [FormEncoding.encode_append, ending, addressName]

/-- The address file of an address has the name of a page if this is that of the address with the
ending of address files. -/
theorem fileName_eq_addressName_iff :
    fileName v = addressName (fileName u) ↔ v = u ++ ".url" ∧ ¬Long v := by
  constructor
  · intro same
    have shortU : ¬Long u := fun long => fileName_ne_addressName long same
    rw [fileName_of_short shortU, ← encode_address] at same
    have shortV : ¬Long v := by
      rw [← isHashed_fileName, same, isHashed_encode]
      exact Bool.false_ne_true
    rw [fileName_of_short shortV] at same
    exact ⟨FormEncoding.encode_injective same, shortV⟩
  · rintro ⟨rfl, shortV⟩
    have shortU : ¬Long u := by
      intro long
      refine shortV (lt_of_lt_of_le long ?_)
      rw [FormEncoding.encode_append, String.utf8ByteSize_append]
      exact Nat.le_add_right _ _
    rw [fileName_of_short shortV, fileName_of_short shortU, encode_address]

theorem addressName_injective {name other : String} (same : addressName name = addressName other) :
    name = other := by
  have chars := congrArg String.toList same
  rw [addressName, addressName, String.toList_append, String.toList_append] at chars
  exact String.toList_injective (List.append_cancel_right chars)

/-! ## Names that can be used -/

theorem utf8ByteSize_fileName_le (url : String) :
    (fileName url).utf8ByteSize ≤ longestPlainName := by
  by_cases long : Long url
  · rw [fileName_of_long long, utf8ByteSize_hashedName]
    decide
  · rw [fileName_of_short long]
    exact not_lt.mp long

theorem usable_addressName (url : String) : Folder.Usable (addressName (fileName url)) := by
  have size : (addressName (fileName url)).utf8ByteSize = (fileName url).utf8ByteSize + 4 := by
    rw [addressName, String.utf8ByteSize_append]
    rfl
  have bound := utf8ByteSize_fileName_le url
  refine ⟨fun reserved => ?_, ?_⟩
  · have short : ∀ name ∈ ["", ".", ".."], name.utf8ByteSize < 4 := by decide
    have contradictory := short _ reserved
    omega
  · rw [size]
    exact (Nat.add_le_add_right bound 4).trans (by decide)

theorem fileName_of_reserved :
    ∀ name ∈ ["", ".", ".."], fileName name = name ∧ ¬Long name := by decide

/-- Each address has a usable name but the empty one and those of one or two dots. -/
theorem usable_fileName_iff : Folder.Usable (fileName u) ↔ u ∉ ["", ".", ".."] := by
  constructor
  · intro usable reserved
    refine usable.1 ?_
    rwa [(fileName_of_reserved u reserved).1]
  · intro free
    refine ⟨fun reserved => ?_, (utf8ByteSize_fileName_le u).trans (by decide)⟩
    obtain ⟨fixed, short⟩ := fileName_of_reserved _ reserved
    rcases fileName_eq_iff.mp fixed with same | ⟨long, -⟩
    · exact free (same ▸ reserved)
    · exact short long

/-! ## What a name tells -/

/-- Names stay inside the folder. -/
theorem slash_not_mem_fileName (url : String) : '/' ∉ (fileName url).toList := by
  have foreign : FormEncoding.isCode '/' = false := by decide
  intro slash
  by_cases long : Long url
  · rw [fileName_of_long long, toList_hashedName] at slash
    rcases List.mem_cons.mp slash with tilde | digit
    · exact absurd tilde (by decide)
    · exact Bool.false_ne_true (foreign.symm.trans (of_mem_hexText digit).1)
  · rw [fileName_of_short long] at slash
    exact Bool.false_ne_true (foreign.symm.trans (FormEncoding.isCode_of_mem_encode slash))

/-- A name of at most 200 bytes, read as a form, is the address that it was made from, and cannot be
taken for a digest.  Different addresses of any length have different names, unless both are too long
for names of their own and have the same digest. -/
theorem fileName_decodes :
    (∀ u, u ≠ "" → (FormEncoding.encode u).utf8ByteSize ≤ 200 →
      FormEncoding.firstName? (fileName u) = some u ∧ (fileName u).startsWith "~" = false ∧
        '/' ∉ (fileName u).toList) ∧
    ∀ u v, u ≠ v → (fileName u = fileName v ↔ Long u ∧ Long v ∧ digest u = digest v) := by
  constructor
  · intro u filled fits
    have short : ¬Long u := not_lt.mpr fits
    have plain : isHashed (fileName u) = false :=
      eq_false_of_ne_true (isHashed_fileName.not.mpr short)
    refine ⟨?_, plain, slash_not_mem_fileName u⟩
    rw [fileName_of_short short]
    exact FormEncoding.firstName?_encode filled
  · intro u v different
    rw [fileName_eq_iff, or_iff_right different]

theorem fileName_decodes_tilde :
    fileName "~é&b=c+d %/" = "%7E%C3%A9%26b%3Dc%2Bd+%25%2F" ∧
    FormEncoding.firstName? "%7E%C3%A9%26b%3Dc%2Bd+%25%2F" = some "~é&b=c+d %/" ∧
    ¬Long "~" ∧ fileName "~é&b=c+d %/" ≠ fileName "~" := by
  have name : fileName "~é&b=c+d %/" = "%7E%C3%A9%26b%3Dc%2Bd+%25%2F" := by decide
  have short : ¬Long "~" := by decide
  obtain ⟨decodes, collides⟩ := fileName_decodes
  obtain ⟨address, -⟩ := decodes "~é&b=c+d %/" (by decide) (by decide)
  exact ⟨name, name ▸ address, short, fun same =>
    short ((collides "~é&b=c+d %/" "~" (by decide)).mp same).2.1⟩

end Harvest.Archive
