import Mathlib
import Harvest.Proofs.Text.Utf8

/-!
# Texts inside texts

Whether one looks for a text among the characters of another or for its bytes among the bytes of the
other, one finds it at the same places.  No character begins inside the bytes of another, so the
bytes of a text that is not empty begin and end where characters do.
-/

namespace Harvest

namespace Utf8

/-- Where bytes begin with the encoding of a text, the text that they encode begins with it. -/
theorem exists_of_encoding_append {cs ds : List Char} {rest : Bytes}
    (same : cs.flatMap String.utf8EncodeChar ++ rest = ds.flatMap String.utf8EncodeChar) :
    ∃ es, ds = cs ++ es ∧ rest = es.flatMap String.utf8EncodeChar := by
  induction cs generalizing ds with
  | nil => exact ⟨ds, rfl, same⟩
  | cons c cs ih =>
      rw [List.flatMap_cons, List.append_assoc, ← encode_toNat] at same
      obtain ⟨lead, tail, bytes, front⟩ := head_encode c (cs.flatMap String.utf8EncodeChar ++ rest)
      cases ds with
      | nil =>
          rw [bytes] at same
          cases same
      | cons d ds =>
          rw [List.flatMap_cons, ← encode_toNat] at same
          obtain ⟨lead', tail', bytes', front'⟩ := head_encode d (ds.flatMap String.utf8EncodeChar)
          have own := same
          rw [bytes, bytes', List.cons_append, List.cons_append] at own
          obtain ⟨rfl, behind⟩ := List.cons.inj own
          rw [behind, front'] at front
          obtain rfl : d = c := (Head.char.inj front).1
          obtain ⟨es, rfl, rest⟩ := ih (List.append_cancel_left same)
          exact ⟨es, rfl, rest⟩

theorem isUTF8FirstByte_of_mem_head? {c : Char} :
    ∀ b ∈ (String.utf8EncodeChar c).head?, b.IsUTF8FirstByte := by
  intro b first
  rw [List.head?_eq_getElem?] at first
  obtain ⟨-, rfl⟩ := List.getElem?_eq_some_iff.mp first
  exact UInt8.isUTF8FirstByte_getElem_zero_utf8EncodeChar

/-- No character begins inside the encoding of another. -/
theorem eq_nil_of_isUTF8FirstByte {c : Char} {b : UInt8} {before after : Bytes}
    (whole : String.utf8EncodeChar c = before ++ b :: after) (begins : b.IsUTF8FirstByte) :
    before = [] := by
  have bound : before.length < (String.utf8EncodeChar c).length := by
    rw [whole, List.length_append, List.length_cons]
    omega
  have own : (String.utf8EncodeChar c)[before.length] = b := by simp [whole]
  rw [← own, UInt8.isUTF8FirstByte_getElem_utf8EncodeChar] at begins
  exact List.length_eq_zero_iff.mp begins

/-- An encoding that is not empty stands among the bytes of another only where its characters stand
among those of the other. -/
theorem exists_of_encoding_eq_append {part cs : List Char} {before after : Bytes}
    (filled : part ≠ [])
    (same : cs.flatMap String.utf8EncodeChar =
      before ++ (part.flatMap String.utf8EncodeChar ++ after)) :
    ∃ us vs, cs = us ++ (part ++ vs) ∧ before = us.flatMap String.utf8EncodeChar ∧
      after = vs.flatMap String.utf8EncodeChar := by
  induction cs generalizing before with
  | nil =>
      obtain ⟨p, part, rfl⟩ := List.exists_cons_of_ne_nil filled
      have none : String.utf8EncodeChar p = [] := by
        have empty := (List.append_eq_nil_iff.mp (List.append_eq_nil_iff.mp same.symm).2).1
        rw [List.flatMap_cons] at empty
        exact (List.append_eq_nil_iff.mp empty).1
      exact absurd none String.utf8EncodeChar_ne_nil
  | cons c cs ih =>
      -- the part begins behind the first character, or else with it
      have later {e : Bytes} (own : before = String.utf8EncodeChar c ++ e)
          (behind : cs.flatMap String.utf8EncodeChar =
            e ++ (part.flatMap String.utf8EncodeChar ++ after)) :
          ∃ us vs, c :: cs = us ++ (part ++ vs) ∧ before = us.flatMap String.utf8EncodeChar ∧
            after = vs.flatMap String.utf8EncodeChar := by
        obtain ⟨us, vs, rfl, rfl, rfl⟩ := ih behind
        exact ⟨c :: us, vs, rfl, own, rfl⟩
      rw [List.flatMap_cons, List.append_eq_append_iff] at same
      rcases same with ⟨e, own, behind⟩ | ⟨e, own, behind⟩
      · exact later own behind
      · cases e with
        | nil =>
            rw [List.append_nil] at own
            exact later (e := []) (by rw [own, List.append_nil]) behind.symm
        | cons b e =>
            have begins : b.IsUTF8FirstByte := by
              obtain ⟨p, part, rfl⟩ := List.exists_cons_of_ne_nil filled
              refine isUTF8FirstByte_of_mem_head? (c := p) b ?_
              have first := congrArg List.head? behind
              rw [List.flatMap_cons, List.append_assoc,
                List.head?_append_of_ne_nil _ String.utf8EncodeChar_ne_nil] at first
              exact first
            obtain rfl : before = [] := eq_nil_of_isUTF8FirstByte own begins
            rw [List.nil_append] at own
            rw [← own, ← List.flatMap_cons] at behind
            obtain ⟨vs, whole, rfl⟩ := exists_of_encoding_append behind
            exact ⟨[], vs, whole, rfl, rfl⟩

end Utf8

/-- The bytes of a text that is not empty stand among those of another only where the text stands
inside the other. -/
theorem Bytes.exists_of_ofString_eq_append {s t : String} {before after : Bytes} (filled : t ≠ "")
    (same : ofString s = before ++ (ofString t ++ after)) :
    ∃ u v, s = u ++ (t ++ v) ∧ before = ofString u ∧ after = ofString v := by
  rw [ofString_eq, ofString_eq t] at same
  have filled : t.toList ≠ [] := fun none => filled (String.toList_eq_nil_iff.mp none)
  obtain ⟨us, vs, whole, rfl, rfl⟩ := Utf8.exists_of_encoding_eq_append filled same
  refine ⟨String.ofList us, String.ofList vs, ?_, (ofString_ofList us).symm,
    (ofString_ofList vs).symm⟩
  rw [← String.toList_inj, whole]
  simp

end Harvest
