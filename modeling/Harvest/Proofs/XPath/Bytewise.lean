import Mathlib
import Harvest.Proofs.Text.Utf8
import Harvest.Proofs.XPath.Tiling

/-!
# Tokens among bytes

All characters that tell tokens apart are single bytes.  The other characters go on with a name or
stand in a literal, and so does each of their bytes if it is taken for a character of its own.  The
tokens of an expression can therefore be looked for among its bytes, one byte at a time, and the
texts that they hold be cut out of it by byte offsets: none of these offsets is inside a character.
-/

namespace Harvest.XPath

open Harvest.Text (isAsciiBlank)

/-! ## Texts cut by bytes -/

/-- The part of a text from one byte offset to another, unless one of them is inside a character. -/
def slice? (source : String) (start stop : Nat) : Option String :=
  if String.Pos.Raw.isValid source ⟨start⟩ && String.Pos.Raw.isValid source ⟨stop⟩ &&
      decide (start ≤ stop) then
    some (String.Pos.Raw.extract source ⟨start⟩ ⟨stop⟩)
  else none

theorem isValid_width {source : String} {front rest : List Char}
    (own : source.toList = front ++ rest) : String.Pos.Raw.IsValid source ⟨width front⟩ := by
  rw [String.Pos.Raw.isValid_iff_exists_append]
  exact ⟨String.ofList front, String.ofList rest,
    by rw [← String.ofList_append, ← own, String.ofList_toList], rfl⟩

theorem slice?_eq {source : String} {front part rest : List Char}
    (own : source.toList = front ++ (part ++ rest)) :
    slice? source (width front) (width front + width part) = some (String.ofList part) := by
  have start := isValid_width own
  have stop : String.Pos.Raw.IsValid source ⟨width front + width part⟩ := by
    rw [← width_append]
    exact isValid_width (own.trans (List.append_assoc _ _ _).symm)
  rw [slice?, String.Pos.Raw.isValid_eq_true_iff.mpr start,
    String.Pos.Raw.isValid_eq_true_iff.mpr stop, decide_eq_true (Nat.le_add_right _ _)]
  have whole := String.extract_of_valid front part rest
  rw [← String.utf8ByteSize_ofList, ← String.utf8ByteSize_ofList, List.append_assoc, ← own,
    String.ofList_toList] at whole
  exact congrArg some whole

/-! ## Bytes as characters -/

/-- The bytes of a text, each as a character of its own. -/
def spread (cs : List Char) : List Char := (cs.flatMap String.utf8EncodeChar).map UInt8.toChar

theorem spread_append (cs ds : List Char) : spread (cs ++ ds) = spread cs ++ spread ds := by
  rw [spread, List.flatMap_append, List.map_append, spread, spread]

theorem spread_cons (c : Char) (cs : List Char) : spread (c :: cs) = spread [c] ++ spread cs :=
  spread_append [c] cs

theorem spread_of_bytes {cs : List Char} {b : UInt8} {bs : Bytes}
    (bytes : cs.flatMap String.utf8EncodeChar = b :: bs) :
    spread cs = b.toChar :: bs.map UInt8.toChar := by
  rw [spread, bytes, List.map_cons]

theorem exists_spread_cons (c : Char) (cs : List Char) : ∃ x xs, spread (c :: cs) = x :: xs := by
  refine List.exists_cons_of_ne_nil ?_
  simp [spread]

theorem length_spread (cs : List Char) : (spread cs).length = width cs := by
  rw [spread, List.length_map, ← Bytes.ofString_ofList, Bytes.length_ofString, width]

theorem spread_singleton (c : Char) : spread [c] = (Utf8.encode c.toNat).map UInt8.toChar := by
  rw [spread, List.flatMap_singleton, Utf8.encode_toNat]

theorem spread_low {c : Char} (low : c.toNat < 128) : spread [c] = [c] := by
  have byte : c.toNat.toUInt8.toNat = c.toNat := Utf8.toNat_toUInt8 (by omega)
  rw [spread_singleton, Utf8.encode, if_pos low, List.map_singleton, List.singleton_inj,
    ← Char.toNat_inj]
  exact byte

theorem le_of_mem_spread {c x : Char} (high : 128 ≤ c.toNat) (member : x ∈ spread [c]) :
    128 ≤ x.toNat := by
  rw [spread_singleton, List.mem_map] at member
  obtain ⟨b, byte, rfl⟩ := member
  exact Utf8.le_of_mem_encode high byte

theorem width_low {c : Char} (low : c.toNat < 128) : width [c] = 1 := by
  rw [← length_spread, spread_low low, List.length_singleton]

theorem spread_of_low {cs : List Char} (low : ∀ c ∈ cs, c.toNat < 128) : spread cs = cs := by
  induction cs with
  | nil => rfl
  | cons c cs ih =>
      obtain ⟨first, others⟩ := List.forall_mem_cons.mp low
      rw [spread_cons, spread_low first, ih others, List.singleton_append]

/-- A byte at the front is the first character, unless this has several bytes. -/
theorem cases_head_spread {cs more : List Char} {x : Char} (front : spread cs = x :: more) :
    ∃ c rest, cs = c :: rest ∧
      (c.toNat < 128 ∧ x = c ∧ more = spread rest ∨ 128 ≤ c.toNat ∧ 128 ≤ x.toNat) := by
  cases cs with
  | nil => cases front
  | cons c rest =>
      refine ⟨c, rest, rfl, ?_⟩
      rw [spread_cons] at front
      by_cases low : c.toNat < 128
      · rw [spread_low low] at front
        obtain ⟨rfl, rfl⟩ := List.cons.inj front
        exact .inl ⟨low, rfl, rfl⟩
      · have high : 128 ≤ c.toNat := Nat.le_of_not_lt low
        obtain ⟨d, ds, own⟩ := exists_spread_cons c []
        rw [own] at front
        obtain ⟨rfl, -⟩ := List.cons.inj front
        exact .inr ⟨high, le_of_mem_spread high (own ▸ List.mem_cons_self)⟩

theorem forall_mem_spread {p : Char → Bool} (all : ∀ x : Char, 128 ≤ x.toNat → p x = true)
    {cs : List Char} (passes : ∀ c ∈ cs, p c = true) : ∀ x ∈ spread cs, p x = true := by
  induction cs with
  | nil => exact nofun
  | cons c cs ih =>
      obtain ⟨first, others⟩ := List.forall_mem_cons.mp passes
      intro x member
      rw [spread_cons, List.mem_append] at member
      rcases member with own | later
      · by_cases low : c.toNat < 128
        · rw [spread_low low, List.mem_singleton] at own
          rwa [own]
        · exact all x (le_of_mem_spread (Nat.le_of_not_lt low) own)
      · exact ih others x later

theorem mem_spread_iff {c : Char} (low : c.toNat < 128) {cs : List Char} :
    c ∈ spread cs ↔ c ∈ cs := by
  induction cs with
  | nil => rfl
  | cons d cs ih =>
      rw [spread_cons, List.mem_append, List.mem_cons, ih]
      refine or_congr_left ?_
      by_cases small : d.toNat < 128
      · rw [spread_low small, List.mem_singleton]
      · have high : 128 ≤ d.toNat := Nat.le_of_not_lt small
        constructor
        · intro member
          exact absurd (le_of_mem_spread high member) (Nat.not_le.mpr low)
        · rintro rfl
          exact absurd low small

theorem mem_head?_spread {c : Char} (low : c.toNat < 128) {cs : List Char} :
    c ∈ (spread cs).head? ↔ c ∈ cs.head? := by
  constructor
  · intro first
    obtain ⟨more, front⟩ := List.head?_eq_some_iff.mp first
    obtain ⟨d, rest, rfl, ⟨-, rfl, -⟩ | ⟨-, byte⟩⟩ := cases_head_spread front
    · rfl
    · exact absurd byte (Nat.not_le.mpr low)
  · intro first
    obtain ⟨rest, rfl⟩ := List.head?_eq_some_iff.mp first
    rw [spread_cons, spread_low low]
    rfl

/-- What no first character passes, no first byte passes, if it fails on all characters with
several bytes or the bytes of these. -/
theorem head_spread_fails {p : Char → Bool} {cs : List Char}
    (high : ∀ x y : Char, 128 ≤ x.toNat → 128 ≤ y.toNat → p x = p y)
    (fails : ∀ c ∈ cs.head?, p c = false) : ∀ x ∈ (spread cs).head?, p x = false := by
  intro x first
  obtain ⟨more, front⟩ := List.head?_eq_some_iff.mp first
  obtain ⟨c, rest, rfl, ⟨-, rfl, -⟩ | ⟨several, byte⟩⟩ := cases_head_spread front
  · exact fails x rfl
  · rw [high x c byte several]
    exact fails c rfl

namespace Token

variable {t : Token} {c : Char} {cs l rest : List Char} {n : Nat} {fault : Fault}

/-! ## Lexemes among bytes -/

theorem startsName_of_le {x : Char} (high : 128 ≤ x.toNat) : startsName x = true := by
  rw [startsName, Bool.or_eq_true, decide_eq_true_eq]
  exact .inr high

theorem continuesName_of_startsName {x : Char} (begins : startsName x = true) :
    continuesName x = true := by
  rw [continuesName, begins, Bool.true_or, Bool.true_or, Bool.true_or]

theorem continuesName_of_le {x : Char} (high : 128 ≤ x.toNat) : continuesName x = true :=
  continuesName_of_startsName (startsName_of_le high)

theorem isDigit_of_le {x : Char} (high : 128 ≤ x.toNat) : x.isDigit = false := by
  rw [Char.isDigit, Bool.and_eq_false_iff]
  refine .inr (decide_eq_false fun low => ?_)
  have low : x.toNat ≤ 57 := low
  omega

theorem low_of_symbol (written : t.symbol? = some l) : ∀ c ∈ l, c.toNat < 128 := by
  cases t <;> cases written <;> simp

theorem IsNumeral.low (numeral : IsNumeral l) : ∀ c ∈ l, c.toNat < 128 := by
  have digit {d : Char} (is : d.isDigit = true) : d.toNat < 128 := by
    by_contra high
    rw [isDigit_of_le (by omega)] at is
    cases is
  cases numeral with
  | whole digits filled => exact fun c member => digit (digits c member)
  | pointed digits decimals filled =>
      intro c member
      rcases List.mem_append.mp member with whole | fraction
      · exact digit (digits c whole)
      · rcases List.mem_cons.mp fraction with rfl | fraction
        · decide
        · exact digit (decimals c fraction)

/-- The bytes of a part of a name are a part of a name. -/
theorem exists_spread_eq_cons (begins : startsName c = true)
    (goesOn : ∀ d ∈ cs, continuesName d = true) :
    ∃ x xs, spread (c :: cs) = x :: xs ∧ startsName x = true ∧
      ∀ y ∈ xs, continuesName y = true := by
  have all : ∀ x ∈ spread (c :: cs), continuesName x = true :=
    forall_mem_spread (fun x => continuesName_of_le)
      (List.forall_mem_cons.mpr ⟨continuesName_of_startsName begins, goesOn⟩)
  obtain ⟨x, xs, front⟩ := exists_spread_cons c cs
  rw [front] at all
  refine ⟨x, xs, front, ?_, (List.forall_mem_cons.mp all).2⟩
  obtain ⟨d, rest, same, ⟨-, rfl, -⟩ | ⟨-, byte⟩⟩ := cases_head_spread front
  · rwa [← (List.cons.inj same).1]
  · exact startsName_of_le byte

theorem isName_spread (named : IsName l) : IsName (spread l) := by
  cases named with
  | plain begins goesOn =>
      obtain ⟨x, xs, front, first, others⟩ := exists_spread_eq_cons begins goesOn
      rw [front]
      exact .plain first others
  | prefixed begins goesOn again toEnd =>
      obtain ⟨x, xs, front, first, others⟩ := exists_spread_eq_cons begins goesOn
      obtain ⟨y, ys, behind, second, further⟩ := exists_spread_eq_cons again toEnd
      rw [spread_append, spread_cons ':', spread_low (by decide), front, behind]
      exact .prefixed first others second further

theorem ends_number_spread {x : Float} (ends : Ends (number x) l rest) :
    Ends (number x) l (spread rest) := by
  obtain ⟨stops, double, single⟩ := ends
  refine ⟨head_spread_fails ?_ stops, fun pointless more front => ?_, fun last => ?_⟩
  · intro x y hx hy
    rw [isDigit_of_le hx, isDigit_of_le hy]
  · obtain ⟨c, behind, rfl, ⟨-, rfl, rfl⟩ | ⟨-, byte⟩⟩ := cases_head_spread front
    · exact (mem_head?_spread (by decide)).mpr (double pointless behind rfl)
    · exact absurd byte (by decide)
  · exact mt (mem_head?_spread (by decide)).mp (single last)

theorem ends_name_spread {s s' : String} (ends : Ends (name s) l rest) :
    Ends (name s') (spread l) (spread rest) := by
  obtain ⟨stops, single⟩ := ends
  refine ⟨head_spread_fails ?_ stops, fun plain d more front => ?_⟩
  · intro x y hx hy
    rw [continuesName_of_le hx, continuesName_of_le hy]
  · obtain ⟨c, behind, rfl, ⟨-, rfl, later⟩ | ⟨-, byte⟩⟩ := cases_head_spread front
    · have colonless : ':' ∉ l := mt (mem_spread_iff (by decide)).mpr plain
      obtain ⟨e, after, rfl, ⟨-, rfl, -⟩ | ⟨several, byte⟩⟩ := cases_head_spread later.symm
      · exact single colonless d after rfl
      · have other := single colonless e after rfl
        rw [startsName_of_le several] at other
        cases other
    · exact absurd byte (by decide)

theorem ends_symbol_spread (written : t.symbol? = some l) (ends : Ends t l rest) :
    Ends t l (spread rest) := by
  cases t with
  | slash => exact mt (mem_head?_spread (by decide)).mp ends
  | less => exact mt (mem_head?_spread (by decide)).mp ends
  | greater => exact mt (mem_head?_spread (by decide)).mp ends
  | dot =>
      intro x first
      obtain ⟨more, front⟩ := List.head?_eq_some_iff.mp first
      obtain ⟨c, behind, rfl, ⟨-, rfl, -⟩ | ⟨-, byte⟩⟩ := cases_head_spread front
      · exact ends x rfl
      · exact ⟨fun same => absurd byte (by rw [same]; decide), isDigit_of_le byte⟩
  | number x => cases written
  | name s => cases written
  | _ => trivial

/-- Where a lexeme is read among characters, its bytes are read among bytes. -/
theorem first_spread {b : UInt8} {bs : Bytes} {u : Token}
    (bytes : (l ++ rest).flatMap String.utf8EncodeChar = b :: bs) (lexeme : IsLexeme u (spread l))
    (ends : Ends u (spread l) (spread rest)) :
    first b.toChar (bs.map UInt8.toChar) = .ok (u, width l) := by
  obtain ⟨x, xs, front⟩ := List.exists_cons_of_ne_nil lexeme.ne_nil
  have whole := spread_of_bytes bytes
  rw [spread_append, front, List.cons_append] at whole
  obtain ⟨rfl, behind⟩ := List.cons.inj whole
  rw [← length_spread, front, ← behind]
  rw [front] at lexeme ends
  exact first_of_lexeme lexeme ends

/-- The token at the front of the bytes `b :: bs`, which stand at byte offset `offset`, with its
number of bytes, where every byte is taken for a character of its own.  The text that a token or a
fault holds is cut out of the source; there is no result if that is inside a character. -/
def firstByte? (source : String) (offset : Nat) (b : UInt8) (bs : Bytes) :
    Option (Except Fault (Token × Nat)) :=
  match first b.toChar (bs.map UInt8.toChar) with
  | .ok (literal _, n) =>
      (slice? source (offset + 1) (offset + n - 1)).map fun s => .ok (literal s, n)
  | .ok (number _, n) =>
      (slice? source offset (offset + n)).map fun s => .ok (number (numeralValue s.toList), n)
  | .ok (name _, n) => (slice? source offset (offset + n)).map fun s => .ok (name s, n)
  | .ok (t, n) => some (.ok (t, n))
  | .error .openLiteral =>
      (slice? source (offset + 1) source.utf8ByteSize).map fun _ => .error .openLiteral
  | .error (.badCharacter _) =>
      (slice? source offset source.utf8ByteSize).map fun s =>
        .error (.badCharacter (s.toList.headD '?'))
  | .error fault => some (.error fault)

section Front

variable {source : String} {front : List Char} {b : UInt8} {bs : Bytes}

theorem firstByte?_of_lexeme (own : source.toList = front ++ (l ++ rest))
    (bytes : (l ++ rest).flatMap String.utf8EncodeChar = b :: bs) (lexeme : IsLexeme t l)
    (ends : Ends t l rest) :
    firstByte? source (width front) b bs = some (.ok (t, width l)) := by
  cases lexeme with
  | symbol written =>
      have low := spread_of_low (low_of_symbol written)
      have read := first_spread (u := t) bytes (by rw [low]; exact .symbol written)
        (by rw [low]; exact ends_symbol_spread written ends)
      rw [firstByte?, read]
      cases t <;> first | rfl | cases written
  | @literal quote inner quotes free =>
      have low : quote.toNat < 128 := by rcases quotes with rfl | rfl <;> decide
      have spelled : spread (quote :: (inner ++ [quote])) = quote :: (spread inner ++ [quote]) := by
        rw [spread_cons, spread_append, spread_low low, List.singleton_append]
      have read := first_spread (u := .literal (String.ofList (spread inner))) bytes
        (by rw [spelled]; exact .literal quotes (mt (mem_spread_iff low).mp free)) trivial
      have cut : source.toList = (front ++ [quote]) ++ (inner ++ ([quote] ++ rest)) := by
        rw [own]
        simp
      have start : width (front ++ [quote]) = width front + 1 := by
        rw [width_append, width_low low]
      have stop : width front + width (quote :: (inner ++ [quote])) - 1 =
          width (front ++ [quote]) + width inner := by
        rw [← List.singleton_append, width_append, width_append, width_append, width_low low]
        omega
      rw [firstByte?, read]
      dsimp only
      rw [stop, ← start, slice?_eq cut, Option.map_some]
  | number numeral =>
      have low := spread_of_low numeral.low
      have read := first_spread (u := .number (numeralValue l)) bytes
        (by rw [low]; exact .number numeral) (by rw [low]; exact ends_number_spread ends)
      rw [firstByte?, read]
      dsimp only
      rw [slice?_eq own, Option.map_some, String.toList_ofList]
  | name named =>
      have read := first_spread (u := .name (String.ofList (spread l))) bytes
        (.name (isName_spread named)) (ends_name_spread ends)
      rw [firstByte?, read]
      dsimp only
      rw [slice?_eq own, Option.map_some]

theorem firstByte?_of_isFaulty (own : source.toList = front ++ c :: cs)
    (bytes : (c :: cs).flatMap String.utf8EncodeChar = b :: bs) (faulty : IsFaulty c cs fault) :
    firstByte? source (width front) b bs = some (.error fault) := by
  have small : c.toNat < 128 := by
    by_contra high
    have begins := startsName_of_le (x := c) (by omega)
    cases faulty with
    | equalMissing other => exact absurd begins (by decide)
    | loneColon other => exact absurd begins (by decide)
    | openLiteral quotes free =>
        rcases quotes with rfl | rfl <;> exact absurd begins (by decide)
    | badCharacter unmarked unquoted undigited unnamed =>
        rw [unnamed] at begins
        cases begins
  have whole := spread_of_bytes bytes
  rw [spread_cons, spread_low small, List.singleton_append] at whole
  obtain ⟨same, behind⟩ := List.cons.inj whole
  have stop : source.utf8ByteSize = width front + width (c :: cs) := by
    rw [← width_append, ← own, width, String.ofList_toList]
  have all : source.toList = front ++ (c :: cs ++ []) := by rw [own, List.append_nil]
  rw [firstByte?, ← same, ← behind]
  cases faulty with
  | equalMissing other =>
      rw [first_eq_error_iff.mpr (.equalMissing (mt (mem_head?_spread (by decide)).mp other))]
  | loneColon other =>
      rw [first_eq_error_iff.mpr (.loneColon (mt (mem_head?_spread (by decide)).mp other))]
  | openLiteral quotes free =>
      rw [first_eq_error_iff.mpr (.openLiteral quotes (mt (mem_spread_iff small).mp free))]
      dsimp only
      have cut : source.toList = (front ++ [c]) ++ (cs ++ []) := by simp [own]
      have start : width (front ++ [c]) = width front + 1 := by
        rw [width_append, width_low small]
      have last : source.utf8ByteSize = width (front ++ [c]) + width cs := by
        rw [stop, width_append, ← List.singleton_append, width_append, Nat.add_assoc]
      rw [last, ← start, slice?_eq cut, Option.map_some]
  | badCharacter unmarked unquoted undigited unnamed =>
      rw [first_eq_error_iff.mpr (.badCharacter unmarked unquoted undigited unnamed)]
      dsimp only
      rw [stop, slice?_eq all, Option.map_some, String.toList_ofList, List.headD_cons]

end Front

/-! ## Whole expressions -/

/-- The tokens of the bytes from byte offset `offset` on, the first `skip` of which belong to a
token that has been read already. -/
def scanBytes? (source : String) (offset skip : Nat) : Bytes → Option (Except Error (List Placed))
  | [] => some (.ok [])
  | b :: bs =>
      match skip with
      | skip + 1 => scanBytes? source (offset + 1) skip bs
      | 0 =>
          if isAsciiBlank b.toChar then scanBytes? source (offset + 1) 0 bs
          else
            match firstByte? source offset b bs with
            | none => none
            | some (.error fault) => some (.error ⟨fault, offset⟩)
            | some (.ok (t, width)) =>
                match scanBytes? source (offset + 1) (width - 1) bs with
                | none => none
                | some (.error e) => some (.error e)
                | some (.ok rest) => some (.ok (⟨t, offset⟩ :: rest))

theorem scanBytes?_skip (source : String) (offset : Nat) (bs cs : Bytes) :
    scanBytes? source offset bs.length (bs ++ cs) =
      scanBytes? source (offset + bs.length) 0 cs := by
  induction bs generalizing offset with
  | nil => rfl
  | cons b bs ih =>
      rw [List.cons_append, List.length_cons, scanBytes?, ih, Nat.add_assoc, Nat.add_comm 1]

theorem isAsciiBlank_low (blank : isAsciiBlank c = true) : c.toNat < 128 := by
  have white := mem_of_isAsciiBlank blank
  fin_cases white <;> decide

/-- A blank is a single byte, and no other character begins with such a byte. -/
theorem isAsciiBlank_toChar {b : UInt8} {bs : Bytes}
    (bytes : (c :: cs).flatMap String.utf8EncodeChar = b :: bs) :
    isAsciiBlank b.toChar = isAsciiBlank c := by
  have whole := spread_of_bytes bytes
  obtain ⟨d, rest, same, ⟨-, own, -⟩ | ⟨several, byte⟩⟩ := cases_head_spread whole
  · rw [own, (List.cons.inj same).1]
  · obtain ⟨rfl, -⟩ := List.cons.inj same
    have apart {x : Char} (high : 128 ≤ x.toNat) : isAsciiBlank x = false :=
      Bool.eq_false_iff.mpr fun blank => absurd (isAsciiBlank_low blank) (Nat.not_lt.mpr high)
    rw [apart several, apart byte]

/-- The bytes of a text that begins with `l` are those of `l` and those behind it. -/
theorem exists_tail {b : UInt8} {bs : Bytes} (filled : l ≠ [])
    (bytes : (l ++ rest).flatMap String.utf8EncodeChar = b :: bs) :
    ∃ tail, bs = tail ++ rest.flatMap String.utf8EncodeChar ∧ tail.length + 1 = width l := by
  have size : (l.flatMap String.utf8EncodeChar).length = width l := by
    rw [← length_spread, spread, List.length_map]
  have positive := width_pos filled
  rw [List.flatMap_append] at bytes
  generalize l.flatMap String.utf8EncodeChar = front at size bytes
  cases front with
  | nil =>
      rw [List.length_nil] at size
      omega
  | cons x tail =>
      rw [List.cons_append] at bytes
      exact ⟨tail, (List.cons.inj bytes).2.symm, size⟩

/-- Character by character and byte by byte one finds the same. -/
theorem scanBytes?_eq {source : String} {front cs : List Char}
    (own : source.toList = front ++ cs) :
    scanBytes? source (width front) 0 (cs.flatMap String.utf8EncodeChar) =
      some (scan (width front) 0 cs) := by
  induction size : cs.length using Nat.strong_induction_on generalizing front cs with
  | _ n ih =>
  cases cs with
  | nil => rfl
  | cons c cs =>
      obtain ⟨b, bs, bytes⟩ : ∃ b bs, (c :: cs).flatMap String.utf8EncodeChar = b :: bs := by
        refine List.exists_cons_of_ne_nil ?_
        simp
      rw [bytes, scanBytes?, scan, isAsciiBlank_toChar bytes]
      split
      · next blank =>
          have single := width_low (isAsciiBlank_low blank)
          obtain ⟨tail, rfl, one⟩ := exists_tail (l := [c]) (List.cons_ne_nil c []) bytes
          obtain rfl : tail = [] := List.length_eq_zero_iff.mp (by omega)
          have further : source.toList = (front ++ [c]) ++ cs := by
            rw [own, List.append_assoc, List.singleton_append]
          have shorter : cs.length < n := size ▸ Nat.lt_succ_self _
          have later := ih cs.length shorter further rfl
          rw [width_append, single] at later
          have small : c.utf8Size = 1 := (width_cons c []).symm.trans single
          rw [List.nil_append, later, small]
      · cases begun : first c cs with
        | error fault =>
            rw [firstByte?_of_isFaulty own bytes (isFaulty_of_first begun)]
        | ok next =>
            obtain ⟨t, k⟩ := next
            obtain ⟨l, rest, rfl, rfl, lexeme, ends⟩ := exists_of_first begun
            obtain ⟨tail, rfl, more⟩ := exists_tail (l := c :: l) lexeme.ne_nil bytes
            rw [firstByte?_of_lexeme (l := c :: l) own bytes lexeme ends]
            have further : source.toList = (front ++ c :: l) ++ rest := by
              rw [own, List.append_assoc, List.cons_append]
            have shorter : rest.length < n := by
              rw [← size, List.length_cons, List.length_append]
              omega
            have later := ih rest.length shorter further rfl
            rw [width_append] at later
            dsimp only
            rw [← more, Nat.add_sub_cancel, scanBytes?_skip, Nat.add_assoc, Nat.add_comm 1, more, later,
              List.length_cons, Nat.add_sub_cancel, scan_skip, Nat.add_assoc, ← width_cons]
            cases scan (width front + width (c :: l)) 0 rest <;> rfl

end Token

/-- The tokens of an expression, looked for among its bytes. -/
def bytewiseTokens? (source : String) : Option (Except Error (List Placed)) :=
  Token.scanBytes? source 0 0 (Bytes.ofString source)

/-- Looking for tokens among bytes never cuts a character, and finds the tokens. -/
theorem bytewiseTokens?_eq (source : String) : bytewiseTokens? source = some (tokens source) := by
  rw [bytewiseTokens?, Bytes.ofString_eq]
  have own : source.toList = [] ++ source.toList := rfl
  exact Token.scanBytes?_eq own

end Harvest.XPath
