import Mathlib
import Harvest.Proofs.XPath.Lexeme
import Harvest.Proofs.XPath.Offsets

/-!
# Tokens tile the expression

An expression that has tokens is a sequence of pieces, each of some blanks with a lexeme behind
them, and further blanks at its end.  The tokens are those of the lexemes, each at the byte offset
of its lexeme.  More blanks between the lexemes move the tokens and change nothing else.
-/

namespace Harvest.XPath

open Harvest.Text (isAsciiBlank)

/-- A token as it stands in an expression, with the blanks in front of it. -/
structure Piece where
  gap : List Char
  token : Token
  lexeme : List Char

/-- The text of pieces, with `tail` behind the last. -/
def spelled (tail : List Char) : List Piece → List Char
  | [] => tail
  | p :: ps => p.gap ++ (p.lexeme ++ spelled tail ps)

/-- The number of bytes of a text. -/
def width (cs : List Char) : Nat := (String.ofList cs).utf8ByteSize

/-- The tokens of pieces, the first of which begins at byte offset `offset`. -/
def placed (offset : Nat) : List Piece → List Placed
  | [] => []
  | p :: ps =>
      ⟨p.token, offset + width p.gap⟩ :: placed (offset + width p.gap + width p.lexeme) ps

/-- Whether the gaps are blank and every token ends with its lexeme. -/
def Fits (tail : List Char) : List Piece → Prop
  | [] => ∀ c ∈ tail, isAsciiBlank c = true
  | p :: ps =>
      (∀ c ∈ p.gap, isAsciiBlank c = true) ∧ p.token.IsLexeme p.lexeme ∧
        p.token.Ends p.lexeme (spelled tail ps) ∧ Fits tail ps

theorem width_cons (c : Char) (cs : List Char) : width (c :: cs) = c.utf8Size + width cs := by
  rw [width, width, ← List.singleton_append, String.ofList_append, String.utf8ByteSize_append]
  simp

theorem width_append (cs ds : List Char) : width (cs ++ ds) = width cs + width ds := by
  rw [width, String.ofList_append, String.utf8ByteSize_append, width, width]

theorem width_pos {cs : List Char} (filled : cs ≠ []) : 0 < width cs := by
  obtain ⟨c, cs, rfl⟩ := List.exists_cons_of_ne_nil filled
  rw [width_cons]
  exact Nat.add_pos_left c.utf8Size_pos _

namespace Token

variable {offset : Nat} {cs l rest tail : List Char} {t : Token} {ts : List Placed}
  {ps qs : List Piece}

/-! ## Single steps -/

theorem scan_blanks (offset : Nat) (blank : ∀ c ∈ l, isAsciiBlank c = true) (rest : List Char) :
    scan offset 0 (l ++ rest) = scan (offset + width l) 0 rest := by
  induction l generalizing offset with
  | nil => rfl
  | cons c l ih =>
      obtain ⟨first, others⟩ := List.forall_mem_cons.mp blank
      rw [List.cons_append, scan, if_pos first, ih _ others, width_cons, Nat.add_assoc]

theorem scan_skip (offset : Nat) (l rest : List Char) :
    scan offset l.length (l ++ rest) = scan (offset + width l) 0 rest := by
  induction l generalizing offset with
  | nil => rfl
  | cons c l ih => rw [List.cons_append, List.length_cons, scan, ih, width_cons, Nat.add_assoc]

/-- No token begins with a blank. -/
theorem not_isAsciiBlank_of_first {c : Char} {n : Nat} (read : first c cs = .ok (t, n)) :
    isAsciiBlank c = false := by
  rw [Bool.eq_false_iff]
  intro blank
  have white := mem_of_isAsciiBlank blank
  fin_cases white <;> cases read

theorem scan_lexeme (offset : Nat) (lexeme : IsLexeme t l) (ends : Ends t l rest) :
    scan offset 0 (l ++ rest) =
      (scan (offset + width l) 0 rest).map (⟨t, offset⟩ :: ·) := by
  obtain ⟨c, l, rfl⟩ := List.exists_cons_of_ne_nil lexeme.ne_nil
  have read := first_of_lexeme lexeme ends
  rw [List.cons_append, scan, if_neg (by rw [not_isAsciiBlank_of_first read]; decide), read]
  simp only [List.length_cons, Nat.add_sub_cancel]
  rw [scan_skip, width_cons, Nat.add_assoc]
  cases scan (offset + (c.utf8Size + width l)) 0 rest <;> rfl

/-! ## Pieces -/

theorem scan_spelled (offset : Nat) (fits : Fits tail ps) :
    scan offset 0 (spelled tail ps) = .ok (placed offset ps) := by
  induction ps generalizing offset with
  | nil =>
      have blank : ∀ c ∈ tail, isAsciiBlank c = true := fits
      rw [spelled, ← List.append_nil tail, scan_blanks offset blank]
      rfl
  | cons p ps ih =>
      obtain ⟨blank, lexeme, ends, others⟩ := fits
      rw [spelled, scan_blanks offset blank, scan_lexeme _ lexeme ends, ih _ others]
      rfl

theorem exists_pieces (read : scan offset 0 cs = .ok ts) :
    ∃ ps tail, cs = spelled tail ps ∧ Fits tail ps ∧ ts = placed offset ps := by
  induction size : cs.length using Nat.strong_induction_on generalizing offset cs ts with
  | _ n ih =>
  obtain ⟨gap, rest, rfl, blank, stops⟩ := exists_run isAsciiBlank cs
  rw [scan_blanks offset blank] at read
  cases rest with
  | nil =>
      cases read
      exact ⟨[], gap, List.append_nil gap, blank, rfl⟩
  | cons c cs =>
      rw [scan, if_neg (by rw [stops c rfl]; decide)] at read
      cases begun : first c cs with
      | error fault =>
          rw [begun] at read
          cases read
      | ok next =>
          obtain ⟨t, n⟩ := next
          obtain ⟨l, rest, rfl, rfl, lexeme, ends⟩ := exists_of_first begun
          rw [begun] at read
          simp only [List.length_cons, Nat.add_sub_cancel] at read
          rw [scan_skip] at read
          cases later : scan (offset + width gap + c.utf8Size + width l) 0 rest with
          | error e =>
              rw [later] at read
              cases read
          | ok ts =>
              rw [later] at read
              cases read
              have shorter : rest.length < n := by
                rw [← size, List.length_append, List.length_cons, List.length_append]
                omega
              obtain ⟨ps, tail, rfl, fits, rfl⟩ := ih _ shorter later rfl
              refine ⟨⟨gap, t, c :: l⟩ :: ps, tail, rfl, ⟨blank, lexeme, ends, fits⟩, ?_⟩
              rw [placed, width_cons, ← Nat.add_assoc]

/-- An expression has tokens exactly if it is spelled by pieces that fit. -/
theorem scan_eq_ok_iff :
    scan offset 0 cs = .ok ts ↔
      ∃ ps tail, cs = spelled tail ps ∧ Fits tail ps ∧ ts = placed offset ps := by
  constructor
  · exact exists_pieces
  · rintro ⟨ps, tail, rfl, fits, rfl⟩
    exact scan_spelled offset fits

end Token

/-! ## Offsets -/

section Offsets

variable {offset : Nat} {t : Placed} {tail : List Char} {ps : List Piece}

/-- A token begins behind the characters in front of it. -/
theorem exists_front (tail : List Char) (placed : t ∈ placed offset ps) :
    ∃ front behind, spelled tail ps = front ++ behind ∧ t.offset = offset + width front := by
  induction ps generalizing offset with
  | nil => cases placed
  | cons p ps ih =>
      rcases List.mem_cons.mp placed with rfl | later
      · exact ⟨p.gap, p.lexeme ++ spelled tail ps, rfl, rfl⟩
      · obtain ⟨front, behind, own, place⟩ := ih later
        refine ⟨p.gap ++ (p.lexeme ++ front), behind, ?_, ?_⟩
        · rw [spelled, own, List.append_assoc, List.append_assoc]
        · rw [place, width_append, width_append]
          omega

theorem le_offset_of_mem (member : t ∈ placed offset ps) : offset ≤ t.offset := by
  obtain ⟨front, behind, -, place⟩ := exists_front [] member
  rw [place]
  exact Nat.le_add_right _ _

theorem pairwise_placed (offset : Nat) (fits : Fits tail ps) :
    ((placed offset ps).map Placed.offset).Pairwise (· < ·) := by
  induction ps generalizing offset with
  | nil => exact .nil
  | cons p ps ih =>
      obtain ⟨-, lexeme, -, others⟩ := fits
      rw [placed, List.map_cons, List.pairwise_cons]
      refine ⟨fun place member => ?_, ih _ others⟩
      obtain ⟨t, later, rfl⟩ := List.mem_map.mp member
      have filled := width_pos lexeme.ne_nil
      have behind := le_offset_of_mem later
      dsimp only
      omega

theorem isValid_of_mem {source : String} (own : source.toList = spelled tail ps)
    (member : t ∈ placed 0 ps) : String.Pos.Raw.IsValid source ⟨t.offset⟩ := by
  obtain ⟨front, behind, whole, place⟩ := exists_front tail member
  rw [String.Pos.Raw.isValid_iff_exists_append]
  refine ⟨String.ofList front, String.ofList behind, ?_, ?_⟩
  · rw [← String.ofList_append, ← whole, ← own, String.ofList_toList]
  · rw [place, Nat.zero_add, width, String.Pos.Raw.ext_iff]
    rfl

end Offsets

/-! ## Further blanks -/

/-- Whether `q` is `p` with further blanks in front of it. -/
structure Piece.IsWidened (p q : Piece) : Prop where
  token : q.token = p.token
  lexeme : q.lexeme = p.lexeme
  gap : p.gap.Sublist q.gap
  blank : ∀ c ∈ q.gap, isAsciiBlank c = true

section Widening

variable {t : Token} {l tail tail' : List Char} {ps qs : List Piece}

theorem beginsBlank_append {gap rest : List Char} (blank : ∀ c ∈ gap, isAsciiBlank c = true)
    (filled : gap ≠ []) : Token.BeginsBlank (gap ++ rest) := by
  obtain ⟨c, gap, rfl⟩ := List.exists_cons_of_ne_nil filled
  rintro d ⟨⟩
  exact blank c List.mem_cons_self

/-- A token ends with its lexeme also if there are further blanks behind it. -/
theorem ends_spelled_widened (widened : List.Forall₂ Piece.IsWidened ps qs) (fits : Fits tail ps)
    (blank : ∀ c ∈ tail', isAsciiBlank c = true) (ends : t.Ends l (spelled tail ps)) :
    t.Ends l (spelled tail' qs) := by
  cases widened with
  | nil => exact t.ends_of_beginsBlank l fun c first => blank c (List.mem_of_mem_head? first)
  | @cons p q ps qs wide others =>
      obtain ⟨-, lexeme, own, -⟩ := fits
      by_cases filled : q.gap = []
      · have narrow : p.gap = [] := List.sublist_nil.mp (filled ▸ wide.gap)
        rw [spelled, narrow, List.nil_append] at ends
        rw [spelled, filled, List.nil_append, wide.lexeme]
        exact Token.ends_append_congr lexeme own ends
      · exact t.ends_of_beginsBlank l (beginsBlank_append wide.blank filled)

theorem fits_widened (widened : List.Forall₂ Piece.IsWidened ps qs) (fits : Fits tail ps)
    (blank : ∀ c ∈ tail', isAsciiBlank c = true) : Fits tail' qs := by
  induction widened with
  | nil => exact blank
  | @cons p q ps qs wide others ih =>
      obtain ⟨-, lexeme, ends, later⟩ := fits
      refine ⟨wide.blank, ?_, ?_, ih later⟩
      · rw [wide.token, wide.lexeme]
        exact lexeme
      · rw [wide.token, wide.lexeme]
        exact ends_spelled_widened others later blank ends

theorem map_token_placed (offset : Nat) (ps : List Piece) :
    (placed offset ps).map Placed.token = ps.map Piece.token := by
  induction ps generalizing offset with
  | nil => rfl
  | cons p ps ih => rw [placed, List.map_cons, ih, List.map_cons]

theorem map_token_widened (widened : List.Forall₂ Piece.IsWidened ps qs) :
    qs.map Piece.token = ps.map Piece.token := by
  induction widened with
  | nil => rfl
  | cons wide others ih => rw [List.map_cons, List.map_cons, wide.token, ih]

end Widening

theorem tokens_of_lexeme {t : Token} {l : List Char} (lexeme : t.IsLexeme l) :
    tokens (String.ofList l) = .ok [⟨t, 0⟩] := by
  have fits : Fits [] [⟨[], t, l⟩] :=
    ⟨nofun, lexeme, t.ends_of_beginsBlank l nofun, nofun⟩
  have read := Token.scan_spelled 0 fits
  rw [spelled, spelled, List.append_nil, List.nil_append] at read
  rw [tokens, String.toList_ofList]
  exact read

theorem forall_of_fits {tail : List Char} {ps : List Piece} (fits : Fits tail ps) :
    (∀ c ∈ tail, isAsciiBlank c = true) ∧
      ∀ p ∈ ps, (∀ c ∈ p.gap, isAsciiBlank c = true) ∧ p.token.IsLexeme p.lexeme := by
  induction ps with
  | nil => exact ⟨fits, nofun⟩
  | cons p ps ih =>
      obtain ⟨blank, lexeme, -, others⟩ := fits
      obtain ⟨behind, later⟩ := ih others
      exact ⟨behind, List.forall_mem_cons.mpr ⟨⟨blank, lexeme⟩, later⟩⟩

/-- Pieces that make up an expression with its tokens, and that can be moved apart. -/
structure IsTiling (source : String) (ts : List Placed) (ps : List Piece) (tail : List Char) :
    Prop where
  text : source.toList = spelled tail ps
  placed : ts = placed 0 ps
  gaps : ∀ p ∈ ps, ∀ c ∈ p.gap, isAsciiBlank c = true
  behind : ∀ c ∈ tail, isAsciiBlank c = true
  alone : ∀ p ∈ ps, tokens (String.ofList p.lexeme) = .ok [⟨p.token, 0⟩]
  increasing : (ts.map Placed.offset).Pairwise (· < ·)
  boundaries : ∀ t ∈ ts, String.Pos.Raw.IsValid source ⟨t.offset⟩
  widened : ∀ qs tail', List.Forall₂ Piece.IsWidened ps qs →
    (∀ c ∈ tail', isAsciiBlank c = true) →
    tokens (String.ofList (spelled tail' qs)) = .ok (XPath.placed 0 qs) ∧
      (XPath.placed 0 qs).map Placed.token = ts.map Placed.token ∧
      ∀ q, Query.compile source = .ok q →
        ∃ q', Query.compile (String.ofList (spelled tail' qs)) = .ok q' ∧ q'.expr = q.expr

theorem compile_congr {source other : String} {ts us : List Placed} {q : Query}
    (read : tokens source = .ok ts) (again : tokens other = .ok us)
    (same : us.map Placed.token = ts.map Placed.token) (compiled : Query.compile source = .ok q) :
    ∃ q', Query.compile other = .ok q' ∧ q'.expr = q.expr := by
  rw [Query.compile, read] at compiled
  cases parsed : Parser.parse source.utf8ByteSize ts with
  | error e => simp [parsed] at compiled
  | ok e =>
      have reparsed := Parser.parse_congr other.utf8ByteSize same parsed
      simp only [parsed] at compiled
      cases compiled
      refine ⟨⟨other, e⟩, ?_, rfl⟩
      rw [Query.compile, again]
      simp only [reparsed]

/-- The tokens of an expression tile it: each of them is alone the token of its part, the parts
follow one another with nothing but blanks around them, and with further blanks between them the
expression has the same tokens and the same meaning. -/
theorem tokens_tile {source : String} {ts : List Placed} (read : tokens source = .ok ts) :
    ∃ ps tail, IsTiling source ts ps tail := by
  obtain ⟨ps, tail, text, fits, rfl⟩ := Token.scan_eq_ok_iff.mp read
  obtain ⟨blank, pieces⟩ := forall_of_fits fits
  refine ⟨ps, tail, ?_⟩
  constructor
  case text => exact text
  case placed => rfl
  case gaps => exact fun p member => (pieces p member).1
  case behind => exact blank
  case alone => exact fun p member => tokens_of_lexeme (pieces p member).2
  case increasing => exact pairwise_placed 0 fits
  case boundaries => exact fun t member => isValid_of_mem text member
  case widened =>
    intro qs tail' widened behind
    have again : tokens (String.ofList (spelled tail' qs)) = .ok (placed 0 qs) := by
      rw [tokens, String.toList_ofList]
      exact Token.scan_spelled 0 (fits_widened widened fits behind)
    have same : (placed 0 qs).map Placed.token = (placed 0 ps).map Placed.token := by
      rw [map_token_placed, map_token_placed, map_token_widened widened]
    exact ⟨again, same, fun q compiled => compile_congr read again same compiled⟩

theorem tokens_tile_adjacent :
    ∃ ts, tokens "a:b::c='é'[1..|.5]" = .ok ts ∧
      ts.map Placed.offset = [0, 3, 5, 6, 7, 11, 12, 13, 15, 16, 18] ∧
      ∃ ps tail, IsTiling "a:b::c='é'[1..|.5]" ts ps tail := by
  have read : tokens "a:b::c='é'[1..|.5]" =
      .ok [⟨.name "a:b", 0⟩, ⟨.doubleColon, 3⟩, ⟨.name "c", 5⟩, ⟨.equal, 6⟩, ⟨.literal "é", 7⟩,
        ⟨.leftBracket, 11⟩, ⟨.number (Token.numeralValue ['1']), 12⟩, ⟨.doubleDot, 13⟩,
        ⟨.pipe, 15⟩, ⟨.number (Token.numeralValue ['.', '5']), 16⟩, ⟨.rightBracket, 18⟩] := by
    rfl
  exact ⟨_, read, rfl, tokens_tile read⟩

end Harvest.XPath
