import Mathlib
import Harvest.Proofs.XPath.Bytewise
import Harvest.Proofs.XPath.Halting

/-!
# Where expressions are wrong

An expression that is not accepted is wrong at some place of it.  Where no token can be read, this is
the character that none begins with; otherwise a token, or the end of the expression.
-/

namespace Harvest.XPath

variable {source : String} {e : Error} {ts : List Placed}

namespace Token

variable {offset skip : Nat} {cs : List Char}

/-- Whether an error is about a character of a text that begins at byte offset `offset`. -/
def IsWithin (offset : Nat) (cs : List Char) (e : Error) : Prop :=
  ∃ front c behind, cs = front ++ c :: behind ∧ e.position = offset + width front ∧
    IsFaulty c behind e.fault

theorem IsWithin.behind {c : Char} (within : IsWithin (offset + c.utf8Size) cs e) :
    IsWithin offset (c :: cs) e := by
  obtain ⟨front, d, behind, rfl, place, faulty⟩ := within
  refine ⟨c :: front, d, behind, rfl, ?_, faulty⟩
  rw [place, width_cons, Nat.add_assoc]

theorem isWithin_of_scan (failed : scan offset skip cs = .error e) : IsWithin offset cs e := by
  induction cs generalizing offset skip with
  | nil => cases failed
  | cons c cs ih =>
      cases skip with
      | succ skip =>
          rw [scan] at failed
          exact (ih failed).behind
      | zero =>
          rw [scan] at failed
          split at failed
          · exact (ih failed).behind
          · split at failed
            · next begun =>
                cases failed
                exact ⟨[], c, cs, rfl, rfl, isFaulty_of_first begun⟩
            · split at failed
              · next later =>
                  cases failed
                  exact (ih later).behind
              · cases failed

end Token

/-- Whether an error is at a place of an expression, and is not that the expression was not read to
its end.  The place is a token or the end if there are tokens, the front if there are none, and else
a character that no token begins with. -/
structure Error.PointsInto (e : Error) (source : String) : Prop where
  ended : e.fault ≠ .exhausted
  boundary : String.Pos.Raw.IsValid source ⟨e.position⟩
  bounded : e.position ≤ source.utf8ByteSize
  place : ∀ ts, tokens source = .ok ts →
    ts = [] ∧ e.position = 0 ∨
      ts ≠ [] ∧ (e.position = source.utf8ByteSize ∨ ∃ t ∈ ts, t.offset = e.position)
  faulty : (∀ ts, tokens source ≠ .ok ts) → Token.IsWithin 0 source.toList e

/-- The places of an expression that has tokens are not inside of characters. -/
theorem isValid_of_isPlace {position : Nat} (read : tokens source = .ok ts)
    (place : Parser.IsPlace source.utf8ByteSize ts position) :
    String.Pos.Raw.IsValid source ⟨position⟩ := by
  rcases place with rfl | ⟨t, member, rfl⟩
  · exact String.Pos.Raw.isValid_rawEndPos
  · obtain ⟨ps, tail, text, -, rfl⟩ := Token.scan_eq_ok_iff.mp read
    exact isValid_of_mem text member

theorem pointsInto_of_tokens (failed : tokens source = .error e) : e.PointsInto source := by
  obtain ⟨front, c, behind, own, place, faulty⟩ := Token.isWithin_of_scan failed
  rw [Nat.zero_add] at place
  have boundary : String.Pos.Raw.IsValid source ⟨e.position⟩ := place ▸ isValid_width own
  constructor
  case ended =>
    intro ended
    rw [ended] at faulty
    cases faulty
  case boundary => exact boundary
  case bounded => exact boundary.le_utf8ByteSize
  case place =>
    intro ts read
    rw [failed] at read
    cases read
  case faulty => exact fun _ => Token.isWithin_of_scan failed

theorem pointsInto_of_parse (read : tokens source = .ok ts)
    (failed : Parser.parse source.utf8ByteSize ts = .error e) : e.PointsInto source := by
  obtain ⟨ended, place⟩ := Parser.place_of_parse failed
  have boundary : String.Pos.Raw.IsValid source ⟨e.position⟩ := by
    rcases place with ⟨-, front⟩ | ⟨-, place⟩
    · rw [front]
      exact String.Pos.Raw.isValid_zero
    · exact isValid_of_isPlace read place
  constructor
  case ended => exact ended
  case boundary => exact boundary
  case bounded => exact boundary.le_utf8ByteSize
  case place =>
    intro us again
    rw [read] at again
    cases again
    exact place
  case faulty => exact fun unread => absurd read (unread ts)

/-- An expression is read from its bytes without cutting a character, and is accepted or fails at a
place of it: the start of one of its tokens or its end, if it has tokens. -/
theorem compile_pointsInto (source : String) :
    bytewiseTokens? source = some (tokens source) ∧
      ((∃ q, Query.compile source = .ok q) ∨
        ∃ e, Query.compile source = .error e ∧ e.PointsInto source) := by
  refine ⟨bytewiseTokens?_eq source, ?_⟩
  rw [Query.compile]
  cases read : tokens source with
  | error e => exact .inr ⟨e, rfl, pointsInto_of_tokens read⟩
  | ok ts =>
      dsimp only
      cases parsed : Parser.parse source.utf8ByteSize ts with
      | error e => exact .inr ⟨e, rfl, pointsInto_of_parse read parsed⟩
      | ok expr => exact .inl ⟨⟨source, expr⟩, rfl⟩

-- `é` has two bytes.
example : Query.compile "'é' ]" = .error ⟨.unexpected .rightBracket, 5⟩ := by cbv

end Harvest.XPath
