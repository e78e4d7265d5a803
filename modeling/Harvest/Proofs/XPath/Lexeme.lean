import Mathlib
import Harvest.XPath.Token

/-!
# Lexemes

The texts that stand for a token, and what may follow a text so that its token ends with it.
`Token.first` reads a token exactly where such a text stands with such a rest behind it.  Of the
rest at most two characters are looked at, and a blank ends every token.
-/

namespace Harvest.XPath.Token

/-! ## Runs -/

theorem exists_run (p : Char → Bool) (cs : List Char) :
    ∃ l rest, cs = l ++ rest ∧ (∀ c ∈ l, p c = true) ∧ ∀ c ∈ rest.head?, p c = false := by
  refine ⟨cs.takeWhile p, cs.dropWhile p, List.takeWhile_append_dropWhile.symm,
    fun c => List.mem_takeWhile_imp, fun c first => ?_⟩
  have stop := List.head?_dropWhile_not p cs
  rw [Option.mem_def.mp first] at stop
  exact Bool.eq_false_iff.mpr (by simpa using stop)

theorem run_append {p : Char → Bool} {l rest : List Char} (passes : ∀ c ∈ l, p c = true)
    (stops : ∀ c ∈ rest.head?, p c = false) : run p (l ++ rest) = l := by
  rw [run, List.takeWhile_append_of_pos passes]
  cases rest with
  | nil => rw [List.takeWhile_nil, List.append_nil]
  | cons c rest =>
      rw [List.takeWhile_cons_of_neg (by rw [stops c rfl]; decide), List.append_nil]

/-! ## Texts of tokens -/

/-- The text of a token that can be written in one way only. -/
def symbol? : Token → Option (List Char)
  | slash => some ['/']
  | doubleSlash => some ['/', '/']
  | leftBracket => some ['[']
  | rightBracket => some [']']
  | leftParen => some ['(']
  | rightParen => some [')']
  | .at => some ['@']
  | dot => some ['.']
  | doubleDot => some ['.', '.']
  | comma => some [',']
  | pipe => some ['|']
  | star => some ['*']
  | plus => some ['+']
  | minus => some ['-']
  | equal => some ['=']
  | notEqual => some ['!', '=']
  | less => some ['<']
  | lessEqual => some ['<', '=']
  | greater => some ['>']
  | greaterEqual => some ['>', '=']
  | doubleColon => some [':', ':']
  | literal _ | number _ | name _ => none

/-- Numerals: digits, with at most one point in front of, behind or between them. -/
inductive IsNumeral : List Char → Prop
  | whole {ds : List Char} (digits : ∀ d ∈ ds, d.isDigit = true) (filled : ds ≠ []) : IsNumeral ds
  | pointed {ds es : List Char} (digits : ∀ d ∈ ds, d.isDigit = true)
      (decimals : ∀ e ∈ es, e.isDigit = true) (filled : ds ≠ [] ∨ es ≠ []) :
      IsNumeral (ds ++ '.' :: es)

/-- Names, with at most one colon inside them. -/
inductive IsName : List Char → Prop
  | plain {c : Char} {cs : List Char} (begins : startsName c = true)
      (goesOn : ∀ d ∈ cs, continuesName d = true) : IsName (c :: cs)
  | prefixed {c d : Char} {cs ds : List Char} (begins : startsName c = true)
      (goesOn : ∀ d ∈ cs, continuesName d = true) (again : startsName d = true)
      (toEnd : ∀ e ∈ ds, continuesName e = true) : IsName (c :: cs ++ ':' :: d :: ds)

/-- Whether a text is that of a token. -/
inductive IsLexeme : Token → List Char → Prop
  | symbol {t : Token} {cs : List Char} (written : t.symbol? = some cs) : IsLexeme t cs
  | literal {quote : Char} {inner : List Char} (quotes : quote = '"' ∨ quote = '\'')
      (free : quote ∉ inner) :
      IsLexeme (literal (String.ofList inner)) (quote :: (inner ++ [quote]))
  | number {cs : List Char} (numeral : IsNumeral cs) : IsLexeme (number (numeralValue cs)) cs
  | name {cs : List Char} (named : IsName cs) : IsLexeme (name (String.ofList cs)) cs

/-- Whether a token ends with the text `cs` if `rest` is behind it, and does not go on there. -/
def Ends (t : Token) (cs rest : List Char) : Prop :=
  match t with
  | slash => '/' ∉ rest.head?
  | less | greater => '=' ∉ rest.head?
  | dot => ∀ c ∈ rest.head?, c ≠ '.' ∧ c.isDigit = false
  | number _ =>
      (∀ c ∈ rest.head?, c.isDigit = false) ∧
        ('.' ∉ cs → ∀ more, rest = '.' :: more → '.' ∈ more.head?) ∧
        ('.' ∈ cs.getLast? → '.' ∉ rest.head?)
  | name _ =>
      (∀ c ∈ rest.head?, continuesName c = false) ∧
        (':' ∉ cs → ∀ d more, rest = ':' :: d :: more → startsName d = false)
  | _ => True

variable {c : Char} {cs l rest : List Char} {t : Token} {n : Nat} {x : Float} {s : String}

/-! ## Numerals -/

theorem point_notMem {ds : List Char} (digits : ∀ d ∈ ds, d.isDigit = true) : '.' ∉ ds :=
  fun point => absurd (digits '.' point) (by decide)

theorem numeralChars_whole {ds : List Char} (digits : ∀ d ∈ ds, d.isDigit = true)
    (stops : ∀ c ∈ rest.head?, c.isDigit = false)
    (double : ∀ more, rest = '.' :: more → '.' ∈ more.head?) : numeralChars (ds ++ rest) = ds := by
  rw [numeralChars, run_append digits stops, List.drop_left]
  split
  · rfl
  · next more single =>
      obtain ⟨behind, rfl⟩ := List.head?_eq_some_iff.mp (double more rfl)
      exact absurd rfl (single behind)
  · rfl

theorem numeralChars_pointed {ds more : List Char} (digits : ∀ d ∈ ds, d.isDigit = true)
    (single : '.' ∉ more.head?) :
    numeralChars (ds ++ '.' :: more) = ds ++ '.' :: run Char.isDigit more := by
  have stops : ∀ c ∈ ('.' :: more).head?, c.isDigit = false := by
    rintro c ⟨⟩
    rfl
  rw [numeralChars, run_append digits stops, List.drop_left]
  split
  · next behind same =>
      obtain ⟨-, rfl⟩ := List.cons.inj same
      exact absurd rfl single
  · next after _ same => rw [(List.cons.inj same).2]
  · next other => exact absurd rfl (other more)

theorem numeralChars_append (numeral : IsNumeral l) (ends : Ends (number x) l rest) :
    numeralChars (l ++ rest) = l := by
  obtain ⟨stops, double, single⟩ := ends
  cases numeral with
  | whole digits filled => exact numeralChars_whole digits stops (double (point_notMem digits))
  | @pointed ds es digits decimals filled =>
      have apart : '.' ∉ (es ++ rest).head? := by
        cases es with
        | nil => exact single (by simp)
        | cons e es =>
            rintro ⟨⟩
            exact absurd (decimals '.' List.mem_cons_self) (by decide)
      rw [List.append_assoc, List.cons_append, numeralChars_pointed digits apart,
        run_append decimals stops]

/-- Where a digit stands, or a point with a digit behind it, a numeral begins. -/
theorem numeralChars_ends (x : Float)
    (begins : c.isDigit = true ∨ c = '.' ∧ ∃ d ∈ cs.head?, d.isDigit = true) :
    ∃ rest, c :: cs = numeralChars (c :: cs) ++ rest ∧ IsNumeral (numeralChars (c :: cs)) ∧
      Ends (number x) (numeralChars (c :: cs)) rest := by
  obtain ⟨ds, rest, own, digits, stops⟩ := exists_run Char.isDigit (c :: cs)
  by_cases double : ∀ more, rest = '.' :: more → '.' ∈ more.head?
  · have filled : ds ≠ [] := by
      rintro rfl
      rw [List.nil_append] at own
      subst own
      rcases begins with digit | ⟨rfl, d, next, digit⟩
      · rw [stops c rfl] at digit
        cases digit
      · rw [Option.mem_unique next (double cs rfl)] at digit
        cases digit
    rw [own, numeralChars_whole digits stops double]
    refine ⟨rest, rfl, .whole digits filled, stops, fun _ => double, fun last => ?_⟩
    exact absurd (List.mem_of_getLast? last) (point_notMem digits)
  · push Not at double
    obtain ⟨more, rfl, single⟩ := double
    obtain ⟨es, rest, rfl, decimals, halts⟩ := exists_run Char.isDigit more
    have filled : ds ≠ [] ∨ es ≠ [] := by
      by_contra! none
      obtain ⟨rfl, rfl⟩ := none
      obtain ⟨rfl, rfl⟩ := List.cons.inj own
      rcases begins with digit | ⟨-, d, next, digit⟩
      · cases digit
      · rw [halts d next] at digit
        cases digit
    rw [own, numeralChars_pointed digits single, run_append decimals halts]
    refine ⟨rest, by simp, .pointed digits decimals filled, halts,
      fun pointless => absurd (by simp) pointless, fun last => ?_⟩
    cases es with
    | nil => exact single
    | cons e es =>
        have final : '.' ∈ e :: es := by
          rw [List.getLast?_append_cons] at last
          exact List.mem_of_getLast? (by simpa using last)
        exact absurd final (point_notMem decimals)

/-! ## Names -/

theorem nameChars_plain (goesOn : ∀ d ∈ l, continuesName d = true)
    (stops : ∀ d ∈ rest.head?, continuesName d = false)
    (single : ∀ d more, rest = ':' :: d :: more → startsName d = false) :
    nameChars c (l ++ rest) = c :: l := by
  rw [nameChars, run_append goesOn stops, List.drop_left]
  split
  · next d more => rw [if_neg (by rw [single d more rfl]; decide)]
  · rfl

theorem nameChars_prefixed {d : Char} {more : List Char}
    (goesOn : ∀ d ∈ l, continuesName d = true) (again : startsName d = true) :
    nameChars c (l ++ ':' :: d :: more) = c :: l ++ ':' :: d :: run continuesName more := by
  have stops : ∀ e ∈ (':' :: d :: more).head?, continuesName e = false := by
    rintro e ⟨⟩
    decide
  rw [nameChars, run_append goesOn stops, List.drop_left]
  exact if_pos again

theorem colon_notMem (begins : startsName c = true) (goesOn : ∀ d ∈ l, continuesName d = true) :
    ':' ∉ c :: l := by
  intro colon
  rcases List.mem_cons.mp colon with rfl | colon
  · exact absurd begins (by decide)
  · exact absurd (goesOn ':' colon) (by decide)

theorem nameChars_append (named : IsName (c :: l)) (ends : Ends (name s) (c :: l) rest) :
    nameChars c (l ++ rest) = c :: l := by
  obtain ⟨stops, single⟩ := ends
  generalize whole : c :: l = cs at named single
  cases named with
  | plain begins goesOn =>
      obtain ⟨rfl, rfl⟩ := List.cons.inj whole
      exact nameChars_plain goesOn stops (single (colon_notMem begins goesOn))
  | prefixed begins goesOn again toEnd =>
      rw [List.cons_append] at whole
      obtain ⟨rfl, rfl⟩ := List.cons.inj whole
      rw [List.append_assoc, List.cons_append, List.cons_append, nameChars_prefixed goesOn again,
        run_append toEnd stops]

/-- Where a character stands that names may begin with, a name begins. -/
theorem nameChars_ends (s : String) (begins : startsName c = true) :
    ∃ rest, c :: cs = nameChars c cs ++ rest ∧ IsName (nameChars c cs) ∧
      Ends (name s) (nameChars c cs) rest := by
  obtain ⟨l, rest, rfl, goesOn, stops⟩ := exists_run continuesName cs
  by_cases single : ∀ d more, rest = ':' :: d :: more → startsName d = false
  · rw [nameChars_plain goesOn stops single]
    exact ⟨rest, rfl, .plain begins goesOn, stops, fun _ => single⟩
  · push Not at single
    obtain ⟨d, more, rfl, again⟩ := single
    have again : startsName d = true := by simpa using again
    obtain ⟨ds, rest, rfl, toEnd, halts⟩ := exists_run continuesName more
    rw [nameChars_prefixed goesOn again, run_append toEnd halts]
    exact ⟨rest, by simp, .prefixed begins goesOn again toEnd, halts,
      fun colonless => absurd (by simp) colonless⟩

/-! ## Literals -/

theorem run_literal {quote : Char} {inner : List Char} (free : quote ∉ inner) (rest : List Char) :
    run (· != quote) (inner ++ quote :: rest) = inner := by
  refine run_append (fun c member => ?_) ?_
  · exact bne_iff_ne.mpr fun same => free (same ▸ member)
  · rintro c ⟨⟩
    exact bne_self_eq_false quote

/-! ## The token at the front -/

/-- The characters that begin the tokens which are neither literals nor numbers nor names. -/
def marks : List Char :=
  ['/', '[', ']', '(', ')', '@', ',', '|', '*', '+', '-', '=', '!', '<', '>', ':', '.']

theorem first_of_notMem_marks (other : c ∉ marks) :
    first c cs =
      if c == '"' || c == '\'' then
        let inner := run (· != c) cs
        if inner.length < cs.length then
          .ok (literal (String.ofList inner), inner.length + 2)
        else .error .openLiteral
      else if c.isDigit then
        .ok (number (numeralValue (numeralChars (c :: cs))), (numeralChars (c :: cs)).length)
      else if startsName c then
        .ok (name (String.ofList (nameChars c cs)), (nameChars c cs).length)
      else .error (.badCharacter c) := by
  unfold first
  split <;> first | rfl | exact absurd (by decide) other

theorem first_of_symbol (written : t.symbol? = some (c :: l)) (ends : Ends t (c :: l) rest) :
    first c (l ++ rest) = .ok (t, (c :: l).length) := by
  cases t with
  | slash | less | greater | dot =>
      -- the only symbols with which a longer one begins, or a numeral
      cases written
      cases rest with
      | nil => rfl
      | cons d rest =>
          simp only [Ends, List.head?_cons, Option.mem_some_iff, forall_eq'] at ends
          simp [first, ends]
  | literal s => cases written
  | number x => cases written
  | name s => cases written
  | _ => cases written; rfl

theorem notMem_marks (begins : c.isDigit = true ∨ startsName c = true) : c ∉ marks := by
  intro mark
  have none : marks.all fun m => !(m.isDigit || startsName m) := by decide
  have neither := List.all_eq_true.mp none c mark
  rw [Bool.not_eq_true', Bool.or_eq_false_iff] at neither
  rcases begins with digit | begins
  · rw [neither.1] at digit
    cases digit
  · rw [neither.2] at begins
    cases begins

/-- A character that begins a name is neither a quotation mark nor a digit. -/
theorem unquoted_of_startsName (begins : startsName c = true) :
    (c == '"' || c == '\'') = false ∧ c.isDigit = false := by
  constructor
  · rw [Bool.or_eq_false_iff, beq_eq_false_iff_ne, beq_eq_false_iff_ne]
    constructor <;> rintro rfl <;> exact absurd begins (by decide)
  · simp only [startsName, Bool.or_eq_true, beq_iff_eq, decide_eq_true_eq] at begins
    rcases begins with (letter | rfl) | high
    · grind [Char.isDigit, Char.isAlpha, Char.isUpper, Char.isLower]
    · decide
    · rw [Char.isDigit, Bool.and_eq_false_iff]
      refine .inr (decide_eq_false fun low => ?_)
      have low : c.toNat ≤ 57 := low
      omega

theorem IsNumeral.begins (numeral : IsNumeral (c :: l)) :
    c.isDigit = true ∨ c = '.' ∧ ∃ d ∈ l.head?, d.isDigit = true := by
  generalize whole : c :: l = cs at numeral
  cases numeral with
  | whole digits filled =>
      subst whole
      exact .inl (digits c List.mem_cons_self)
  | @pointed ds es digits decimals filled =>
      cases ds with
      | nil =>
          obtain ⟨rfl, rfl⟩ := List.cons.inj whole
          obtain ⟨e, es, rfl⟩ := List.exists_cons_of_ne_nil (filled.resolve_left (absurd rfl))
          exact .inr ⟨rfl, e, rfl, decimals e List.mem_cons_self⟩
      | cons d ds =>
          obtain ⟨rfl, rfl⟩ := List.cons.inj whole
          exact .inl (digits c List.mem_cons_self)

theorem IsName.begins (named : IsName (c :: l)) : startsName c = true := by
  generalize whole : c :: l = cs at named
  cases named with
  | plain begins goesOn =>
      obtain ⟨rfl, rfl⟩ := List.cons.inj whole
      exact begins
  | prefixed begins goesOn again toEnd =>
      obtain ⟨rfl, -⟩ := List.cons.inj whole
      exact begins

/-- Behind a digit, and behind a point with a digit after it, a numeral is read. -/
theorem first_of_digit
    (begins : c.isDigit = true ∨ c = '.' ∧ ∃ d ∈ cs.head?, d.isDigit = true) :
    first c cs =
      .ok (number (numeralValue (numeralChars (c :: cs))), (numeralChars (c :: cs)).length) := by
  rcases begins with digit | ⟨rfl, d, next, digit⟩
  · have unquoted : (c == '"' || c == '\'') = false := by
      rw [Bool.or_eq_false_iff, beq_eq_false_iff_ne, beq_eq_false_iff_ne]
      constructor <;> rintro rfl <;> exact absurd digit (by decide)
    rw [first_of_notMem_marks (notMem_marks (.inl digit)), if_neg (by rw [unquoted]; decide),
      if_pos digit]
  · obtain ⟨more, rfl⟩ := List.head?_eq_some_iff.mp next
    have other : d ≠ '.' := fun same => absurd (same ▸ digit) (by decide)
    simp only [first]
    exact if_pos digit

theorem first_of_startsName (begins : startsName c = true) :
    first c cs = .ok (name (String.ofList (nameChars c cs)), (nameChars c cs).length) := by
  obtain ⟨unquoted, letter⟩ := unquoted_of_startsName begins
  rw [first_of_notMem_marks (notMem_marks (.inr begins)), if_neg (by rw [unquoted]; decide),
    if_neg (by rw [letter]; decide), if_pos begins]

theorem first_of_quote (quoted : c = '"' ∨ c = '\'') :
    first c cs =
      if (run (· != c) cs).length < cs.length then
        .ok (literal (String.ofList (run (· != c) cs)), (run (· != c) cs).length + 2)
      else .error .openLiteral := by
  have other : c ∉ marks := by rcases quoted with rfl | rfl <;> decide
  rw [first_of_notMem_marks other, if_pos]
  rcases quoted with rfl | rfl <;> rfl

/-- A lexeme is read where what is behind it ends its token. -/
theorem first_of_lexeme (lexeme : IsLexeme t (c :: l)) (ends : Ends t (c :: l) rest) :
    first c (l ++ rest) = .ok (t, (c :: l).length) := by
  generalize whole : c :: l = cs at lexeme ends
  cases lexeme with
  | symbol written =>
      subst whole
      exact first_of_symbol written ends
  | @literal quote inner quotes free =>
      obtain ⟨rfl, rfl⟩ := List.cons.inj whole
      have closed : inner.length < (inner ++ c :: rest).length := by simp
      rw [List.append_assoc, List.singleton_append, first_of_quote quotes, run_literal free,
        if_pos closed]
      simp
  | number numeral =>
      subst whole
      have begins : c.isDigit = true ∨ c = '.' ∧ ∃ d ∈ (l ++ rest).head?, d.isDigit = true :=
        numeral.begins.imp_right fun ⟨point, d, next, digit⟩ =>
          ⟨point, d, List.mem_head?_append_of_mem_head? next, digit⟩
      rw [first_of_digit begins, ← List.cons_append, numeralChars_append numeral ends]
  | name named =>
      subst whole
      rw [first_of_startsName named.begins, nameChars_append named ends]

theorem notMem_head? (other : ∀ more, cs = c :: more → False) : c ∉ cs.head? := by
  intro next
  obtain ⟨more, rfl⟩ := List.head?_eq_some_iff.mp next
  exact other more rfl

/-- What is read from a symbol is the symbol, or a longer one that begins with it. -/
theorem exists_symbol_of_first (read : first c cs = .ok (t, n)) (undigited : c.isDigit = false)
    (pointless : c = '.' → ∀ d ∈ cs.head?, d.isDigit = false) (unquoted : ¬ (c = '"' ∨ c = '\''))
    (unnamed : startsName c = false) :
    ∃ l rest, cs = l ++ rest ∧ n = (c :: l).length ∧ t.symbol? = some (c :: l) ∧
      Ends t (c :: l) rest := by
  unfold first at read
  split at read
  all_goals try (cases read; exact ⟨[], _, rfl, rfl, rfl, trivial⟩)
  · split at read
    · cases read
      exact ⟨['/'], _, rfl, rfl, rfl, trivial⟩
    · next other =>
        cases read
        exact ⟨[], _, rfl, rfl, rfl, notMem_head? other⟩
  · split at read
    · cases read
      exact ⟨['='], _, rfl, rfl, rfl, trivial⟩
    · cases read
  · split at read
    · cases read
      exact ⟨['='], _, rfl, rfl, rfl, trivial⟩
    · next other =>
        cases read
        exact ⟨[], _, rfl, rfl, rfl, notMem_head? other⟩
  · split at read
    · cases read
      exact ⟨['='], _, rfl, rfl, rfl, trivial⟩
    · next other =>
        cases read
        exact ⟨[], _, rfl, rfl, rfl, notMem_head? other⟩
  · split at read
    · cases read
      exact ⟨[':'], _, rfl, rfl, rfl, trivial⟩
    · cases read
  · split at read
    · cases read
      exact ⟨['.'], _, rfl, rfl, rfl, trivial⟩
    · next d more other =>
        have letter := pointless rfl d rfl
        rw [if_neg (by rw [letter]; decide)] at read
        cases read
        refine ⟨[], _, rfl, rfl, rfl, ?_⟩
        rintro d ⟨⟩
        exact ⟨other, letter⟩
    · cases read
      exact ⟨[], [], rfl, rfl, rfl, fun c none => nomatch none⟩
  · rw [if_neg (by simpa using unquoted), if_neg (by rw [undigited]; decide),
      if_neg (by rw [unnamed]; decide)] at read
    cases read

theorem IsLexeme.ne_nil (lexeme : IsLexeme t cs) : cs ≠ [] := by
  rintro rfl
  generalize empty : ([] : List Char) = cs at lexeme
  cases lexeme with
  | symbol written =>
      subst empty
      cases t <;> cases written
  | literal quotes free => cases empty
  | number numeral =>
      cases numeral with
      | whole digits filled => exact filled empty.symm
      | pointed digits decimals filled => simp at empty
  | name named => cases named <;> cases empty

/-- What is read is a lexeme, and what is behind it ends its token. -/
theorem exists_of_first (read : first c cs = .ok (t, n)) :
    ∃ l rest, cs = l ++ rest ∧ n = (c :: l).length ∧ IsLexeme t (c :: l) ∧
      Ends t (c :: l) rest := by
  have cut {w rest : List Char} (own : c :: cs = w ++ rest) (lexeme : IsLexeme t w)
      (ends : Ends t w rest) :
      ∃ l rest, cs = l ++ rest ∧ w.length = (c :: l).length ∧ IsLexeme t (c :: l) ∧
        Ends t (c :: l) rest := by
    obtain ⟨l, rfl, rfl⟩ := (List.append_eq_cons_iff.mp own.symm).resolve_left
      fun empty => lexeme.ne_nil empty.1
    exact ⟨l, rest, rfl, rfl, lexeme, ends⟩
  by_cases digits : c.isDigit = true ∨ c = '.' ∧ ∃ d ∈ cs.head?, d.isDigit = true
  · rw [first_of_digit digits] at read
    cases read
    obtain ⟨rest, own, numeral, ends⟩ := numeralChars_ends _ digits
    exact cut own (.number numeral) ends
  by_cases quoted : c = '"' ∨ c = '\''
  · rw [first_of_quote quoted] at read
    obtain ⟨inner, rest, rfl, passes, stops⟩ := exists_run (· != c) cs
    rw [run_append passes stops] at read
    split at read
    · next closed =>
        cases read
        cases rest with
        | nil => simp at closed
        | cons d rest =>
            obtain rfl : d = c := by simpa using stops d rfl
            have free : d ∉ inner := fun member => absurd (passes d member) (by simp)
            exact ⟨inner ++ [d], rest, by simp, by simp, .literal quoted free, trivial⟩
    · cases read
  by_cases begins : startsName c = true
  · rw [first_of_startsName begins] at read
    cases read
    obtain ⟨rest, own, named, ends⟩ := nameChars_ends _ begins
    exact cut own (.name named) ends
  · rw [not_or, Bool.not_eq_true] at digits
    obtain ⟨undigited, pointless⟩ := digits
    obtain ⟨l, rest, rfl, rfl, written, ends⟩ := exists_symbol_of_first read undigited
      (fun point d next => by
        by_contra digit
        exact pointless ⟨point, d, next, by simpa using digit⟩)
      quoted (by simpa using begins)
    exact ⟨l, rest, rfl, rfl, .symbol written, ends⟩

/-- The first token is read exactly where a lexeme of it stands with nothing behind it that the
token would go on with. -/
theorem first_eq_ok_iff :
    first c cs = .ok (t, n) ↔
      ∃ l rest, cs = l ++ rest ∧ n = (c :: l).length ∧ IsLexeme t (c :: l) ∧
        Ends t (c :: l) rest := by
  constructor
  · exact exists_of_first
  · rintro ⟨l, rest, rfl, rfl, lexeme, ends⟩
    exact first_of_lexeme lexeme ends

/-- Whether no token begins with `c` in front of a text, and what is wrong there. -/
inductive IsFaulty : Char → List Char → Fault → Prop
  | equalMissing {cs : List Char} (other : '=' ∉ cs.head?) : IsFaulty '!' cs .equalMissing
  | loneColon {cs : List Char} (other : ':' ∉ cs.head?) : IsFaulty ':' cs .loneColon
  | openLiteral {c : Char} {cs : List Char} (quotes : c = '"' ∨ c = '\'') (free : c ∉ cs) :
      IsFaulty c cs .openLiteral
  | badCharacter {c : Char} {cs : List Char} (unmarked : c ∉ marks)
      (unquoted : ¬ (c = '"' ∨ c = '\'')) (undigited : c.isDigit = false)
      (unnamed : startsName c = false) : IsFaulty c cs (.badCharacter c)

theorem length_run_lt_iff : (run (· != c) cs).length < cs.length ↔ c ∈ cs := by
  obtain ⟨inner, rest, rfl, passes, stops⟩ := exists_run (· != c) cs
  have free : c ∉ inner := fun member => absurd (passes c member) (by simp)
  rw [run_append passes stops, List.length_append, List.mem_append, or_iff_right free]
  cases rest with
  | nil => simp
  | cons d rest =>
      obtain rfl : d = c := by simpa using stops d rfl
      simp

theorem isFaulty_of_first {fault : Fault} (failed : first c cs = .error fault) :
    IsFaulty c cs fault := by
  by_cases mark : c ∈ marks
  · unfold first at failed
    split at failed
    all_goals try cases failed
    · split at failed <;> cases failed
    · split at failed
      · cases failed
      · next other =>
          cases failed
          exact .equalMissing (notMem_head? other)
    · split at failed <;> cases failed
    · split at failed <;> cases failed
    · split at failed
      · cases failed
      · next other =>
          cases failed
          exact .loneColon (notMem_head? other)
    · split at failed
      · cases failed
      · split at failed <;> cases failed
      · cases failed
    · simp_all [marks]
  · rw [first_of_notMem_marks mark] at failed
    split at failed
    · next quoted =>
        have quotes : c = '"' ∨ c = '\'' := by simpa using quoted
        dsimp only at failed
        split at failed
        · cases failed
        · next openly =>
            cases failed
            exact .openLiteral quotes (mt length_run_lt_iff.mpr openly)
    · next unquoted =>
        split at failed
        · cases failed
        · next undigited =>
            split at failed
            · cases failed
            · next unnamed =>
                cases failed
                exact .badCharacter mark (by simpa using unquoted) (by simpa using undigited)
                  (by simpa using unnamed)

/-- What is wrong is reported exactly where no token begins. -/
theorem first_eq_error_iff {fault : Fault} :
    first c cs = .error fault ↔ IsFaulty c cs fault := by
  constructor
  · exact isFaulty_of_first
  · intro faulty
    cases faulty with
    | equalMissing other =>
        cases cs with
        | nil => rfl
        | cons d cs => simp_all [first]
    | loneColon other =>
        cases cs with
        | nil => rfl
        | cons d cs => simp_all [first]
    | openLiteral quotes free =>
        rw [first_of_quote quotes, if_neg (mt length_run_lt_iff.mp free)]
    | badCharacter unmarked unquoted undigited unnamed =>
        rw [first_of_notMem_marks unmarked, if_neg (by simpa using unquoted),
          if_neg (by rw [undigited]; decide), if_neg (by rw [unnamed]; decide)]

/-! ## What is behind a lexeme -/

/-- Whether a text is empty or begins with a blank. -/
def BeginsBlank (cs : List Char) : Prop := ∀ c ∈ cs.head?, Text.isAsciiBlank c = true

theorem mem_of_isAsciiBlank (blank : Text.isAsciiBlank c = true) :
    c ∈ [' ', '\t', '\n', '\r', '\x0c'] := by
  simpa [Text.isAsciiBlank, or_assoc] using blank

theorem not_of_beginsBlank {p : Char → Bool} (blank : BeginsBlank rest)
    (visible : [' ', '\t', '\n', '\r', '\x0c'].all (fun c => !p c) = true) :
    ∀ c ∈ rest.head?, p c = false := by
  intro c next
  have white := mem_of_isAsciiBlank (blank c next)
  simpa using List.all_eq_true.mp visible c white

/-- A blank ends every token. -/
theorem ends_of_beginsBlank (t : Token) (cs : List Char) (blank : BeginsBlank rest) :
    Ends t cs rest := by
  have apart (d : Char) (visible : Text.isAsciiBlank d = false) : d ∉ rest.head? := fun next =>
    absurd (blank d next) (by rw [visible]; decide)
  cases t with
  | slash => exact apart '/' rfl
  | less => exact apart '=' rfl
  | greater => exact apart '=' rfl
  | dot =>
      intro c next
      exact ⟨fun same => apart '.' rfl (same ▸ next), not_of_beginsBlank blank (by decide) c next⟩
  | number x =>
      refine ⟨not_of_beginsBlank blank (by decide), fun _ more same => ?_, fun _ => apart '.' rfl⟩
      exact absurd (by rw [same]; rfl) (apart '.' rfl)
  | name s =>
      refine ⟨not_of_beginsBlank blank (by decide), fun _ d more same => ?_⟩
      exact absurd (by rw [same]; rfl) (apart ':' rfl)
  | _ => trivial

theorem symbol?_of_singleton (lexeme : IsLexeme t [c]) (letter : c.isDigit = false)
    (unnamed : startsName c = false) : t.symbol? = some [c] := by
  generalize single : [c] = cs at lexeme
  cases lexeme with
  | symbol written => exact written
  | literal quotes free => simp at single
  | number numeral =>
      subst single
      obtain digit | ⟨-, d, none, -⟩ := numeral.begins
      · rw [letter] at digit
        cases digit
      · cases none
  | name named =>
      subst single
      have begins := named.begins
      rw [unnamed] at begins
      cases begins

theorem eq_dot_of_lexeme (lexeme : IsLexeme t ['.']) : t = dot := by
  have written := symbol?_of_singleton lexeme (by decide) (by decide)
  cases t <;> first | rfl | cases written

theorem not_isLexeme_colon : ¬ IsLexeme t [':'] := by
  intro lexeme
  have written := symbol?_of_singleton lexeme (by decide) (by decide)
  cases t <;> cases written

/-- Where a token ends in front of another one depends on nothing that is behind that one. -/
theorem ends_append_congr {t u : Token} {cs ds rest rest' : List Char} (lexeme : IsLexeme u ds)
    (own : Ends u ds rest) (ends : Ends t cs (ds ++ rest)) : Ends t cs (ds ++ rest') := by
  obtain ⟨d, ds, rfl⟩ := List.exists_cons_of_ne_nil lexeme.ne_nil
  cases t with
  | number x =>
      obtain ⟨stops, double, single⟩ := ends
      refine ⟨stops, fun pointless more same => ?_, single⟩
      obtain ⟨rfl, rfl⟩ := List.cons.inj same
      have next := double pointless _ rfl
      cases ds with
      | nil =>
          -- a single point, which would not be one with another point behind it
          obtain rfl := eq_dot_of_lexeme lexeme
          exact absurd rfl (own '.' next).1
      | cons e ds => exact next
  | name s =>
      obtain ⟨stops, single⟩ := ends
      refine ⟨stops, fun plain e more same => ?_⟩
      obtain ⟨rfl, behind⟩ := List.cons.inj same
      cases ds with
      | nil => exact absurd lexeme not_isLexeme_colon
      | cons f ds =>
          obtain ⟨rfl, -⟩ := List.cons.inj behind
          exact single plain f _ rfl
  | _ => exact ends

end Harvest.XPath.Token
