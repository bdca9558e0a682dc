import ChangeImpact.Proofs.Run
import ChangeImpact.Sql.Script

/-!
# Precedence of operators

A row is an operand, followed by connectives with an operand behind each of them.  The tree of a row is described
without reading it from the left (`IsTree`): its root is the last of the connectives of the least strength, and what
stands before and behind it makes up the two operands.

The parsers of the operators form a tower, one level for each strength.  `Reads n k p` says that `p` reads any row of
connectives of strength `k` or more, up to a weaker one or the end, and gives its tree.  A level reads such rows if the
level above it does (`Reads.row`): the loop of a level reads the row in pieces of stronger connectives, and puts each
piece behind the tree of what was read before.  From operands (`reads_signedExpr`) this leads to whole expressions,
which in parentheses are operands again, one level further in.
-/

namespace ChangeImpact.Sql

open Text ChangeImpact.Sql.Parser

/-! ### Rows of operands -/

/-- An operator or keyword that joins two operands, with its strength from `OR` up to arithmetic. -/
inductive Lexeme.Connects : Lexeme → Nat → Operator → Prop
  | or {text : String} (h : asciiUpper text = "OR") : Connects (.word text false) 0 .or
  | and {text : String} (h : asciiUpper text = "AND") : Connects (.word text false) 1 .and
  | equals : Connects .equals 2 .equals
  | comparison {text : String} (h : text ∈ comparisonSymbols) : Connects (.symbol text) 2 .other
  | star : Connects .star 3 .other
  | arithmetic {text : String} (h : text ∈ arithmeticSymbols) : Connects (.symbol text) 3 .other

theorem Lexeme.Connects.strength_lt {lexeme : Lexeme} {strength : Nat} {operator : Operator}
    (h : lexeme.Connects strength operator) : strength < 4 := by
  cases h <;> omega

structure Connective where
  token : Token
  strength : Nat
  operator : Operator
  connects : token.lexeme.Connects strength operator

/-- The unquoted word is neither reserved nor a variable, and no expression of its own kind starts with it. -/
structure NamesColumn (text : String) : Prop where
  not_reserved : isReserved text = false
  not_marked : isMarked '@' text = false
  not_special : asciiUpper text ∉ ["NULL", "DEFAULT", "EXISTS", "CASE", "CAST", "TRY_CAST"]

/-- A part of the name of a column. -/
structure ColumnWord where
  text : String
  quoted : Bool
  line : Nat
  names : quoted = true ∨ NamesColumn text

def ColumnWord.token (w : ColumnWord) : Token :=
  ⟨.word w.text w.quoted, w.line⟩

/-- An operand, with the lines of its tokens. -/
inductive Operand where
  | literal (line : Nat)
  | column (name : ColumnWord)
  | qualified (source : ColumnWord) (period : Nat) (name : ColumnWord)
  | parenthesized (opening : Nat) (first : Operand) (rest : List (Connective × Operand)) (closing : Nat)

mutual

def Operand.tokens : Operand → Tokens
  | .literal line => [⟨.literal, line⟩]
  | .column name => [name.token]
  | .qualified source period name => [source.token, ⟨.period, period⟩, name.token]
  | .parenthesized opening first rest closing =>
    ⟨.openParen, opening⟩ :: (first.tokens ++ (rowTokens rest ++ [⟨.closeParen, closing⟩]))

/-- The tokens of a row behind its first operand. -/
def rowTokens : List (Connective × Operand) → Tokens
  | [] => []
  | (o, x) :: rest => o.token :: (x.tokens ++ rowTokens rest)

end

/-- Parentheses stand in one another at most `n` times. -/
inductive Operand.NestedWithin : Nat → Operand → Prop
  | literal {n line : Nat} : NestedWithin n (.literal line)
  | column {n : Nat} {name : ColumnWord} : NestedWithin n (.column name)
  | qualified {n period : Nat} {source name : ColumnWord} : NestedWithin n (.qualified source period name)
  | parenthesized {n opening closing : Nat} {first : Operand} {rest : List (Connective × Operand)}
    (hfirst : first.NestedWithin n) (hrest : ∀ q ∈ rest, q.2.NestedWithin n) :
    NestedWithin (n + 1) (.parenthesized opening first rest closing)

/-- The tree of a row.  The root is the last of the weakest connectives. -/
inductive IsTree : Operand → List (Connective × Operand) → Expr → Prop
  | literal {line : Nat} : IsTree (.literal line) [] .literal
  | column {name : ColumnWord} : IsTree (.column name) [] (.column ⟨[name.text]⟩)
  | qualified {source name : ColumnWord} {period : Nat} :
    IsTree (.qualified source period name) [] (.column ⟨[source.text, name.text]⟩)
  | parenthesized {opening closing : Nat} {first : Operand} {rest : List (Connective × Operand)} {e : Expr}
    (h : IsTree first rest e) : IsTree (.parenthesized opening first rest closing) [] e
  | binary {first x : Operand} {rest : List (Connective × Operand)} {o : Connective} {l r : Expr}
    (left right : List (Connective × Operand)) (hrest : rest = left ++ (o, x) :: right) (hl : IsTree first left l)
    (hr : IsTree x right r) (hleft : ∀ q ∈ left, o.strength ≤ q.1.strength)
    (hright : ∀ q ∈ right, o.strength < q.1.strength) : IsTree first rest (.binary l o.operator r)

variable {first x : Operand} {rest left right : List (Connective × Operand)} {o : Connective} {e e' l r : Expr}
  {n k : Nat} {ts tail : Tokens}

/-- There is only one last of the weakest connectives. -/
theorem eq_of_root {left' right' : List (Connective × Operand)} {o' : Connective} {x' : Operand}
    (hsplit : left ++ (o, x) :: right = left' ++ (o', x') :: right')
    (hleft : ∀ q ∈ left, o.strength ≤ q.1.strength) (hright : ∀ q ∈ right, o.strength < q.1.strength)
    (hleft' : ∀ q ∈ left', o'.strength ≤ q.1.strength) (hright' : ∀ q ∈ right', o'.strength < q.1.strength) :
    left = left' ∧ o = o' ∧ x = x' ∧ right = right' := by
  -- of two different ones the first would be at least as strong as the second, and weaker than it
  rcases List.append_eq_append_iff.1 hsplit with ⟨between, rfl, hrest⟩ | ⟨between, rfl, hrest⟩ <;>
    rcases List.cons_eq_append_iff.1 hrest with ⟨rfl, hrest⟩ | ⟨between, rfl, rfl⟩
  · cases hrest
    simp
  · have hle := hleft' (o, x) (by simp)
    have hlt := hright (o', x') (by simp)
    dsimp only at hle hlt
    omega
  · cases hrest
    simp
  · have hle := hleft (o', x') (by simp)
    have hlt := hright' (o, x) (by simp)
    dsimp only at hle hlt
    omega

/-- A row has at most one tree. -/
theorem IsTree.eq (h : IsTree first rest e) (h' : IsTree first rest e') : e = e' := by
  induction h generalizing e' with
  | literal =>
    cases h' with
    | literal => rfl
    | binary _ _ hrest => simp at hrest
  | column =>
    cases h' with
    | column => rfl
    | binary _ _ hrest => simp at hrest
  | qualified =>
    cases h' with
    | qualified => rfl
    | binary _ _ hrest => simp at hrest
  | parenthesized _ ih =>
    cases h' with
    | parenthesized h' => exact ih h'
    | binary _ _ hrest => simp at hrest
  | binary _ _ hrest _ _ hleft hright ihl ihr =>
    cases h' with
    | binary _ _ hrest' hl' hr' hleft' hright' =>
      obtain ⟨rfl, rfl, rfl, rfl⟩ := eq_of_root (hrest.symm.trans hrest') hleft hright hleft' hright'
      rw [ihl hl', ihr hr']
    | _ => simp at hrest

/-- The part of a row up to the first connective of the least strength that may occur. -/
theorem exists_split (hrest : ∀ q ∈ rest, k ≤ q.1.strength) :
    ∃ piece more, rest = piece ++ more ∧ (∀ q ∈ piece, k + 1 ≤ q.1.strength) ∧
      (more = [] ∨ ∃ o x others, more = (o, x) :: others ∧ o.strength = k) := by
  induction rest with
  | nil => exact ⟨[], [], rfl, by simp, .inl rfl⟩
  | cons q rest ih =>
    obtain ⟨hq, hrest⟩ := List.forall_mem_cons.1 hrest
    by_cases hstrength : q.1.strength = k
    · exact ⟨[], q :: rest, rfl, by simp, .inr ⟨q.1, q.2, rest, rfl, hstrength⟩⟩
    · obtain ⟨piece, more, rfl, hpiece, hmore⟩ := ih hrest
      refine ⟨q :: piece, more, rfl, List.forall_mem_cons.2 ⟨?_, hpiece⟩, hmore⟩
      omega

/-! ### What stands next to an operand -/

/-- An expression ends at the end of the text, or in front of a comma, a closing parenthesis or a semicolon. -/
inductive EndsExpr : Tokens → Prop
  | nil : EndsExpr []
  | cons {t : Token} {ts : Tokens} (h : t.lexeme = .comma ∨ t.lexeme = .closeParen ∨ t.lexeme = .semicolon) :
    EndsExpr (t :: ts)

/-- A row of connectives of strength `k` or more ends here. -/
def EndsRow (k : Nat) (ts : Tokens) : Prop :=
  EndsExpr ts ∨ ∃ (o : Connective) (tail : Tokens), ts = o.token :: tail ∧ o.strength < k

theorem EndsRow.of_split {more : List (Connective × Operand)} (h : EndsRow k tail)
    (hmore : more = [] ∨ ∃ o x others, more = (o, x) :: others ∧ o.strength = k) :
    EndsRow (k + 1) (rowTokens more ++ tail) := by
  rcases hmore with rfl | ⟨o, x, others, rfl, rfl⟩
  · rcases h with h | ⟨o, ts, rfl, ho⟩
    · exact .inl h
    · exact .inr ⟨o, ts, rfl, by omega⟩
  · exact .inr ⟨o, _, rfl, Nat.lt_succ_self _⟩

/-- What stands behind a row. -/
theorem EndsRow.lexeme?_cases (h : EndsRow k ts) :
    (ts.lexeme? 0 = none ∨ ts.lexeme? 0 = some .comma ∨ ts.lexeme? 0 = some .closeParen ∨
        ts.lexeme? 0 = some .semicolon) ∨
      ∃ lexeme s operator, ts.lexeme? 0 = some lexeme ∧ lexeme.Connects s operator ∧ s < k := by
  rcases h with h | ⟨o, tail, rfl, ho⟩
  · refine .inl ?_
    cases h with
    | nil => exact .inl rfl
    | cons h => rcases h with h | h | h <;> simp [Tokens.lexeme?, h]
  · exact .inr ⟨_, _, _, rfl, o.connects, ho⟩

theorem EndsRow.hasKeyword_eq_false (h : EndsRow k ts) {keyword : String} (hor : keyword = "OR" → k = 0)
    (hand : keyword = "AND" → k ≤ 1) : ts.hasKeyword 0 keyword = false := by
  unfold Tokens.hasKeyword Tokens.keyword?
  rcases h.lexeme?_cases with hend | ⟨lexeme, s, operator, hlexeme, hconnects, hs⟩
  · rcases hend with h | h | h | h <;> rw [h] <;> rfl
  · rw [hlexeme, Option.bind_some, beq_eq_false_iff_ne]
    cases hconnects with
    | or h =>
      rw [Lexeme.keyword?, h]
      rintro ⟨rfl⟩
      have := hor rfl
      omega
    | and h =>
      rw [Lexeme.keyword?, h]
      rintro ⟨rfl⟩
      have := hand rfl
      omega
    | _ => simp [Lexeme.keyword?]

theorem EndsRow.hasLexeme_eq_false (h : EndsRow k ts) {lexeme : Lexeme}
    (hlexeme : lexeme = .period ∨ lexeme = .openParen) : ts.hasLexeme 0 lexeme = false := by
  unfold Tokens.hasLexeme
  rcases h.lexeme?_cases with hend | ⟨_, s, operator, hconnective, hconnects, -⟩
  · rcases hlexeme with rfl | rfl <;> rcases hend with h | h | h | h <;> rw [h] <;> rfl
  · rw [hconnective]
    rcases hlexeme with rfl | rfl <;> cases hconnects <;> rfl

/-- An operand starts with a literal, with the name of a column or with a parenthesis. -/
theorem Operand.exists_tokens_eq (x : Operand) :
    ∃ t ts, x.tokens = t :: ts ∧
      (t.lexeme = .literal ∨ t.lexeme = .openParen ∨ ∃ name : ColumnWord, t.lexeme = .word name.text name.quoted) := by
  cases x with
  | literal line => exact ⟨_, _, by rw [tokens], .inl rfl⟩
  | column name => exact ⟨_, _, by rw [tokens], .inr (.inr ⟨name, rfl⟩)⟩
  | qualified source period name => exact ⟨_, _, by rw [tokens], .inr (.inr ⟨source, rfl⟩)⟩
  | parenthesized => exact ⟨_, _, by rw [tokens], .inr (.inl rfl)⟩

theorem ColumnWord.hasKeyword_eq_false (name : ColumnWord) {t : Token} (ht : t.lexeme = .word name.text name.quoted)
    {keyword : String} (h : keyword ∈ statementKeywords ∨ keyword ∈ clauseKeywords) :
    Tokens.hasKeyword (t :: ts) 0 keyword = false := by
  have hkeyword : Tokens.hasKeyword (t :: ts) 0 keyword =
      (Lexeme.keyword? (.word name.text name.quoted) == some keyword) := by
    rw [← ht]
    rfl
  rw [hkeyword]
  rcases name.names with hquoted | hnames
  · rw [hquoted]
    rfl
  · have hreserved := hnames.not_reserved
    simp only [isReserved, Bool.or_eq_false_iff, List.contains_eq_mem, decide_eq_false_iff_not] at hreserved
    cases name.quoted with
    | true => rfl
    | false =>
      simp only [Lexeme.keyword?, beq_eq_false_iff_ne, ne_eq, Option.some.injEq]
      rintro rfl
      exact h.elim hreserved.1 hreserved.2

/-- No keyword that starts or goes on with a statement stands in front of an operand. -/
theorem Operand.hasKeyword_eq_false (x : Operand) {keyword : String}
    (h : keyword ∈ statementKeywords ∨ keyword ∈ clauseKeywords) : (x.tokens ++ ts).hasKeyword 0 keyword = false := by
  obtain ⟨t, us, htokens, ht⟩ := x.exists_tokens_eq
  rw [htokens]
  rcases ht with ht | ht | ⟨name, ht⟩
  · simp [Tokens.hasKeyword, Tokens.keyword?, Tokens.lexeme?, ht, Lexeme.keyword?]
  · simp [Tokens.hasKeyword, Tokens.keyword?, Tokens.lexeme?, ht, Lexeme.keyword?]
  · exact name.hasKeyword_eq_false ht h

/-! ### Operands -/

namespace Parser

theorem namePart?_eq_none (h : ts.hasLexeme 0 .period = false) : namePart? ts = none := by
  have hne : ts.lexeme? 0 ≠ some .period := by
    intro hperiod
    simp [Tokens.hasLexeme, hperiod] at h
  unfold namePart?
  split
  · contradiction
  · contradiction
  · rfl

theorem run_objectName_column (name : ColumnWord) (h : EndsRow k tail) :
    objectName.run (name.token :: tail) = ⟨.ok ⟨[name.text]⟩, tail, [], 0⟩ := by
  have hidentifier : identifier.run (name.token :: tail) = ⟨.ok name.text, tail, [], 0⟩ := rfl
  have hpart : namePart? tail = none := namePart?_eq_none (h.hasLexeme_eq_false (.inl rfl))
  exact (run_bind_of_ok hidentifier).trans (run_bind_of_ok (run_loop_of_none hpart))

theorem run_objectName_qualified (source name : ColumnWord) (period : Nat) (h : EndsRow k tail) :
    objectName.run (source.token :: ⟨.period, period⟩ :: name.token :: tail) =
      ⟨.ok ⟨[source.text, name.text]⟩, tail, [], 0⟩ := by
  have hidentifier : identifier.run (source.token :: ⟨.period, period⟩ :: name.token :: tail) =
      ⟨.ok source.text, ⟨.period, period⟩ :: name.token :: tail, [], 0⟩ := rfl
  have hname : namePart? (⟨.period, period⟩ :: name.token :: tail) = some (1, name.text) := rfl
  have hpart : namePart? tail = none := namePart?_eq_none (h.hasLexeme_eq_false (.inl rfl))
  refine (run_bind_of_ok hidentifier).trans (run_bind_of_ok ?_)
  exact (run_loop_of_some hname rfl).trans (run_loop_of_none hpart)

end Parser

namespace Grammar

variable (inner : Grammar)

/-- What is neither called nor followed by a star is a column. -/
theorem run_namedExpr {name : Name} (hname : objectName.run ts = ⟨.ok name, tail, [], 0⟩) (h : EndsRow k tail) :
    (namedExpr inner).run ts = ⟨.ok (.column name), tail, [], 0⟩ := by
  have hcall : (look (·.hasLexeme 0 .openParen)).run tail = ⟨.ok false, tail, [], 0⟩ := by
    simp only [look, h.hasLexeme_eq_false (.inr rfl)]
  have hstar : (tail.hasLexeme 0 .period && tail.hasLexeme 1 .star) = false := by
    rw [h.hasLexeme_eq_false (.inl rfl), Bool.false_and]
  refine (run_bind_of_ok hname).trans ((run_bind_of_ok hcall).trans ?_)
  exact run_bind_of_ok (run_acceptIf_of_not hstar 2)

theorem wordExpr_eq_namedExpr {text : String} (h : NamesColumn text) : wordExpr inner text = namedExpr inner := by
  have hspecial := h.not_special
  simp only [List.mem_cons, List.not_mem_nil, or_false, not_or] at hspecial
  obtain ⟨hnull, hdefault, hexists, hcase, hcast, htryCast⟩ := hspecial
  unfold wordExpr
  rw [if_neg (by simp [h.not_marked])]
  split
  · contradiction
  · contradiction
  · contradiction
  · contradiction
  · contradiction
  · contradiction
  · rw [if_neg (by simp [h.not_reserved])]

theorem run_primary_word (name : ColumnWord) (ts : Tokens) :
    (primary inner).run (name.token :: ts) = (namedExpr inner).run (name.token :: ts) := by
  have hpeek : peek.run (name.token :: ts) = ⟨.ok (some (.word name.text name.quoted)), name.token :: ts, [], 0⟩ := rfl
  refine (run_bind_of_ok hpeek).trans ?_
  rcases name.names with hquoted | hnames
  · dsimp only
    rw [if_pos hquoted]
  · dsimp only
    rw [wordExpr_eq_namedExpr inner hnames, ite_self]

/-- Nothing is between an operand and what follows it. -/
theorem run_signedExpr_of_primary (h : EndsRow k tail) (hsign : ∀ text, ts.lexeme? 0 ≠ some (.symbol text))
    (hprimary : (primary inner).run ts = ⟨.ok e, tail, [], 0⟩) : (signedExpr inner).run ts = ⟨.ok e, tail, [], 0⟩ := by
  have hcollate : tail.hasKeyword 0 "COLLATE" = false := h.hasKeyword_eq_false (by simp) (by simp)
  have hzone : (tail.hasKeyword 0 "AT" && tail.hasKeyword 1 "TIME" && tail.hasKeyword 2 "ZONE") = false := by
    rw [h.hasKeyword_eq_false (by simp) (by simp), Bool.false_and, Bool.false_and]
  unfold signedExpr
  refine (run_bind_of_ok (run_acceptIf_of_not ?_ 1)).trans ?_
  · split
    · rename_i text htext
      exact absurd htext (hsign text)
    · rfl
  refine (run_bind_of_ok hprimary).trans ?_
  refine (run_bind_of_ok (run_acceptIf_of_not hcollate 1)).trans ?_
  exact run_bind_of_ok (run_acceptIf_of_not hzone 3)

end Grammar

/-! ### Levels -/

/-- The parser reads every row whose connectives have strength `k` or more and whose parentheses stand in one another at
most `n` times, and gives its tree. -/
def Reads (n k : Nat) (p : Parser Expr) : Prop :=
  ∀ (first : Operand) (rest : List (Connective × Operand)) (tail : Tokens), first.NestedWithin n →
    (∀ q ∈ rest, q.2.NestedWithin n) → (∀ q ∈ rest, k ≤ q.1.strength) → EndsRow k tail →
    ∃ e, IsTree first rest e ∧ p.run (first.tokens ++ (rowTokens rest ++ tail)) = ⟨.ok e, tail, [], 0⟩

theorem rowTokens_append (left right : List (Connective × Operand)) :
    rowTokens (left ++ right) = rowTokens left ++ rowTokens right := by
  induction left with
  | nil => rfl
  | cons q left ih =>
    obtain ⟨o, x⟩ := q
    simp only [List.cons_append, rowTokens, ih, List.append_assoc]

section Level

variable {ω : Type} {p : Parser Expr} {separator : Tokens → Option (Nat × ω)} {body : Expr → ω → Parser Expr}

/-- The loop of a level reads a row in pieces of stronger connectives, and puts each piece behind what was read. -/
theorem Reads.loop (said : Connective → ω) (hp : Reads n (k + 1) p)
    (hgo : ∀ o : Connective, o.strength = k → ∀ (x : Operand) (ts : Tokens),
      separator (o.token :: (x.tokens ++ ts)) = some (0, said o))
    (hstop : ∀ ts, EndsRow k ts → separator ts = none)
    (hbody : ∀ o : Connective, o.strength = k → ∀ left,
      body left (said o) = (do return .binary left o.operator (← p)))
    {more : List (Connective × Operand)} (hnested : ∀ q ∈ more, q.2.NestedWithin n)
    (hmore : ∀ q ∈ more, k ≤ q.1.strength)
    (hhead : more = [] ∨ ∃ o x others, more = (o, x) :: others ∧ o.strength = k) (htail : EndsRow k tail)
    (hl : IsTree first left l) (hleft : ∀ q ∈ left, k ≤ q.1.strength) :
    ∃ e, IsTree first (left ++ more) e ∧
      (Parser.loop separator body l).run (rowTokens more ++ tail) = ⟨.ok e, tail, [], 0⟩ := by
  -- the induction is on the row that is still to be read, which each piece makes shorter
  induction hlength : more.length using Nat.strongRecOn generalizing more left l with
  | ind m ih =>
    rcases hhead with rfl | ⟨o, x, others, rfl, rfl⟩
    · exact ⟨l, by simpa using hl, run_loop_of_none (hstop tail htail)⟩
    obtain ⟨hx, hnested⟩ := List.forall_mem_cons.1 hnested
    obtain ⟨-, hothers⟩ := List.forall_mem_cons.1 hmore
    obtain ⟨piece, more, rfl, hpiece, hhead⟩ := exists_split hothers
    obtain ⟨hnestedPiece, hnestedMore⟩ := List.forall_mem_append.1 hnested
    obtain ⟨-, hmore⟩ := List.forall_mem_append.1 hothers
    obtain ⟨r, hr, hrun⟩ := hp x piece (rowTokens more ++ tail) hx hnestedPiece hpiece (htail.of_split hhead)
    have htree : IsTree first (left ++ (o, x) :: piece) (.binary l o.operator r) :=
      .binary left piece rfl hl hr hleft hpiece
    have hstrength : ∀ q ∈ left ++ (o, x) :: piece, o.strength ≤ q.1.strength := by
      refine List.forall_mem_append.2 ⟨hleft, List.forall_mem_cons.2 ⟨Nat.le_refl _, fun q hq => ?_⟩⟩
      exact Nat.le_of_succ_le (hpiece q hq)
    have hshorter : more.length < m := by
      rw [← hlength, List.length_cons, List.length_append]
      omega
    obtain ⟨e, he, hrest⟩ := ih more.length hshorter hnestedMore hmore hhead htree hstrength rfl
    have hstep : (body l (said o)).run (x.tokens ++ (rowTokens piece ++ (rowTokens more ++ tail))) =
        ⟨.ok (.binary l o.operator r), rowTokens more ++ tail, [], 0⟩ := by
      rw [hbody o rfl]
      exact run_bind_of_ok hrun
    refine ⟨e, by simpa using he, ?_⟩
    rw [rowTokens, rowTokens_append]
    simp only [List.cons_append, List.append_assoc]
    exact (run_loop_of_some (hgo o rfl x _) hstep).trans hrest

/-- A level reads rows of its connectives if the level above it reads rows of stronger ones. -/
theorem Reads.row (said : Connective → ω) (hp : Reads n (k + 1) p)
    (hgo : ∀ o : Connective, o.strength = k → ∀ (x : Operand) (ts : Tokens),
      separator (o.token :: (x.tokens ++ ts)) = some (0, said o))
    (hstop : ∀ ts, EndsRow k ts → separator ts = none)
    (hbody : ∀ o : Connective, o.strength = k → ∀ left,
      body left (said o) = (do return .binary left o.operator (← p))) :
    Reads n k (p >>= Parser.loop separator body) := by
  intro first rest tail hfirst hnested hrest htail
  obtain ⟨piece, more, rfl, hpiece, hhead⟩ := exists_split hrest
  obtain ⟨hnestedPiece, hnestedMore⟩ := List.forall_mem_append.1 hnested
  obtain ⟨hleft, hmore⟩ := List.forall_mem_append.1 hrest
  obtain ⟨l, hl, hrun⟩ := hp first piece (rowTokens more ++ tail) hfirst hnestedPiece hpiece (htail.of_split hhead)
  obtain ⟨e, he, hloop⟩ := hp.loop said hgo hstop hbody hnestedMore hmore hhead htail hl hleft
  refine ⟨e, he, ?_⟩
  rw [rowTokens_append, List.append_assoc]
  exact (run_bind_of_ok hrun).trans hloop

end Level

/-- How the parser of comparisons takes the connective. -/
def Connective.comparison (o : Connective) : Grammar.Comparison :=
  if o.operator = .equals then .equals else .other

namespace Grammar

variable {inner : Grammar}

/-! #### Separators -/

theorem arithmetic?_eq_some (o : Connective) (ho : o.strength = 3) (x : Operand) (ts : Tokens) :
    arithmetic? (o.token :: (x.tokens ++ ts)) = some (0, o.operator) := by
  obtain ⟨⟨lexeme, line⟩, s, operator, hconnects⟩ := o
  dsimp only at hconnects ho ⊢
  subst ho
  cases hconnects with
  | star => rfl
  | @arithmetic text h =>
    obtain ⟨t, us, htokens, ht⟩ := x.exists_tokens_eq
    have hequals : Tokens.hasLexeme (⟨.symbol text, line⟩ :: (t :: us ++ ts)) 1 .equals = false := by
      rcases ht with ht | ht | ⟨name, ht⟩ <;> simp [Tokens.hasLexeme, Tokens.lexeme?, ht]
    have hsymbol : arithmeticSymbols.contains text = true := List.contains_iff_mem.2 h
    rw [htokens]
    change (if arithmeticSymbols.contains text && !Tokens.hasLexeme (⟨.symbol text, line⟩ :: (t :: us ++ ts)) 1 .equals
      then some (0, Operator.other) else none) = some (0, .other)
    rw [hsymbol, hequals]
    rfl

theorem arithmetic?_eq_none (ts : Tokens) (h : EndsRow 3 ts) : arithmetic? ts = none := by
  unfold arithmetic?
  rcases h.lexeme?_cases with hend | ⟨_, s, operator, hlexeme, hconnects, hs⟩
  · rcases hend with h | h | h | h <;> rw [h]
  · rw [hlexeme]
    cases hconnects with
    | @comparison text h =>
      have hnot : ∀ text ∈ comparisonSymbols, arithmeticSymbols.contains text = false := by decide
      simp only [hnot text h, Bool.false_and]
      rfl
    | star => omega
    | arithmetic => omega
    | _ => rfl

theorem comparison?_eq_some (o : Connective) (ho : o.strength = 2) (x : Operand) (ts : Tokens) :
    comparison? (o.token :: (x.tokens ++ ts)) = some (0, o.comparison) := by
  obtain ⟨⟨lexeme, line⟩, s, operator, hconnects⟩ := o
  dsimp only at hconnects ho
  subst ho
  cases hconnects with
  | equals => rfl
  | comparison h => simp [comparison?, Tokens.lexeme?, h, Connective.comparison]

theorem comparison?_eq_none (ts : Tokens) (h : EndsRow 2 ts) : comparison? ts = none := by
  have hkeyword {keyword : String} (hne : keyword ≠ "OR" ∧ keyword ≠ "AND") : ts.hasKeyword 0 keyword = false :=
    h.hasKeyword_eq_false (fun heq => absurd heq hne.1) (fun heq => absurd heq hne.2)
  have hfall : (if ts.hasKeyword 0 "IS" then some (if ts.hasKeyword 1 "NOT" then 1 else 0, Comparison.other)
      else
        let n := if ts.hasKeyword 0 "NOT" then 1 else 0
        if ts.hasKeyword n "IN" then some (n, .isIn)
        else if ts.hasKeyword n "LIKE" then some (n, .like)
        else if ts.hasKeyword n "BETWEEN" then some (n, .between)
        else none) = none := by
    simp [hkeyword]
  unfold comparison?
  rcases h.lexeme?_cases with hend | ⟨_, s, operator, hlexeme, hconnects, hs⟩
  · rcases hend with h | h | h | h <;> rw [h] <;> exact hfall
  · rw [hlexeme]
    cases hconnects with
    | or => exact hfall
    | and => exact hfall
    | _ => omega

theorem compareWith_comparison (o : Connective) (ho : o.strength = 2) (left : Expr) :
    compareWith inner left o.comparison = (do return .binary left o.operator (← additive inner)) := by
  obtain ⟨⟨lexeme, line⟩, s, operator, hconnects⟩ := o
  dsimp only at hconnects ho
  subst ho
  cases hconnects with
  | equals => rfl
  | comparison h => rfl

theorem keywordOperator_eq_some {text keyword : String} {line : Nat} (h : asciiUpper text = keyword)
    (operator : Operator) (ts : Tokens) :
    keywordOperator keyword operator (⟨.word text false, line⟩ :: ts) = some (0, operator) := by
  have hkeyword : Tokens.hasKeyword (⟨.word text false, line⟩ :: ts) 0 keyword = true := beq_iff_eq.2 (congrArg some h)
  rw [keywordOperator, if_pos hkeyword]

theorem keywordOperator_eq_none {keyword : String} (h : ts.hasKeyword 0 keyword = false) (operator : Operator) :
    keywordOperator keyword operator ts = none := by
  rw [keywordOperator, h]
  rfl

/-! #### The tower -/

theorem reads_additive (h : Reads n 4 (signedExpr inner)) : Reads n 3 (additive inner) :=
  h.row Connective.operator arithmetic?_eq_some arithmetic?_eq_none fun _ _ _ => rfl

theorem reads_comparison (h : Reads n 3 (additive inner)) : Reads n 2 (comparison inner) :=
  h.row Connective.comparison comparison?_eq_some comparison?_eq_none compareWith_comparison

/-- `NOT` starts no operand. -/
theorem reads_negatedExpr (h : Reads n 2 (comparison inner)) : Reads n 2 (negatedExpr inner) := by
  intro first rest tail hfirst hnested hrest htail
  obtain ⟨e, he, hrun⟩ := h first rest tail hfirst hnested hrest htail
  have hnot : (first.tokens ++ (rowTokens rest ++ tail)).hasKeyword 0 "NOT" = false :=
    first.hasKeyword_eq_false (.inr (by decide))
  exact ⟨e, he, (run_bind_of_ok (run_acceptIf_of_not hnot 1)).trans hrun⟩

theorem reads_conjunction (h : Reads n 2 (negatedExpr inner)) : Reads n 1 (conjunction inner) := by
  refine h.row Connective.operator (fun o ho x ts => ?_) (fun ts hts => ?_) fun _ _ _ => rfl
  · obtain ⟨⟨lexeme, line⟩, s, operator, hconnects⟩ := o
    dsimp only at hconnects ho ⊢
    subst ho
    cases hconnects with
    | and h => exact keywordOperator_eq_some h .and _
  · exact keywordOperator_eq_none (hts.hasKeyword_eq_false (by simp) (by simp)) .and

theorem reads_disjunction (h : Reads n 1 (conjunction inner)) : Reads n 0 (disjunction inner) := by
  refine h.row Connective.operator (fun o ho x ts => ?_) (fun ts hts => ?_) fun _ _ _ => rfl
  · obtain ⟨⟨lexeme, line⟩, s, operator, hconnects⟩ := o
    dsimp only at hconnects ho ⊢
    subst ho
    cases hconnects with
    | or h => exact keywordOperator_eq_some h .or _
  · exact keywordOperator_eq_none (hts.hasKeyword_eq_false (by simp) (by simp)) .or

/-- A row in parentheses is read by the grammar one level further in. -/
theorem run_parenthesized (opening closing : Nat) (tail : Tokens) (h : Reads n 0 inner.expr)
    (hfirst : first.NestedWithin n) (hrest : ∀ q ∈ rest, q.2.NestedWithin n) :
    ∃ e, IsTree first rest e ∧
      (parenthesized inner).run (⟨.openParen, opening⟩ ::
        (first.tokens ++ (rowTokens rest ++ ⟨.closeParen, closing⟩ :: tail))) = ⟨.ok e, tail, [], 0⟩ := by
  have hend : EndsRow 0 (⟨.closeParen, closing⟩ :: tail) := .inl (.cons (.inr (.inl rfl)))
  obtain ⟨e, he, hexpr⟩ := h first rest _ hfirst hrest (fun _ _ => Nat.zero_le _) hend
  have hquery : (look (·.startsQuery 0)).run (first.tokens ++ (rowTokens rest ++ ⟨.closeParen, closing⟩ :: tail)) =
      ⟨.ok false, first.tokens ++ (rowTokens rest ++ ⟨.closeParen, closing⟩ :: tail), [], 0⟩ := by
    have hstatement {keyword : String} (h : keyword ∈ statementKeywords) :
        (first.tokens ++ (rowTokens rest ++ ⟨.closeParen, closing⟩ :: tail)).hasKeyword 0 keyword = false :=
      first.hasKeyword_eq_false (.inl h)
    have hselect := hstatement (show "SELECT" ∈ statementKeywords by decide)
    have hwith := hstatement (show "WITH" ∈ statementKeywords by decide)
    simp only [look, Tokens.startsQuery, hselect, hwith, Bool.or_self]
  have hlist : (exprList inner).run (first.tokens ++ (rowTokens rest ++ ⟨.closeParen, closing⟩ :: tail)) =
      ⟨.ok [e], ⟨.closeParen, closing⟩ :: tail, [], 0⟩ :=
    (run_bind_of_ok hexpr).trans (run_loop_of_none rfl)
  refine ⟨e, he, (run_bind_of_ok (a := ()) rfl).trans ((run_bind_of_ok hquery).trans ?_)⟩
  refine (run_bind_of_ok hlist).trans (run_bind_of_ok (a := ()) ?_)
  rfl

theorem reads_signedExpr (h : ∀ m < n, Reads m 0 inner.expr) : Reads n 4 (signedExpr inner) := by
  intro first rest tail hfirst _ hrest htail
  -- no connective is that strong
  have hempty : rest = [] := by
    refine List.eq_nil_iff_forall_not_mem.2 fun ⟨o, x⟩ hq => ?_
    have hle : 4 ≤ o.strength := hrest _ hq
    have hlt : o.strength < 4 := o.connects.strength_lt
    omega
  subst hempty
  cases hfirst with
  | literal => exact ⟨_, .literal, run_signedExpr_of_primary inner htail (by simp [Tokens.lexeme?, Operand.tokens]) rfl⟩
  | @column _ name =>
    have hname : objectName.run (name.token :: tail) = ⟨.ok ⟨[name.text]⟩, tail, [], 0⟩ :=
      run_objectName_column name htail
    refine ⟨_, .column, run_signedExpr_of_primary inner htail ?_ ?_⟩
    · simp [Tokens.lexeme?, Operand.tokens, ColumnWord.token]
    · exact (run_primary_word inner name tail).trans (run_namedExpr inner hname htail)
  | @qualified _ period source name =>
    have hname : objectName.run (source.token :: ⟨.period, period⟩ :: name.token :: tail) =
        ⟨.ok ⟨[source.text, name.text]⟩, tail, [], 0⟩ := run_objectName_qualified source name period htail
    refine ⟨_, .qualified, run_signedExpr_of_primary inner htail ?_ ?_⟩
    · simp [Tokens.lexeme?, Operand.tokens, ColumnWord.token]
    · exact (run_primary_word inner source _).trans (run_namedExpr inner hname htail)
  | @parenthesized m opening closing first rest hfirst hrest =>
    obtain ⟨e, he, hrun⟩ := run_parenthesized opening closing tail (h m (Nat.lt_succ_self m)) hfirst hrest
    refine ⟨e, .parenthesized he, run_signedExpr_of_primary inner htail ?_ ?_⟩
    · simp [Tokens.lexeme?, Operand.tokens]
    · simp only [Operand.tokens, rowTokens, List.cons_append, List.append_assoc, List.nil_append]
      have hpeek : peek.run (⟨.openParen, opening⟩ ::
          (first.tokens ++ (rowTokens rest ++ ⟨.closeParen, closing⟩ :: tail))) =
            ⟨.ok (some .openParen), _, [], 0⟩ := rfl
      exact (run_bind_of_ok hpeek).trans hrun

/-- The grammar with a number of levels reads rows with fewer parentheses in one another. -/
theorem reads_expr (levels : Nat) : ∀ n < levels, Reads n 0 (ofLevels levels).expr := by
  induction levels with
  | zero => exact fun n hn => absurd hn (Nat.not_lt_zero n)
  | succ levels ih =>
    intro n hn
    have hinner : ∀ m < n, Reads m 0 (ofLevels levels).expr := fun m hm => ih m (by omega)
    have hcomparison : Reads n 2 (comparison (ofLevels levels)) :=
      reads_comparison (reads_additive (reads_signedExpr hinner))
    exact reads_disjunction (reads_conjunction (reads_negatedExpr hcomparison))

/-- An expression is read as its tree, in which `OR` is weaker than `AND`, `AND` than the comparisons, and these than
arithmetic, and operators of one strength associate to the left. -/
theorem expr_reads_tree (first : Operand) (rest : List (Connective × Operand)) (tail : Tokens) (depth n : Nat)
    (hfirst : first.NestedWithin n) (hrest : ∀ q ∈ rest, q.2.NestedWithin n) (hdepth : depth + n < maxNesting)
    (htail : EndsExpr tail) :
    ∃ e, (∀ e', IsTree first rest e' ↔ e' = e) ∧
      (ofLevels (maxNesting - depth)).expr.run (first.tokens ++ (rowTokens rest ++ tail)) = ⟨.ok e, tail, [], 0⟩ := by
  have hreads : Reads n 0 (ofLevels (maxNesting - depth)).expr := reads_expr (maxNesting - depth) n (by omega)
  obtain ⟨e, he, hrun⟩ := hreads first rest tail hfirst hrest (fun _ _ => Nat.zero_le _) (.inl htail)
  refine ⟨e, fun e' => ⟨fun he' => he'.eq he, ?_⟩, hrun⟩
  rintro rfl
  exact he

/-- `1 - 2 - [Or] = 3 OR (4 AND 5)` -/
theorem expr_reads_tree_subtractions :
    let minus : Connective := ⟨⟨.symbol "-", 1⟩, 3, .other, .arithmetic (by decide)⟩
    let equals : Connective := ⟨⟨.equals, 1⟩, 2, .equals, .equals⟩
    let and : Connective := ⟨⟨.word "and" false, 1⟩, 1, .and, .and (by decide +kernel)⟩
    let or : Connective := ⟨⟨.word "Or" false, 1⟩, 0, .or, .or (by decide +kernel)⟩
    let rest : List (Connective × Operand) := [(minus, .literal 1), (minus, .column ⟨"Or", true, 1, .inl rfl⟩),
      (equals, .literal 1), (or, .parenthesized 2 (.literal 2) [(and, .literal 2)] 2)]
    let difference : Expr := .binary (.binary .literal .other .literal) .other (.column ⟨["Or"]⟩)
    let tree : Expr := .binary (.binary difference .equals .literal) .or (.binary .literal .and .literal)
    (∀ e, IsTree (.literal 1) rest e ↔ e = tree) ∧
      (ofLevels (maxNesting - 20)).expr.run ((Operand.literal 1).tokens ++ (rowTokens rest ++ [⟨.comma, 2⟩])) =
        ⟨.ok tree, [⟨.comma, 2⟩], [], 0⟩ := by
  intro minus equals and or rest difference tree
  have hdifference : IsTree (.literal 1) (rest.take 2) difference := by
    have hfirst : IsTree (.literal 1) (rest.take 1) (.binary .literal .other .literal) :=
      .binary [] [] rfl .literal .literal (by simp) (by simp)
    exact .binary (rest.take 1) [] rfl hfirst .column (by simp [rest]) (by simp)
  have hequation : IsTree (.literal 1) (rest.take 3) (.binary difference .equals .literal) :=
    .binary (rest.take 2) [] rfl hdifference .literal (by simp [rest, minus, equals]) (by simp)
  have hconjunction : IsTree (.literal 2) [(and, .literal 2)] (.binary .literal .and .literal) :=
    .binary [] [] rfl .literal .literal (by simp) (by simp)
  have htree : IsTree (.literal 1) rest tree :=
    .binary (rest.take 3) [] rfl hequation (.parenthesized hconjunction) (by simp [or]) (by simp)
  have hnested : ∀ q ∈ rest, q.2.NestedWithin 1 := by
    simp only [rest, List.forall_mem_cons, List.not_mem_nil, false_implies, implies_true, and_true]
    refine ⟨.literal, .column, .literal, .parenthesized .literal ?_⟩
    simpa using .literal
  obtain ⟨e, he, hrun⟩ :=
    expr_reads_tree (.literal 1) rest [⟨.comma, 2⟩] 20 1 .literal hnested (by decide) (.cons (.inl rfl))
  obtain rfl : tree = e := (he tree).1 htree
  refine ⟨he, ?_⟩
  -- the texts are the same up to names of types, so nothing is to be computed
  with_reducible exact hrun

end Grammar

end ChangeImpact.Sql
