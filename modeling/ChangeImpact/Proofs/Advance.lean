import ChangeImpact.Proofs.Run
import ChangeImpact.Sql.Script

/-!
# What must read something

A parser that goes on after another one has read something if either of them has.  So a parser must read something as
soon as each way through it passes a keyword, a sign, an identifier, or something nested that must read something
(`Parser.Advances`).  There is an instance for each way to build a parser.

Every expression, every query, every source and every name is read by such a parser, at all levels of nesting
(`Grammar.advances_ofLevels`).  Only what looked at its first token before takes it without a test of its own, so there
it counts which tokens are ahead: `Parser.AdvancesOn`.
-/

namespace ChangeImpact.Sql

namespace Parser

variable {α β : Type}

/-- On these tokens, fewer are left whenever the parser succeeds. -/
def AdvancesOn (p : Parser α) (ts : Tokens) : Prop :=
  ∀ a, (p.run ts).result = .ok a → (p.run ts).rest.length < ts.length

/-- Fewer tokens are left whenever the parser succeeds. -/
class Advances (p : Parser α) : Prop where
  on : ∀ ts, p.AdvancesOn ts

namespace AdvancesOn

variable {p : Parser α} {f : α → Parser β} {ts : Tokens} {a : α}

theorem bind_left (hp : p.AdvancesOn ts) : (p >>= f).AdvancesOn ts := by
  intro b hb
  simp only [Bind.bind, Parser.bind] at hb ⊢
  cases hresult : (p.run ts).result with
  | error e => simp [hresult] at hb
  | ok a => exact Nat.lt_of_le_of_lt ((f a).suffix _).length_le (hp a hresult)

theorem bind_right (hf : ∀ a, (f a).AdvancesOn (p.run ts).rest) : (p >>= f).AdvancesOn ts := by
  intro b hb
  simp only [Bind.bind, Parser.bind] at hb ⊢
  cases hresult : (p.run ts).result with
  | error e => simp [hresult] at hb
  | ok a =>
    simp only [hresult] at hb ⊢
    exact Nat.lt_of_lt_of_le (hf a b hb) (p.suffix ts).length_le

/-- A parser that only looks ahead does not change what is read after it. -/
theorem bind_of_ok (h : p.run ts = ⟨.ok a, ts, [], 0⟩) (hf : (f a).AdvancesOn ts) : (p >>= f).AdvancesOn ts := by
  intro b hb
  rw [run_bind_of_ok h] at hb ⊢
  exact hf b hb

/-- The first token is read, if there is one. -/
theorem skip_bind {f : Unit → Parser β} (h : ts ≠ []) : (skip 1 >>= f).AdvancesOn ts := by
  refine bind_left fun _ _ => ?_
  have hpos : 0 < ts.length := List.length_pos_iff.2 h
  change (ts.drop 1).length < ts.length
  rw [List.length_drop]
  omega

end AdvancesOn

namespace Advances

variable {p q : Parser α} {f : α → Parser β}

/-! ### Ways to build a parser -/

instance fail (wanted : String) : (fail wanted : Parser α).Advances where
  on _ _ h := by cases h

instance tooDeep : (tooDeep : Parser α).Advances where
  on _ _ h := by cases h

instance bind_right [hf : ∀ a, (f a).Advances] : (p >>= f).Advances where
  on _ := .bind_right fun a => (hf a).on _

instance bind_left [hp : p.Advances] : (p >>= f).Advances where
  on ts := (hp.on ts).bind_left

instance ite {c : Prop} [Decidable c] [hp : p.Advances] [hq : q.Advances] : (if c then p else q).Advances := by
  split
  · exact hp
  · exact hq

instance commaSeparated [p.Advances] : (commaSeparated p).Advances := by
  unfold Parser.commaSeparated; infer_instance

/-! ### Single tokens and names -/

/-- A token is read where it must stand. -/
theorem acceptIf_else_fail {test : Tokens → Bool} (h : test [] = false) (wanted : String) :
    (acceptIf test 1 >>= fun found => if found = true then pure () else Parser.fail wanted : Parser Unit).Advances where
  on ts a ha := by
    cases htest : test ts with
    | false =>
      rw [run_bind_of_ok (run_acceptIf_of_not htest 1)] at ha
      cases ha
    | true =>
      rw [run_bind_of_ok (run_acceptIf htest 1)]
      cases ts with
      | nil => exact absurd htest (by simp [h])
      | cons t tail => exact Nat.lt_succ_self _

instance expect (lexeme : Lexeme) : (expect lexeme).Advances :=
  acceptIf_else_fail rfl _

instance expectKeyword (keyword : String) : (expectKeyword keyword).Advances :=
  acceptIf_else_fail rfl _

/-- If the parser looks at a token, there is one. -/
theorem peek_bind {f : Option Lexeme → Parser β} (hnone : (f none).Advances)
    (hsome : ∀ lexeme ts, ts ≠ [] → (f (some lexeme)).AdvancesOn ts) : (peek >>= f).Advances where
  on ts := by
    have hpeek : peek.run ts = ⟨.ok (ts.lexeme? 0), ts, [], 0⟩ := rfl
    refine .bind_of_ok hpeek ?_
    cases ts with
    | nil => exact hnone.on []
    | cons t tail => exact hsome t.lexeme (t :: tail) (List.cons_ne_nil _ _)

instance identifier : identifier.Advances := by
  unfold Parser.identifier
  refine peek_bind (fail _) fun lexeme ts hts => ?_
  cases lexeme with
  | word text quoted => exact .skip_bind hts
  | _ => exact (fail _).on ts

instance objectName : objectName.Advances := by
  unfold Parser.objectName; infer_instance

end Advances

end Parser

open ChangeImpact.Sql.Parser

/-- All parsers of the grammar must read something, except that of a statement. -/
class Grammar.Advances (inner : Grammar) : Prop where
  query : inner.query.Advances
  source : inner.source.Advances
  expr : inner.expr.Advances
  negated : inner.negated.Advances
  signed : inner.signed.Advances

attribute [instance] Grammar.Advances.query Grammar.Advances.source Grammar.Advances.expr Grammar.Advances.negated
  Grammar.Advances.signed

namespace Grammar

variable (inner : Grammar) [inner.Advances]

/-! ### Expressions -/

instance advances_namedExpr : (namedExpr inner).Advances := by
  unfold namedExpr; infer_instance

set_option synthInstance.maxSize 4000 in
instance advances_caseExpr : (caseExpr inner).Advances := by
  unfold caseExpr; infer_instance

instance advances_castExpr : (castExpr inner).Advances := by
  unfold castExpr; infer_instance

instance advances_subquery : (subquery inner).Advances := by
  unfold subquery; infer_instance

instance advances_parenthesized : (parenthesized inner).Advances := by
  unfold parenthesized; infer_instance

omit [inner.Advances] in
theorem advancesOn_wordExpr (text : String) {ts : Tokens} (hts : ts ≠ []) : (wordExpr inner text).AdvancesOn ts := by
  unfold wordExpr
  split
  · exact .skip_bind hts
  · split
    all_goals first
      | exact .skip_bind hts
      | exact Parser.Advances.on ts

instance advances_primary : (primary inner).Advances := by
  unfold primary
  refine .peek_bind (.fail _) fun lexeme ts hts => ?_
  cases lexeme with
  | literal | star => exact .skip_bind hts
  | openParen => exact (advances_parenthesized inner).on ts
  | word text quoted =>
    cases quoted with
    | false => exact advancesOn_wordExpr inner text hts
    | true => exact (advances_namedExpr inner).on ts
  | symbol text =>
    dsimp only
    split
    · exact .skip_bind hts
    · exact (Parser.Advances.fail _).on ts
  | _ => exact (Parser.Advances.fail _).on ts

instance advances_leftAssociative {operand : Parser Expr} [operand.Advances]
    (operator? : Tokens → Option (Nat × Operator)) : (leftAssociative operand operator?).Advances := by
  unfold leftAssociative; infer_instance

instance advances_signedExpr : (signedExpr inner).Advances := by
  unfold signedExpr; infer_instance

instance advances_additive : (additive inner).Advances := by
  unfold additive; infer_instance

instance advances_inOperand : (inOperand inner).Advances := by
  unfold inOperand; infer_instance

instance advances_compareWith (left : Expr) (c : Comparison) : (compareWith inner left c).Advances := by
  unfold compareWith
  split <;> infer_instance

instance advances_comparison : (comparison inner).Advances := by
  unfold comparison; infer_instance

instance advances_negatedExpr : (negatedExpr inner).Advances := by
  unfold negatedExpr; infer_instance

instance advances_conjunction : (conjunction inner).Advances := by
  unfold conjunction; infer_instance

instance advances_disjunction : (disjunction inner).Advances := by
  unfold disjunction; infer_instance

/-! ### Queries and sources -/

instance advances_groupedSource : (groupedSource inner).Advances := by
  unfold groupedSource; infer_instance

instance advances_namedSource : (namedSource inner).Advances := by
  unfold namedSource; infer_instance

instance advances_anySource : (anySource inner).Advances := by
  unfold anySource; infer_instance

instance advances_selectBlock : (selectBlock inner).Advances := by
  unfold selectBlock; infer_instance

instance advances_queryOperand : (queryOperand inner).Advances := by
  unfold queryOperand; infer_instance

instance advances_queryBody : (queryBody inner).Advances := by
  unfold queryBody; infer_instance

instance advances_fullQuery : (fullQuery inner).Advances := by
  unfold fullQuery; infer_instance

/-! ### Levels -/

instance advances_deepen : inner.deepen.Advances where
  query := advances_fullQuery inner
  source := advances_anySource inner
  expr := advances_disjunction inner
  negated := advances_negatedExpr inner
  signed := advances_signedExpr inner

theorem advances_ofLevels (levels : Nat) : (ofLevels levels).Advances := by
  induction levels with
  | zero => exact ⟨.tooDeep, .tooDeep, .tooDeep, .tooDeep, .tooDeep⟩
  | succ levels ih => exact advances_deepen (ofLevels levels)

end Grammar

end ChangeImpact.Sql
