import ChangeImpact.Proofs.Depth
import ChangeImpact.Proofs.Yields
import ChangeImpact.Sql.Grammar.Expr

/-!
# The nesting of expressions

What a grammar gives is nested a few levels more deeply than what the grammar inside of it gives (`NestsWithin`),
however long the text is: a loop over operands adds one level, since the operands after the first do not build on each
other.  Here are the expressions, from what stands by itself up to `OR`, which adds six levels.
-/

namespace ChangeImpact.Sql

open ChangeImpact.Extraction

abbrev NestedExpr (n : Nat) (e : Expr) : Prop :=
  (Part.expr e).nesting ≤ n

abbrev NestedQuery (n : Nat) (q : Query) : Prop :=
  (Part.query q).nesting ≤ n

abbrev NestedSource (n : Nat) (s : Source) : Prop :=
  (Part.source s).nesting ≤ n

abbrev NestedStatement (n : Nat) (s : Statement) : Prop :=
  (Part.statement s).nesting ≤ n

/-- Whatever the grammar gives has at most so many levels. -/
structure Grammar.NestsWithin (n : Nat) (inner : Grammar) : Prop where
  statement : inner.statement.Yields fun s? => ∀ s ∈ s?, NestedStatement n s
  query : inner.query.Yields (NestedQuery n)
  source : inner.source.Yields (NestedSource n)
  expr : inner.expr.Yields (NestedExpr n)
  negated : inner.negated.Yields (NestedExpr n)
  signed : inner.signed.Yields (NestedExpr n)

namespace NestedExpr

variable {n m : Nat} {e left right : Expr} {es : List Expr}

theorem of_exprParts_eq_nil (h : exprParts e = []) : NestedExpr (n + 1) e :=
  Part.nesting_le_succ fun q hq => by
    rw [Part.parts, h] at hq
    cases hq

theorem binary {op : Operator} (hleft : NestedExpr (n + 1) left) (hright : NestedExpr n right) :
    NestedExpr (n + 1) (.binary left op right) :=
  Part.nesting_le_of_isRow rfl rfl hleft (List.forall_mem_singleton.2 hright)

theorem call {name : Name} (h : ∀ e ∈ es, NestedExpr n e) : NestedExpr (n + 1) (.call name es) :=
  Part.nesting_le_succ (List.forall_mem_map.2 h)

theorem subquery {q : Query} (h : NestedQuery n q) : NestedExpr (n + 1) (.subquery q) :=
  Part.nesting_le_succ (List.forall_mem_singleton.2 h)

theorem group (h : ∀ e ∈ es, NestedExpr n e) : NestedExpr (n + 1) (.group es) :=
  Part.nesting_le_succ (List.forall_mem_map.2 h)

/-- A row of operands has the levels of its first one. -/
theorem group_cons (hleft : NestedExpr (n + 1) left) (hright : NestedExpr n right) (h : ∀ e ∈ es, NestedExpr n e) :
    NestedExpr (n + 1) (.group (left :: right :: es)) :=
  Part.nesting_le_of_isRow rfl rfl hleft (List.forall_mem_cons.2 ⟨hright, List.forall_mem_map.2 h⟩)

end NestedExpr

namespace Grammar.NestsWithin

open ChangeImpact.Sql.Parser

variable {n : Nat} {inner : Grammar} (h : inner.NestsWithin n)

include h

theorem exprList : (exprList inner).Yields fun es => ∀ e ∈ es, NestedExpr n e :=
  .commaSeparated h.expr

theorem callArgs : (callArgs inner).Yields fun es => ∀ e ∈ es, NestedExpr n e := by
  refine .after fun _ => .ifAny .nil (.after fun _ => ?_)
  refine .bind (P := fun args => ∀ es ∈ args, ∀ e ∈ es, NestedExpr n e) (.commaSeparated ?_) fun args hargs => ?_
  · refine .bind h.expr fun arg harg => .ifAny (.bind h.expr fun e he => .ret ?_) (.ret ?_)
    · exact List.forall_mem_cons.2 ⟨harg, List.forall_mem_singleton.2 he⟩
    · exact List.forall_mem_singleton.2 harg
  · refine .after fun _ => .ret fun e he => ?_
    obtain ⟨es, hes, he⟩ := List.mem_flatten.1 he
    exact hargs es hes e he

theorem namedExpr : (namedExpr inner).Yields (NestedExpr (n + 1)) := by
  refine .after fun name => .ifAny ?_ (.ifAny (.ret (.of_exprParts_eq_nil rfl)) (.ret (.of_exprParts_eq_nil rfl)))
  exact .bind h.callArgs fun args hargs => .after fun _ => .ret (.call hargs)

theorem caseExpr : (caseExpr inner).Yields (NestedExpr (n + 1)) := by
  refine .after fun _ => .ifAny_bind .nil (.singleton h.expr) fun subject hsubject => ?_
  refine .bind (P := fun arms => ∀ e ∈ arms, NestedExpr n e) (.loop (fun parts _ hparts => ?_) hsubject)
    fun arms harms => ?_
  · refine .bind h.expr fun condition hcondition => .after fun _ => .bind h.expr fun value hvalue => .ret ?_
    exact List.forall_mem_append.2 ⟨hparts, List.forall_mem_cons.2 ⟨hcondition, List.forall_mem_singleton.2 hvalue⟩⟩
  · refine .ifAny_bind (.singleton h.expr) .nil fun default hdefault => .after fun _ => .ret (.group ?_)
    exact List.forall_mem_append.2 ⟨harms, hdefault⟩

theorem castExpr : (castExpr inner).Yields (NestedExpr (n + 1)) := by
  refine .after fun _ => .after fun _ => .bind h.expr fun operand hoperand => ?_
  exact .after fun _ => .after fun _ => .after fun _ => .ret (.group (List.forall_mem_singleton.2 hoperand))

theorem subquery : (subquery inner).Yields (NestedExpr (n + 1)) :=
  .bind h.query fun _ hquery => .after fun _ => .ret (.subquery hquery)

theorem parenthesized : (parenthesized inner).Yields (NestedExpr (n + 1)) := by
  refine .after fun _ => .ifAny h.subquery (.bind h.exprList fun exprs hexprs => .after fun _ => ?_)
  match exprs with
  | [] => exact .ret (.group hexprs)
  | [expr] => exact .ret (Nat.le_succ_of_le (hexprs expr (List.mem_singleton_self _)))
  | _ :: _ :: _ => exact .ret (.group hexprs)

theorem wordExpr (text : String) : (wordExpr inner text).Yields (NestedExpr (n + 1)) := by
  have hleaf {e : Expr} (he : exprParts e = []) :
      (do skip 1; return e : Parser Expr).Yields (NestedExpr (n + 1)) :=
    .after fun _ => .ret (.of_exprParts_eq_nil he)
  unfold Grammar.wordExpr
  refine .ite (hleaf rfl) ?_
  split
  · exact hleaf rfl
  · exact hleaf rfl
  · exact .after fun _ => .after fun _ => h.subquery
  · exact h.caseExpr
  · exact h.castExpr
  · exact h.castExpr
  · exact .ite (.ifAny h.namedExpr (.fail _)) h.namedExpr

theorem primary : (primary inner).Yields (NestedExpr (n + 1)) := by
  refine .after fun lexeme => ?_
  split
  · exact .after fun _ => .ret (.of_exprParts_eq_nil rfl)
  · exact .after fun _ => .ret (.of_exprParts_eq_nil rfl)
  · exact h.parenthesized
  · exact .ite h.namedExpr (h.wordExpr _)
  · exact .ite (.after fun _ => .after fun _ => .ret (.of_exprParts_eq_nil rfl)) (.fail _)
  · exact .fail _

/-! ### Operators -/

omit h in
/-- A row of operands has one level more than each of them. -/
theorem leftAssociative {operand : Parser Expr} {operator? : Tokens → Option (Nat × Operator)}
    (hoperand : operand.Yields (NestedExpr n)) :
    (leftAssociative operand operator?).Yields (NestedExpr (n + 1)) := by
  refine .bind hoperand fun first hfirst => .loop (fun left op hleft => ?_) (Nat.le_succ_of_le hfirst)
  exact .bind hoperand fun right hright => .ret (.binary hleft hright)

theorem signedExpr : (signedExpr inner).Yields (NestedExpr (n + 2)) := by
  have hsign {expr : Expr} (hexpr : NestedExpr n expr) : NestedExpr (n + 2) (.group [expr]) :=
    Nat.le_succ_of_le (NestedExpr.group (List.forall_mem_singleton.2 hexpr))
  refine .ifAny (.bind h.signed fun expr hexpr => .ret (hsign hexpr)) (.bind h.primary fun expr hexpr => ?_)
  have hzone : (do
      if ← acceptIf (fun ts => ts.hasKeyword 0 "AT" && ts.hasKeyword 1 "TIME" && ts.hasKeyword 2 "ZONE") 3 then
        return .group [expr, ← Grammar.primary inner]
      return expr : Parser Expr).Yields (NestedExpr (n + 2)) := by
    refine .ifAny (.bind h.primary fun zone hzone => .ret ?_) (.ret (Nat.le_succ_of_le hexpr))
    exact .group_cons (Nat.le_succ_of_le hexpr) hzone (List.forall_mem_nil _)
  exact .ifAny (.after fun _ => hzone) hzone

theorem additive : (additive inner).Yields (NestedExpr (n + 3)) :=
  leftAssociative h.signedExpr

theorem inOperand : (inOperand inner).Yields (NestedExpr (n + 1)) :=
  .after fun _ => .ifAny h.subquery (.bind h.exprList fun _ hexprs => .after fun _ => .ret (.group hexprs))

/-- What was read on the left stays the first operand. -/
theorem compareWith {left : Expr} (hleft : NestedExpr (n + 4) left) (c : Comparison) :
    (compareWith inner left c).Yields (NestedExpr (n + 4)) := by
  cases c with
  | equals => exact .bind h.additive fun right hright => .ret (.binary hleft hright)
  | other => exact .bind h.additive fun right hright => .ret (.binary hleft hright)
  | isIn => exact .bind h.inOperand fun right hright => .ret (.binary hleft (Nat.le_trans hright (by omega)))
  | like =>
    refine .bind h.additive fun pattern hpattern => .ifAny (.bind h.additive fun mark hmark => .ret ?_) (.ret ?_)
    · exact .group_cons hleft hpattern (List.forall_mem_singleton.2 hmark)
    · exact .group_cons hleft hpattern (List.forall_mem_nil _)
  | between =>
    refine .bind h.additive fun low hlow => .after fun _ => .bind h.additive fun high hhigh => .ret ?_
    exact .group_cons hleft hlow (List.forall_mem_singleton.2 hhigh)

theorem comparison : (comparison inner).Yields (NestedExpr (n + 4)) :=
  .bind h.additive fun _ hfirst => .loop (fun _ c hleft => h.compareWith hleft c) (Nat.le_succ_of_le hfirst)

theorem negatedExpr : (negatedExpr inner).Yields (NestedExpr (n + 4)) := by
  refine .ifAny (.bind h.negated fun expr hexpr => .ret ?_) h.comparison
  exact .group (List.forall_mem_singleton.2 (Nat.le_trans hexpr (by omega)))

theorem conjunction : (conjunction inner).Yields (NestedExpr (n + 5)) :=
  leftAssociative h.negatedExpr

theorem disjunction : (disjunction inner).Yields (NestedExpr (n + 6)) :=
  leftAssociative h.conjunction

end Grammar.NestsWithin

end ChangeImpact.Sql
