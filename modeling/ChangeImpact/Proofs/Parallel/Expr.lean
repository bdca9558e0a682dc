import ChangeImpact.Proofs.Parallel
import ChangeImpact.Sql.Grammar.Expr

/-!
# Expressions side by side

Names, aliases and groups in parentheses, and then expressions from what stands by itself up to `OR`: all of them stay
within texts that are alike, if the grammar inside does (`Likeness.Respects`).
-/

namespace ChangeImpact.Sql.Likeness

open ChangeImpact.Sql.Parser Grammar

variable {α : Type} {L : Likeness} {R : α → α → Tokens → Tokens → Prop}

/-! ### Names -/

theorem skipHead : L.Parallel L.Headed (skip 1) (skip 1) L.Stays :=
  (Parallel.skip 1).weaken And.right

theorem failHead (wanted : String) : L.Parallel L.Headed (Parser.fail wanted) (Parser.fail wanted) R :=
  (Parallel.fail wanted).weaken And.left

theorem failSemicolon (wanted : String) :
    L.Parallel (fun ts ts' => L.Inside ts ts' ∧ L.After (ts.drop 1) (ts'.drop 1)) (Parser.fail wanted)
      (Parser.fail wanted) R :=
  (Parallel.fail wanted).weaken And.left

theorem within_identifier : L.Within identifier identifier := by
  refine .peek_bind (Parallel.fail _) (failSemicolon _) fun l l' hll _ _ => ?_
  cases hll with
  | word hform => exact .bind skipHead fun _ _ _ => .ret hform
  | same hword =>
    cases l with
    | word => cases hword
    | _ => exact failHead _

theorem separates_namePart? : L.Separates 0 L.Same namePart? := by
  intro ts ts' hts
  have hnone {ts : Tokens} (h : ts.lexeme? 0 ≠ some .period) : namePart? ts = none := by
    unfold namePart?
    split <;> simp_all
  obtain ⟨hl, hl'⟩ | ⟨l, l', hl, hl', hll, _, htail⟩ := hts.lexeme? (n := 0)
  · rw [hnone (by simp [hl]), hnone (by simp [hl'])]
    exact .none
  by_cases hperiod : l = .period
  · have hperiod' : l' = .period := (hll.eq_iff rfl).1 hperiod
    have hin : L.Inside (ts.drop 1) (ts'.drop 1) := htail (.inl (by simp [hperiod]))
    obtain ⟨hm, hm'⟩ | ⟨m, m', hm, hm', hmm, _, htail⟩ := hin.lexeme?
    · simp only [namePart?, hl, hl', hm, hm', hperiod, hperiod']
      exact .none
    · simp only [namePart?, hl, hl', hm, hm', hperiod, hperiod']
      cases hmm with
      | word hform => exact .some ⟨rfl, hform, htail (.inl (by simp))⟩
      | same hword =>
        cases m with
        | word => cases hword
        | period => exact .some ⟨rfl, rfl, hin⟩
        | _ => exact .none
  · have hperiod' : l' ≠ .period := fun h => hperiod ((hll.eq_iff rfl).2 h)
    rw [hnone (by simpa [hl] using hperiod), hnone (by simpa [hl'] using hperiod')]
    exact .none

theorem within_objectName : L.Within objectName objectName := by
  refine .bind within_identifier fun a b hab => ?_
  refine .bind (.loop separates_namePart? (fun as bs hs o o' ho => .ret (hs.append (.cons ho .nil)))
    (.cons hab .nil)) ?_
  exact fun as bs hs => .ret (congrArg Name.mk hs)

theorem within_aliasName : L.Within aliasName aliasName := by
  refine .ifAccept (.hasKeyword "AS") ?_ ?_
  · refine .peek_bind (Parallel.fail _) (failSemicolon _) fun l l' hll _ _ => ?_
    cases hll with
    | word hform => exact .bind skipHead fun _ _ _ => .ret (.some hform)
    | same hword =>
      cases l with
      | word => cases hword
      | literal => exact .bind skipHead fun _ _ _ => .ret rfl
      | _ => exact failHead _
  · refine .peek_bind (.ret rfl) ((Parallel.ret rfl).weaken And.left) fun l l' hll _ _ => ?_
    cases hll with
    | @word s t quoted hform hkey =>
      have hword : (quoted || !(Text.isMarked '@' s || isReserved s)) =
          (quoted || !(Text.isMarked '@' t || isReserved t)) := by
        cases quoted with
        | true => rfl
        | false => rw [isMarked_congr (hkey rfl), isReserved_congr (hkey rfl)]
      dsimp only
      rw [hword]
      split
      · exact .bind skipHead fun _ _ _ => .ret (.some hform)
      · exact (Parallel.ret rfl).weaken And.left
    | same hword =>
      cases l with
      | word => cases hword
      | _ => exact (Parallel.ret rfl).weaken And.left

/-! ### Groups in parentheses -/

theorem within_closeGroup (hmore : L.more = []) : L.Within closeGroup closeGroup := by
  refine .look_bind fun ts ts' hts => ?_
  rw [groupDistance?_eq hmore hts]
  cases Tokens.groupDistance? 0 ts' with
  | some n => exact Parallel.skip n (hts.drop_of_more_eq_nil hmore n)
  | none => exact Parallel.bind (.skipBy (.length hmore)) (fun _ _ _ => Parallel.fail _) hts

theorem within_skipGroup : L.Within skipGroup skipGroup :=
  .expectOpen fun hmore => within_closeGroup hmore

theorem within_skipOptionalGroup : L.Within skipOptionalGroup skipOptionalGroup :=
  .ifLook (.hasLexeme .openParen rfl (by decide)) within_skipGroup (.ret rfl)

theorem within_skipKeywordGroup (keyword : String) :
    L.Within (skipKeywordGroup keyword) (skipKeywordGroup keyword) := by
  refine .ifAccept ?_ within_skipGroup (.ret rfl)
  exact (Decides.hasKeyword keyword).andAhead (.hasLexeme .openParen rfl (by decide))

theorem within_skipTypeName : L.Within skipTypeName skipTypeName :=
  .bind within_objectName.discard fun _ _ _ => within_skipOptionalGroup

/-! ### Expressions -/

namespace Same

variable {name name' : Name} {query query' : Query} {left left' right right' : Expr} {exprs exprs' : List Expr}

theorem column (h : L.Same name name') : L.Same (Expr.column name) (.column name') :=
  h.under fun _ => by simp only [rename, renameExpr]

theorem binary (hleft : L.Same left left') (op : Operator) (hright : L.Same right right') :
    L.Same (Expr.binary left op right) (.binary left' op right') := by
  simp only [Same, rename, renameExpr] at hleft hright ⊢
  rw [hleft, hright]

theorem call (h : L.Same name name') (hexprs : L.Same exprs exprs') :
    L.Same (Expr.call name exprs) (.call name' exprs') := by
  simp only [Same, rename, renameExpr] at h hexprs ⊢
  rw [h, hexprs]

theorem subquery (h : L.Same query query') : L.Same (Expr.subquery query) (.subquery query') :=
  h.under fun _ => by simp only [rename, renameExpr]

theorem group (h : L.Same exprs exprs') : L.Same (Expr.group exprs) (.group exprs') :=
  h.under fun _ => by simp only [rename, renameExpr]

end Same

/-- What stands inside stays within texts that are alike; only a statement may pass the semicolon behind it. -/
structure Respects (L : Likeness) (inner : Grammar) : Prop where
  statement : L.Parallel L.Inside inner.statement inner.statement L.Leaves
  query : L.Within inner.query inner.query
  source : L.Within inner.source inner.source
  expr : L.Within inner.expr inner.expr
  negated : L.Within inner.negated inner.negated
  signed : L.Within inner.signed inner.signed

section

variable {inner : Grammar} (h : L.Respects inner)

include h

theorem within_exprList : L.Within (exprList inner) (exprList inner) :=
  .commaSeparated h.expr

theorem within_callArgs : L.Within (callArgs inner) (callArgs inner) := by
  refine .expectOpen fun _ => ?_
  refine .ifAccept (.hasLexeme .closeParen rfl (by decide)) (.ret rfl) ?_
  refine .bind (.skipEither _ _) fun _ _ _ => ?_
  refine .bind (.commaSeparated (.bind h.expr fun a b hab => ?_)) fun as bs hs => ?_
  · refine .ifAccept (.hasKeyword "FROM") ?_ (.ret (.cons hab .nil))
    exact .bind h.expr fun c d hcd => .ret (.cons hab (.cons hcd .nil))
  · exact .bind (.expect .closeParen rfl (by decide)) fun _ _ _ => .ret hs.flatten

omit h in
theorem within_skipWindow : L.Within skipWindow skipWindow := by
  refine .ifAccept_join ((Decides.hasKeyword "WITHIN").and (.hasKeyword "GROUP")) ?_ fun hover => ?_
  · refine .ifAccept (.hasKeyword "OVER") ?_ (.ret rfl)
    exact .ifLook (.hasLexeme .openParen rfl (by decide)) within_skipGroup within_identifier.discard
  · exact .bind within_skipGroup fun _ _ _ => hover

theorem within_namedExpr : L.Within (namedExpr inner) (namedExpr inner) := by
  refine .bind within_objectName fun name name' hname => ?_
  refine .ifLook (.hasLexeme .openParen rfl (by decide)) ?_ ?_
  · refine .bind (within_callArgs h) fun args args' hargs => ?_
    exact .bind within_skipWindow fun _ _ _ => .ret (.call hname hargs)
  · refine .ifAccept ((Decides.hasLexeme .period rfl (by decide)).and (.hasLexeme .star rfl (by decide))) (.ret rfl) ?_
    exact .ret (.column hname)

omit h in
theorem separates_keywordSeparator (keyword : String) : L.Separates 0 L.Same (keywordSeparator keyword) :=
  .ite (.hasKeyword keyword) (.some rfl) .none

theorem within_caseExpr : L.Parallel L.Headed (caseExpr inner) (caseExpr inner) L.Stays := by
  refine .bind skipHead fun _ _ _ => ?_
  refine .ifLook_bind (.hasKeyword "WHEN") (.ret rfl) (h.expr.map fun hab => .cons hab .nil)
    fun subject subject' hsubject => ?_
  refine .bind (.loop (separates_keywordSeparator "WHEN") (fun parts parts' hparts _ _ _ => ?_) hsubject) ?_
  · refine .bind h.expr fun condition condition' hcondition => ?_
    refine .bind (.expectKeyword "THEN") fun _ _ _ => ?_
    exact .bind h.expr fun value value' hvalue => .ret (hparts.append (.cons hcondition (.cons hvalue .nil)))
  intro arms arms' harms
  refine .ifAccept_bind (.hasKeyword "ELSE") (h.expr.map fun hab => .cons hab .nil) (.ret rfl)
    fun default default' hdefault => ?_
  exact .bind (.expectKeyword "END") fun _ _ _ => .ret (.group (harms.append hdefault))

theorem within_castExpr : L.Parallel L.Headed (castExpr inner) (castExpr inner) L.Stays := by
  refine .bind skipHead fun _ _ _ => ?_
  refine .expectOpen fun _ => ?_
  refine .bind h.expr fun operand operand' hoperand => ?_
  refine .bind (.expectKeyword "AS") fun _ _ _ => ?_
  refine .bind within_skipTypeName fun _ _ _ => ?_
  exact .bind (.expect .closeParen rfl (by decide)) fun _ _ _ => .ret (.group (.cons hoperand .nil))

theorem within_subquery : L.Within (subquery inner) (subquery inner) := by
  refine .bind h.query fun query query' hquery => ?_
  exact .bind (.expect .closeParen rfl (by decide)) fun _ _ _ => .ret (.subquery hquery)

theorem within_parenthesized : L.Parallel L.Headed (parenthesized inner) (parenthesized inner) L.Stays := by
  refine .bind skipHead fun _ _ _ => ?_
  refine .ifLook .startsQuery (within_subquery h) ?_
  refine .bind (within_exprList h) fun exprs exprs' hexprs => ?_
  refine .bind (.expect .closeParen rfl (by decide)) fun _ _ _ => ?_
  cases hexprs.forall₂ with
  | nil => exact .ret (.group .nil)
  | cons hexpr hothers =>
    cases hothers with
    | nil => exact .ret hexpr
    | cons => exact .ret (.group hexprs)

omit h in
theorem wordExpr_congr {s t : String} (hkey : Text.asciiUpper s = Text.asciiUpper t) :
    wordExpr inner s = wordExpr inner t := by
  rw [wordExpr, wordExpr, isMarked_congr hkey, isReserved_congr hkey, hkey]

theorem within_wordExpr (text : String) :
    L.Parallel L.Headed (wordExpr inner text) (wordExpr inner text) L.Stays := by
  have hliteral (e : Expr) : L.Parallel L.Headed (do Parser.skip 1; return e) (do Parser.skip 1; return e) L.Stays :=
    .bind skipHead fun _ _ _ => .ret rfl
  have hnamed : L.Parallel L.Headed (namedExpr inner) (namedExpr inner) L.Stays := (within_namedExpr h).weaken And.left
  -- both sides are split at once
  suffices hall : ∀ p, p = wordExpr inner text → L.Parallel L.Headed p p L.Stays from hall _ rfl
  intro p hp
  unfold wordExpr at hp
  split at hp
  · exact hp ▸ hliteral .variable
  split at hp
  · exact hp ▸ hliteral .literal
  · exact hp ▸ hliteral .literal
  · subst hp
    exact .bind skipHead fun _ _ _ => .expectOpen fun _ => within_subquery h
  · exact hp ▸ within_caseExpr h
  · exact hp ▸ within_castExpr h
  · exact hp ▸ within_castExpr h
  split at hp
  · subst hp
    refine .ifLookAt (fun ts ts' hts => ⟨?_, fun _ => hts⟩) hnamed (failHead _)
    exact (Decides.hasLexeme .openParen rfl (by decide) hts.2).1
  · exact hp ▸ hnamed

theorem within_primary : L.Within (primary inner) (primary inner) := by
  refine .peek_bind (Parallel.fail _) (failSemicolon _) fun l l' hll _ _ => ?_
  cases hll with
  | @word s t quoted hform hkey =>
    cases quoted with
    | true => exact (within_namedExpr h).weaken And.left
    | false =>
      show L.Parallel L.Headed (wordExpr inner s) (wordExpr inner t) L.Stays
      rw [wordExpr_congr (hkey rfl)]
      exact within_wordExpr h t
  | same hword =>
    cases l with
    | word => cases hword
    | literal => exact .bind skipHead fun _ _ _ => .ret rfl
    | star => exact .bind skipHead fun _ _ _ => .ret rfl
    | openParen => exact within_parenthesized h
    | symbol text =>
      dsimp only
      split
      · refine .bind skipHead fun _ _ _ => ?_
        exact .bind (Parallel.acceptIf .hasWord).discard fun _ _ _ => .ret rfl
      · exact failHead _
    | _ => exact failHead _

/-! ### Operators -/

omit h in
theorem within_leftAssociative {operand : Parser Expr} {operator? : Tokens → Option (Nat × Operator)}
    (hoperand : L.Within operand operand) (hoperator : L.Separates 0 Eq operator?) :
    L.Within (leftAssociative operand operator?) (leftAssociative operand operator?) := by
  refine .bind hoperand fun first first' hfirst => ?_
  refine .loop hoperator (fun left left' hleft op op' hop => ?_) hfirst
  subst hop
  exact .bind hoperand fun right right' hright => .ret (.binary hleft op hright)

theorem within_signedExpr : L.Within (signedExpr inner) (signedExpr inner) := by
  refine .ifAccept (.symbol _) (.bind h.signed fun expr expr' hexpr => .ret (.group (.cons hexpr .nil))) ?_
  refine .bind (within_primary h) fun expr expr' hexpr => ?_
  refine .ifAccept_join (.hasKeyword "COLLATE") ?_ fun hzone => .bind within_identifier.discard fun _ _ _ => hzone
  refine .ifAccept (((Decides.hasKeyword "AT").and (.hasKeyword "TIME")).and (.hasKeyword "ZONE")) ?_ (.ret hexpr)
  exact .bind (within_primary h) fun zone zone' hzone => .ret (.group (.cons hexpr (.cons hzone .nil)))

omit h in
theorem separates_arithmetic? : L.Separates 0 Eq arithmetic? := by
  intro ts ts' hts
  obtain ⟨hl, hl'⟩ | ⟨l, l', hl, hl', hll, _, htail⟩ := hts.lexeme? (n := 0)
  · simp only [arithmetic?, hl, hl']
    exact .none
  simp only [arithmetic?, hl, hl']
  cases hll with
  | word => exact .none
  | same hword =>
    cases l with
    | star => exact .some ⟨rfl, rfl, htail (.inl (by simp))⟩
    | symbol text =>
      have hin : L.Inside (ts.drop 1) (ts'.drop 1) := htail (.inl (by simp))
      have hequals : ts.hasLexeme 1 .equals = ts'.hasLexeme 1 .equals :=
        (Decides.hasLexeme .equals rfl (by decide) hin).1
      dsimp only
      rw [hequals]
      split
      · exact .some ⟨rfl, rfl, hin⟩
      · exact .none
    | _ => exact .none

theorem within_additive : L.Within (additive inner) (additive inner) :=
  within_leftAssociative (within_signedExpr h) separates_arithmetic?

/-- The comparison behind `n` tokens, if it may follow `NOT`. -/
def negatableComparison? (n : Nat) (ts : Tokens) : Option (Nat × Comparison) :=
  if ts.hasKeyword n "IN" then some (n, .isIn)
  else if ts.hasKeyword n "LIKE" then some (n, .like)
  else if ts.hasKeyword n "BETWEEN" then some (n, .between)
  else none

/-- The comparison ahead, if it is written with keywords. -/
def keywordComparison? (ts : Tokens) : Option (Nat × Comparison) :=
  if ts.hasKeyword 0 "IS" then if ts.hasKeyword 1 "NOT" then some (1, .other) else some (0, .other)
  else if ts.hasKeyword 0 "NOT" then negatableComparison? 1 ts
  else negatableComparison? 0 ts

omit h in
theorem separates_negatableComparison? (n : Nat) : L.Separates n Eq (negatableComparison? n) :=
  .ite (.hasKeyword "IN") (.some rfl) (.ite (.hasKeyword "LIKE") (.some rfl)
    (.ite (.hasKeyword "BETWEEN") (.some rfl) .none))

omit h in
theorem separates_keywordComparison? : L.Separates 0 Eq keywordComparison? :=
  .ite (.hasKeyword "IS") (.ite (Decides.hasKeyword "NOT") (.some rfl) (.some rfl))
    (.ite (.hasKeyword "NOT") (separates_negatableComparison? 1) (separates_negatableComparison? 0))

omit h in
theorem keywordComparison?_eq (ts : Tokens) :
    keywordComparison? ts =
      if ts.hasKeyword 0 "IS" then some (if ts.hasKeyword 1 "NOT" then 1 else 0, .other)
      else
        let n := if ts.hasKeyword 0 "NOT" then 1 else 0
        if ts.hasKeyword n "IN" then some (n, .isIn)
        else if ts.hasKeyword n "LIKE" then some (n, .like)
        else if ts.hasKeyword n "BETWEEN" then some (n, .between)
        else none := by
  simp only [keywordComparison?, negatableComparison?]
  split_ifs <;> rfl

omit h in
theorem separates_comparison? : L.Separates 0 Eq comparison? := by
  intro ts ts' hts
  have hkeyword := separates_keywordComparison? hts
  rw [keywordComparison?_eq, keywordComparison?_eq] at hkeyword
  obtain ⟨hl, hl'⟩ | ⟨l, l', hl, hl', hll, _, htail⟩ := hts.lexeme? (n := 0)
  · simp only [comparison?, hl, hl']
    exact hkeyword
  simp only [comparison?, hl, hl']
  cases hll with
  | word => exact hkeyword
  | same hword =>
    cases l with
    | equals => exact .some ⟨rfl, rfl, htail (.inl (by simp))⟩
    | symbol text =>
      dsimp only
      split
      · exact .some ⟨rfl, rfl, htail (.inl (by simp))⟩
      · exact .none
    | _ => exact hkeyword

theorem within_inOperand : L.Within (inOperand inner) (inOperand inner) := by
  refine .expectOpen fun _ => ?_
  refine .ifLook .startsQuery (within_subquery h) ?_
  refine .bind (within_exprList h) fun exprs exprs' hexprs => ?_
  exact .bind (.expect .closeParen rfl (by decide)) fun _ _ _ => .ret (.group hexprs)

theorem within_compareWith {left left' : Expr} (hleft : L.Same left left') (c : Comparison) :
    L.Within (compareWith inner left c) (compareWith inner left' c) := by
  have hadditive := within_additive h
  cases c with
  | equals => exact .bind hadditive fun right right' hright => .ret (.binary hleft .equals hright)
  | other => exact .bind hadditive fun right right' hright => .ret (.binary hleft .other hright)
  | isIn => exact .bind (within_inOperand h) fun right right' hright => .ret (.binary hleft .other hright)
  | like =>
    refine .bind hadditive fun pattern pattern' hpattern => ?_
    refine .ifAccept (.hasKeyword "ESCAPE") ?_ (.ret (.group (.cons hleft (.cons hpattern .nil))))
    exact .bind hadditive fun mark mark' hmark => .ret (.group (.cons hleft (.cons hpattern (.cons hmark .nil))))
  | between =>
    refine .bind hadditive fun low low' hlow => ?_
    refine .bind (.expectKeyword "AND") fun _ _ _ => ?_
    exact .bind hadditive fun high high' hhigh => .ret (.group (.cons hleft (.cons hlow (.cons hhigh .nil))))

theorem within_comparison : L.Within (comparison inner) (comparison inner) := by
  refine .bind (within_additive h) fun first first' hfirst => ?_
  refine .loop separates_comparison? (fun left left' hleft c c' hc => ?_) hfirst
  subst hc
  exact within_compareWith h hleft c

theorem within_negatedExpr : L.Within (negatedExpr inner) (negatedExpr inner) :=
  .ifAccept (.hasKeyword "NOT") (.bind h.negated fun _ _ hexpr => .ret (.group (.cons hexpr .nil)))
    (within_comparison h)

omit h in
theorem separates_keywordOperator (keyword : String) (op : Operator) :
    L.Separates 0 Eq (keywordOperator keyword op) :=
  .ite (.hasKeyword keyword) (.some rfl) .none

theorem within_conjunction : L.Within (conjunction inner) (conjunction inner) :=
  within_leftAssociative (within_negatedExpr h) (separates_keywordOperator "AND" .and)

theorem within_disjunction : L.Within (disjunction inner) (disjunction inner) :=
  within_leftAssociative (within_conjunction h) (separates_keywordOperator "OR" .or)

end

end ChangeImpact.Sql.Likeness
