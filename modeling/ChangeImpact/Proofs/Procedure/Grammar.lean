import ChangeImpact.Proofs.Procedure

/-!
# The functions of the grammar are procedures

Each is found to be one from the way its definition is built, once the cases are split in which it looks at the tokens
ahead.  All of them are listed in `Grammar.allProcedures`, with the functions behind what is nested first.
-/

namespace ChangeImpact.Sql.Grammar

open ChangeImpact.Sql.Parser

-- the instance for a function is as large as its definition
set_option synthInstance.maxSize 4000

/-! ### Expressions -/

instance procedure_exprList : Procedure exprList := by
  unfold exprList; infer_instance

instance procedure_callArgs : Procedure callArgs := by
  unfold callArgs; infer_instance

instance procedure_skipWindow : Procedure fun _ => skipWindow := by
  unfold skipWindow; infer_instance

instance procedure_namedExpr : Procedure namedExpr := by
  unfold namedExpr; infer_instance

instance procedure_caseExpr : Procedure caseExpr := by
  unfold caseExpr; infer_instance

instance procedure_castExpr : Procedure castExpr := by
  unfold castExpr; infer_instance

instance procedure_subquery : Procedure subquery := by
  unfold subquery; infer_instance

instance procedure_parenthesized : Procedure parenthesized := by
  unfold parenthesized
  refine .after fun _ => .after fun isQuery => ?_
  split
  · infer_instance
  · refine .after fun exprs => .after fun _ => ?_
    split <;> infer_instance

instance procedure_wordExpr (text : String) : Procedure (wordExpr · text) := by
  unfold wordExpr
  split
  · infer_instance
  · split <;> infer_instance

instance procedure_primary : Procedure primary := by
  unfold primary
  refine .after fun ahead => ?_
  split <;> infer_instance

instance procedure_leftAssociative {operand : Grammar → Parser Expr} [Procedure operand]
    (operator? : Tokens → Option (Nat × Operator)) :
    Procedure fun inner => leftAssociative (operand inner) operator? := by
  unfold leftAssociative; infer_instance

instance procedure_signedExpr : Procedure signedExpr := by
  unfold signedExpr; infer_instance

instance procedure_additive : Procedure additive := by
  unfold additive; infer_instance

instance procedure_inOperand : Procedure inOperand := by
  unfold inOperand; infer_instance

instance procedure_compareWith (left : Expr) (c : Comparison) : Procedure (compareWith · left c) := by
  unfold compareWith
  split <;> infer_instance

instance procedure_comparison : Procedure comparison := by
  unfold comparison; infer_instance

instance procedure_negatedExpr : Procedure negatedExpr := by
  unfold negatedExpr; infer_instance

instance procedure_conjunction : Procedure conjunction := by
  unfold conjunction; infer_instance

instance procedure_disjunction : Procedure disjunction := by
  unfold disjunction; infer_instance

/-! ### Queries -/

instance procedure_valueRows : Procedure valueRows := by
  unfold valueRows; infer_instance

instance procedure_skipPivot : Procedure fun _ => skipPivot := by
  unfold skipPivot; infer_instance

instance procedure_joined : Procedure joined := by
  unfold joined; infer_instance

instance procedure_sourceList : Procedure sourceList := by
  unfold sourceList; infer_instance

instance procedure_fromClause : Procedure fromClause := by
  unfold fromClause; infer_instance

instance procedure_groupedSource : Procedure groupedSource := by
  unfold groupedSource; infer_instance

instance procedure_namedSource : Procedure namedSource := by
  unfold namedSource; infer_instance

instance procedure_anySource : Procedure anySource := by
  unfold anySource; infer_instance

instance procedure_skipTop : Procedure skipTop := by
  unfold skipTop; infer_instance

instance procedure_whereClause : Procedure whereClause := by
  unfold whereClause; infer_instance

instance procedure_groupByClause : Procedure groupByClause := by
  unfold groupByClause; infer_instance

instance procedure_selectBlock : Procedure selectBlock := by
  unfold selectBlock; infer_instance

instance procedure_ctes : Procedure ctes := by
  unfold ctes; infer_instance

instance procedure_queryOperand : Procedure queryOperand := by
  unfold queryOperand; infer_instance

instance procedure_queryBody : Procedure queryBody := by
  unfold queryBody; infer_instance

instance procedure_orderByClause : Procedure orderByClause := by
  unfold orderByClause; infer_instance

instance procedure_skipOffset : Procedure skipOffset := by
  unfold skipOffset; infer_instance

instance procedure_skipFormat : Procedure fun _ => skipFormat := by
  unfold skipFormat; infer_instance

instance procedure_fullQuery : Procedure fullQuery := by
  unfold fullQuery; infer_instance

/-! ### Statements -/

instance procedure_assignmentOperator : Procedure fun _ => assignmentOperator := by
  unfold assignmentOperator
  refine .after fun length => ?_
  split <;> infer_instance

instance procedure_assignments : Procedure assignments := by
  unfold assignments; infer_instance

instance procedure_skipOutput : Procedure skipOutput := by
  unfold skipOutput; infer_instance

instance procedure_update : Procedure update := by
  unfold update; infer_instance

instance procedure_delete : Procedure delete := by
  unfold delete; infer_instance

instance procedure_mergeAction : Procedure mergeAction := by
  unfold mergeAction; infer_instance

instance procedure_mergeClause : Procedure mergeClause := by
  unfold mergeClause; infer_instance

instance procedure_merge : Procedure merge := by
  unfold merge; infer_instance

instance procedure_execArgs : Procedure execArgs := by
  unfold execArgs; infer_instance

instance procedure_exec : Procedure exec := by
  unfold exec; infer_instance

instance procedure_insertSource : Procedure insertSource := by
  unfold insertSource
  refine .ifAny inferInstance (.ifAny inferInstance (.ifAny (.after fun call? => ?_) inferInstance))
  split <;> infer_instance

instance procedure_insert : Procedure insert := by
  unfold insert; infer_instance

instance procedure_withCtes : Procedure withCtes := by
  unfold withCtes; infer_instance

instance procedure_statements (stopWords : List String) : Procedure (statements · stopWords) := by
  unfold statements; infer_instance

instance procedure_block : Procedure block := by
  unfold block
  refine .ifAny inferInstance (.after fun _ => .after fun kind => ?_)
  cases kind <;> dsimp only <;> infer_instance

instance procedure_skipSemicolons : Procedure fun _ => skipSemicolons := by
  unfold skipSemicolons; infer_instance

instance procedure_branchBody : Procedure branchBody := by
  unfold branchBody; infer_instance

instance procedure_branch : Procedure branch := by
  unfold branch; infer_instance

instance procedure_whileLoop : Procedure whileLoop := by
  unfold whileLoop; infer_instance

instance procedure_cursor : Procedure cursor := by
  unfold cursor; infer_instance

instance procedure_declaration : Procedure declaration := by
  unfold declaration; infer_instance

instance procedure_declare : Procedure declare := by
  unfold declare; infer_instance

instance procedure_set : Procedure set := by
  unfold set; infer_instance

instance procedure_returnStatement : Procedure returnStatement := by
  unfold returnStatement; infer_instance

instance procedure_definition : Procedure definition := by
  unfold definition
  refine .after fun kindAt => .ifAny (.after fun _ => .after fun name => .after fun distance? => ?_) inferInstance
  split <;> infer_instance

instance procedure_execStatement : Procedure execStatement := by
  unfold execStatement
  refine .ifAny inferInstance (.after fun call? => ?_)
  split <;> infer_instance

instance procedure_keywordStatement (keyword : String) : Procedure (keywordStatement · keyword) := by
  unfold keywordStatement
  split <;> infer_instance

instance procedure_anyStatement : Procedure anyStatement := by
  unfold anyStatement
  refine .after fun ahead => ?_
  split <;> infer_instance

/-! ### All functions -/

theorem procedure_deepen {α : Type} (k : Nonterminal α) : Procedure (·.deepen.parser k) := by
  cases k with
  | statement => exact procedure_anyStatement
  | query => exact procedure_fullQuery
  | source => exact procedure_anySource
  | expr => exact procedure_disjunction
  | negated => exact procedure_negatedExpr
  | signed => exact procedure_signedExpr

/-- All functions that read part of a definition are procedures, by what they give. -/
structure AllProcedures : Prop where
  nested : ∀ {α : Type} (k : Nonterminal α), Procedure (·.deepen.parser k)
  names : Procedure (fun _ => identifier) ∧ Procedure (fun _ => objectName) ∧ Procedure (fun _ => aliasName)
  groups : ∀ p ∈ [skipToBoundary, skipStatement, skipCall, closeGroup, skipGroup, skipOptionalGroup, skipTableHints,
    skipOptions, skipTypeName, skipWindow, skipPivot, skipFormat, skipSemicolons, assignmentOperator],
    Procedure fun _ => p
  clauses : ∀ F ∈ [skipTop, skipOffset, skipOutput], Procedure F
  exprs : ∀ F ∈ [disjunction, conjunction, negatedExpr, comparison, additive, signedExpr, primary, namedExpr,
    parenthesized, caseExpr, castExpr, subquery, inOperand], Procedure F
  words : ∀ text, Procedure (wordExpr · text)
  comparisons : ∀ left c, Procedure (compareWith · left c)
  exprLists : ∀ F ∈ [exprList, callArgs, valueRows, groupByClause, orderByClause, execArgs], Procedure F
  optionalExprs : ∀ F ∈ [whereClause, declaration], Procedure F
  sources : ∀ F ∈ [anySource, groupedSource, namedSource], Procedure F
  joins : Procedure joined ∧ Procedure sourceList ∧ Procedure fromClause
  queries : Procedure fullQuery ∧ Procedure queryBody ∧ Procedure queryOperand ∧ Procedure selectBlock ∧ Procedure ctes
  writes : Procedure assignments ∧ Procedure update ∧ Procedure delete ∧ Procedure mergeAction ∧ Procedure mergeClause ∧
    Procedure merge ∧ Procedure insertSource ∧ Procedure insert
  calls : Procedure exec
  statements : ∀ F ∈ [withCtes, branchBody, branch, whileLoop, cursor, declare, returnStatement], Procedure F
  optionalStatements : ∀ F ∈ [block, set, definition, execStatement, anyStatement], Procedure F
  keywordStatements : ∀ keyword, Procedure (keywordStatement · keyword)
  statementLists : ∀ stopWords, Procedure (Grammar.statements · stopWords)

theorem allProcedures : AllProcedures := by
  constructor
  case nested => exact procedure_deepen
  case groups | clauses | exprs | exprLists | optionalExprs | sources | statements | optionalStatements =>
    simp only [List.forall_mem_cons, List.not_mem_nil, false_implies, implies_true, and_true]
    and_intros <;> infer_instance
  case words | comparisons | calls | keywordStatements | statementLists => exact inferInstance
  case names | joins | queries | writes => and_intros <;> infer_instance

end ChangeImpact.Sql.Grammar
