import ChangeImpact.Proofs.Nesting.Query
import ChangeImpact.Sql.Script

/-!
# The nesting of statements

Writes, calls, control flow and routines are nested three levels more deeply than what stands inside of them.  So one
level of a grammar adds six levels to the trees at most (`deepen`), and a grammar with a number of levels gives trees
with six times as many.
-/

namespace ChangeImpact.Sql

open ChangeImpact.Extraction

variable {n m : Nat}

/-- Both sides of an assignment. -/
abbrev NestedAssignment (n : Nat) (a : Assignment) : Prop :=
  NestedExpr n a.target ∧ NestedExpr n a.value

theorem nesting_assignments_le {as : List Assignment} (h : ∀ a ∈ as, NestedAssignment n a) :
    ∀ q ∈ assignmentParts as, q.nesting ≤ n := by
  intro q hq
  obtain ⟨a, ha, hq⟩ := List.mem_flatMap.1 hq
  obtain ⟨htarget, hvalue⟩ := h a ha
  rcases List.mem_cons.1 hq with rfl | hq
  · exact htarget
  · exact List.mem_singleton.1 hq ▸ hvalue

/-- The condition and the action of a `WHEN` clause. -/
abbrev NestedClause (n : Nat) (clause : MergeClause) : Prop :=
  (∀ e ∈ clause.condition, NestedExpr n e) ∧ ∀ q ∈ mergeActionParts clause.action, q.nesting ≤ n

/-- Other common table expressions in front of a query. -/
theorem NestedQuery.with_ctes {q : Query} {ctes : List Cte} (hctes : ∀ cte ∈ ctes, NestedQuery n cte.query)
    (hq : NestedQuery n q) : NestedQuery (n + 1) { q with ctes } := by
  have hinner (p : Part) (hp : p ∈ (Part.query q).parts) : p.nesting ≤ n :=
    Nat.le_trans (Part.nesting_le_of_mem hp) hq
  refine .of_parts hctes (hinner _ ?_) fun e he => hinner _ ?_
  · exact List.mem_append_right _ List.mem_cons_self
  · exact List.mem_append_right _ (List.mem_cons_of_mem _ (List.mem_map_of_mem he))

namespace NestedStatement

theorem insert {insert : Insert} (h : ∀ q ∈ insertSourceParts insert.source, q.nesting ≤ n) :
    NestedStatement (n + 1) (.insert insert) :=
  Part.nesting_le_succ h

theorem update {update : Update} (hassignments : ∀ a ∈ update.assignments, NestedAssignment n a)
    (hsources : ∀ j ∈ update.sources, NestedJoined n j) (hfilter : ∀ e ∈ update.filter, NestedExpr n e) :
    NestedStatement (n + 1) (.update update) := by
  refine Part.nesting_le_succ ?_
  simp only [Part.parts, statementParts, List.forall_mem_append]
  exact ⟨⟨nesting_sources_le hsources, nesting_assignments_le hassignments⟩, nesting_optional_le hfilter⟩

theorem delete {delete : Delete} (hsources : ∀ j ∈ delete.sources, NestedJoined n j)
    (hfilter : ∀ e ∈ delete.filter, NestedExpr n e) : NestedStatement (n + 1) (.delete delete) := by
  refine Part.nesting_le_succ ?_
  simp only [Part.parts, statementParts, List.forall_mem_append]
  exact ⟨nesting_sources_le hsources, nesting_optional_le hfilter⟩

theorem merge {merge : Merge} (hsource : NestedSource n merge.source) (hon : NestedExpr n merge.on)
    (hclauses : ∀ clause ∈ merge.clauses, NestedClause n clause) : NestedStatement (n + 1) (.merge merge) := by
  refine Part.nesting_le_succ (List.forall_mem_cons.2 ⟨hsource, List.forall_mem_cons.2 ⟨?_, fun q hq => ?_⟩⟩)
  · rw [Part.nesting_on]
    exact hon
  · obtain ⟨clause, hclause, hq⟩ := List.mem_flatMap.1 hq
    obtain ⟨hcondition, haction⟩ := hclauses clause hclause
    rcases List.mem_append.1 hq with hq | hq
    · exact nesting_optional_le hcondition q hq
    · exact haction q hq

theorem query {q : Query} (h : NestedQuery n q) : NestedStatement (n + 1) (.query q) :=
  Part.nesting_le_succ (List.forall_mem_singleton.2 h)

theorem withCtes {ctes : List Cte} {body : Statement} (hctes : ∀ cte ∈ ctes, NestedQuery n cte.query)
    (hbody : NestedStatement n body) : NestedStatement (n + 1) (.withCtes ctes body) :=
  Part.nesting_le_succ (List.forall_mem_append.2 ⟨List.forall_mem_map.2 hctes, List.forall_mem_singleton.2 hbody⟩)

theorem block {body : List Statement} (h : ∀ s ∈ body, NestedStatement n s) : NestedStatement (n + 1) (.block body) :=
  Part.nesting_le_succ (List.forall_mem_map.2 h)

theorem branch {condition : Expr} {yes : Statement} {no : Option Statement} (hcondition : NestedExpr n condition)
    (hyes : NestedStatement n yes) (hno : ∀ s ∈ no, NestedStatement n s) :
    NestedStatement (n + 1) (.branch condition yes no) := by
  refine Part.nesting_le_succ (List.forall_mem_cons.2 ⟨hcondition, List.forall_mem_cons.2 ⟨hyes, ?_⟩⟩)
  exact List.forall_mem_map.2 fun s hs => hno s (Option.mem_toList.1 hs)

theorem loop {condition : Expr} {body : Statement} (hcondition : NestedExpr n condition)
    (hbody : NestedStatement n body) : NestedStatement (n + 1) (.loop condition body) :=
  Part.nesting_le_succ (List.forall_mem_cons.2 ⟨hcondition, List.forall_mem_singleton.2 hbody⟩)

theorem routine {name : Name} {schemaBound : Bool} {body : List Statement} (h : ∀ s ∈ body, NestedStatement n s) :
    NestedStatement (n + 1) (.routine name schemaBound body) :=
  Part.nesting_le_succ (List.forall_mem_map.2 h)

theorem evaluate {exprs : List Expr} (h : ∀ e ∈ exprs, NestedExpr n e) : NestedStatement (n + 1) (.evaluate exprs) :=
  Part.nesting_le_succ (List.forall_mem_map.2 h)

/-- Nothing stands inside of the statement. -/
theorem of_statementParts_eq_nil {s : Statement} (h : statementParts s = []) : NestedStatement (n + 1) s :=
  Part.nesting_le_succ fun q hq => by
    rw [Part.parts, h] at hq
    cases hq

end NestedStatement

namespace Grammar.NestsWithin

open ChangeImpact.Sql.Parser

theorem mono {inner : Grammar} (h : inner.NestsWithin n) (hnm : n ≤ m) : inner.NestsWithin m where
  statement := h.statement.imp fun _ hs s hmem => Nat.le_trans (hs s hmem) hnm
  query := h.query.imp fun _ hq => Nat.le_trans hq hnm
  source := h.source.imp fun _ hs => Nat.le_trans hs hnm
  expr := h.expr.imp fun _ he => Nat.le_trans he hnm
  negated := h.negated.imp fun _ he => Nat.le_trans he hnm
  signed := h.signed.imp fun _ he => Nat.le_trans he hnm

variable {inner : Grammar} (h : inner.NestsWithin (n + 1))

include h

/-! ### Writes -/

theorem assignments : (assignments inner).Yields fun as => ∀ a ∈ as, NestedAssignment (n + 1) a := by
  have htarget {e : Expr} (he : exprParts e = []) : NestedExpr (n + 1) e := .of_exprParts_eq_nil he
  refine .commaSeparated (.ifAny_bind (P := NestedExpr (n + 1)) (.ret (htarget rfl))
    (.after fun _ => .ret (htarget rfl)) fun target htarget => ?_)
  exact .after fun _ => .bind h.expr fun value hvalue => .ret ⟨htarget, hvalue⟩

theorem update : (update inner).Yields fun u => NestedStatement (n + 2) (.update u) := by
  refine .after fun _ => .after fun _ => .after fun _ => .after fun _ => .after fun _ => ?_
  refine .bind h.assignments fun assignments hassignments => .after fun _ => ?_
  refine .bind h.fromClause fun sources hsources => .bind h.whereClause fun filter hfilter => .after fun _ => ?_
  exact .ret (.update hassignments hsources hfilter)

theorem delete : (delete inner).Yields fun d => NestedStatement (n + 2) (.delete d) := by
  refine .after fun _ => .after fun _ => .after fun _ => .after fun _ => .after fun _ => .after fun _ => ?_
  refine .bind h.fromClause fun sources hsources => .bind h.whereClause fun filter hfilter => .after fun _ => ?_
  exact .ret (.delete hsources hfilter)

theorem mergeAction : (mergeAction inner).Yields fun a => ∀ q ∈ mergeActionParts a, q.nesting ≤ n + 1 := by
  refine .ifAny ?_ (.ifAny (.ret (List.forall_mem_nil _)) (.ifAny (.after fun _ => .ifAny ?_ ?_) (.fail _)))
  · exact .after fun _ => .bind h.assignments fun _ has => .ret (nesting_assignments_le has)
  · exact .after fun _ => .bind h.exprList fun _ hvalues => .after fun _ => .ret (List.forall_mem_map.2 hvalues)
  · exact .after fun _ => .after fun _ => .ret (List.forall_mem_nil _)

theorem mergeClause : (mergeClause inner).Yields (NestedClause (n + 1)) := by
  have hrest : Parser.Yields (do
      let condition ← if ← acceptKeyword "AND" then some <$> inner.expr else pure none
      expectKeyword "THEN"
      return ⟨condition, ← Grammar.mergeAction inner⟩ : Parser MergeClause) (NestedClause (n + 1)) := by
    refine .ifAny_bind (.some h.expr) .none fun condition hcondition => .after fun _ => ?_
    exact .bind h.mergeAction fun action haction => .ret ⟨hcondition, haction⟩
  refine .after fun _ => .after fun _ => .ifAny (.ifAny hrest (.after fun _ => hrest)) hrest

theorem merge : (merge inner).Yields fun x => NestedStatement (n + 2) (.merge x) := by
  refine .after fun _ => .after fun _ => .after fun _ => .after fun _ => .after fun _ => .after fun _ => ?_
  refine .after fun _ => .bind h.source fun source hsource => .after fun _ => .bind h.expr fun on hon => ?_
  refine .bind (P := fun clauses => ∀ clause ∈ clauses, NestedClause (n + 1) clause)
    (.loop (fun clauses _ hclauses => .bind h.mergeClause fun clause hclause => .ret ?_) (List.forall_mem_nil _))
    fun clauses hclauses => .after fun _ => .after fun _ => .ret (.merge hsource hon hclauses)
  exact List.forall_mem_append.2 ⟨hclauses, List.forall_mem_singleton.2 hclause⟩

/-! ### Calls -/

theorem execArgs : (execArgs inner).Yields fun es => ∀ e ∈ es, NestedExpr (n + 1) e := by
  have harg : Parser.Yields (do
      let expr ← inner.expr
      skipBy fun ts => (ts.takeWhile fun t => t.lexeme.keyword?.any ["OUTPUT", "OUT", "READONLY"].contains).length
      return expr : Parser Expr) (NestedExpr (n + 1)) :=
    .bind h.expr fun _ hexpr => .after fun _ => .ret hexpr
  have hrest (args : List Expr) (hargs : ∀ e ∈ args, NestedExpr (n + 1) e) : Parser.Yields (do
      if ← acceptIf (fun ts => ts.hasKeyword 0 "WITH" && !ts.startsCtes) 1 then skipCall
      return args : Parser (List Expr)) fun es => ∀ e ∈ es, NestedExpr (n + 1) e :=
    .ifAny (.after fun _ => .ret hargs) (.ret hargs)
  refine .ifAny (.bind .nil hrest) (.bind harg fun first hfirst => ?_)
  refine .bind (.loop (fun args _ hargs => ?_) (List.forall_mem_singleton.2 hfirst)) hrest
  refine .ifAny (.ret hargs) (.bind harg fun arg harg => .ret ?_)
  exact List.forall_mem_append.2 ⟨hargs, List.forall_mem_singleton.2 harg⟩

theorem exec : (exec inner).Yields fun c? => ∀ c ∈ c?, (Part.exec c).nesting ≤ n + 2 := by
  refine .after fun _ => .ifAny (.after fun _ => .after fun _ => .after fun _ => .none) (.after fun _ => ?_)
  refine .ifAny (.after fun _ => .after fun _ => .none) (.after fun procedure => .bind h.execArgs fun args hargs => ?_)
  exact .ite (.after fun _ => .none) (.retSome (Part.nesting_le_succ (List.forall_mem_map.2 hargs)))

theorem insertSource : (insertSource inner).Yields fun s => ∀ q ∈ insertSourceParts s, q.nesting ≤ n + 2 := by
  refine .ifAny (.bind h.valueRows fun cells hcells => .ret ?_) (.ifAny (.ret (List.forall_mem_nil _)) (.ifAny ?_ ?_))
  · exact List.forall_mem_map.2 fun e he => Nat.le_succ_of_le (hcells e he)
  · refine .bind h.exec fun call? hcall => ?_
    cases call? with
    | some call => exact .ret (List.forall_mem_singleton.2 (hcall call rfl))
    | none => exact .ret (List.forall_mem_nil _)
  · exact .bind h.query fun query hquery => .ret (List.forall_mem_singleton.2 (Nat.le_succ_of_le hquery))

theorem insert : (insert inner).Yields fun i => NestedStatement (n + 3) (.insert i) := by
  have hrest {target : Name} : Parser.Yields (do
      skipOutput inner
      return ⟨target, ← Grammar.insertSource inner⟩ : Parser Insert) fun i => NestedStatement (n + 3) (.insert i) :=
    .after fun _ => .bind h.insertSource fun _ hsource => .ret (.insert hsource)
  refine .after fun _ => .after fun _ => .after fun _ => .after fun target => .after fun _ => ?_
  exact .ifAny (.after fun _ => hrest) hrest

/-- A statement with common table expressions has one level more than without them. -/
theorem withCtes : (withCtes inner).Yields (NestedStatement (n + 4)) := by
  refine .bind h.ctes fun ctes hctes => ?_
  have hwrite {s : Statement} (hs : NestedStatement (n + 3) s) : NestedStatement (n + 4) (.withCtes ctes s) :=
    .withCtes (fun cte hcte => Nat.le_trans (hctes cte hcte) (by omega)) hs
  refine .ifAny ?_ (.ifAny ?_ (.ifAny ?_ (.ifAny ?_ (.ifAny ?_ (.fail _)))))
  · refine .bind h.query fun query hquery => .ret (Nat.le_succ_of_le ?_)
    exact NestedStatement.query (.with_ctes hctes hquery)
  · exact .bind h.insert fun insert hinsert => .ret (hwrite hinsert)
  · exact .bind h.update fun update hupdate => .ret (hwrite (Nat.le_succ_of_le hupdate))
  · exact .bind h.delete fun delete hdelete => .ret (hwrite (Nat.le_succ_of_le hdelete))
  · exact .bind h.merge fun merge hmerge => .ret (hwrite (Nat.le_succ_of_le hmerge))

/-! ### Control flow -/

omit h in
theorem statements {inner : Grammar} (h : inner.NestsWithin m) (stopWords : List String) :
    (statements inner stopWords).Yields fun ss => ∀ s ∈ ss, NestedStatement m s :=
  .recovering h.statement

theorem block : (block inner).Yields fun s? => ∀ s ∈ s?, NestedStatement (n + 2) s := by
  refine .ifAny (.after fun _ => .none) (.after fun _ => .after fun kind => .ite (.after fun _ => ?_) ?_)
  -- With and without a second keyword behind `BEGIN`.
  all_goals
    refine .bind (h.statements ["END"]) fun body hbody => .ifAny ?_ (.after fun _ => .retSome (.block hbody))
    cases kind with
    | some keyword => exact .after fun _ => .retSome (.block hbody)
    | none => exact .retSome (.block hbody)

theorem branchBody : (branchBody inner).Yields (NestedStatement (n + 1)) := by
  refine .after fun _ => .bind h.statement fun statement? hstatement => .ret ?_
  cases statement? with
  | some statement => exact hstatement statement rfl
  | none => exact .of_statementParts_eq_nil rfl

theorem branch : (branch inner).Yields (NestedStatement (n + 2)) := by
  refine .after fun _ => .bind h.expr fun condition hcondition => .bind h.branchBody fun yes hyes => .after fun _ => ?_
  exact .ifAny_bind (.some h.branchBody) .none fun no hno => .ret (.branch hcondition hyes hno)

theorem whileLoop : (whileLoop inner).Yields (NestedStatement (n + 2)) :=
  .after fun _ => .bind h.expr fun _ hcondition => .bind h.branchBody fun _ hbody => .ret (.loop hcondition hbody)

theorem cursor : (cursor inner).Yields (NestedStatement (n + 2)) := by
  refine .after fun _ => .after fun _ => .bind h.query fun query hquery => ?_
  have hret : (pure (.query query) : Parser Statement).Yields (NestedStatement (n + 2)) := .ret (.query hquery)
  exact .ifAny (.ifAny (.after fun _ => hret) hret) hret

theorem declaration : (declaration inner).Yields fun e? => ∀ e ∈ e?, NestedExpr (n + 1) e := by
  have hvalue : Parser.Yields (do
      if ← accept .equals then return some (← inner.expr)
      return none : Parser (Option Expr)) fun e? => ∀ e ∈ e?, NestedExpr (n + 1) e :=
    .ifAny (.some h.expr) .none
  refine .ifAny (.after fun _ => .ifAny (.after fun _ => hvalue) (.ifAny hvalue (.after fun _ => hvalue))) ?_
  exact .bind (P := fun _ => False) (.fail _) fun _ hfalse => hfalse.elim

theorem declare : (declare inner).Yields (NestedStatement (n + 2)) := by
  refine .after fun _ => .ifAny (.bind (.commaSeparated h.declaration) fun exprs hexprs => .ret ?_) h.cursor
  refine .evaluate fun e he => ?_
  obtain ⟨e?, hmem, he⟩ := List.mem_filterMap.1 he
  exact hexprs e? hmem e he

theorem set : (set inner).Yields fun s? => ∀ s ∈ s?, NestedStatement (n + 2) s := by
  refine .ifAny (.after fun _ => .after fun _ => .someOf h.expr fun value hvalue => ?_) (.after fun _ => .none)
  exact .evaluate (List.forall_mem_singleton.2 hvalue)

theorem returnStatement : (returnStatement inner).Yields (NestedStatement (n + 2)) := by
  refine .after fun _ => .ifAny (.ret (.evaluate (List.forall_mem_nil _))) (.bind h.expr fun value hvalue => .ret ?_)
  exact .evaluate (List.forall_mem_singleton.2 hvalue)

theorem definition : (definition inner).Yields fun s? => ∀ s ∈ s?, NestedStatement (n + 2) s := by
  refine .after fun kindAt => .ifAny (.after fun _ => .after fun name => .after fun distance? => ?_)
    (.after fun _ => .none)
  split
  · exact .after fun _ => .someOf (h.statements ["GO"]) fun body hbody => .routine hbody
  · exact .after fun _ => .after fun _ => .retSome (.routine (List.forall_mem_nil _))

/-! ### Any statement -/

theorem execStatement : (execStatement inner).Yields fun s? => ∀ s ∈ s?, NestedStatement (n + 3) s := by
  refine .ifAny (.after fun _ => .none) (.bind h.exec fun call? hcall => ?_)
  cases call? with
  | some call => exact .retSome (Part.nesting_le_succ (List.forall_mem_singleton.2 (hcall call rfl)))
  | none => exact .retSome (.of_statementParts_eq_nil rfl)

theorem keywordStatement (keyword : String) :
    (keywordStatement inner keyword).Yields fun s? => ∀ s ∈ s?, NestedStatement (n + 4) s := by
  have hoptional {p : Parser (Option Statement)} {levels : Nat} (hlevels : levels ≤ n + 4)
      (hp : p.Yields fun s? => ∀ s ∈ s?, NestedStatement levels s) :
      p.Yields fun s? => ∀ s ∈ s?, NestedStatement (n + 4) s :=
    hp.imp fun _ hs s hmem => Nat.le_trans (hs s hmem) hlevels
  have htwo : n + 2 ≤ n + 4 := by omega
  have hthree : n + 3 ≤ n + 4 := by omega
  unfold Grammar.keywordStatement
  split
  · exact hoptional htwo (.someOf h.query fun _ => .query)
  · exact .some h.withCtes
  · exact hoptional hthree (.someOf h.insert fun _ => id)
  · exact .ifAny (.after fun _ => .none) (hoptional htwo (.someOf h.update fun _ => id))
  · exact hoptional htwo (.someOf h.delete fun _ => id)
  · exact hoptional htwo (.someOf h.merge fun _ => id)
  · refine .after fun _ => .after fun _ => .someOf (P := fun _ => True) (fun _ _ _ => trivial) fun target _ => ?_
    exact .of_statementParts_eq_nil rfl
  · exact hoptional hthree h.execStatement
  · exact hoptional hthree h.execStatement
  · exact hoptional htwo h.block
  · exact hoptional htwo (.some h.branch)
  · exact hoptional htwo (.some h.whileLoop)
  · exact hoptional htwo (.some h.declare)
  · exact hoptional htwo h.set
  · exact hoptional htwo (.some h.returnStatement)
  · exact hoptional htwo h.definition
  · exact hoptional htwo h.definition
  · exact .after fun _ => .none
  · exact .after fun _ => .after fun _ => .none
  · exact .after fun _ => .after fun _ => .none
  · exact .ite (.after fun _ => .none) (.ifAny .none (.fail _))

theorem anyStatement : (anyStatement inner).Yields fun s? => ∀ s ∈ s?, NestedStatement (n + 4) s := by
  refine .after fun lexeme? => ?_
  split
  · exact .none
  · exact .after fun _ => .none
  · refine .ifAny (.someOf h.query fun query hquery => ?_) (.fail _)
    exact Nat.le_trans (NestedStatement.query hquery) (by omega)
  · exact h.keywordStatement _
  · exact .fail _

/-! ### Whole grammars -/

omit h in
/-- One level of a grammar adds six levels, which `OR` needs. -/
theorem deepen {inner : Grammar} (h : inner.NestsWithin n) : inner.deepen.NestsWithin (n + 6) where
  statement := (h.mono (Nat.le_succ n)).anyStatement.imp fun _ hs s hmem => Nat.le_trans (hs s hmem) (by omega)
  query := h.fullQuery.imp fun _ hq => Nat.le_trans hq (by omega)
  source := h.anySource.imp fun _ hs => Nat.le_trans hs (by omega)
  expr := h.disjunction
  negated := h.negatedExpr.imp fun _ he => Nat.le_trans he (by omega)
  signed := h.signedExpr.imp fun _ he => Nat.le_trans he (by omega)

omit h in
theorem ofLevels (levels : Nat) : (ofLevels levels).NestsWithin (6 * levels) := by
  induction levels with
  | zero => exact ⟨.tooDeep, .tooDeep, .tooDeep, .tooDeep, .tooDeep, .tooDeep⟩
  | succ levels ih => exact ih.deepen

end Grammar.NestsWithin

end ChangeImpact.Sql
