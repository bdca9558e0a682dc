import ChangeImpact.Extraction
import Mathlib.Data.List.Forall2

/-!
# Subqueries and what is around them

`a.PrunesTo b` says that `b` is `a` with some of its subqueries left out, one or several of them, however deep they
stand: a literal stands in the place of a subquery in an expression, and a `SELECT` of a literal in that of the body of
a derived table, which keeps its alias.  All the rest is the same, so there is one rule for each way to build a tree.

Nothing that is bound inside of a subquery is seen around it.  So the frames of a pruned tree are those of the tree
(`sourcesFrame_pruned`), what it says is part of what the tree says in every context (`statementsFindings_pruned`), and
all that is collected from it is collected from the tree (`ofStatements_pruned`).
-/

namespace ChangeImpact.Sql

/-- `SELECT` of a single literal -/
def Query.ofLiteral : Query :=
  ⟨[], .select ⟨[.literal], none, [], none, [], none⟩, []⟩

mutual

inductive Expr.PrunesTo : Expr → Expr → Prop
  | refl (e : Expr) : Expr.PrunesTo e e
  | out (query : Query) : Expr.PrunesTo (.subquery query) .literal
  | binary {l l' r r' : Expr} (op : Operator) (hl : l.PrunesTo l') (hr : r.PrunesTo r') :
    Expr.PrunesTo (.binary l op r) (.binary l' op r')
  | call {args args' : List Expr} (name : Name) (h : List.Forall₂ Expr.PrunesTo args args') :
    Expr.PrunesTo (.call name args) (.call name args')
  | subquery {q q' : Query} (h : q.PrunesTo q') : Expr.PrunesTo (.subquery q) (.subquery q')
  | group {operands operands' : List Expr} (h : List.Forall₂ Expr.PrunesTo operands operands') :
    Expr.PrunesTo (.group operands) (.group operands')

inductive Query.PrunesTo : Query → Query → Prop
  | refl (q : Query) : Query.PrunesTo q q
  | parts {ctes ctes' : List Cte} {body body' : QueryBody} {orderBy orderBy' : List Expr}
    (hctes : List.Forall₂ Cte.PrunesTo ctes ctes') (hbody : body.PrunesTo body')
    (horderBy : List.Forall₂ Expr.PrunesTo orderBy orderBy') :
    Query.PrunesTo ⟨ctes, body, orderBy⟩ ⟨ctes', body', orderBy'⟩

inductive Cte.PrunesTo : Cte → Cte → Prop
  | query {q q' : Query} (name : String) (h : q.PrunesTo q') : Cte.PrunesTo ⟨name, q⟩ ⟨name, q'⟩

inductive QueryBody.PrunesTo : QueryBody → QueryBody → Prop
  | refl (b : QueryBody) : QueryBody.PrunesTo b b
  | select {b b' : Select} (h : b.PrunesTo b') : QueryBody.PrunesTo (.select b) (.select b')
  | nested {q q' : Query} (h : q.PrunesTo q') : QueryBody.PrunesTo (.nested q) (.nested q')
  | combine {l l' r r' : QueryBody} (hl : l.PrunesTo l') (hr : r.PrunesTo r') :
    QueryBody.PrunesTo (.combine l r) (.combine l' r')

inductive Select.PrunesTo : Select → Select → Prop
  | parts {columns columns' : List Expr} {sources sources' : List Joined} {filter filter' having having' : Option Expr}
    {groupBy groupBy' : List Expr} (into : Option Name) (hcolumns : List.Forall₂ Expr.PrunesTo columns columns')
    (hsources : List.Forall₂ Joined.PrunesTo sources sources') (hfilter : Option.Rel Expr.PrunesTo filter filter')
    (hgroupBy : List.Forall₂ Expr.PrunesTo groupBy groupBy') (hhaving : Option.Rel Expr.PrunesTo having having') :
    Select.PrunesTo ⟨columns, into, sources, filter, groupBy, having⟩
      ⟨columns', into, sources', filter', groupBy', having'⟩

inductive Joined.PrunesTo : Joined → Joined → Prop
  | parts {first first' : Source} {joins joins' : List Join} (hfirst : first.PrunesTo first')
    (hjoins : List.Forall₂ Join.PrunesTo joins joins') : Joined.PrunesTo ⟨first, joins⟩ ⟨first', joins'⟩

inductive Join.PrunesTo : Join → Join → Prop
  | parts {source source' : Source} {on on' : Option Expr} (hsource : source.PrunesTo source')
    (hon : Option.Rel Expr.PrunesTo on on') : Join.PrunesTo ⟨source, on⟩ ⟨source', on'⟩

inductive Source.PrunesTo : Source → Source → Prop
  | refl (s : Source) : Source.PrunesTo s s
  | out (query : Query) (calledAs : Option String) :
    Source.PrunesTo (.derived query calledAs) (.derived .ofLiteral calledAs)
  | call {args args' : List Expr} (name : Name) (calledAs : Option String)
    (h : List.Forall₂ Expr.PrunesTo args args') : Source.PrunesTo (.call name args calledAs) (.call name args' calledAs)
  | derived {q q' : Query} (calledAs : Option String) (h : q.PrunesTo q') :
    Source.PrunesTo (.derived q calledAs) (.derived q' calledAs)
  | rows {cells cells' : List Expr} (calledAs : Option String) (h : List.Forall₂ Expr.PrunesTo cells cells') :
    Source.PrunesTo (.rows cells calledAs) (.rows cells' calledAs)
  | joined {j j' : Joined} (h : j.PrunesTo j') : Source.PrunesTo (.joined j) (.joined j')

end

theorem Join.PrunesTo.refl (j : Join) : j.PrunesTo j := by
  obtain ⟨source, on⟩ := j
  cases on with
  | none => exact .parts (.refl source) .none
  | some on => exact .parts (.refl source) (.some (.refl on))

theorem Joined.PrunesTo.refl (j : Joined) : j.PrunesTo j := by
  obtain ⟨first, joins⟩ := j
  exact .parts (.refl first) (List.forall₂_same.2 fun j _ => .refl j)

/-! ### Statements -/

structure Assignment.PrunesTo (a a' : Assignment) : Prop where
  target : a.target.PrunesTo a'.target
  value : a.value.PrunesTo a'.value

structure Exec.PrunesTo (c c' : Exec) : Prop where
  procedure_eq : c'.procedure = c.procedure
  args : List.Forall₂ Expr.PrunesTo c.args c'.args

inductive InsertSource.PrunesTo : InsertSource → InsertSource → Prop
  | refl (s : InsertSource) : PrunesTo s s
  | rows {cells cells' : List Expr} (h : List.Forall₂ Expr.PrunesTo cells cells') :
    PrunesTo (.rows cells) (.rows cells')
  | query {q q' : Query} (h : q.PrunesTo q') : PrunesTo (.query q) (.query q')
  | exec {c c' : Exec} (h : c.PrunesTo c') : PrunesTo (.exec c) (.exec c')

structure Insert.PrunesTo (i i' : Insert) : Prop where
  target_eq : i'.target = i.target
  source : i.source.PrunesTo i'.source

structure Update.PrunesTo (u u' : Update) : Prop where
  target_eq : u'.target = u.target
  assignments : List.Forall₂ Assignment.PrunesTo u.assignments u'.assignments
  sources : List.Forall₂ Joined.PrunesTo u.sources u'.sources
  filter : Option.Rel Expr.PrunesTo u.filter u'.filter

structure Delete.PrunesTo (d d' : Delete) : Prop where
  target_eq : d'.target = d.target
  sources : List.Forall₂ Joined.PrunesTo d.sources d'.sources
  filter : Option.Rel Expr.PrunesTo d.filter d'.filter

inductive MergeAction.PrunesTo : MergeAction → MergeAction → Prop
  | delete : PrunesTo .delete .delete
  | update {as as' : List Assignment} (h : List.Forall₂ Assignment.PrunesTo as as') :
    PrunesTo (.update as) (.update as')
  | insert {values values' : List Expr} (h : List.Forall₂ Expr.PrunesTo values values') :
    PrunesTo (.insert values) (.insert values')

structure MergeClause.PrunesTo (c c' : MergeClause) : Prop where
  condition : Option.Rel Expr.PrunesTo c.condition c'.condition
  action : c.action.PrunesTo c'.action

structure Merge.PrunesTo (m m' : Merge) : Prop where
  target_eq : m'.target = m.target
  targetAlias_eq : m'.targetAlias = m.targetAlias
  source : m.source.PrunesTo m'.source
  on : m.on.PrunesTo m'.on
  clauses : List.Forall₂ MergeClause.PrunesTo m.clauses m'.clauses

inductive Statement.PrunesTo : Statement → Statement → Prop
  | refl (s : Statement) : PrunesTo s s
  | query {q q' : Query} (h : q.PrunesTo q') : PrunesTo (.query q) (.query q')
  | insert {i i' : Insert} (h : i.PrunesTo i') : PrunesTo (.insert i) (.insert i')
  | update {u u' : Update} (h : u.PrunesTo u') : PrunesTo (.update u) (.update u')
  | delete {d d' : Delete} (h : d.PrunesTo d') : PrunesTo (.delete d) (.delete d')
  | merge {m m' : Merge} (h : m.PrunesTo m') : PrunesTo (.merge m) (.merge m')
  | exec {c c' : Exec} (h : c.PrunesTo c') : PrunesTo (.exec c) (.exec c')
  | withCtes {ctes ctes' : List Cte} {body body' : Statement} (hctes : List.Forall₂ Cte.PrunesTo ctes ctes')
    (hbody : body.PrunesTo body') : PrunesTo (.withCtes ctes body) (.withCtes ctes' body')
  | block {body body' : List Statement} (h : List.Forall₂ Statement.PrunesTo body body') :
    PrunesTo (.block body) (.block body')
  | branch {condition condition' : Expr} {yes yes' : Statement} {no no' : Option Statement}
    (hcondition : condition.PrunesTo condition') (hyes : yes.PrunesTo yes')
    (hno : Option.Rel Statement.PrunesTo no no') :
    PrunesTo (.branch condition yes no) (.branch condition' yes' no')
  | loop {condition condition' : Expr} {body body' : Statement} (hcondition : condition.PrunesTo condition')
    (hbody : body.PrunesTo body') : PrunesTo (.loop condition body) (.loop condition' body')
  | routine {body body' : List Statement} (name : Name) (schemaBound : Bool)
    (h : List.Forall₂ Statement.PrunesTo body body') :
    PrunesTo (.routine name schemaBound body) (.routine name schemaBound body')
  | evaluate {exprs exprs' : List Expr} (h : List.Forall₂ Expr.PrunesTo exprs exprs') :
    PrunesTo (.evaluate exprs) (.evaluate exprs')

end ChangeImpact.Sql

namespace ChangeImpact.Extraction

open Sql

variable {ctx : Context}

/-! ### What a query binds -/

theorem cteFrame_pruned {ctes ctes' : List Cte} (h : List.Forall₂ Cte.PrunesTo ctes ctes') :
    cteFrame ctes' = cteFrame ctes := by
  induction h with
  | nil => rfl
  | cons hcte _ ih =>
    cases hcte
    exact congrArg (List.cons _) ih

mutual

/-- An alias stands for the same whether or not the body of its table is left out. -/
theorem bindSource_pruned (outer frame : Scope) :
    {s s' : Source} → s.PrunesTo s' → bindSource outer frame s' = bindSource outer frame s
  | _, _, .refl _ => rfl
  | _, _, .out _ _ => rfl
  | _, _, .call _ _ _ => rfl
  | _, _, .derived _ _ => rfl
  | _, _, .rows _ _ => rfl
  | .joined j, _, .joined h => by rw [bindSource, bindSource, bindJoined_pruned outer frame h]

theorem bindJoined_pruned (outer frame : Scope) :
    {j j' : Joined} → j.PrunesTo j' → bindJoined outer frame j' = bindJoined outer frame j
  | ⟨first, joins⟩, _, .parts hfirst hjoins => by
    rw [bindJoined, bindJoined, bindSource_pruned outer frame hfirst, bindJoins_pruned outer _ hjoins]

theorem bindJoins_pruned (outer frame : Scope) :
    {js js' : List Join} → List.Forall₂ Join.PrunesTo js js' → bindJoins outer frame js' = bindJoins outer frame js
  | [], _, .nil => rfl
  | ⟨source, on⟩ :: js, _, .cons (.parts hsource _) hjs => by
    rw [bindJoins, bindJoins, bindSource_pruned outer frame hsource, bindJoins_pruned outer _ hjs]

end

theorem sourcesFrame_pruned (outer : Scope) {js js' : List Joined} (h : List.Forall₂ Joined.PrunesTo js js') :
    sourcesFrame outer js' = sourcesFrame outer js := by
  unfold sourcesFrame
  generalize ([] : Scope) = frame
  induction h generalizing frame with
  | nil => rfl
  | cons hj _ ih => rw [List.foldl_cons, List.foldl_cons, bindJoined_pruned outer frame hj, ih]

/-! ### What a query says -/

/-- A subquery is no side of an equality of columns. -/
theorem equalityFindings_pruned {l l' r r' : Expr} (op : Operator) (hl : l.PrunesTo l') (hr : r.PrunesTo r') :
    equalityFindings ctx l' op r' = equalityFindings ctx l op r := by
  cases hl <;> cases hr <;> simp [equalityFindings]

/-- Nothing is said by a literal. -/
theorem queryFindings_ofLiteral (ctx : Context) : queryFindings ctx .ofLiteral = [] := rfl

mutual

theorem exprFindings_pruned (ctx : Context) :
    {e e' : Expr} → e.PrunesTo e' → (exprFindings ctx e').Sublist (exprFindings ctx e)
  | _, _, .refl _ => .refl _
  | .subquery q, _, .out _ => List.nil_sublist _
  | .binary l op r, _, .binary _ hl hr => by
    rw [exprFindings, exprFindings, equalityFindings_pruned op hl hr]
    exact ((List.Sublist.refl _).append (exprFindings_pruned ctx hl)).append (exprFindings_pruned ctx hr)
  | .call name args, _, .call _ h => by
    rw [exprFindings, exprFindings]
    exact (List.Sublist.refl _).append (exprsFindings_pruned ctx.apart h)
  | .subquery q, _, .subquery h => queryFindings_pruned ctx h
  | .group operands, _, .group h => exprsFindings_pruned ctx h

theorem exprsFindings_pruned (ctx : Context) :
    {es es' : List Expr} → List.Forall₂ Expr.PrunesTo es es' → (exprsFindings ctx es').Sublist (exprsFindings ctx es)
  | [], _, .nil => .refl _
  | e :: es, _, .cons he hes => (exprFindings_pruned ctx he).append (exprsFindings_pruned ctx hes)

theorem optionalFindings_pruned (ctx : Context) :
    {e e' : Option Expr} → Option.Rel Expr.PrunesTo e e' → (optionalFindings ctx e').Sublist (optionalFindings ctx e)
  | none, _, .none => .refl _
  | some e, _, .some h => exprFindings_pruned ctx h

theorem queryFindings_pruned (ctx : Context) :
    {q q' : Query} → q.PrunesTo q' → (queryFindings ctx q').Sublist (queryFindings ctx q)
  | _, _, .refl _ => .refl _
  | ⟨ctes, body, orderBy⟩, _, .parts hctes hbody horderBy => by
    rw [queryFindings, queryFindings, cteFrame_pruned hctes]
    exact ((ctesFindings_pruned _ hctes).append (bodyFindings_pruned _ hbody)).append (exprsFindings_pruned _ horderBy)

theorem ctesFindings_pruned (ctx : Context) :
    {ctes ctes' : List Cte} → List.Forall₂ Cte.PrunesTo ctes ctes' →
      (ctesFindings ctx ctes').Sublist (ctesFindings ctx ctes)
  | [], _, .nil => .refl _
  | ⟨name, q⟩ :: ctes, _, .cons (.query _ h) hctes =>
    (queryFindings_pruned ctx h).append (ctesFindings_pruned ctx hctes)

theorem bodyFindings_pruned (ctx : Context) :
    {b b' : QueryBody} → b.PrunesTo b' → (bodyFindings ctx b').Sublist (bodyFindings ctx b)
  | _, _, .refl _ => .refl _
  | .select b, _, .select h => selectFindings_pruned ctx h
  | .nested q, _, .nested h => queryFindings_pruned ctx h
  | .combine l r, _, .combine hl hr => (bodyFindings_pruned ctx hl).append (bodyFindings_pruned ctx hr)

theorem selectFindings_pruned (ctx : Context) :
    {b b' : Select} → b.PrunesTo b' → (selectFindings ctx b').Sublist (selectFindings ctx b)
  | ⟨columns, into, sources, filter, groupBy, having⟩, _,
    .parts _ hcolumns hsources hfilter hgroupBy hhaving => by
    rw [selectFindings, selectFindings, sourcesFrame_pruned _ hsources]
    generalize (ctx.within (sourcesFrame ctx.scope sources)).apart = ctx
    have hsources := sourcesFindings_pruned ctx hsources
    have hcolumns := exprsFindings_pruned ctx hcolumns
    have hfilter := optionalFindings_pruned ctx hfilter
    have hgroupBy := exprsFindings_pruned ctx hgroupBy
    have hhaving := optionalFindings_pruned ctx hhaving
    exact (((((List.Sublist.refl _).append hsources).append hcolumns).append hfilter).append hgroupBy).append hhaving

theorem sourcesFindings_pruned (ctx : Context) :
    {js js' : List Joined} → List.Forall₂ Joined.PrunesTo js js' →
      (sourcesFindings ctx js').Sublist (sourcesFindings ctx js)
  | [], _, .nil => .refl _
  | j :: js, _, .cons hj hjs => (joinedFindings_pruned ctx hj).append (sourcesFindings_pruned ctx hjs)

theorem joinedFindings_pruned (ctx : Context) :
    {j j' : Joined} → j.PrunesTo j' → (joinedFindings ctx j').Sublist (joinedFindings ctx j)
  | ⟨first, joins⟩, _, .parts hfirst hjoins =>
    (sourceFindings_pruned ctx hfirst).append (joinsFindings_pruned ctx hjoins)

theorem joinsFindings_pruned (ctx : Context) :
    {js js' : List Join} → List.Forall₂ Join.PrunesTo js js' → (joinsFindings ctx js').Sublist (joinsFindings ctx js)
  | [], _, .nil => .refl _
  | ⟨source, on⟩ :: js, _, .cons (.parts hsource hon) hjs =>
    ((sourceFindings_pruned ctx hsource).append (optionalFindings_pruned ctx.joining hon)).append
      (joinsFindings_pruned ctx hjs)

theorem sourceFindings_pruned (ctx : Context) :
    {s s' : Source} → s.PrunesTo s' → (sourceFindings ctx s').Sublist (sourceFindings ctx s)
  | _, _, .refl _ => .refl _
  | .derived q calledAs, _, .out _ _ => by
    rw [sourceFindings, queryFindings_ofLiteral]
    exact List.nil_sublist _
  | .call name args calledAs, _, .call _ _ h => (List.Sublist.refl _).append (exprsFindings_pruned ctx.apart h)
  | .derived q calledAs, _, .derived _ h => queryFindings_pruned ctx h
  | .rows cells calledAs, _, .rows _ h => exprsFindings_pruned ctx.apart h
  | .joined j, _, .joined h => joinedFindings_pruned ctx.apart h

end

/-! ### What a statement says -/

theorem flatMap_pruned {α β : Type} {R : α → α → Prop} {f : α → List β} (hf : ∀ a a', R a a' → (f a').Sublist (f a))
    {as as' : List α} (h : List.Forall₂ R as as') : (as'.flatMap f).Sublist (as.flatMap f) := by
  induction h with
  | nil => exact .refl _
  | cons ha _ ih =>
    rw [List.flatMap_cons, List.flatMap_cons]
    exact (hf _ _ ha).append ih

theorem assignmentsFindings_pruned (ctx : Context) {as as' : List Assignment}
    (h : List.Forall₂ Assignment.PrunesTo as as') :
    (assignmentsFindings ctx as').Sublist (assignmentsFindings ctx as) :=
  flatMap_pruned (fun _ _ ha => (exprFindings_pruned ctx ha.target).append (exprFindings_pruned ctx ha.value)) h

theorem execFindings_pruned (ctx : Context) {c c' : Exec} (h : c.PrunesTo c') :
    (execFindings ctx c').Sublist (execFindings ctx c) := by
  unfold execFindings
  rw [h.procedure_eq]
  exact (List.Sublist.refl _).append (exprsFindings_pruned ctx h.args)

theorem insertFindings_pruned (ctx : Context) {i i' : Insert} (h : i.PrunesTo i') :
    (insertFindings ctx i').Sublist (insertFindings ctx i) := by
  obtain ⟨target, source⟩ := i
  obtain ⟨target', source'⟩ := i'
  obtain ⟨htarget, hsource⟩ := h
  cases htarget
  refine (List.Sublist.refl _).append ?_
  cases hsource with
  | refl => exact .refl _
  | rows h => exact exprsFindings_pruned ctx h
  | query h => exact queryFindings_pruned ctx h
  | exec h => exact execFindings_pruned ctx h

theorem updateFindings_pruned (ctx : Context) {u u' : Update} (h : u.PrunesTo u') :
    (updateFindings ctx u').Sublist (updateFindings ctx u) := by
  unfold updateFindings
  rw [h.target_eq, sourcesFrame_pruned ctx.scope h.sources]
  generalize ctx.within (sourcesFrame ctx.scope u.sources) = ctx
  have hsources := sourcesFindings_pruned ctx h.sources
  have hassignments := assignmentsFindings_pruned ctx h.assignments
  have hfilter := optionalFindings_pruned ctx h.filter
  exact (((List.Sublist.refl _).append hsources).append hassignments).append hfilter

theorem deleteFindings_pruned (ctx : Context) {d d' : Delete} (h : d.PrunesTo d') :
    (deleteFindings ctx d').Sublist (deleteFindings ctx d) := by
  unfold deleteFindings
  rw [h.target_eq, sourcesFrame_pruned ctx.scope h.sources]
  generalize ctx.within (sourcesFrame ctx.scope d.sources) = ctx
  have hsources := sourcesFindings_pruned ctx h.sources
  have hfilter := optionalFindings_pruned ctx h.filter
  exact ((List.Sublist.refl _).append hsources).append hfilter

theorem usage_pruned {a a' : MergeAction} (h : a.PrunesTo a') : MergeAction.usage a' = MergeAction.usage a := by
  cases h <;> rfl

/-- The clauses of a `MERGE` keep their actions. -/
theorem mergeUsage_pruned {cs cs' : List MergeClause} (h : List.Forall₂ MergeClause.PrunesTo cs cs') :
    mergeUsage cs' = mergeUsage cs := by
  have husage : cs'.map (MergeAction.usage ·.action) = cs.map (MergeAction.usage ·.action) := by
    induction h with
    | nil => rfl
    | cons hc _ ih => rw [List.map_cons, List.map_cons, usage_pruned hc.action, ih]
  rw [mergeUsage, mergeUsage, husage]

theorem mergeClauseFindings_pruned (ctx : Context) {c c' : MergeClause} (h : c.PrunesTo c') :
    (optionalFindings ctx c'.condition ++ mergeActionFindings ctx c'.action).Sublist
      (optionalFindings ctx c.condition ++ mergeActionFindings ctx c.action) := by
  obtain ⟨condition, action⟩ := c
  obtain ⟨condition', action'⟩ := c'
  obtain ⟨hcondition, haction⟩ := h
  refine (optionalFindings_pruned ctx hcondition).append ?_
  cases haction with
  | delete => exact .refl _
  | update h => exact assignmentsFindings_pruned ctx h
  | insert h => exact exprsFindings_pruned ctx h

theorem mergeFindings_pruned (ctx : Context) {m m' : Merge} (h : m.PrunesTo m') :
    (mergeFindings ctx m').Sublist (mergeFindings ctx m) := by
  unfold mergeFindings
  dsimp only
  rw [h.target_eq, h.targetAlias_eq, bindSource_pruned _ _ h.source, mergeUsage_pruned h.clauses]
  generalize ctx.within (bindSource ctx.scope (bindTable ctx.scope [] m.target m.targetAlias) m.source) = ctx
  have hsource := sourceFindings_pruned ctx h.source
  have hon := exprFindings_pruned ctx.joining h.on
  have hclauses := flatMap_pruned (fun _ _ hc => mergeClauseFindings_pruned ctx hc) h.clauses
  exact (((List.Sublist.refl _).append hsource).append hon).append hclauses

mutual

theorem statementFindings_pruned (ctx : Context) :
    {s s' : Statement} → s.PrunesTo s' → (statementFindings ctx s').Sublist (statementFindings ctx s)
  | _, _, .refl _ => .refl _
  | .query q, _, .query h => queryFindings_pruned ctx h
  | .insert i, _, .insert h => insertFindings_pruned ctx h
  | .update u, _, .update h => updateFindings_pruned ctx h
  | .delete d, _, .delete h => deleteFindings_pruned ctx h
  | .merge m, _, .merge h => mergeFindings_pruned ctx h
  | .exec c, _, .exec h => execFindings_pruned ctx h
  | .withCtes ctes body, _, .withCtes hctes hbody => by
    rw [statementFindings, statementFindings, cteFrame_pruned hctes]
    exact (ctesFindings_pruned _ hctes).append (statementFindings_pruned _ hbody)
  | .block body, _, .block h => statementsFindings_pruned ctx h
  | .branch condition yes none, _, .branch hcondition hyes .none =>
    ((exprFindings_pruned ctx hcondition).append (statementFindings_pruned ctx hyes)).append (.refl _)
  | .branch condition yes (some no), _, .branch hcondition hyes (.some hno) =>
    ((exprFindings_pruned ctx hcondition).append (statementFindings_pruned ctx hyes)).append
      (statementFindings_pruned ctx hno)
  | .loop condition body, _, .loop hcondition hbody =>
    (exprFindings_pruned ctx hcondition).append (statementFindings_pruned ctx hbody)
  | .routine name schemaBound body, _, .routine _ _ h => statementsFindings_pruned { ctx with schemaBound } h
  | .evaluate exprs, _, .evaluate h => exprsFindings_pruned ctx h

theorem statementsFindings_pruned (ctx : Context) :
    {ss ss' : List Statement} → List.Forall₂ Statement.PrunesTo ss ss' →
      (statementsFindings ctx ss').Sublist (statementsFindings ctx ss)
  | [], _, .nil => .refl _
  | _ :: _, _, .cons hs hss => (statementFindings_pruned ctx hs).append (statementsFindings_pruned ctx hss)

end

/-! ### What is collected -/

/-- All that is collected in the one is collected in the other, where the case of ASCII letters in the name of a target
does not matter. -/
structure CollectedIn (e e' : Extraction) : Prop where
  references : ∀ r ∈ e.references, ∃ r' ∈ e'.references, referenceKey r' = referenceKey r
  joins : ∀ j ∈ e.joins, j ∈ e'.joins
  columns : ∀ c ∈ e.columns, c ∈ e'.columns

/-- Nothing that stands outside of a subquery is taken for something else because of what stands inside. -/
theorem ofStatements_pruned (owner : Entity) {ss ss' : List Statement} (h : List.Forall₂ Statement.PrunesTo ss ss') :
    CollectedIn (ofStatements owner ss') (ofStatements owner ss) := by
  have hfindings : (statementsFindings .initial ss').Sublist (statementsFindings .initial ss) :=
    statementsFindings_pruned .initial h
  refine ⟨fun r hr => ?references, fun j hj => ?joins, fun c hc => ?columns⟩
  case references =>
    have hkey : referenceKey r ∈ (ofStatements owner ss').references.map referenceKey := List.mem_map_of_mem hr
    obtain ⟨hkey, -⟩ := mem_map_distinctBy.1 hkey
    have hkey : referenceKey r ∈ (ofStatements owner ss).references.map referenceKey :=
      mem_map_distinctBy.2 ⟨((hfindings.filterMap _).map _).subset hkey, List.not_mem_nil⟩
    exact List.mem_map.1 hkey
  case joins => exact mem_distinctBy_id.2 ((hfindings.filterMap _).subset (mem_distinctBy_id.1 hj))
  case columns => exact mem_distinctBy_id.2 ((hfindings.filterMap _).subset (mem_distinctBy_id.1 hc))

/-- `SELECT o.id FROM orders o JOIN lines l ON o.id = l.id WHERE …` -/
def ordersWithLines (condition : Expr) : Statement :=
  let ofOrder : Expr := .column ⟨["o", "id"]⟩
  let lines : Join := ⟨.table ⟨["lines"]⟩ (some "l"), some (.binary ofOrder .equals (.column ⟨["l", "id"]⟩))⟩
  .query ⟨[], .select ⟨[ofOrder], none, [⟨.table ⟨["orders"]⟩ (some "o"), [lines]⟩], some condition, [], none⟩, []⟩

/-- An alias of the query is taken for another table inside of `EXISTS (SELECT o.id FROM users o)` only. -/
theorem ofStatements_pruned_ordersWithLines :
    let users : Query := ⟨[], .select
      ⟨[.column ⟨["o", "id"]⟩], none, [⟨.table ⟨["users"]⟩ (some "o"), []⟩], none, [], none⟩, []⟩
    let script := [ordersWithLines (.subquery users)]
    let reduced := [ordersWithLines .literal]
    List.Forall₂ Statement.PrunesTo script reduced ∧
      CollectedIn (ofStatements ⟨.procedure, 1⟩ reduced) (ofStatements ⟨.procedure, 1⟩ script) ∧
      (ofStatements ⟨.procedure, 1⟩ script).joins = [⟨"orders", "id", "lines", "id"⟩] := by
  intro users script reduced
  have hselect : List.Forall₂ Statement.PrunesTo script reduced := by
    refine .cons (.query (.parts .nil (.select (.parts none ?_ ?_ (.some (.out users)) .nil .none)) .nil)) .nil
    · exact List.forall₂_same.2 fun e _ => .refl e
    · exact List.forall₂_same.2 fun j _ => .refl j
  exact ⟨hselect, ofStatements_pruned ⟨.procedure, 1⟩ hselect, by decide +kernel⟩

end ChangeImpact.Extraction
