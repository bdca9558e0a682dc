import ChangeImpact.Extraction
import Mathlib.Data.List.Basic

/-!
# Parts of a script

A script is a tree of statements, queries, sources and expressions.  `Part` has a constructor for each of these, and
`Part.parts` lists what stands directly inside of a part.  Inner parts are smaller (`allBelow_parts`), so what holds of
a part whenever it holds of the parts inside of it holds of all parts: `Part.induction`.
-/

namespace ChangeImpact.Extraction

open Sql

inductive Part where
  | statement (statement : Statement)
  /-- The call of a procedure, also as the source of an `INSERT`. -/
  | exec (call : Exec)
  | query (query : Query)
  | body (body : QueryBody)
  | select (block : Select)
  | source (source : Source)
  /-- An expression that is the predicate of a join or of a `MERGE`. -/
  | on (predicate : Expr)
  | expr (expr : Expr)

/-! ### What stands inside of a part -/

def joinedParts : Joined → List Part
  | ⟨first, joins⟩ => .source first :: joins.flatMap fun join => .source join.source :: join.on.toList.map .on

def assignmentParts (assignments : List Assignment) : List Part :=
  assignments.flatMap fun a => [.expr a.target, .expr a.value]

def mergeActionParts : MergeAction → List Part
  | .update assignments => assignmentParts assignments
  | .insert values => values.map .expr
  | .delete => []

def insertSourceParts : InsertSource → List Part
  | .rows cells => cells.map .expr
  | .query query => [.query query]
  | .exec call => [.exec call]
  | .dynamicSql => []
  | .defaults => []

def statementParts : Statement → List Part
  | .query query => [.query query]
  | .insert insert => insertSourceParts insert.source
  | .update update =>
    update.sources.flatMap joinedParts ++ assignmentParts update.assignments ++ update.filter.toList.map .expr
  | .delete delete => delete.sources.flatMap joinedParts ++ delete.filter.toList.map .expr
  | .merge merge =>
    .source merge.source :: .on merge.on :: merge.clauses.flatMap fun clause =>
      clause.condition.toList.map .expr ++ mergeActionParts clause.action
  | .truncate _ => []
  | .exec call => [.exec call]
  | .withCtes ctes body => ctes.map (.query ·.query) ++ [.statement body]
  | .block body => body.map .statement
  | .branch condition yes no => .expr condition :: .statement yes :: no.toList.map .statement
  | .loop condition body => [.expr condition, .statement body]
  | .routine _ _ body => body.map .statement
  | .evaluate exprs => exprs.map .expr
  | .dynamicSql => []

def exprParts : Expr → List Part
  | .column _ => []
  | .variable => []
  | .literal => []
  | .binary left _ right => [.expr left, .expr right]
  | .call _ args => args.map .expr
  | .subquery query => [.query query]
  | .group operands => operands.map .expr

def bodyParts : QueryBody → List Part
  | .select block => [.select block]
  | .nested query => [.query query]
  | .combine left right => [.body left, .body right]

def sourceParts : Source → List Part
  | .table _ _ => []
  | .call _ args _ => args.map .expr
  | .derived query _ => [.query query]
  | .rows cells _ => cells.map .expr
  | .joined inner => joinedParts inner

namespace Part

/-- The parts directly inside of a part, in the order of the text. -/
def parts : Part → List Part
  | .statement s => statementParts s
  | .exec c => c.args.map .expr
  | .query q => q.ctes.map (.query ·.query) ++ .body q.body :: q.orderBy.map .expr
  | .body b => bodyParts b
  | .select b =>
    b.sources.flatMap joinedParts ++ b.columns.map .expr ++ b.filter.toList.map .expr ++ b.groupBy.map .expr ++
      b.having.toList.map .expr
  | .source s => sourceParts s
  | .on e => exprParts e
  | .expr e => exprParts e

/-! ### Inner parts are smaller -/

/-- All parts of the list are smaller than the bound. -/
def AllBelow (n : Nat) (ps : List Part) : Prop :=
  ∀ q ∈ ps, sizeOf q < n

variable {α : Type} [SizeOf α] {n : Nat} {ps qs : List Part}

@[simp] theorem allBelow_nil : AllBelow n [] :=
  fun _ h => absurd h List.not_mem_nil

@[simp] theorem allBelow_cons {p : Part} : AllBelow n (p :: ps) ↔ sizeOf p < n ∧ AllBelow n ps :=
  List.forall_mem_cons

@[simp] theorem allBelow_append : AllBelow n (ps ++ qs) ↔ AllBelow n ps ∧ AllBelow n qs :=
  List.forall_mem_append

theorem AllBelow.mono {m : Nat} (h : AllBelow m ps) (hmn : m ≤ n) : AllBelow n ps :=
  fun q hq => Nat.lt_of_lt_of_le (h q hq) hmn

theorem AllBelow.flatMap {f : α → List Part} {as : List α} (hf : ∀ a, AllBelow (2 + sizeOf a) (f a))
    (h : sizeOf as < n) : AllBelow n (as.flatMap f) := by
  intro q hq
  obtain ⟨a, ha, hq⟩ := List.mem_flatMap.1 hq
  have hlt := List.sizeOf_lt_of_mem ha
  have hle := hf a q hq
  omega

theorem AllBelow.map {f : α → Part} {as : List α} (hf : ∀ a, sizeOf (f a) < 2 + sizeOf a) (h : sizeOf as < n) :
    AllBelow n (as.map f) := by
  rw [List.map_eq_flatMap]
  exact .flatMap (fun a => allBelow_cons.2 ⟨hf a, allBelow_nil⟩) h

theorem AllBelow.optional {f : α → Part} {a : Option α} (hf : ∀ a, sizeOf (f a) < 2 + sizeOf a) (h : sizeOf a < n) :
    AllBelow n (a.toList.map f) := by
  cases a with
  | none => exact allBelow_nil
  | some a =>
    have hlt := hf a
    rw [Option.some.sizeOf_spec] at h
    exact allBelow_cons.2 ⟨by omega, allBelow_nil⟩

private theorem allBelow_exprs {es : List Expr} (h : sizeOf es < n) : AllBelow n (es.map expr) :=
  .map (fun e => by simp) h

private theorem allBelow_optional {e : Option Expr} (h : sizeOf e < n) : AllBelow n (e.toList.map expr) :=
  .optional (fun e => by simp) h

private theorem allBelow_ctes {ctes : List Cte} (h : sizeOf ctes < n) : AllBelow n (ctes.map (query ·.query)) :=
  .map (fun cte => by cases cte; simp +arith) h

private theorem allBelow_statements {ss : List Statement} (h : sizeOf ss < n) : AllBelow n (ss.map statement) :=
  .map (fun s => by simp) h

private theorem allBelow_joinedParts {j : Joined} (h : sizeOf j + 1 < n) : AllBelow n (joinedParts j) := by
  obtain ⟨first, joins⟩ := j
  rw [Joined.mk.sizeOf_spec] at h
  refine allBelow_cons.2 ⟨by simp; omega, .flatMap (fun join => ?_) (by omega)⟩
  obtain ⟨s, e⟩ := join
  exact allBelow_cons.2 ⟨by simp +arith, .optional (fun e => by simp) (by simp +arith)⟩

private theorem allBelow_sources {js : List Joined} (h : sizeOf js < n) : AllBelow n (js.flatMap joinedParts) :=
  .flatMap (fun j => allBelow_joinedParts (by omega)) h

private theorem allBelow_assignmentParts {as : List Assignment} (h : sizeOf as < n) : AllBelow n (assignmentParts as) :=
  .flatMap (fun a => by cases a; simp +arith) h

private theorem allBelow_insertSourceParts (s : InsertSource) : AllBelow (1 + sizeOf s) (insertSourceParts s) := by
  cases s <;> simp +arith (disch := omega) [insertSourceParts, allBelow_exprs]

private theorem allBelow_mergeActionParts (a : MergeAction) : AllBelow (1 + sizeOf a) (mergeActionParts a) := by
  cases a <;> simp +arith (disch := omega) [mergeActionParts, allBelow_exprs, allBelow_assignmentParts]

private theorem allBelow_clauses {clauses : List MergeClause} (h : sizeOf clauses < n) :
    AllBelow n (clauses.flatMap fun clause =>
      clause.condition.toList.map expr ++ mergeActionParts clause.action) := by
  refine .flatMap (fun clause => ?_) h
  obtain ⟨condition, action⟩ := clause
  exact allBelow_append.2
    ⟨allBelow_optional (by simp +arith), (allBelow_mergeActionParts action).mono (by simp +arith)⟩

private theorem allBelow_statementParts (s : Statement) : AllBelow (1 + sizeOf s) (statementParts s) := by
  cases s with
  | insert insert =>
    obtain ⟨target, source⟩ := insert
    exact (allBelow_insertSourceParts source).mono (by simp +arith)
  | update update =>
    cases update
    simp +arith (disch := omega) [statementParts, allBelow_sources, allBelow_assignmentParts, allBelow_optional]
  | delete delete => cases delete; simp +arith (disch := omega) [statementParts, allBelow_sources, allBelow_optional]
  | merge merge => cases merge; simp +arith (disch := omega) [statementParts, allBelow_clauses]
  | branch condition yes no =>
    have hno : AllBelow (1 + sizeOf (Statement.branch condition yes no)) (no.toList.map statement) :=
      .optional (fun s => by simp) (by simp +arith)
    simp +arith [statementParts] at hno ⊢
    exact hno
  | _ => simp +arith (disch := omega) [statementParts, allBelow_exprs, allBelow_statements, allBelow_ctes]

private theorem allBelow_exprParts (e : Expr) : AllBelow (1 + sizeOf e) (exprParts e) := by
  cases e <;> simp +arith (disch := omega) [exprParts, allBelow_exprs]

theorem allBelow_parts (p : Part) : AllBelow (sizeOf p) p.parts := by
  cases p with
  | statement s => exact allBelow_statementParts s
  | exec c => cases c; simp +arith (disch := omega) [parts, allBelow_exprs]
  | query q => cases q; simp +arith (disch := omega) [parts, allBelow_ctes, allBelow_exprs]
  | body b => cases b <;> simp +arith [parts, bodyParts]
  | select b =>
    cases b
    simp +arith (disch := omega) [parts, allBelow_sources, allBelow_exprs, allBelow_optional]
  | source s => cases s <;> simp +arith (disch := omega) [parts, sourceParts, allBelow_exprs, allBelow_joinedParts]
  | on e => exact allBelow_exprParts e
  | expr e => exact allBelow_exprParts e

@[elab_as_elim]
theorem induction {motive : Part → Prop} (step : ∀ p, (∀ q ∈ p.parts, motive q) → motive p) (p : Part) : motive p :=
  step p fun q _ => induction step q
termination_by sizeOf p
decreasing_by exact allBelow_parts p q ‹_›

end Part

end ChangeImpact.Extraction
