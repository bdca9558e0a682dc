import ChangeImpact.Proofs.Nesting.Expr
import ChangeImpact.Sql.Grammar.Query

/-!
# The nesting of queries

Sources with their joins, `SELECT` blocks, and whole queries, which are nested four levels more deeply than what stands
inside of them.  The operands of a set operation are a row.
-/

namespace ChangeImpact.Sql

open ChangeImpact.Extraction

/-- Everything in a source and those joined to it. -/
abbrev NestedJoined (n : Nat) (j : Joined) : Prop :=
  ∀ q ∈ joinedParts j, q.nesting ≤ n

abbrev NestedBody (n : Nat) (b : QueryBody) : Prop :=
  (Part.body b).nesting ≤ n

variable {n : Nat}

theorem nesting_optional_le {e? : Option Expr} (h : ∀ e ∈ e?, NestedExpr n e) :
    ∀ q ∈ e?.toList.map Part.expr, q.nesting ≤ n :=
  List.forall_mem_map.2 fun e he => h e (Option.mem_toList.1 he)

theorem nesting_sources_le {js : List Joined} (h : ∀ j ∈ js, NestedJoined n j) :
    ∀ q ∈ js.flatMap joinedParts, q.nesting ≤ n := by
  intro q hq
  obtain ⟨j, hj, hq⟩ := List.mem_flatMap.1 hq
  exact h j hj q hq

theorem NestedJoined.of_joins {first : Source} {joins : List Join} (hfirst : NestedSource n first)
    (hjoins : ∀ join ∈ joins, NestedSource n join.source ∧ ∀ e ∈ join.on, NestedExpr n e) :
    NestedJoined n ⟨first, joins⟩ := by
  refine List.forall_mem_cons.2 ⟨hfirst, fun q hq => ?_⟩
  obtain ⟨join, hjoin, hq⟩ := List.mem_flatMap.1 hq
  obtain ⟨hsource, hon⟩ := hjoins join hjoin
  rcases List.mem_cons.1 hq with rfl | hq
  · exact hsource
  · obtain ⟨e, he, rfl⟩ := List.mem_map.1 hq
    rw [Part.nesting_on]
    exact hon e (Option.mem_toList.1 he)

theorem nesting_select_le {b : Select} (hcolumns : ∀ e ∈ b.columns, NestedExpr n e)
    (hsources : ∀ j ∈ b.sources, NestedJoined n j) (hfilter : ∀ e ∈ b.filter, NestedExpr n e)
    (hgroupBy : ∀ e ∈ b.groupBy, NestedExpr n e) (hhaving : ∀ e ∈ b.having, NestedExpr n e) :
    (Part.select b).nesting ≤ n + 1 := by
  refine Part.nesting_le_succ ?_
  simp only [Part.parts, List.forall_mem_append]
  exact ⟨⟨⟨⟨nesting_sources_le hsources, List.forall_mem_map.2 hcolumns⟩, nesting_optional_le hfilter⟩,
    List.forall_mem_map.2 hgroupBy⟩, nesting_optional_le hhaving⟩

theorem NestedQuery.of_parts {ctes : List Cte} {body : QueryBody} {orderBy : List Expr}
    (hctes : ∀ cte ∈ ctes, NestedQuery n cte.query) (hbody : NestedBody n body)
    (horderBy : ∀ e ∈ orderBy, NestedExpr n e) :
    NestedQuery (n + 1) ⟨ctes, body, orderBy⟩ := by
  refine Part.nesting_le_succ ?_
  simp only [Part.parts, List.forall_mem_append, List.forall_mem_cons]
  exact ⟨List.forall_mem_map.2 hctes, hbody, List.forall_mem_map.2 horderBy⟩

namespace Grammar.NestsWithin

open ChangeImpact.Sql.Parser

variable {inner : Grammar} (h : inner.NestsWithin n)

include h

/-! ### Sources -/

theorem valueRows : (valueRows inner).Yields fun cells => ∀ e ∈ cells, NestedExpr n e := by
  refine .bind (P := fun rows => ∀ cells ∈ rows, ∀ e ∈ cells, NestedExpr n e) (.commaSeparated ?_) fun rows hrows => ?_
  · exact .after fun _ => .bind h.exprList fun _ hcells => .after fun _ => .ret hcells
  · refine .ret fun e he => ?_
    obtain ⟨cells, hcells, he⟩ := List.mem_flatten.1 he
    exact hrows cells hcells e he

theorem joined : (joined inner).Yields (NestedJoined n) := by
  refine .bind h.source fun first hfirst => ?_
  refine .bind (P := fun joins => ∀ join ∈ joins, NestedSource n join.source ∧ ∀ e ∈ join.on, NestedExpr n e)
    (.loop (fun joins hasPredicate hjoins => ?_) (List.forall_mem_nil _))
    fun joins hjoins => .ret (.of_joins hfirst hjoins)
  refine .bind h.source fun source hsource => .ite ?_ (.ret ?_)
  · refine .after fun _ => .bind h.expr fun on hon => .ret ?_
    refine List.forall_mem_append.2 ⟨hjoins, List.forall_mem_singleton.2 ⟨hsource, fun e he => ?_⟩⟩
    exact Option.mem_some.1 he ▸ hon
  · exact List.forall_mem_append.2 ⟨hjoins, List.forall_mem_singleton.2 ⟨hsource, fun e he => nomatch he⟩⟩

theorem sourceList : (sourceList inner).Yields fun js => ∀ j ∈ js, NestedJoined n j :=
  .commaSeparated h.joined

theorem fromClause : (fromClause inner).Yields fun js => ∀ j ∈ js, NestedJoined n j :=
  .ifAny h.sourceList .nil

theorem groupedSource : (groupedSource inner).Yields (NestedSource (n + 1)) := by
  refine .ifAny ?_ (.ifAny ?_ ?_)
  · refine .bind h.query fun query hquery => .after fun _ => .after fun _ => .after fun _ => .after fun _ => .ret ?_
    exact Part.nesting_le_succ (List.forall_mem_singleton.2 hquery)
  · refine .bind h.valueRows fun cells hcells => .after fun _ => .after fun _ => .after fun _ => .ret ?_
    exact Part.nesting_le_succ (List.forall_mem_map.2 hcells)
  · exact .bind h.joined fun joined hjoined => .after fun _ => .ret (Part.nesting_le_succ hjoined)

theorem namedSource : (namedSource inner).Yields (NestedSource (n + 1)) := by
  have htable {name : Name} : Parser.Yields (do
      let calledAs ← aliasName
      skipTableHints
      skipPivot
      return .table name calledAs : Parser Source) (NestedSource (n + 1)) :=
    .after fun _ => .after fun _ => .after fun _ => .ret (Part.nesting_le_succ (List.forall_mem_nil _))
  refine .after fun name => .ifAny ?_ (.after fun _ => .ifAny (.after fun _ => .after fun _ => htable) htable)
  refine .bind h.callArgs fun args hargs => .after fun _ => .after fun _ => .ret ?_
  exact Part.nesting_le_succ (List.forall_mem_map.2 hargs)

theorem anySource : (anySource inner).Yields (NestedSource (n + 1)) :=
  .ifAny h.groupedSource h.namedSource

/-! ### Blocks -/

theorem whereClause : (whereClause inner).Yields fun e? => ∀ e ∈ e?, NestedExpr n e :=
  .ifAny (.ifAny (.after fun _ => .after fun _ => .none) (.some h.expr)) .none

theorem groupByClause : (groupByClause inner).Yields fun es => ∀ e ∈ es, NestedExpr n e :=
  .ifAny (.after fun _ => .bind h.exprList fun _ hexprs => .after fun _ => .ret hexprs) .nil

theorem selectBlock : (selectBlock inner).Yields fun b => (Part.select b).nesting ≤ n + 1 := by
  have hcolumn : Parser.Yields (do
      let column ← inner.expr
      discard aliasName
      return column : Parser Expr) (NestedExpr n) :=
    .bind h.expr fun _ hcolumn => .after fun _ => .ret hcolumn
  refine .after fun _ => .after fun _ => .after fun _ => .bind (.commaSeparated hcolumn) fun columns hcolumns => ?_
  suffices hrest : ∀ into, Parser.Yields (do
      let sources ← Grammar.fromClause inner
      let filter ← Grammar.whereClause inner
      let groupBy ← Grammar.groupByClause inner
      let having ← if ← acceptKeyword "HAVING" then some <$> inner.expr else pure none
      return ⟨columns, into, sources, filter, groupBy, having⟩ : Parser Select)
        fun b => (Part.select b).nesting ≤ n + 1 from
    .ifAny (.after hrest) (.after hrest)
  intro into
  refine .bind h.fromClause fun sources hsources => .bind h.whereClause fun filter hfilter => ?_
  refine .bind h.groupByClause fun groupBy hgroupBy => .ifAny_bind (.some h.expr) .none fun having hhaving => .ret ?_
  exact nesting_select_le hcolumns hsources hfilter hgroupBy hhaving

/-! ### Whole queries -/

theorem ctes : (ctes inner).Yields fun ctes => ∀ cte ∈ ctes, NestedQuery n cte.query := by
  refine .after fun _ => .commaSeparated (.after fun _ => .after fun _ => .after fun _ => .after fun _ => ?_)
  exact .bind h.query fun _ hquery => .after fun _ => .ret hquery

theorem queryOperand : (queryOperand inner).Yields (NestedBody (n + 2)) := by
  have hnested {query : Query} (hquery : NestedQuery n query) : NestedBody (n + 2) (.nested query) :=
    Part.nesting_le_succ (List.forall_mem_singleton.2 (Nat.le_succ_of_le hquery))
  refine .ifAny (.bind h.query fun query hquery => .after fun _ => .ret (hnested hquery)) (.ifAny ?_ (.fail _))
  exact .bind h.selectBlock fun block hblock => .ret (Part.nesting_le_succ (List.forall_mem_singleton.2 hblock))

/-- A row of operands has one level more than each of them. -/
theorem queryBody : (queryBody inner).Yields (NestedBody (n + 3)) := by
  refine .bind h.queryOperand fun first hfirst => .loop (fun left _ hleft => ?_) (Nat.le_succ_of_le hfirst)
  refine .bind h.queryOperand fun right hright => .ret ?_
  exact Part.nesting_le_of_isRow rfl rfl hleft (List.forall_mem_singleton.2 hright)

theorem orderByClause : (orderByClause inner).Yields fun es => ∀ e ∈ es, NestedExpr n e :=
  .ifAny (.commaSeparated (.bind h.expr fun _ hexpr => .after fun _ => .ret hexpr)) .nil

theorem fullQuery : (fullQuery inner).Yields (NestedQuery (n + 4)) := by
  refine .ifAny_bind h.ctes .nil fun ctes hctes => .bind h.queryBody fun body hbody => ?_
  refine .bind h.orderByClause fun orderBy horderBy => .after fun _ => .after fun _ => .after fun _ => .ret ?_
  refine .of_parts (fun cte hcte => ?_) hbody fun e he => ?_
  · exact Nat.le_trans (hctes cte hcte) (by omega)
  · exact Nat.le_trans (horderBy e he) (by omega)

end Grammar.NestsWithin

end ChangeImpact.Sql
