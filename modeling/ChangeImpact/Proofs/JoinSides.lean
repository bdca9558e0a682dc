import ChangeImpact.Proofs.Bearer

/-!
# The tables of join conditions

A side of a join condition is a column with a qualifier, and the qualifier is replaced by what bears it.  If this is a
table, the side is the qualified name of a table that the script names; a derived table, a call, rows, a temporary table
and a common table expression have no such name, and the condition is left out.  A qualifier that nothing bears is kept
as it was written: these are the two cases of `JoinSide`, and there is no third (`joinSides_of_mem_joins`).
-/

namespace ChangeImpact.Extraction

open Sql Text

variable {ss : List Statement} {above : List Part} {p : Part} {t : Name}

/-! ### The tables that a script names -/

/-- The table that a part names: in a `FROM`, `JOIN` or `USING` clause or as the target of a statement that writes. -/
def Part.tables : Part → List Name
  | .source (.table name _) => [name]
  | .statement (.insert insert) => [insert.target]
  | .statement (.update update) => [update.target]
  | .statement (.delete delete) => [delete.target]
  | .statement (.merge merge) => [merge.target]
  | .statement (.truncate target) => [target]
  | _ => []

def tablesOf (ss : List Statement) : List Name :=
  (placesOf ss).flatMap (·.part.tables)

theorem mem_tablesOf (h : ⟨above, p⟩ ∈ placesOf ss) (ht : t ∈ p.tables) : t ∈ tablesOf ss :=
  List.mem_flatMap.2 ⟨_, h, ht⟩

/-- The items that a part puts into the clause around it. -/
def Part.itemsAround : Part → List Item
  | .source s => sourceItems s
  | _ => []

theorem joinedItems_eq (j : Joined) : joinedItems j = (joinedParts j).flatMap Part.itemsAround := by
  obtain ⟨first, joins⟩ := j
  rw [joinedItems, joinedParts, List.flatMap_cons]
  refine congrArg (sourceItems first ++ ·) ?_
  induction joins with
  | nil => rfl
  | cons join joins ih =>
    obtain ⟨source, on⟩ := join
    rw [joinsItems, ih]
    cases on <;> simp [Part.itemsAround]

theorem flatMap_joinedItems_eq (js : List Joined) :
    js.flatMap joinedItems = (js.flatMap joinedParts).flatMap Part.itemsAround := by
  rw [List.flatMap_assoc]
  exact List.flatMap_congr fun j _ => joinedItems_eq j

/-- The items of a part come from the sources in it, apart from the target of a `MERGE`. -/
theorem Part.exists_of_mem_items {item : Item} (h : item ∈ p.items) :
    (∃ q ∈ p.parts, item ∈ q.itemsAround) ∨
      ∃ merge, p = .statement (.merge merge) ∧ item.table? = some merge.target := by
  have hclause {js : List Joined} (hparts : ∀ q ∈ js.flatMap joinedParts, q ∈ p.parts)
      (h : item ∈ js.flatMap joinedItems) : ∃ q ∈ p.parts, item ∈ q.itemsAround := by
    rw [flatMap_joinedItems_eq] at h
    obtain ⟨q, hq, hitem⟩ := List.mem_flatMap.1 h
    exact ⟨q, hparts q hq, hitem⟩
  cases p with
  | statement s =>
    cases s with
    | update update =>
      exact .inl (hclause (fun q hq => List.mem_append_left _ (List.mem_append_left _ hq)) h)
    | delete delete => exact .inl (hclause (fun q hq => List.mem_append_left _ hq) h)
    | merge merge =>
      rcases List.mem_cons.1 h with rfl | h
      · exact .inr ⟨merge, rfl, rfl⟩
      · exact .inl ⟨_, List.mem_cons_self, h⟩
    | _ => cases h
  | select b =>
    refine .inl (hclause (fun q hq => ?_) h)
    simp only [parts, List.mem_append, hq, true_or]
  | _ => cases h

theorem mem_tablesOf_of_mem_itemsAround {item : Item} (hp : ⟨above, p⟩ ∈ placesOf ss) (hitem : item ∈ p.itemsAround)
    (ht : item.table? = some t) : t ∈ tablesOf ss := by
  induction p using Part.induction generalizing above with
  | step p ih =>
    cases p with
    | source s =>
      cases s with
      | table name calledAs =>
        rw [Part.itemsAround, sourceItems, List.mem_singleton] at hitem
        subst hitem
        exact mem_tablesOf hp (List.mem_singleton.2 (Option.some.inj ht).symm)
      | joined inner =>
        rw [Part.itemsAround, sourceItems, joinedItems_eq] at hitem
        obtain ⟨q, hq, hitem⟩ := List.mem_flatMap.1 hitem
        exact ih q hq (mem_placesOf_cons.2 ⟨hp, hq⟩) hitem
      | _ =>
        rw [Part.itemsAround, sourceItems, List.mem_singleton] at hitem
        subst hitem
        cases ht
    | _ => cases hitem

/-- An item that is a table names it in the script. -/
theorem mem_tablesOf_of_mem_items {item : Item} (hp : ⟨above, p⟩ ∈ placesOf ss) (hitem : item ∈ p.items)
    (ht : item.table? = some t) : t ∈ tablesOf ss := by
  rcases Part.exists_of_mem_items hitem with ⟨q, hq, hitem⟩ | ⟨merge, rfl, htarget⟩
  · exact mem_tablesOf_of_mem_itemsAround (mem_placesOf_cons.2 ⟨hp, hq⟩) hitem ht
  · exact mem_tablesOf hp (List.mem_singleton.2 (Option.some.inj (ht.symm.trans htarget)))

/-! ### Qualifiers -/

/-- What bears a qualifier, which is looked up as a whole and then by its last part. -/
def qualifierBearer? (around : List Part) (qualifier : List String) : Option Bearer :=
  (bearer? around (Name.joinPresent qualifier)).or (bearer? around (qualifier.getLast?.getD ""))

theorem exists_mem_items_of_qualifierBearer? {around : List Part} {qualifier : List String} {item : Item}
    (h : qualifierBearer? above qualifier = some (.ofItem item around)) : ∃ q ∈ above, item ∈ q.items := by
  rcases Option.or_eq_some_iff.1 h with h | ⟨_, h⟩
  · exact exists_mem_items_of_bearer? h
  · exact exists_mem_items_of_bearer? h

/-- A side belongs to the table that bears its qualifier, or to the last part of a qualifier that nothing bears. -/
theorem sideTable_contextIn (above : List Part) (column : Name) :
    sideTable (contextIn above).scope column =
      if column.qualifier.isEmpty then none
      else
        match qualifierBearer? above column.qualifier with
        | some b => b.table?.map Name.qualified
        | none => column.qualifier.getLast?.filter (!·.isEmpty) := by
  unfold sideTable
  split
  · rfl
  · rename_i hqualifier
    have hfound : ((contextIn above).scope.find? (Name.joinPresent column.qualifier)).or
        ((contextIn above).scope.find? (column.qualifier.getLast?.getD "")) =
          (qualifierBearer? above column.qualifier).map Bearer.binding := by
      rw [find?_contextIn_eq, find?_contextIn_eq, qualifierBearer?, Option.map_or]
    rw [Scope.qualifier, hfound]
    cases qualifierBearer? above column.qualifier with
    | some b =>
      refine Eq.trans ?_ b.map_qualified_table?.symm
      rw [Option.map_some]
      cases b.binding <;> rfl
    | none =>
      have hsome : column.qualifier.getLast? ≠ none := by simpa using hqualifier
      obtain ⟨part, hpart⟩ := Option.ne_none_iff_exists'.1 hsome
      rw [hpart]
      by_cases hempty : part = "" <;> simp [hempty, Option.filter_some]

/-- The table of a side of a join condition, for a column with a qualifier. -/
inductive JoinSide (ss : List Statement) (above : List Part) (column : Name) : String → Prop
  /-- The qualifier is borne by a table of the script, which is not temporary, and no common table expression unless
  something hides the declaration. -/
  | table {item around t} (hbearer : qualifierBearer? above column.qualifier = some (.ofItem item around))
      (hitem : item.table? = some t) (hmem : t ∈ tablesOf ss) (htemp : t.isTemporary = false)
      (hcte : t.isBare → Unshadowed around t.base → ∀ q ∈ around, ¬ q.declares t.base) :
      JoinSide ss above column t.qualified
  /-- Nothing bears the qualifier. -/
  | unbound {part} (hbearer : qualifierBearer? above column.qualifier = none)
      (hpart : column.qualifier.getLast? = some part) (hname : part ≠ "") : JoinSide ss above column part

theorem joinSide_of_sideTable {column : Name} {text : String} (hp : ⟨above, p⟩ ∈ placesOf ss)
    (h : sideTable (contextIn above).scope column = some text) : JoinSide ss above column text := by
  rw [sideTable_contextIn] at h
  obtain ⟨_, h⟩ := Option.ite_none_left_eq_some.1 h
  cases hbearer : qualifierBearer? above column.qualifier with
  | none =>
    rw [hbearer] at h
    obtain ⟨hpart, hname⟩ := Option.filter_eq_some_iff.1 h
    exact .unbound hbearer hpart (by simpa using hname)
  | some b =>
    rw [hbearer] at h
    obtain ⟨t, ht, rfl⟩ := Option.map_eq_some_iff.1 h
    cases b with
    | cte => cases ht
    | ofItem item around =>
      obtain ⟨hitem, htemp, hcte⟩ := Bearer.table?_ofItem.1 ht
      obtain ⟨q, hq, hmem⟩ := exists_mem_items_of_qualifierBearer? hbearer
      obtain ⟨rest, hplace⟩ := exists_mem_placesOf hp (List.mem_cons_of_mem _ hq)
      have hnamed : t ∈ tablesOf ss := mem_tablesOf_of_mem_items hplace hmem hitem
      refine .table hbearer hitem hnamed htemp fun hbare hshadow q hq hdeclares => ?_
      exact hcte hbare ((hshadow.find?_eq_cte_iff htemp).2 ⟨q, hq, hdeclares⟩)

/-! ### Join conditions -/

/-- The part is an equality of two columns. -/
def Part.Equates (p : Part) (left right : Name) : Prop :=
  p = .on (.binary (.column left) .equals (.column right)) ∨ p = .expr (.binary (.column left) .equals (.column right))

theorem exists_of_mem_exprOwn {ctx : Context} {e : Expr} {j : JoinCondition} (h : .joins j ∈ exprOwn ctx e) :
    ∃ left right, e = .binary (.column left) .equals (.column right) ∧ .joins j ∈ joinFindings ctx left right := by
  cases e with
  | binary left op right =>
    rw [exprOwn] at h
    unfold equalityFindings at h
    split at h
    · rename_i left right
      exact ⟨left, right, rfl, (List.mem_ite_nil_right.1 h).2⟩
    · cases h
  | column name => simp [exprOwn, columnFindings] at h
  | call name args => simp [exprOwn, functionFindings] at h
  | _ => cases h

/-- Only an equality of two columns says that they are joined. -/
theorem Part.exists_of_mem_own {ctx : Context} {j : JoinCondition} (h : .joins j ∈ p.own ctx) :
    ∃ left right, p.Equates left right ∧ .joins j ∈ joinFindings ctx left right := by
  cases p with
  | statement s => cases s <;> simp [own, statementOwn, writeFindings] at h
  | exec c => simp [own, calleeFindings] at h
  | select b => simp [own, writeFindings] at h
  | source s => cases s <;> simp [own, sourceOwn, tableFindings, tableFunctionFindings] at h
  | on e =>
    obtain ⟨left, right, rfl, hjoin⟩ := exists_of_mem_exprOwn h
    exact ⟨left, right, .inl rfl, hjoin⟩
  | expr e =>
    obtain ⟨left, right, rfl, hjoin⟩ := exists_of_mem_exprOwn h
    exact ⟨left, right, .inr rfl, hjoin⟩
  | _ => cases h

theorem Part.Equates.scope_contextIn {left right : Name} (h : p.Equates left right) (above : List Part) :
    (contextIn (p :: above)).scope = (contextIn above).scope := by
  rcases h with rfl | rfl <;> exact List.nil_append _

theorem sideTable_of_mem_joinFindings {ctx : Context} {left right : Name} {j : JoinCondition}
    (h : .joins j ∈ joinFindings ctx left right) :
    sideTable ctx.scope left = some j.leftTable ∧ j.leftColumn = left.base ∧
      sideTable ctx.scope right = some j.rightTable ∧ j.rightColumn = right.base := by
  unfold joinFindings at h
  split at h
  · rename_i leftTable rightTable hleft hright
    rw [List.mem_singleton] at h
    cases h
    exact ⟨hleft, rfl, hright, rfl⟩
  · cases h

/-- Every join condition of a script comes from an equality of two columns in it, and both sides are tables of the
script or qualifiers that nothing bears. -/
theorem joinSides_of_mem_joins (owner : Entity) (ss : List Statement) {j : JoinCondition}
    (h : j ∈ (ofStatements owner ss).joins) :
    ∃ above p left right, ⟨above, p⟩ ∈ placesOf ss ∧ p.Equates left right ∧
      j.leftColumn = left.base ∧ JoinSide ss above left j.leftTable ∧
        j.rightColumn = right.base ∧ JoinSide ss above right j.rightTable := by
  obtain ⟨f, hf, hj⟩ := List.mem_filterMap.1 (mem_of_mem_distinctBy h)
  cases f with
  | joins condition =>
    cases hj
    obtain ⟨⟨above, p⟩, hplace, hown⟩ := mem_statementsFindings.1 hf
    obtain ⟨left, right, hequates, hjoin⟩ := Part.exists_of_mem_own hown
    obtain ⟨hleft, hleftColumn, hright, hrightColumn⟩ := sideTable_of_mem_joinFindings hjoin
    rw [hequates.scope_contextIn above] at hleft hright
    exact ⟨above, p, left, right, hplace, hequates, hleftColumn, joinSide_of_sideTable hplace hleft, hrightColumn,
      joinSide_of_sideTable hplace hright⟩
  | uses kind name usage => cases hj
  | column reference => cases hj

/-- `SELECT 1 FROM dbo.Orders o JOIN dbo.Customers c ON left = c.Id` -/
def ordersOfCustomers (left : Name) : Statement :=
  let orders : Source := .table ⟨["dbo", "Orders"]⟩ (some "o")
  let customers : Source := .table ⟨["dbo", "Customers"]⟩ (some "c")
  let on : Expr := .binary (.column left) .equals (.column ⟨["c", "Id"]⟩)
  .query ⟨[], .select ⟨[.literal], none, [⟨orders, [⟨customers, some on⟩]⟩], none, [], none⟩, []⟩

theorem joinSides_ordersOfCustomers :
    let ss := [ordersOfCustomers ⟨["o", "CustomerId"]⟩]
    let j : JoinCondition := ⟨"dbo.Orders", "CustomerId", "dbo.Customers", "Id"⟩
    j ∈ (ofStatements ⟨.procedure, 1⟩ ss).joins ∧
      ∃ above p left right, ⟨above, p⟩ ∈ placesOf ss ∧ p.Equates left right ∧
        j.leftColumn = left.base ∧ JoinSide ss above left j.leftTable ∧
          j.rightColumn = right.base ∧ JoinSide ss above right j.rightTable := by
  intro ss j
  have hj : j ∈ (ofStatements ⟨.procedure, 1⟩ ss).joins := by decide +kernel
  exact ⟨hj, joinSides_of_mem_joins ⟨.procedure, 1⟩ ss hj⟩

/-- Where nothing bears a qualifier, a side is not the name of a table. -/
theorem joinSides_ordersOfUnbound :
    let ss := [ordersOfCustomers ⟨["x", "Id"]⟩]
    ¬ ∀ j ∈ (ofStatements ⟨.procedure, 1⟩ ss).joins,
      (∃ t ∈ tablesOf ss, t.isTemporary = false ∧ j.leftTable = t.qualified) ∧
        ∃ t ∈ tablesOf ss, t.isTemporary = false ∧ j.rightTable = t.qualified := by
  intro ss hall
  have hj : ⟨"x", "Id", "dbo.Customers", "Id"⟩ ∈ (ofStatements ⟨.procedure, 1⟩ ss).joins := by decide +kernel
  obtain ⟨⟨t, ht, _, heq⟩, _⟩ := hall _ hj
  have hne : ∀ t ∈ tablesOf ss, "x" ≠ t.qualified := by decide +kernel
  exact hne t ht heq

end ChangeImpact.Extraction
