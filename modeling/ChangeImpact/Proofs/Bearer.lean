import ChangeImpact.Proofs.CteScope
import Mathlib.Data.List.Induction

/-!
# What a name stands for

A name stands for what the innermost part around it binds under this name.  Among the items of one clause the last one
with the alias counts, and where no item has the alias, the first table of the name (`Part.item?`).  So each lookup in a
scope finds a declaration or an item of the script, its bearer: `find?_contextIn_eq`.
-/

namespace ChangeImpact.Extraction

open Sql Text

/-- Without any item that has the alias, the bindings before go first, and then the first table of the name. -/
theorem Item.find?_foldl (outer frame : Scope) (items : List Item) (name : String) :
    (items.foldl (bind outer) frame).find? name =
      ((items.reverse.find? (·.isCalled name)).map (binding outer)).or
        ((frame.find? name).or ((items.find? (·.isNamed name)).map (binding outer))) := by
  induction items using List.reverseRecOn with
  | nil => simp
  | append_singleton items item ih =>
    rw [List.foldl_append, List.foldl_cons, List.foldl_nil, find?_bind, ih, List.reverse_append, List.reverse_singleton,
      List.singleton_append, List.find?_cons, List.find?_append, List.find?_singleton]
    cases item.isCalled name with
    | true => rfl
    | false =>
      simp only [Bool.false_eq_true, if_false, Option.or_assoc, Option.map_or]
      cases item.isNamed name <;> rfl

/-- The item of a part that goes by the name: the last one with the alias, else the first table of the name. -/
def Part.item? (p : Part) (name : String) : Option Item :=
  (p.items.reverse.find? (·.isCalled name)).or (p.items.find? (·.isNamed name))

theorem Part.find?_frame (p : Part) (outer : Scope) (name : String) :
    (p.frame outer).find? name =
      if p.declares name then some .cte else (p.item? name).map (Item.binding outer) := by
  rw [p.frame_eq]
  by_cases hdeclares : p.declares name
  · rw [p.items_eq_nil_of_declares hdeclares, List.foldl_nil, p.find?_cteFrame_ctes, if_pos hdeclares,
      if_pos hdeclares]
  · rw [Item.find?_foldl, p.find?_cteFrame_ctes, if_neg hdeclares, if_neg hdeclares, Option.none_or, item?,
      Option.map_or]

/-! ### Bearers of a name -/

/-- What goes by a name. -/
inductive Bearer where
  /-- A common table expression that is declared around. -/
  | cte
  /-- An item of a clause, with the parts around this clause. -/
  | ofItem (item : Item) (around : List Part)

/-- The innermost bearer of a name within nested parts. -/
def bearer? : List Part → String → Option Bearer
  | [], _ => none
  | p :: around, name =>
    if p.declares name then some .cte else ((p.item? name).map (.ofItem · around)).or (bearer? around name)

namespace Bearer

/-- What the bearer stands for. -/
def binding : Bearer → Binding
  | .cte => .cte
  | .ofItem item around => item.binding (contextIn around).scope

/-- The table of the catalog that the bearer is: an item that is neither temporary nor a common table expression. -/
def table? : Bearer → Option Name
  | .cte => none
  | .ofItem item around => item.table?.filter fun t =>
      !t.isTemporary && !(t.isBare && (contextIn around).scope.find? t.base == some .cte)

end Bearer

variable {above : List Part} {name : String} {b : Bearer} {t : Name}

/-- A name stands for what its innermost bearer stands for. -/
theorem find?_contextIn_eq (above : List Part) (name : String) :
    (contextIn above).scope.find? name = (bearer? above name).map Bearer.binding := by
  induction above with
  | nil => rfl
  | cons p above ih =>
    rw [find?_contextIn_cons, p.find?_frame, bearer?, ih]
    by_cases hdeclares : p.declares name
    · rw [if_pos hdeclares, if_pos hdeclares, Option.some_or, Option.map_some, Bearer.binding]
    · rw [if_neg hdeclares, if_neg hdeclares, Option.map_or, Option.map_map]
      rfl

theorem tableBinding_eq_table {outer : Scope} :
    tableBinding outer t = .table name ↔
      t.isTemporary = false ∧ (t.isBare → outer.find? t.base ≠ some .cte) ∧ t.qualified = name := by
  unfold tableBinding
  split
  · rename_i htemp
    simp [htemp]
  · rename_i htemp
    split
    · rename_i hcte
      obtain ⟨hbare, hcte⟩ := Bool.and_eq_true_iff.1 hcte
      simp [hbare, eq_of_beq hcte]
    · rename_i hcte
      have hcte : t.isBare → outer.find? t.base ≠ some .cte := by simpa using hcte
      simpa [htemp] using fun _ => hcte

theorem Bearer.table?_ofItem {item : Item} {around : List Part} :
    (ofItem item around).table? = some t ↔
      item.table? = some t ∧ t.isTemporary = false ∧
        (t.isBare → (contextIn around).scope.find? t.base ≠ some .cte) := by
  have hcte : (!(t.isBare && (contextIn around).scope.find? t.base == some .cte)) = true ↔
      (t.isBare → (contextIn around).scope.find? t.base ≠ some .cte) := by
    cases t.isBare <;> simp
  rw [table?, Option.filter_eq_some_iff, Bool.and_eq_true_iff, hcte, Bool.not_eq_true']

theorem Bearer.binding_eq_table : b.binding = .table name ↔ ∃ t, b.table? = some t ∧ t.qualified = name := by
  cases b with
  | cte => simp [binding, table?]
  | ofItem item around =>
    simp only [table?_ofItem, binding, Item.binding]
    cases item.table? with
    | none => simp
    | some t => simp [tableBinding_eq_table, and_assoc]

theorem Bearer.map_qualified_table? (b : Bearer) :
    b.table?.map Name.qualified = match b.binding with
      | .table name => some name
      | _ => none := by
  cases htable : b.table? with
  | some t => rw [binding_eq_table.2 ⟨t, htable, rfl⟩, Option.map_some]
  | none =>
    cases hbinding : b.binding with
    | table name =>
      obtain ⟨t, ht, _⟩ := binding_eq_table.1 hbinding
      rw [htable] at ht
      cases ht
    | derived => rfl
    | cte => rfl

/-- An item that bears a name belongs to one of the parts. -/
theorem exists_mem_items_of_bearer? {item : Item} {around : List Part}
    (h : bearer? above name = some (.ofItem item around)) : ∃ q ∈ above, item ∈ q.items := by
  induction above with
  | nil => cases h
  | cons p above ih =>
    rw [bearer?] at h
    by_cases hdeclares : p.declares name
    · rw [if_pos hdeclares] at h
      cases h
    · rw [if_neg hdeclares] at h
      rcases Option.or_eq_some_iff.1 h with h | ⟨_, h⟩
      · obtain ⟨other, hother, heq⟩ := Option.map_eq_some_iff.1 h
        obtain ⟨rfl, rfl⟩ := Bearer.ofItem.inj heq
        refine ⟨p, List.mem_cons_self, ?_⟩
        rcases Option.or_eq_some_iff.1 hother with hother | ⟨_, hother⟩
        · exact List.mem_reverse.1 (List.mem_of_find?_eq_some hother)
        · exact List.mem_of_find?_eq_some hother
      · obtain ⟨q, hq, hitem⟩ := ih h
        exact ⟨q, List.mem_cons_of_mem _ hq, hitem⟩

end ChangeImpact.Extraction
