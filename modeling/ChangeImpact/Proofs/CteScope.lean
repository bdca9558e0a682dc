import ChangeImpact.Proofs.Frame

/-!
# Common table expressions in scope

A bare name in a `FROM` clause refers to a common table expression when a `WITH` clause around it declares one of that
name.  But the names of common table expressions, aliases and the last names of tables are bound in the same scopes, so
the rule only holds while nothing shadows the name (`contribution_eq_nil_iff_declares`):

* where the name is declared, an alias of that name and a table with a qualifier and that last name, if they stand
  inside of the declaration, keep the name from what is declared (`contribution_besideNamesake`);
* where it is not declared, it may be an alias for a common table expression.

A table of the bare name itself shadows nothing, for it stands for what the name stands for outside of its clause.
-/

namespace ChangeImpact.Extraction

open Sql Text

/-- The item takes the name for something else than what the bare name stands for outside of the clause. -/
def Item.shadows (item : Item) (name : String) : Bool :=
  (item.isCalled name || item.isNamed name) && !item.table?.any fun t => t.isBare && sameAsciiCase t.base name

variable {outer frame : Scope} {items : List Item} {above : List Part} {t n : Name} {b : Binding}

/-- Without a shadow, items bind a name to a common table expression only if the scope around them does. -/
theorem eq_cte_of_find?_items (htemp : n.isTemporary = false) (hframe : frame.find? n.base = none)
    (hshadow : ∀ item ∈ items, ¬ item.shadows n.base)
    (h : (items.foldl (Item.bind outer) frame).find? n.base = some b) :
    b = .cte ↔ outer.find? n.base = some .cte := by
  rcases Item.exists_of_find?_foldl h with h | ⟨item, hitem, hbinds, rfl⟩
  · rw [hframe] at h
    cases h
  · -- what binds the name without shadowing it is a bare table of the name
    have hitem := hshadow item hitem
    simp only [Item.shadows, Bool.and_eq_true, Bool.or_eq_true, Bool.not_eq_true', not_and] at hitem
    have hbare : item.table?.any fun t => t.isBare && sameAsciiCase t.base n.base := by simpa using hitem hbinds
    obtain ⟨t, ht, hsame⟩ := (Option.any_eq_true _ _).1 hbare
    obtain ⟨hbare, hsame⟩ := Bool.and_eq_true_iff.1 hsame
    rw [Item.binding, ht, Option.map_some, Option.getD_some, tableBinding_eq_cte, Scope.find?_congr hsame]
    simp [Name.isTemporary_congr hsame, htemp, hbare]

/-- A name that is declared around a place and not shadowed inside of the declaration stands for what is declared. -/
theorem find?_contextIn_of_declares (htemp : n.isTemporary = false) (hdeclared : ∃ q ∈ above, q.declares n.base)
    (hshadow : ∀ q ∈ above.takeWhile (!·.declares n.base), ∀ item ∈ q.items, ¬ item.shadows n.base) :
    (contextIn above).scope.find? n.base = some .cte := by
  induction above with
  | nil => simp at hdeclared
  | cons p above ih =>
    rw [find?_contextIn_cons, p.frame_eq]
    by_cases hdeclares : p.declares n.base
    -- the innermost declaration, where there are no items that could bind the name otherwise
    · rw [p.items_eq_nil_of_declares hdeclares, List.foldl_nil, p.find?_cteFrame_ctes, if_pos hdeclares,
        Option.some_or]
    · rw [List.takeWhile_cons_of_pos (by simpa using hdeclares)] at hshadow
      have hframe : (cteFrame p.ctes).find? n.base = none := by rw [p.find?_cteFrame_ctes, if_neg hdeclares]
      have hitems := hshadow p List.mem_cons_self
      have houter := ih (by simpa [hdeclares] using hdeclared) fun q hq => hshadow q (List.mem_cons_of_mem _ hq)
      cases hfound : (p.items.foldl (Item.bind (contextIn above).scope) (cteFrame p.ctes)).find? n.base with
      | none => rw [Option.none_or, houter]
      | some b => rw [(eq_cte_of_find?_items htemp hframe hitems hfound).2 houter, Option.some_or]

/-- Nothing around a place keeps a name from what the declarations around the place make of it. -/
structure Unshadowed (above : List Part) (name : String) : Prop where
  /-- Where the name is declared, nothing inside of the innermost declaration takes it for something else. -/
  of_declared : (∃ q ∈ above, q.declares name) →
    ∀ q ∈ above.takeWhile (!·.declares name), ∀ item ∈ q.items, ¬ item.shadows name
  /-- Where it is not declared, it is no alias for another bare name. -/
  of_undeclared : (∀ q ∈ above, ¬ q.declares name) → ∀ q ∈ above, ∀ item ∈ q.items, ¬ item.renames name

theorem Unshadowed.find?_eq_cte_iff (h : Unshadowed above n.base) (htemp : n.isTemporary = false) :
    (contextIn above).scope.find? n.base = some .cte ↔ ∃ q ∈ above, q.declares n.base := by
  refine ⟨fun hcte => ?_, fun hdeclared => find?_contextIn_of_declares htemp hdeclared (h.of_declared hdeclared)⟩
  by_contra hundeclared
  have hundeclared : ∀ q ∈ above, ¬ q.declares n.base := fun q hq hq' => hundeclared ⟨q, hq, hq'⟩
  obtain ⟨q, hq, hdeclares | ⟨item, hitem, hrenames⟩⟩ := exists_of_find?_eq_cte hcte
  · exact hundeclared q hq hdeclares
  · exact h.of_undeclared hundeclared q hq item hitem hrenames

/-! ### References to common table expressions -/

/-- The findings of a script are those of its places, and a bare name in a `FROM` clause adds none exactly if a `WITH`
clause around it declares it, provided that nothing shadows it. -/
theorem contribution_eq_nil_iff_declares (ss : List Statement) :
    statementsFindings .initial ss = (placesOf ss).flatMap Place.contribution ∧
      ∀ above n calledAs, ⟨above, .source (.table n calledAs)⟩ ∈ placesOf ss → n.isBare → n.isTemporary = false →
        n.base ≠ "" → Unshadowed above n.base →
        (Place.contribution ⟨above, .source (.table n calledAs)⟩ = [] ↔ ∃ q ∈ above, q.declares n.base) := by
  refine ⟨statementsFindings_eq ss, fun above n calledAs _ hbare htemp hname hshadow => ?_⟩
  have hpresent : Scope.presentName n = some n.base := by
    rw [Scope.presentName, Name.qualified_of_isBare hbare, if_neg (by simpa using hname)]
  have hscope : (contextIn (.source (.table n calledAs) :: above)).scope = (contextIn above).scope := List.nil_append _
  rw [← hshadow.find?_eq_cte_iff htemp, Place.contribution, Part.own, sourceOwn, tableFindings, hscope,
    Scope.referenced, hpresent, htemp, hbare]
  by_cases hcte : (contextIn above).scope.find? n.base = some .cte <;> simp [hcte]

/-- `SELECT 1 FROM t JOIN c ON 1 = 1` -/
def joinedToC (t : Name) : Select :=
  ⟨[.literal], none, [⟨.table t none, [⟨.table ⟨["c"]⟩ none, some (.binary .literal .equals .literal)⟩]⟩], none, [],
    none⟩

/-- `WITH c AS (SELECT 1)` in front of a block -/
def declaringC (block : Select) : Query :=
  ⟨[⟨"c", ⟨[], .select ⟨[.literal], none, [], none, [], none⟩, []⟩⟩], .select block, []⟩

/-- The parts around the reference to `c`. -/
def aroundC (t : Name) : List Part :=
  let q := declaringC (joinedToC t)
  [.select (joinedToC t), .body q.body, .query q, .statement (.query q)]

theorem mem_placesOf_aroundC (t : Name) :
    ⟨aroundC t, .source (.table ⟨["c"]⟩ none)⟩ ∈ placesOf [.query (declaringC (joinedToC t))] := by
  simp [aroundC, mem_placesOf_cons, mem_placesOf_nil, Part.parts, statementParts, bodyParts, joinedParts, declaringC,
    joinedToC]

/-- Beside a table of another name, `c` is what is declared. -/
theorem contribution_besideOther :
    let t : Name := ⟨["dbo", "Orders"]⟩
    Unshadowed (aroundC t) "c" ∧ (∃ q ∈ aroundC t, q.declares "c") ∧
      Place.contribution ⟨aroundC t, .source (.table ⟨["c"]⟩ none)⟩ = [] := by
  intro t
  have hdeclared : ∃ q ∈ aroundC t, q.declares "c" := by decide +kernel
  have hshadow : Unshadowed (aroundC t) "c" := ⟨fun _ => by decide +kernel, fun _ => by decide +kernel⟩
  have hplace := mem_placesOf_aroundC t
  have hrule := (contribution_eq_nil_iff_declares [.query (declaringC (joinedToC t))]).2 _ _ _ hplace
  exact ⟨hshadow, hdeclared, (hrule (by decide) (by decide) (by decide) hshadow).2 hdeclared⟩

/-- Beside a table whose last name it is, `c` is taken for this table, though it is declared. -/
theorem contribution_besideNamesake :
    let t : Name := ⟨["dbo", "c"]⟩
    ¬ ∀ above n calledAs, ⟨above, .source (.table n calledAs)⟩ ∈ placesOf [.query (declaringC (joinedToC t))] →
      n.isBare → n.isTemporary = false → n.base ≠ "" →
        (Place.contribution ⟨above, .source (.table n calledAs)⟩ = [] ↔ ∃ q ∈ above, q.declares n.base) := by
  intro t hrule
  have hdeclared : ∃ q ∈ aroundC t, q.declares "c" := by decide +kernel
  have hplace := mem_placesOf_aroundC t
  have hnone := (hrule _ _ _ hplace (by decide) (by decide) (by decide)).2 hdeclared
  have hsome : Place.contribution ⟨aroundC t, .source (.table ⟨["c"]⟩ none)⟩ = [.uses .table "c" .select] := by
    decide +kernel
  exact absurd (hsome.symm.trans hnone) (List.cons_ne_nil _ _)

end ChangeImpact.Extraction
