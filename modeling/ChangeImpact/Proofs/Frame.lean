import ChangeImpact.Proofs.Place

/-!
# What the parts of a script bind

A `FROM` clause is a list of items, with the alias that each of them has.  A part of a script binds the names of its
common table expressions and then its items one after the other (`Part.frame_eq`), and what a name stands for is decided
by the innermost part that binds it (`find?_contextIn_cons`).

* `Item.find?_bind`: an alias counts whatever was bound before, the names of a table count if nothing was;
* `Item.exists_of_find?_foldl`: what a clause binds comes from one of its items;
* `exists_of_find?_eq_cte`: only the name of a common table expression and an alias for another name ever stand for one.
-/

namespace ChangeImpact.Extraction

open Sql Text

namespace Scope

variable {scope : Scope} {name other : String} {binding : Binding}

theorem find?_congr (h : sameAsciiCase name other) : scope.find? name = scope.find? other := by
  rw [find?, find?, sameAsciiCase_iff.1 h]

theorem find?_append (frame outer : Scope) :
    (frame ++ outer).find? name = (frame.find? name).or (outer.find? name) :=
  List.lookup_append

theorem find?_bind (scope : Scope) (other : String) (binding : Binding) (name : String) :
    (scope.bind other binding).find? name = if sameAsciiCase other name then some binding else scope.find? name := by
  have hkey : (asciiLower name == asciiLower other) = sameAsciiCase other name := Bool.beq_comm
  rw [find?, bind, List.lookup_cons, hkey]
  by_cases h : sameAsciiCase other name <;> simp [h, find?]

theorem find?_bindNew (scope : Scope) (other : String) (binding : Binding) (name : String) :
    (scope.bindNew other binding).find? name =
      (scope.find? name).or (if sameAsciiCase other name then some binding else none) := by
  -- the two names are bound together where they have the same key
  by_cases hsome : (scope.find? other).isSome
  · rw [bindNew, if_pos hsome]
    by_cases h : sameAsciiCase other name
    · rw [find?_congr h] at hsome
      obtain ⟨b, hb⟩ := Option.isSome_iff_exists.1 hsome
      simp [hb]
    · simp [h]
  · rw [bindNew, if_neg hsome, find?_bind]
    by_cases h : sameAsciiCase other name
    · rw [find?_congr h, Option.not_isSome_iff_eq_none] at hsome
      simp [h, hsome]
    · simp [h]

end Scope

theorem find?_cteFrame (ctes : List Cte) (name : String) :
    (cteFrame ctes).find? name = if ctes.any (sameAsciiCase ·.name name) then some .cte else none := by
  induction ctes with
  | nil => rfl
  | cons cte ctes ih =>
    have hcons : cteFrame (cte :: ctes) = (cteFrame ctes).bind cte.name .cte := rfl
    rw [hcons, Scope.find?_bind, ih, List.any_cons]
    by_cases h : sameAsciiCase cte.name name <;> simp [h]

theorem tableBinding_eq_cte {outer : Scope} {name : Name} :
    tableBinding outer name = .cte ↔
      name.isTemporary = false ∧ name.isBare ∧ outer.find? name.base = some .cte := by
  unfold tableBinding
  split
  · rename_i h
    simp [h]
  · rename_i h
    split
    · rename_i hbare
      simpa [h] using hbare
    · rename_i hbare
      simpa [h] using hbare

/-! ### Items -/

/-- A source of a `FROM` clause, as far as it binds names: its name if it is a table, and its alias. -/
structure Item where
  table? : Option Name
  calledAs : Option String

namespace Item

/-- What an item stands for. -/
def binding (outer : Scope) (item : Item) : Binding :=
  (item.table?.map (tableBinding outer)).getD .derived

/-- The names of a table besides its alias. -/
def names (item : Item) : List String :=
  match item.table? with
  | some name => if name.isBare then [name.base] else [name.qualified, name.base]
  | none => []

def bind (outer frame : Scope) (item : Item) : Scope :=
  match item.table? with
  | some name => bindTable outer frame name item.calledAs
  | none => bindDerived frame item.calledAs

/-- The alias of the item is the name. -/
def isCalled (item : Item) (name : String) : Bool :=
  item.calledAs.any (sameAsciiCase · name)

/-- The item is a table of the name. -/
def isNamed (item : Item) (name : String) : Bool :=
  item.names.any (sameAsciiCase · name)

/-- The alias of the item is the name, and the item is a table of another bare name. -/
def renames (item : Item) (name : String) : Bool :=
  item.isCalled name && item.table?.any fun t => t.isBare && !sameAsciiCase t.base name

variable {outer frame : Scope} {items : List Item} {name : String} {b : Binding}

/-- Binds an alias, if there is one. -/
def bindAlias (frame : Scope) (calledAs : Option String) (b : Binding) : Scope :=
  calledAs.elim frame (frame.bind · b)

/-- An item binds its alias first and then its names. -/
theorem bind_eq (outer frame : Scope) (item : Item) :
    item.bind outer frame =
      item.names.foldl (·.bindNew · (item.binding outer)) (bindAlias frame item.calledAs (item.binding outer)) := by
  obtain ⟨table?, calledAs⟩ := item
  cases table? with
  | none => cases calledAs <;> rfl
  | some t =>
    cases hbare : t.isBare with
    | true => cases calledAs <;> simp [bind, bindTable, names, binding, bindAlias, hbare]
    | false => cases calledAs <;> simp [bind, bindTable, names, binding, bindAlias, hbare]

private theorem find?_foldl_bindNew (names : List String) :
    (names.foldl (·.bindNew · b) frame).find? name =
      (frame.find? name).or (if names.any (sameAsciiCase · name) then some b else none) := by
  induction names generalizing frame with
  | nil => simp
  | cons n names ih =>
    -- the first name is bound in the frame that the rest starts from
    rw [List.foldl_cons, ih, Scope.find?_bindNew, Option.or_assoc, List.any_cons]
    by_cases h : sameAsciiCase n name <;> simp [h]

/-- An alias is bound whatever it was bound to, the names of a table only if they are not bound. -/
theorem find?_bind (outer frame : Scope) (item : Item) (name : String) :
    (item.bind outer frame).find? name =
      if item.isCalled name then some (item.binding outer)
      else (frame.find? name).or (if item.isNamed name then some (item.binding outer) else none) := by
  have halias (b : Binding) : (bindAlias frame item.calledAs b).find? name =
      if item.isCalled name then some b else frame.find? name := by
    rw [isCalled]
    cases item.calledAs with
    | none => rfl
    | some alternative => exact Scope.find?_bind ..
  rw [bind_eq, find?_foldl_bindNew, halias, isNamed]
  split <;> simp

/-- What a clause binds comes from the bindings before or from one of its items. -/
theorem exists_of_find?_foldl (h : (items.foldl (bind outer) frame).find? name = some b) :
    frame.find? name = some b ∨
      ∃ item ∈ items, (item.isCalled name ∨ item.isNamed name) ∧ item.binding outer = b := by
  induction items generalizing frame with
  | nil => exact .inl h
  | cons item items ih =>
    rcases ih h with h | ⟨other, hother, hbinds⟩
    · rw [find?_bind] at h
      by_cases hcalled : item.isCalled name
      · rw [if_pos hcalled] at h
        exact .inr ⟨item, List.mem_cons_self, .inl hcalled, Option.some.inj h⟩
      · rw [if_neg hcalled] at h
        rcases Option.or_eq_some_iff.1 h with h | ⟨_, h⟩
        · exact .inl h
        · obtain ⟨hnamed, hb⟩ := Option.ite_none_right_eq_some.1 h
          exact .inr ⟨item, List.mem_cons_self, .inr hnamed, Option.some.inj hb⟩
    · exact .inr ⟨other, List.mem_cons_of_mem _ hother, hbinds⟩

/-- What is bound stays bound where no alias replaces it. -/
theorem find?_foldl_of_not_isCalled (h : frame.find? name = some b) (hcalled : ∀ item ∈ items, ¬ item.isCalled name) :
    (items.foldl (bind outer) frame).find? name = some b := by
  induction items generalizing frame with
  | nil => exact h
  | cons item items ih =>
    refine ih ?_ fun other hother => hcalled other (List.mem_cons_of_mem _ hother)
    rw [find?_bind, if_neg (hcalled item List.mem_cons_self), h, Option.some_or]

/-- Without aliases of the name, the first table of the name is what it stands for. -/
theorem find?_foldl_cons_of_isNamed {item : Item} (hframe : frame.find? name = none) (hnamed : item.isNamed name)
    (hcalled : ∀ other ∈ item :: items, ¬ other.isCalled name) :
    ((item :: items).foldl (bind outer) frame).find? name = some (item.binding outer) := by
  rw [List.foldl_cons]
  refine find?_foldl_of_not_isCalled ?_ fun other hother => hcalled other (List.mem_cons_of_mem _ hother)
  rw [find?_bind, if_neg (hcalled item List.mem_cons_self), hframe, if_pos hnamed, Option.none_or]

end Item

/-! ### The items of a clause -/

mutual

/-- The items that a source puts together. -/
def sourceItems : Source → List Item
  | .table name calledAs => [⟨some name, calledAs⟩]
  | .call _ _ calledAs => [⟨none, calledAs⟩]
  | .derived _ calledAs => [⟨none, calledAs⟩]
  | .rows _ calledAs => [⟨none, calledAs⟩]
  | .joined inner => joinedItems inner

def joinedItems : Joined → List Item
  | ⟨first, joins⟩ => sourceItems first ++ joinsItems joins

def joinsItems : List Join → List Item
  | [] => []
  | ⟨source, _⟩ :: joins => sourceItems source ++ joinsItems joins

end

mutual

theorem bindSource_eq (outer frame : Scope) :
    (s : Source) → bindSource outer frame s = (sourceItems s).foldl (Item.bind outer) frame
  | .table _ _ => by rw [bindSource, sourceItems]; rfl
  | .call _ _ _ => by rw [bindSource, sourceItems]; rfl
  | .derived _ _ => by rw [bindSource, sourceItems]; rfl
  | .rows _ _ => by rw [bindSource, sourceItems]; rfl
  | .joined inner => by rw [bindSource, sourceItems, bindJoined_eq outer frame inner]

theorem bindJoined_eq (outer frame : Scope) :
    (j : Joined) → bindJoined outer frame j = (joinedItems j).foldl (Item.bind outer) frame
  | ⟨first, joins⟩ => by
    rw [bindJoined, joinedItems, List.foldl_append, bindSource_eq outer frame first, bindJoins_eq outer _ joins]

theorem bindJoins_eq (outer frame : Scope) :
    (joins : List Join) → bindJoins outer frame joins = (joinsItems joins).foldl (Item.bind outer) frame
  | [] => by rw [bindJoins, joinsItems]; rfl
  | ⟨source, _⟩ :: joins => by
    rw [bindJoins, joinsItems, List.foldl_append, bindSource_eq outer frame source, bindJoins_eq outer _ joins]

end

theorem sourcesFrame_eq (outer : Scope) (sources : List Joined) :
    sourcesFrame outer sources = (sources.flatMap joinedItems).foldl (Item.bind outer) [] := by
  have hbind : bindJoined outer = fun frame j => (joinedItems j).foldl (Item.bind outer) frame :=
    funext fun frame => funext fun j => bindJoined_eq outer frame j
  rw [sourcesFrame, hbind, List.foldl_flatMap]

namespace Part

/-- The common table expressions that a part declares for what is inside of it. -/
def ctes : Part → List Cte
  | .statement (.withCtes ctes _) => ctes
  | .query q => q.ctes
  | _ => []

/-- The items of a part: those of its `FROM` clause, or the target and the source of a `MERGE`. -/
def items : Part → List Item
  | .statement (.update update) => update.sources.flatMap joinedItems
  | .statement (.delete delete) => delete.sources.flatMap joinedItems
  | .statement (.merge merge) => ⟨some merge.target, merge.targetAlias⟩ :: sourceItems merge.source
  | .select b => b.sources.flatMap joinedItems
  | _ => []

/-- The part declares a common table expression of the name. -/
def declares (p : Part) (name : String) : Bool :=
  p.ctes.any (sameAsciiCase ·.name name)

theorem find?_cteFrame_ctes (p : Part) (name : String) :
    (cteFrame p.ctes).find? name = if p.declares name then some .cte else none :=
  find?_cteFrame p.ctes name

theorem frame_eq (p : Part) (outer : Scope) :
    p.frame outer = p.items.foldl (Item.bind outer) (cteFrame p.ctes) := by
  cases p with
  | statement s =>
    cases s with
    | update update => exact sourcesFrame_eq outer update.sources
    | delete delete => exact sourcesFrame_eq outer delete.sources
    | merge merge => exact bindSource_eq outer _ merge.source
    | _ => rfl
  | select b => exact sourcesFrame_eq outer b.sources
  | _ => rfl

/-- No part binds both common table expressions and items. -/
theorem items_eq_nil_of_declares (p : Part) {name : String} (h : p.declares name) : p.items = [] := by
  cases p with
  | statement s =>
    cases s with
    | withCtes ctes body => rfl
    | _ => cases h
  | query q => rfl
  | _ => cases h

theorem not_mem_joinedParts (s : Statement) (j : Joined) : Part.statement s ∉ joinedParts j := by
  obtain ⟨first, joins⟩ := j
  simp [joinedParts]

theorem not_mem_mergeActionParts (s : Statement) (a : MergeAction) : Part.statement s ∉ mergeActionParts a := by
  cases a <;> simp [mergeActionParts, assignmentParts]

/-- A statement stands inside of statements only, and of none that has items. -/
theorem items_eq_nil_of_mem_parts {p : Part} {s : Statement} (h : .statement s ∈ p.parts) :
    ∃ t, p = .statement t ∧ p.items = [] := by
  cases p with
  | statement t =>
    refine ⟨t, rfl, ?_⟩
    cases t with
    | update update => simp [parts, statementParts, not_mem_joinedParts, assignmentParts] at h
    | delete delete => simp [parts, statementParts, not_mem_joinedParts] at h
    | merge merge => simp [parts, statementParts, not_mem_mergeActionParts] at h
    | _ => rfl
  | exec c => simp [parts] at h
  | query q => simp [parts] at h
  | body b => cases b <;> simp [parts, bodyParts] at h
  | select b => simp [parts, not_mem_joinedParts] at h
  | source s => cases s <;> simp [parts, sourceParts, not_mem_joinedParts] at h
  | on e => cases e <;> simp [parts, exprParts] at h
  | expr e => cases e <;> simp [parts, exprParts] at h

end Part

/-! ### What a name stands for inside of parts -/

variable {ss : List Statement} {p : Part} {above : List Part} {name : String} {b : Binding}

/-- No `FROM` clause is around a statement. -/
theorem items_eq_nil_of_mem_above {s : Statement} (h : ⟨above, .statement s⟩ ∈ placesOf ss) :
    ∀ q ∈ above, q.items = [] := by
  induction above generalizing s with
  | nil => simp
  | cons p above ih =>
    obtain ⟨hp, hpart⟩ := mem_placesOf_cons.1 h
    obtain ⟨t, rfl, hitems⟩ := Part.items_eq_nil_of_mem_parts hpart
    exact List.forall_mem_cons.2 ⟨hitems, ih hp⟩

theorem find?_contextIn_cons (p : Part) (above : List Part) (name : String) :
    (contextIn (p :: above)).scope.find? name =
      ((p.frame (contextIn above).scope).find? name).or ((contextIn above).scope.find? name) :=
  Scope.find?_append ..

/-- What a name stands for is declared by a part, comes from one of its items, or holds around the part. -/
theorem find?_contextIn_cases (h : (contextIn (p :: above)).scope.find? name = some b) :
    (p.declares name ∧ b = .cte) ∨
      (∃ item ∈ p.items, (item.isCalled name ∨ item.isNamed name) ∧ item.binding (contextIn above).scope = b) ∨
        (contextIn above).scope.find? name = some b := by
  rw [find?_contextIn_cons, p.frame_eq] at h
  rcases Option.or_eq_some_iff.1 h with h | ⟨_, h⟩
  · rcases Item.exists_of_find?_foldl h with h | hitem
    · rw [p.find?_cteFrame_ctes] at h
      obtain ⟨hdeclares, hb⟩ := Option.ite_none_right_eq_some.1 h
      exact .inl ⟨hdeclares, (Option.some.inj hb).symm⟩
    · exact .inr (.inl hitem)
  · exact .inr (.inr h)

/-- What a name stands for was declared or comes from an item of a part around. -/
theorem exists_of_find?_contextIn (h : (contextIn above).scope.find? name = some b) :
    ∃ q ∈ above, q.declares name ∨
      ∃ item ∈ q.items, (item.isCalled name ∨ item.isNamed name) ∧ ∃ outer, item.binding outer = b := by
  induction above with
  | nil => cases h
  | cons p above ih =>
    rcases find?_contextIn_cases h with ⟨hdeclares, _⟩ | ⟨item, hitem, hbinds, hb⟩ | h
    · exact ⟨p, List.mem_cons_self, .inl hdeclares⟩
    · exact ⟨p, List.mem_cons_self, .inr ⟨item, hitem, hbinds, _, hb⟩⟩
    · obtain ⟨q, hq, hbinds⟩ := ih h
      exact ⟨q, List.mem_cons_of_mem _ hq, hbinds⟩

/-- An item that stands for a common table expression renames it, or it is a table of its name. -/
theorem Item.find?_of_binding_eq_cte {item : Item} {outer : Scope} (h : item.isCalled name ∨ item.isNamed name)
    (hcte : item.binding outer = .cte) : item.renames name ∨ outer.find? name = some .cte := by
  obtain ⟨table?, calledAs⟩ := item
  cases table? with
  | none => cases hcte
  | some t =>
    obtain ⟨_, hbare, houter⟩ := tableBinding_eq_cte.1 hcte
    by_cases hsame : sameAsciiCase t.base name
    · exact .inr (Scope.find?_congr hsame ▸ houter)
    · rcases h with hcalled | hnamed
      · exact .inl (by simp [renames, hcalled, hbare, hsame])
      · exact absurd hnamed (by simp [isNamed, names, hbare, hsame])

/-- Only the name of a common table expression and an alias for another name ever stand for one. -/
theorem exists_of_find?_eq_cte (h : (contextIn above).scope.find? name = some .cte) :
    ∃ q ∈ above, q.declares name ∨ ∃ item ∈ q.items, item.renames name := by
  induction above with
  | nil => cases h
  | cons p above ih =>
    have hrest (h : (contextIn above).scope.find? name = some .cte) :
        ∃ q ∈ p :: above, q.declares name ∨ ∃ item ∈ q.items, item.renames name := by
      obtain ⟨q, hq, hbinds⟩ := ih h
      exact ⟨q, List.mem_cons_of_mem _ hq, hbinds⟩
    rcases find?_contextIn_cases h with ⟨hdeclares, _⟩ | ⟨item, hitem, hbinds, hcte⟩ | h
    · exact ⟨p, List.mem_cons_self, .inl hdeclares⟩
    · rcases Item.find?_of_binding_eq_cte hbinds hcte with hrenames | houter
      · exact ⟨p, List.mem_cons_self, .inr ⟨item, hitem, hrenames⟩⟩
      · -- a table of the name stands for what the name stands for further out
        exact hrest houter
    · exact hrest h

end ChangeImpact.Extraction
