import ChangeImpact.Proofs.Depth
import ChangeImpact.Proofs.Frame
import ChangeImpact.Proofs.Run
import ChangeImpact.Sql.Script
import Mathlib

/-!
# Calls whose target is known only when they run

Every such call in the tree of a script was counted when it was read.  `Parser.Accounts` says that a value has no more
of them than the parser counts, beyond those that were counted before and are still to be placed, the credit.  What is
counted last, just before a node is made, is the credit of this node; there is one rule for each way to build a parser,
and only the parsers for statements have to be followed, since nothing else in a tree contains such a call
(`Part.dynamicCalls_eq_zero`).
-/

namespace ChangeImpact.Extraction

open Sql

/-! ### Calls in a tree -/

namespace Part

/-- The part is such a call itself, as a statement or as the source of an `INSERT`. -/
def isDynamicCall : Part → Bool
  | .statement .dynamicSql => true
  | .statement (.insert ⟨_, .dynamicSql⟩) => true
  | _ => false

/-- The number of such calls in a part. -/
def dynamicCalls : Part → Nat :=
  fold fun p counts => p.isDynamicCall.toNat + counts.sum

variable {p : Part}

theorem dynamicCalls_eq (p : Part) : p.dynamicCalls = p.isDynamicCall.toNat + (p.parts.map dynamicCalls).sum :=
  fold_eq _ p

theorem sum_dynamicCalls_eq_zero {ps : List Part} (h : ∀ q ∈ ps, q.dynamicCalls = 0) :
    (ps.map dynamicCalls).sum = 0 :=
  List.sum_eq_zero_iff_forall_eq_nat.2 (List.forall_mem_map.2 h)

/-- Only statements contain such calls. -/
theorem dynamicCalls_eq_zero (h : ∀ s, p ≠ .statement s) : p.dynamicCalls = 0 := by
  induction p using Part.induction with
  | step p ih =>
    have hparts : ∀ q ∈ p.parts, q.dynamicCalls = 0 := by
      refine fun q hq => ih q hq ?_
      rintro s rfl
      obtain ⟨t, ht, _⟩ := items_eq_nil_of_mem_parts hq
      exact h t ht
    have hself : p.isDynamicCall = false := by
      cases p with
      | statement s => exact absurd rfl (h s)
      | _ => rfl
    rw [dynamicCalls_eq, sum_dynamicCalls_eq_zero hparts, hself, Bool.toNat_false]

/-- A part without statements inside of it has no such call but itself. -/
theorem dynamicCalls_of_forall_not_mem (h : ∀ s, .statement s ∉ p.parts) :
    p.dynamicCalls = p.isDynamicCall.toNat := by
  have hparts : ∀ q ∈ p.parts, q.dynamicCalls = 0 :=
    fun q hq => dynamicCalls_eq_zero fun s hs => h s (hs ▸ hq)
  rw [dynamicCalls_eq, sum_dynamicCalls_eq_zero hparts, Nat.add_zero]

theorem countP_places (p : Part) (above : List Part) :
    (p.places above).countP (·.part.isDynamicCall) = p.dynamicCalls := by
  induction p using Part.induction generalizing above with
  | step p ih =>
    have hparts : p.parts.map ((List.countP fun pl => pl.part.isDynamicCall) ∘ fun q => q.places (p :: above)) =
        p.parts.map dynamicCalls := List.map_congr_left fun q hq => ih q hq (p :: above)
    rw [places_eq, List.countP_cons, List.countP_flatMap, hparts, dynamicCalls_eq]
    cases p.isDynamicCall <;> simp +arith

end Part

/-- The number of such calls in a statement. -/
abbrev callsIn (s : Statement) : Nat :=
  (Part.statement s).dynamicCalls

theorem countP_placesOf (ss : List Statement) :
    (placesOf ss).countP (·.part.isDynamicCall) = (ss.map callsIn).sum := by
  rw [placesOf, List.countP_flatMap]
  exact congrArg List.sum (List.map_congr_left fun s _ => Part.countP_places _ [])

/-- The number of such calls in a statement, if there is one. -/
def callsInOption (s? : Option Statement) : Nat :=
  (s?.toList.map callsIn).sum

@[simp] theorem callsInOption_none : callsInOption none = 0 :=
  rfl

@[simp] theorem callsInOption_some (s : Statement) : callsInOption (some s) = callsIn s :=
  Nat.add_zero _

/-! ### Calls in a statement, constructor by constructor -/

theorem callsIn_query (q : Query) : callsIn (.query q) = 0 :=
  Part.dynamicCalls_of_forall_not_mem (by simp [Part.parts, statementParts])

theorem callsIn_update (u : Update) : callsIn (.update u) = 0 :=
  Part.dynamicCalls_of_forall_not_mem
    (by simp [Part.parts, statementParts, Part.not_mem_joinedParts, assignmentParts])

theorem callsIn_delete (d : Delete) : callsIn (.delete d) = 0 :=
  Part.dynamicCalls_of_forall_not_mem (by simp [Part.parts, statementParts, Part.not_mem_joinedParts])

theorem callsIn_merge (m : Merge) : callsIn (.merge m) = 0 :=
  Part.dynamicCalls_of_forall_not_mem (by simp [Part.parts, statementParts, Part.not_mem_mergeActionParts])

theorem callsIn_evaluate (es : List Expr) : callsIn (.evaluate es) = 0 :=
  Part.dynamicCalls_of_forall_not_mem (by simp [Part.parts, statementParts])

theorem callsIn_insert (i : Insert) : callsIn (.insert i) = (Part.statement (.insert i)).isDynamicCall.toNat := by
  refine Part.dynamicCalls_of_forall_not_mem fun s => ?_
  obtain ⟨target, source⟩ := i
  cases source <;> simp [Part.parts, statementParts, insertSourceParts]

theorem callsIn_withCtes (ctes : List Cte) (s : Statement) : callsIn (.withCtes ctes s) = callsIn s := by
  have hctes : ((ctes.map (Part.query ·.query)).map Part.dynamicCalls).sum = 0 :=
    Part.sum_dynamicCalls_eq_zero (List.forall_mem_map.2 fun cte _ => Part.dynamicCalls_eq_zero nofun)
  rw [callsIn, Part.dynamicCalls_eq, Part.parts, statementParts, List.map_append, List.sum_append, hctes]
  simp [Part.isDynamicCall]

theorem callsIn_block (ss : List Statement) : callsIn (.block ss) = (ss.map callsIn).sum := by
  rw [callsIn, Part.dynamicCalls_eq, Part.parts, statementParts, List.map_map]
  exact Nat.zero_add _

theorem callsIn_routine (n : Name) (schemaBound : Bool) (ss : List Statement) :
    callsIn (.routine n schemaBound ss) = (ss.map callsIn).sum := by
  rw [callsIn, Part.dynamicCalls_eq, Part.parts, statementParts, List.map_map]
  exact Nat.zero_add _

theorem callsIn_branch (condition : Expr) (yes : Statement) (no : Option Statement) :
    callsIn (.branch condition yes no) = callsIn yes + callsInOption no := by
  have hcondition : (Part.expr condition).dynamicCalls = 0 := Part.dynamicCalls_eq_zero nofun
  rw [callsIn, Part.dynamicCalls_eq]
  simp [Part.parts, statementParts, Part.isDynamicCall, hcondition, callsInOption, Function.comp_def]

theorem callsIn_loop (condition : Expr) (body : Statement) : callsIn (.loop condition body) = callsIn body := by
  have hcondition : (Part.expr condition).dynamicCalls = 0 := Part.dynamicCalls_eq_zero nofun
  rw [callsIn, Part.dynamicCalls_eq]
  simp [Part.parts, statementParts, Part.isDynamicCall, hcondition]

theorem callsIn_truncate (n : Name) : callsIn (.truncate n) = 0 :=
  Part.dynamicCalls_of_forall_not_mem (by simp [Part.parts, statementParts])

theorem callsIn_exec (call : Exec) : callsIn (.exec call) = 0 :=
  Part.dynamicCalls_of_forall_not_mem (by simp [Part.parts, statementParts])

theorem callsIn_dynamicSql : callsIn .dynamicSql = 1 :=
  Part.dynamicCalls_of_forall_not_mem (by simp [Part.parts, statementParts])

end ChangeImpact.Extraction

namespace ChangeImpact.Sql

open ChangeImpact.Extraction ChangeImpact.Sql.Parser

/-! ### Accounting for calls -/

namespace Parser

variable {α β : Type} {p q : Parser α} {credit : Nat} {weight : α → Nat} {weight' : β → Nat}

/-- Every value weighs at most as much as the credit and the calls that the parser counts. -/
def Accounts (p : Parser α) (credit : Nat) (weight : α → Nat) : Prop :=
  ∀ ts a, (p.run ts).result = .ok a → weight a ≤ credit + (p.run ts).dynamicSql

namespace Accounts

theorem ret {a : α} (h : weight a ≤ credit) : Accounts (pure a) credit weight :=
  fun _ _ ha => Except.ok.inj ha ▸ h

/-- What the first value weighs is credit for the second parser. -/
theorem bind {f : α → Parser β} (hp : p.Accounts 0 weight)
    (hf : ∀ a, (f a).Accounts (credit + weight a) weight') : (p >>= f).Accounts credit weight' := by
  intro ts b hb
  change ((Parser.bind p f).run ts).result = .ok b at hb
  change _ ≤ credit + ((Parser.bind p f).run ts).dynamicSql
  unfold Parser.bind at hb ⊢
  dsimp only at hb ⊢
  split at hb
  · cases hb
  · rename_i a ha
    have hfirst := hp ts a ha
    have hsecond := hf a _ b hb
    dsimp only
    omega

/-- Whatever the first parser gives. -/
theorem after {f : α → Parser β} (hf : ∀ a, (f a).Accounts credit weight') : (p >>= f).Accounts credit weight' := by
  have hp : p.Accounts 0 fun _ => 0 := fun _ _ _ => Nat.zero_le _
  exact bind hp hf

/-- A counted call is credit for what comes behind it. -/
theorem counted {f : Unit → Parser β} (hf : (f ()).Accounts (credit + 1) weight') :
    (noteDynamicSql >>= f).Accounts credit weight' := by
  have hnote : noteDynamicSql.Accounts 0 fun _ => 1 := fun _ _ _ => Nat.le_refl _
  exact bind hnote fun _ => hf

theorem fail (wanted : String) : Accounts (Parser.fail wanted) credit weight :=
  fun _ _ h => nomatch h

theorem tooDeep : Accounts Parser.tooDeep credit weight :=
  fun _ _ h => nomatch h

theorem ite {c : Prop} [Decidable c] (hp : p.Accounts credit weight) (hq : q.Accounts credit weight) :
    (if c then p else q).Accounts credit weight := by
  split
  · exact hp
  · exact hq

/-- Whatever a test says of the tokens ahead. -/
theorem ifAny {test : Parser Bool} (hp : p.Accounts credit weight) (hq : q.Accounts credit weight) :
    (test >>= fun b => if b = true then p else q).Accounts credit weight :=
  after fun _ => ite hp hq

/-- By induction on what is left of the tokens; an item that fails has no value, and what it counted is kept. -/
theorem recovering {stop : Tokens → Bool} {resume : Tokens → Nat} {item : Parser (Option α)}
    (hitem : item.Accounts 0 fun a? => (a?.toList.map weight).sum) :
    (Parser.recovering stop resume item).Accounts 0 fun as => (as.map weight).sum := by
  intro ts as has
  change (recoverRun stop resume item ts).result = .ok as at has
  change _ ≤ 0 + (recoverRun stop resume item ts).dynamicSql
  fun_induction recoverRun stop resume item ts generalizing as with
  | case1 => exact Except.ok.inj has ▸ Nat.zero_le _
  | case2 => exact Except.ok.inj has ▸ Nat.zero_le _
  | case3 => cases has
  | case4 t tail _ r next n _ others ih =>
    have hrest : (as.map weight).sum ≤ 0 + others.dynamicSql := ih as has
    dsimp only
    omega
  | case5 t tail _ r next a? ha others ih =>
    obtain ⟨bs, hothers, rfl⟩ := map_eq_ok_iff.1 has
    have hfirst : (a?.toList.map weight).sum ≤ 0 + r.dynamicSql := hitem _ a? ha
    have hrest : (bs.map weight).sum ≤ 0 + others.dynamicSql := ih bs hothers
    dsimp only
    rw [List.map_append, List.sum_append]
    omega

end Accounts

end Parser

/-! ### Accounting for statements -/

namespace Grammar

variable {inner : Grammar}

/-- A statement that is made of what a parser gives. -/
theorem accounts_someOf {α : Type} {p : Parser α} {weight : α → Nat} {f : α → Statement} (hp : p.Accounts 0 weight)
    (hf : ∀ a, callsIn (f a) ≤ weight a) : (p >>= fun a => pure (some (f a))).Accounts 0 callsInOption :=
  .bind hp fun a => .ret (by simpa using hf a)

theorem accounts_some {p : Parser Statement} (hp : p.Accounts 0 callsIn) : (some <$> p).Accounts 0 callsInOption :=
  accounts_someOf hp fun _ => Nat.le_refl _

/-- Whatever the parser gives, the statement has no such call. -/
theorem accounts_someOf_any {α : Type} {p : Parser α} {f : α → Statement} (hf : ∀ a, callsIn (f a) = 0) :
    (p >>= fun a => pure (some (f a))).Accounts 0 callsInOption :=
  .after fun a => .ret (by simp [hf])

theorem accounts_exec : (exec inner).Accounts 0 fun call? => call?.isNone.toNat := by
  have hcounted : (do noteDynamicSql; return none : Parser (Option Exec)).Accounts 0 fun call? => call?.isNone.toNat :=
    .counted (.ret (Nat.le_refl _))
  refine .after fun _ => .ifAny (.after fun _ => .after fun _ => hcounted) (.after fun _ => ?_)
  refine .ifAny (.after fun _ => hcounted) (.after fun procedure => .after fun args => .ite hcounted ?_)
  exact .ret (Nat.zero_le _)

theorem accounts_insertSource (target : Name) :
    (insertSource inner).Accounts 0 fun source => callsIn (.insert ⟨target, source⟩) := by
  have hret {source : InsertSource} {credit : Nat}
      (h : (Part.statement (.insert ⟨target, source⟩)).isDynamicCall.toNat ≤ credit) :
      (pure source : Parser InsertSource).Accounts credit fun source => callsIn (.insert ⟨target, source⟩) :=
    .ret ((callsIn_insert _).symm ▸ h)
  refine .ifAny (.after fun _ => hret (Nat.le_refl 0)) (.ifAny (hret (Nat.le_refl 0)) (.ifAny ?_ ?_))
  · refine .bind accounts_exec fun call? => ?_
    cases call? with
    | some call => exact hret (Nat.zero_le _)
    | none => exact hret (Nat.le_refl 1)
  · exact .after fun _ => hret (Nat.le_refl 0)

theorem accounts_insert : (insert inner).Accounts 0 fun i => callsIn (.insert i) := by
  have hrest {target : Name} : (do
      skipOutput inner
      return ⟨target, ← insertSource inner⟩ : Parser Insert).Accounts 0 fun i => callsIn (.insert i) :=
    .after fun _ => .bind (accounts_insertSource target) fun _ => .ret (Nat.le_add_left _ 0)
  refine .after fun _ => .after fun _ => .after fun _ => .after fun target => .after fun _ => ?_
  exact .ifAny (.after fun _ => hrest) hrest

theorem accounts_withCtes : (withCtes inner).Accounts 0 callsIn := by
  have hwrite {α : Type} {p : Parser α} {ctes : List Cte} {f : α → Statement} (hf : ∀ a, callsIn (f a) = 0) :
      (p >>= fun a => pure (.withCtes ctes (f a))).Accounts 0 callsIn :=
    .after fun a => .ret (Nat.le_of_eq (by rw [callsIn_withCtes, hf]))
  refine .after fun ctes => .ifAny ?_ (.ifAny ?_ (.ifAny ?_ (.ifAny ?_ (.ifAny ?_ (.fail _)))))
  · exact .after fun _ => .ret (Nat.le_of_eq (callsIn_query _))
  · exact .bind accounts_insert fun _ => .ret (Nat.le_of_eq (by rw [callsIn_withCtes, Nat.zero_add]))
  · exact hwrite callsIn_update
  · exact hwrite callsIn_delete
  · exact hwrite callsIn_merge

/-! ### Control flow -/

section Control

variable (h : inner.statement.Accounts 0 callsInOption)

include h

theorem accounts_statements (stopWords : List String) :
    (statements inner stopWords).Accounts 0 fun ss => (ss.map callsIn).sum :=
  .recovering h

theorem accounts_block : (block inner).Accounts 0 callsInOption := by
  have hret {body : List Statement} : (pure (some (.block body)) : Parser (Option Statement)).Accounts
      (0 + (body.map callsIn).sum) callsInOption := .ret (by simp [callsIn_block])
  refine .ifAny (.after fun _ => .ret (Nat.le_refl 0)) (.after fun _ => .after fun kind => ?_)
  refine .ite (.after fun _ => ?_) ?_
  -- with and without a second keyword behind `BEGIN`
  all_goals
    refine .bind (accounts_statements h ["END"]) fun body => .ifAny ?_ (.after fun _ => hret)
    cases kind with
    | some keyword => exact .after fun _ => hret
    | none => exact hret

theorem accounts_branchBody : (branchBody inner).Accounts 0 callsIn := by
  refine .after fun _ => .bind h fun s? => .ret ?_
  cases s? with
  | some s => simp
  | none => exact Nat.le_of_eq (callsIn_block [])

theorem accounts_branch : (branch inner).Accounts 0 callsIn := by
  refine .after fun _ => .after fun condition => .bind (accounts_branchBody h) fun yes => .after fun _ => ?_
  refine .ifAny (.bind (accounts_some (accounts_branchBody h)) fun no => .ret ?_) (.ret ?_)
  · exact Nat.le_of_eq (by rw [callsIn_branch, Nat.zero_add])
  · simp [callsIn_branch]

theorem accounts_whileLoop : (whileLoop inner).Accounts 0 callsIn :=
  .after fun _ => .after fun _ => .bind (accounts_branchBody h) fun _ =>
    .ret (Nat.le_of_eq (by rw [callsIn_loop, Nat.zero_add]))

theorem accounts_definition : (definition inner).Accounts 0 callsInOption := by
  refine .after fun _ => .ifAny (.after fun _ => .after fun name => .after fun distance? => ?_)
    (.after fun _ => .ret (Nat.le_refl 0))
  split
  · exact .after fun _ => accounts_someOf (accounts_statements h ["GO"]) fun ss => Nat.le_of_eq (callsIn_routine _ _ ss)
  · exact .after fun _ => .after fun _ => .ret (by simp [callsIn_routine])

end Control

theorem accounts_execStatement : (execStatement inner).Accounts 0 callsInOption := by
  refine .ifAny (.after fun _ => .ret (Nat.le_refl 0)) (.bind accounts_exec fun call? => ?_)
  cases call? with
  | some call => exact .ret (by simp [callsIn_exec])
  | none => exact .ret (by simp [callsIn_dynamicSql])

theorem accounts_cursor : (cursor inner).Accounts 0 callsIn := by
  have hret {q : Query} : (pure (.query q) : Parser Statement).Accounts 0 callsIn := .ret (Nat.le_of_eq (callsIn_query q))
  exact .after fun _ => .after fun _ => .after fun _ => .ifAny (.ifAny (.after fun _ => hret) hret) hret

theorem accounts_declare : (declare inner).Accounts 0 callsIn :=
  .after fun _ => .ifAny (.after fun _ => .ret (Nat.le_of_eq (callsIn_evaluate _))) accounts_cursor

theorem accounts_set : (set inner).Accounts 0 callsInOption :=
  .ifAny (.after fun _ => .after fun _ => accounts_someOf_any fun _ => callsIn_evaluate _)
    (.after fun _ => .ret (Nat.le_refl 0))

theorem accounts_returnStatement : (returnStatement inner).Accounts 0 callsIn :=
  .after fun _ => .ifAny (.ret (Nat.le_of_eq (callsIn_evaluate _))) (.after fun _ => .ret (Nat.le_of_eq (callsIn_evaluate _)))

theorem accounts_keywordStatement (h : inner.statement.Accounts 0 callsInOption) (keyword : String) :
    (keywordStatement inner keyword).Accounts 0 callsInOption := by
  have hnone {credit : Nat} : (pure none : Parser (Option Statement)).Accounts credit callsInOption :=
    .ret (Nat.zero_le _)
  unfold keywordStatement
  split
  · exact accounts_someOf_any callsIn_query
  · exact accounts_some accounts_withCtes
  · exact accounts_someOf accounts_insert fun _ => Nat.le_refl _
  · exact .ifAny (.after fun _ => hnone) (accounts_someOf_any callsIn_update)
  · exact accounts_someOf_any callsIn_delete
  · exact accounts_someOf_any callsIn_merge
  · exact .after fun _ => .after fun _ => accounts_someOf_any callsIn_truncate
  · exact accounts_execStatement
  · exact accounts_execStatement
  · exact accounts_block h
  · exact accounts_some (accounts_branch h)
  · exact accounts_some (accounts_whileLoop h)
  · exact accounts_some accounts_declare
  · exact accounts_set
  · exact accounts_some accounts_returnStatement
  · exact accounts_definition h
  · exact accounts_definition h
  · exact .after fun _ => hnone
  · exact .after fun _ => .after fun _ => hnone
  · exact .after fun _ => .after fun _ => hnone
  · exact .ite (.after fun _ => hnone) (.ifAny hnone (.fail _))

theorem accounts_anyStatement (h : inner.statement.Accounts 0 callsInOption) :
    (anyStatement inner).Accounts 0 callsInOption := by
  refine .after fun ahead => ?_
  split
  · exact .ret (Nat.le_refl 0)
  · exact .after fun _ => .ret (Nat.le_refl 0)
  · exact .ifAny (accounts_someOf_any callsIn_query) (.fail _)
  · exact accounts_keywordStatement h _
  · exact .fail _

/-- By induction on the number of levels. -/
theorem accounts_ofLevels (levels : Nat) : (ofLevels levels).statement.Accounts 0 callsInOption := by
  induction levels with
  | zero => exact .tooDeep
  | succ levels ih => exact accounts_anyStatement ih

end Grammar

end ChangeImpact.Sql
