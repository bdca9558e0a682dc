import ChangeImpact.Sql.Script

/-!
# Procedures of a grammar

Every function of a grammar is given by what it does for all grammars that may stand inside it.  A `Procedure` is put
together from single steps, from loops and from calls of what is nested one level further in, and from nothing else, so
what holds of these holds of all functions.

There is an instance for each way to put procedures together.  A function is one as soon as its definition is unfolded.
-/

namespace ChangeImpact.Sql

/-- What is read one level further in than what calls it. -/
inductive Nonterminal : Type → Type
  | statement : Nonterminal (Option Statement)
  | query : Nonterminal Query
  | source : Nonterminal Source
  | expr : Nonterminal Expr
  | negated : Nonterminal Expr
  | signed : Nonterminal Expr

def Grammar.parser (g : Grammar) : {α : Type} → Nonterminal α → Parser α
  | _, .statement => g.statement
  | _, .query => g.query
  | _, .source => g.source
  | _, .expr => g.expr
  | _, .negated => g.negated
  | _, .signed => g.signed

/-- A parser that is made of single steps, loops and calls of what the grammar nests. -/
inductive Procedure : {α : Type} → (Grammar → Parser α) → Prop
  | ret {α : Type} (a : α) : Procedure fun _ => pure a
  | look {α : Type} (f : Tokens → α) : Procedure fun _ => Parser.look f
  | skipBy (count : Tokens → Nat) : Procedure fun _ => Parser.skipBy count
  /-- Calls whose target is known only when they run are never noted without being counted. -/
  | note (problem : Problem) (h : problem ≠ .dynamicSql) : Procedure fun _ => Parser.note problem
  | noteDynamicSql : Procedure fun _ => Parser.noteDynamicSql
  | fail {α : Type} (wanted : String) : Procedure fun _ => (Parser.fail wanted : Parser α)
  | bind {α β : Type} {p : Grammar → Parser α} {f : Grammar → α → Parser β} : Procedure p →
      (∀ a, Procedure (f · a)) → Procedure fun inner => p inner >>= f inner
  | loop {α ω : Type} {separator : Tokens → Option (Nat × ω)} {body : Grammar → α → ω → Parser α} (a : α) :
      (∀ a o, Procedure (body · a o)) → Procedure fun inner => Parser.loop separator (body inner) a
  | recovering {α : Type} {stop : Tokens → Bool} {resume : Tokens → Nat} {item : Grammar → Parser (Option α)} :
      Procedure item → Procedure fun inner => Parser.recovering stop resume (item inner)
  | nested {α : Type} (k : Nonterminal α) : Procedure (·.parser k)

attribute [class] Procedure

attribute [instance] Procedure.ret Procedure.look Procedure.skipBy Procedure.noteDynamicSql Procedure.fail

namespace Procedure

variable {α β ω : Type} {p q : Grammar → Parser α} {f : Grammar → α → Parser β}

/-! ### What is nested -/

instance statement : Procedure (·.statement) :=
  nested .statement

instance query : Procedure (·.query) :=
  nested .query

instance source : Procedure (·.source) :=
  nested .source

instance expr : Procedure (·.expr) :=
  nested .expr

instance negated : Procedure (·.negated) :=
  nested .negated

instance signed : Procedure (·.signed) :=
  nested .signed

/-! ### Ways to put procedures together -/

instance [hp : Procedure p] [hf : ∀ a, Procedure (f · a)] : Procedure fun inner => p inner >>= f inner :=
  bind hp hf

/-- Whatever the first parser gives. -/
theorem after [hp : Procedure p] (hf : ∀ a, Procedure (f · a)) : Procedure fun inner => p inner >>= f inner :=
  bind hp hf

instance {separator : Tokens → Option (Nat × ω)} {body : Grammar → α → ω → Parser α}
    [hbody : ∀ a o, Procedure (body · a o)] (a : α) : Procedure fun inner => Parser.loop separator (body inner) a :=
  loop a hbody

instance {stop : Tokens → Bool} {resume : Tokens → Nat} {item : Grammar → Parser (Option α)} [hitem : Procedure item] :
    Procedure fun inner => Parser.recovering stop resume (item inner) :=
  recovering hitem

instance map {f : α → β} [Procedure p] : Procedure fun inner => f <$> p inner :=
  after fun a => ret (f a)

instance discard [Procedure p] : Procedure fun inner => Functor.discard (p inner) :=
  map

instance ite {c : Prop} [Decidable c] [hp : Procedure p] [hq : Procedure q] :
    Procedure fun inner => if c then p inner else q inner := by
  by_cases h : c
  · simpa only [if_pos h] using hp
  · simpa only [if_neg h] using hq

/-- Whatever a test says of the tokens ahead. -/
theorem ifAny {test : Grammar → Parser Bool} [Procedure test] (hp : Procedure p) (hq : Procedure q) :
    Procedure fun inner => test inner >>= fun b => if b = true then p inner else q inner :=
  after fun _ => ite

instance skip (n : Nat) : Procedure fun _ => Parser.skip n :=
  skipBy _

instance peek : Procedure fun _ => Parser.peek :=
  look _

instance missingEnd : Procedure fun _ => Parser.note .missingEnd :=
  note _ (by decide)

instance stray (keyword : String) : Procedure fun _ => Parser.note (.stray keyword) :=
  note _ (by simp)

instance noBody (routine : String) : Procedure fun _ => Parser.note (.noBody routine) :=
  note _ (by simp)

instance acceptIf (test : Tokens → Bool) (n : Nat) : Procedure fun _ => Parser.acceptIf test n := by
  unfold Parser.acceptIf; infer_instance

instance accept (lexeme : Lexeme) : Procedure fun _ => Parser.accept lexeme :=
  acceptIf _ _

instance acceptKeyword (keyword : String) : Procedure fun _ => Parser.acceptKeyword keyword :=
  acceptIf _ _

instance skipEither (first second : String) : Procedure fun _ => Parser.skipEither first second := by
  unfold Parser.skipEither; infer_instance

instance expect (lexeme : Lexeme) : Procedure fun _ => Parser.expect lexeme := by
  unfold Parser.expect; infer_instance

instance expectKeyword (keyword : String) : Procedure fun _ => Parser.expectKeyword keyword := by
  unfold Parser.expectKeyword; infer_instance

instance commaSeparated [Procedure p] : Procedure fun inner => Parser.commaSeparated (p inner) := by
  unfold Parser.commaSeparated; infer_instance

/-! ### Groups and names -/

instance skipToBoundary : Procedure fun _ => Parser.skipToBoundary :=
  skipBy _

instance skipStatement : Procedure fun _ => Parser.skipStatement := by
  unfold Parser.skipStatement; infer_instance

instance skipCall : Procedure fun _ => Parser.skipCall :=
  skipBy _

instance closeGroup : Procedure fun _ => Parser.closeGroup := by
  unfold Parser.closeGroup
  refine after fun distance => ?_
  split <;> infer_instance

instance skipGroup : Procedure fun _ => Parser.skipGroup := by
  unfold Parser.skipGroup; infer_instance

instance skipOptionalGroup : Procedure fun _ => Parser.skipOptionalGroup := by
  unfold Parser.skipOptionalGroup; infer_instance

instance skipKeywordGroup (keyword : String) : Procedure fun _ => Parser.skipKeywordGroup keyword := by
  unfold Parser.skipKeywordGroup; infer_instance

instance skipTableHints : Procedure fun _ => Parser.skipTableHints := by
  unfold Parser.skipTableHints; infer_instance

instance skipOptions : Procedure fun _ => Parser.skipOptions :=
  skipKeywordGroup _

instance identifier : Procedure fun _ => Parser.identifier := by
  unfold Parser.identifier
  refine after fun ahead => ?_
  split <;> infer_instance

instance objectName : Procedure fun _ => Parser.objectName := by
  unfold Parser.objectName; infer_instance

instance aliasName : Procedure fun _ => Parser.aliasName := by
  unfold Parser.aliasName
  refine after fun isNamed => ?_
  split
  all_goals
    refine after fun ahead => ?_
    split <;> infer_instance

instance skipTypeName : Procedure fun _ => Parser.skipTypeName := by
  unfold Parser.skipTypeName; infer_instance

end Procedure

end ChangeImpact.Sql
