import ChangeImpact.Proofs.Run

/-!
# What parsers give

`p.Yields P` says that every value that `p` gives, on any tokens, satisfies `P`; a parser that fails gives none.  There
is one rule for each way to build a parser, so that a grammar is followed rule by rule.
-/

namespace ChangeImpact.Sql.Parser

variable {α β ω : Type} {p q : Parser α} {P Q : α → Prop} {R : β → Prop}

def Yields (p : Parser α) (P : α → Prop) : Prop :=
  ∀ ts a, (p.run ts).result = .ok a → P a

namespace Yields

theorem imp (hp : p.Yields P) (h : ∀ a, P a → Q a) : p.Yields Q :=
  fun ts a ha => h a (hp ts a ha)

theorem ret {a : α} (h : P a) : Yields (pure a) P :=
  fun _ _ ha => Except.ok.inj ha ▸ h

theorem bind {f : α → Parser β} (hp : p.Yields P) (hf : ∀ a, P a → (f a).Yields R) : (p >>= f).Yields R := by
  intro ts b hb
  change ((Parser.bind p f).run ts).result = .ok b at hb
  unfold Parser.bind at hb
  dsimp only at hb
  split at hb
  · cases hb
  · rename_i a ha
    exact hf a (hp ts a ha) _ b hb

/-- Whatever the first parser gives. -/
theorem after {f : α → Parser β} (hf : ∀ a, (f a).Yields R) : (p >>= f).Yields R :=
  bind (P := fun _ => True) (fun _ _ _ => trivial) fun a _ => hf a

theorem map {f : α → β} (hp : p.Yields P) (hf : ∀ a, P a → R (f a)) : (f <$> p).Yields R :=
  bind hp fun a ha => ret (hf a ha)

theorem nil : (pure [] : Parser (List α)).Yields fun as => ∀ a ∈ as, P a :=
  ret (List.forall_mem_nil _)

theorem singleton (hp : p.Yields P) : (List.singleton <$> p).Yields fun as => ∀ a ∈ as, P a :=
  map hp fun _ ha => List.forall_mem_singleton.2 ha

theorem none : (pure Option.none : Parser (Option α)).Yields fun a? => ∀ a ∈ a?, P a :=
  ret fun _ ha => nomatch ha

theorem retSome {a : α} (h : P a) : (pure (Option.some a) : Parser (Option α)).Yields fun a? => ∀ a ∈ a?, P a :=
  ret fun _ ha => Option.mem_some.1 ha ▸ h

/-- A value that is made of what a parser gives. -/
theorem someOf {f : α → β} (hp : p.Yields P) (hf : ∀ a, P a → R (f a)) :
    (p >>= fun a => pure (Option.some (f a))).Yields fun b? => ∀ b ∈ b?, R b :=
  bind hp fun a ha => retSome (hf a ha)

theorem some (hp : p.Yields P) : (Option.some <$> p).Yields fun a? => ∀ a ∈ a?, P a :=
  someOf hp fun _ ha => ha

theorem fail (wanted : String) : Yields (Parser.fail wanted) P :=
  fun _ _ h => nomatch h

theorem tooDeep : Yields Parser.tooDeep P :=
  fun _ _ h => nomatch h

theorem ite {c : Prop} [Decidable c] (hp : p.Yields P) (hq : q.Yields P) : (if c then p else q).Yields P := by
  split
  · exact hp
  · exact hq

/-- Whatever a test says of the tokens ahead. -/
theorem ifAny {test : Parser Bool} (hp : p.Yields P) (hq : q.Yields P) :
    (test >>= fun b => if b = true then p else q).Yields P :=
  after fun _ => ite hp hq

theorem ifAny_bind {test : Parser Bool} {f : α → Parser β} (hp : p.Yields P) (hq : q.Yields P)
    (hf : ∀ a, P a → (f a).Yields R) : (test >>= fun b => if b = true then p >>= f else q >>= f).Yields R :=
  ifAny (bind hp hf) (bind hq hf)

/-! ### Loops -/

/-- Whatever the body preserves at each turn, the loop preserves; by induction on what is left of the tokens. -/
theorem loop {separator : Tokens → Option (Nat × ω)} {body : α → ω → Parser α}
    (hbody : ∀ a o, P a → (body a o).Yields P) {a : α} (ha : P a) : (Parser.loop separator body a).Yields P := by
  intro ts b hb
  change (loopRun separator body a ts).result = .ok b at hb
  fun_induction loopRun separator body a ts with
  | case1 a => exact Except.ok.inj hb ▸ ha
  | case2 a => exact Except.ok.inj hb ▸ ha
  | case3 => cases hb
  | case4 a t tail extra o _ r c hc _ ih => exact ih (hbody a o ha _ c hc) hb

theorem commaSeparated (hp : p.Yields P) : (Parser.commaSeparated p).Yields fun as => ∀ a ∈ as, P a := by
  refine bind hp fun first hfirst => loop (fun as _ has => ?_) (List.forall_mem_singleton.2 hfirst)
  exact bind hp fun a ha => ret (List.forall_mem_append.2 ⟨has, List.forall_mem_singleton.2 ha⟩)

/-- By induction on what is left of the tokens; an item that fails adds nothing. -/
theorem recovering {stop : Tokens → Bool} {resume : Tokens → Nat} {item : Parser (Option α)}
    (hitem : item.Yields fun a? => ∀ a ∈ a?, P a) :
    (Parser.recovering stop resume item).Yields fun as => ∀ a ∈ as, P a := by
  intro ts as has
  change (recoverRun stop resume item ts).result = .ok as at has
  fun_induction recoverRun stop resume item ts generalizing as with
  | case1 => exact Except.ok.inj has ▸ List.forall_mem_nil _
  | case2 => exact Except.ok.inj has ▸ List.forall_mem_nil _
  | case3 => cases has
  | case4 _ _ _ _ _ _ _ _ ih => exact ih as has
  | case5 t tail _ r next a? ha others ih =>
    obtain ⟨bs, hothers, rfl⟩ := map_eq_ok_iff.1 has
    exact List.forall_mem_append.2 ⟨fun b hb => hitem _ a? ha b (Option.mem_toList.1 hb), ih bs hothers⟩

end Yields

end ChangeImpact.Sql.Parser
