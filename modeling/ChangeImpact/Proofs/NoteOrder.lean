import ChangeImpact.Proofs.Procedure.Grammar
import ChangeImpact.Proofs.Run

/-!
# Where problems are noted

A parser reads on and never goes back, so each problem is noted at a position behind the one before it, and a failure
stands where the parser stopped.  Therefore a loop that notes a failure only after the parser has given up still notes
it at its place: everything noted before stands in front of it, and everything noted later stands behind.

* `NotedOnWay ts ns us`: the notes `ns` were made one after the other on the way from `ts` to `us`;
* `Parser.InOrder`: the notes of a reply were made on the way to what the parser left, and its failure stands there;
* `Procedure.inOrder`: a procedure is in order if what it nests is, so by induction on the number of levels all parsers
  of a grammar are (`Grammar.inOrder_ofLevels`).
-/

namespace ChangeImpact.Sql

/-! ### Notes on the way -/

/-- Notes made one after the other, each before the tokens that were left at this point. -/
inductive NotedOnWay : Tokens → List Note → Tokens → Prop
  | done {ts us : Tokens} : us <:+ ts → NotedOnWay ts [] us
  | note {ts us vs : Tokens} {n : Note} {ns : List Note} : us <:+ ts → n.line? = us.line? → NotedOnWay us ns vs →
      NotedOnWay ts (n :: ns) vs

namespace NotedOnWay

variable {ts us vs : Tokens} {ns ms : List Note} {n : Note}

theorem of_suffix (h : us <:+ ts) (hus : NotedOnWay us ns vs) : NotedOnWay ts ns vs := by
  cases hus with
  | done hvs => exact .done (hvs.trans h)
  | note hus hline hrest => exact .note (hus.trans h) hline hrest

theorem append (hts : NotedOnWay ts ns us) (hus : NotedOnWay us ms vs) : NotedOnWay ts (ns ++ ms) vs := by
  induction hts with
  | done h => exact hus.of_suffix h
  | note h hline _ ih => exact .note h hline (ih hus)

end NotedOnWay

/-- The notes stand on the way to what is left, and a failure stands in front of it. -/
structure Reply.InOrder {α : Type} (r : Reply α) (ts : Tokens) : Prop where
  notes : NotedOnWay ts r.notes r.rest
  failure : ∀ n, r.result = .error (.unexpected n) → n.line? = r.rest.line?

theorem Reply.InOrder.of_ok {α : Type} {r : Reply α} {ts : Tokens} {a : α} (h : r.result = .ok a)
    (hnotes : NotedOnWay ts r.notes r.rest) : r.InOrder ts :=
  ⟨hnotes, fun n hn => by rw [h] at hn; cases hn⟩

theorem Reply.InOrder.of_tooDeep {α : Type} {r : Reply α} {ts : Tokens} {line? : Option Nat}
    (h : r.result = .error (.tooDeep line?)) (hnotes : NotedOnWay ts r.notes r.rest) : r.InOrder ts :=
  ⟨hnotes, fun n hn => by rw [h] at hn; cases hn⟩

namespace Parser

variable {α β ω : Type}

/-- Where to go on is no farther back than what was read. -/
theorem progress_suffix_rest {ts rest : Tokens} (h : rest <:+ ts) : progress ts rest <:+ rest := by
  unfold progress
  split
  · exact List.suffix_rfl
  · rename_i hlength
    rw [h.eq_of_length (Nat.le_antisymm h.length_le (Nat.le_of_not_lt hlength))]
    exact List.drop_suffix ..

/-- On any tokens, the reply is in order. -/
structure InOrder (p : Parser α) : Prop where
  reply : ∀ ts, (p.run ts).InOrder ts

namespace InOrder

variable {p : Parser α}

theorem ret (a : α) : InOrder (pure a : Parser α) where
  reply _ := .of_ok rfl (.done List.suffix_rfl)

theorem look (f : Tokens → α) : (look f).InOrder where
  reply _ := .of_ok rfl (.done List.suffix_rfl)

theorem skipBy (count : Tokens → Nat) : (skipBy count).InOrder where
  reply _ := .of_ok rfl (.done (List.drop_suffix ..))

theorem noted (problem : Problem) : (note problem).InOrder where
  reply _ := .of_ok rfl (.note List.suffix_rfl rfl (.done List.suffix_rfl))

theorem noteDynamicSql : noteDynamicSql.InOrder where
  reply _ := .of_ok rfl (.note List.suffix_rfl rfl (.done List.suffix_rfl))

theorem fail (wanted : String) : (fail wanted : Parser α).InOrder where
  reply _ := ⟨.done List.suffix_rfl, fun _ h => by cases h; rfl⟩

theorem tooDeep : (tooDeep : Parser α).InOrder where
  reply _ := .of_tooDeep rfl (.done List.suffix_rfl)

/-- The second parser goes on where the first one stopped. -/
theorem bind {f : α → Parser β} (hp : p.InOrder) (hf : ∀ a, (f a).InOrder) : (p >>= f).InOrder where
  reply ts := by
    change ((Parser.bind p f).run ts).InOrder ts
    unfold Parser.bind
    obtain ⟨hnotes, hfailure⟩ := hp.reply ts
    dsimp only
    split
    · rename_i e he
      refine ⟨hnotes, fun n hn => hfailure n ?_⟩
      rw [he, Except.error.inj hn]
    · rename_i a ha
      obtain ⟨hnotes', hfailure'⟩ := (hf a).reply (p.run ts).rest
      exact ⟨hnotes.append hnotes', hfailure'⟩

/-- By induction on what is left of the tokens. -/
theorem loop {separator : Tokens → Option (Nat × ω)} {body : α → ω → Parser α} (hbody : ∀ a o, (body a o).InOrder)
    (a : α) : (loop separator body a).InOrder where
  reply ts := by
    change (loopRun separator body a ts).InOrder ts
    have hdrop (extra : Nat) (t : Token) (tail : Tokens) : tail.drop extra <:+ t :: tail :=
      (List.drop_suffix ..).trans (List.suffix_cons ..)
    fun_induction loopRun separator body a ts with
    | case1 => exact .of_ok rfl (.done List.suffix_rfl)
    | case2 => exact .of_ok rfl (.done List.suffix_rfl)
    | case3 a t tail extra o _ r e he =>
      obtain ⟨hnotes, hfailure⟩ := (hbody a o).reply (tail.drop extra)
      exact ⟨hnotes.of_suffix (hdrop extra t tail), fun n hn => hfailure n (he.trans hn)⟩
    | case4 a t tail extra o _ r b _ r' ih =>
      obtain ⟨hnotes, _⟩ := (hbody a o).reply (tail.drop extra)
      exact ⟨(hnotes.append ih.notes).of_suffix (hdrop extra t tail), ih.failure⟩

/-- By induction on what is left of the tokens.  A failure of an item is noted behind what the item noted itself, and
in front of what is noted from the next boundary on. -/
theorem recovering {stop : Tokens → Bool} {resume : Tokens → Nat} {item : Parser (Option α)} (hitem : item.InOrder) :
    (recovering stop resume item).InOrder where
  reply ts := by
    change (recoverRun stop resume item ts).InOrder ts
    fun_induction recoverRun stop resume item ts with
    | case1 => exact .of_ok rfl (.done List.suffix_rfl)
    | case2 => exact .of_ok rfl (.done List.suffix_rfl)
    | case3 t tail => exact .of_tooDeep rfl (hitem.reply (t :: tail)).notes
    | case4 t tail _ r next n hn r' ih =>
      obtain ⟨hnotes, hfailure⟩ := hitem.reply (t :: tail)
      have hnext : next <:+ r.rest := progress_suffix_rest (item.suffix _)
      have hlater := ih.notes.of_suffix ((List.drop_suffix ..).trans hnext)
      exact ⟨hnotes.append (.note List.suffix_rfl (hfailure n hn) hlater), ih.failure⟩
    | case5 t tail _ r next a? _ r' ih =>
      have hnext : next <:+ r.rest := progress_suffix_rest (item.suffix _)
      have hnotes := (hitem.reply (t :: tail)).notes.append (ih.notes.of_suffix hnext)
      exact ⟨hnotes, fun n hn => ih.failure n (map_eq_error_iff.1 hn)⟩

end InOrder

end Parser

/-! ### Grammars -/

/-- All parsers of the grammar are in order. -/
class Grammar.InOrder (inner : Grammar) : Prop where
  parser : ∀ {α : Type} (k : Nonterminal α), (inner.parser k).InOrder

theorem Procedure.inOrder {α : Type} {F : Grammar → Parser α} (hF : Procedure F) (inner : Grammar)
    [hinner : inner.InOrder] : (F inner).InOrder := by
  induction hF with
  | ret a => exact .ret a
  | look f => exact .look f
  | skipBy count => exact .skipBy count
  | note problem _ => exact .noted problem
  | noteDynamicSql => exact .noteDynamicSql
  | fail wanted => exact .fail wanted
  | bind _ _ ih ih' => exact .bind ih ih'
  | loop a _ ih => exact .loop ih a
  | recovering _ ih => exact .recovering ih
  | nested k => exact hinner.parser k

namespace Grammar

theorem inOrder_ofLevels (levels : Nat) : (ofLevels levels).InOrder := by
  induction levels with
  | zero => exact ⟨fun k => by cases k <;> exact .tooDeep⟩
  | succ levels ih => exact ⟨fun k => (procedure_deepen k).inOrder (ofLevels levels)⟩

theorem inOrder_statements (inner : Grammar) [inner.InOrder] (stopWords : List String) :
    (statements inner stopWords).InOrder :=
  (procedure_statements stopWords).inOrder inner

end Grammar

end ChangeImpact.Sql
