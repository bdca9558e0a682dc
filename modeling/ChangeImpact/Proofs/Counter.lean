import ChangeImpact.Proofs.Procedure.Grammar

/-!
# Runs with a counter of nestings

Instead of grammars inside one another, a run has a counter of how deeply what it reads is nested.  The counter goes up
by one where something nested is begun and down by one where it is over, and nothing is begun once it stands at
`maxNesting`.  A run is a finite derivation, so that there is one says that the procedure terminates.

* `Runs.value_eq`, `Runs.peak_le`: a run leaves the counter as it was, and has not raised it above the limit;
* `Runs.reply_eq`: whatever comes of a run is the reply of the parser, with as many levels as the counter leaves;
* `Procedure.exists_run`: there is a run from any tokens, by induction on the levels that are left, then on the
  procedure, and in a loop on the number of tokens.
-/

namespace ChangeImpact.Sql

/-- The depth of the nesting, and the greatest that it has been. -/
structure Counter where
  value : Nat
  peak : Nat
  deriving DecidableEq, Repr

namespace Counter

/-- Nothing is nested yet. -/
def zero : Counter :=
  ⟨0, 0⟩

def enter (c : Counter) : Counter :=
  ⟨c.value + 1, max c.peak (c.value + 1)⟩

def leave (c : Counter) : Counter :=
  ⟨c.value - 1, c.peak⟩

end Counter

/-- The runs of a procedure over tokens, from a counter to a reply and the counter after it. -/
inductive Runs : {α : Type} → (Grammar → Parser α) → Tokens → Counter → Reply α → Counter → Prop
  | ret (a : α) : Runs (fun _ => pure a) ts c ⟨.ok a, ts, [], 0⟩ c
  | look (f : Tokens → α) : Runs (fun _ => Parser.look f) ts c ⟨.ok (f ts), ts, [], 0⟩ c
  | skipBy (count : Tokens → Nat) : Runs (fun _ => Parser.skipBy count) ts c ⟨.ok (), ts.drop (count ts), [], 0⟩ c
  | note (problem : Problem) : problem ≠ .dynamicSql →
      Runs (fun _ => Parser.note problem) ts c ⟨.ok (), ts, [⟨ts.line?, problem⟩], 0⟩ c
  | noteDynamicSql : Runs (fun _ => Parser.noteDynamicSql) ts c ⟨.ok (), ts, [⟨ts.line?, .dynamicSql⟩], 1⟩ c
  | fail (wanted : String) : Runs (fun _ => Parser.fail wanted) ts c
      ⟨.error (.unexpected ⟨ts.line?, .expected wanted (ts.lexeme? 0)⟩), ts, [], 0⟩ c
  -- the second parser runs on what the first one left
  | bindFailed {f : Grammar → α → Parser β} : Runs p ts c r c' → r.result = .error e →
      Runs (fun inner => p inner >>= f inner) ts c ⟨.error e, r.rest, r.notes, r.dynamicSql⟩ c'
  | bind {f : Grammar → α → Parser β} : Runs p ts c r c' → r.result = .ok a → Runs (f · a) r.rest c' r' c'' →
      Runs (fun inner => p inner >>= f inner) ts c
        ⟨r'.result, r'.rest, r.notes ++ r'.notes, r.dynamicSql + r'.dynamicSql⟩ c''
  -- a loop ends at the end or where no separator stands, and else has a turn
  | loopEnd {separator : Tokens → Option (Nat × ω)} {body : Grammar → α → ω → Parser α} :
      ts = [] ∨ separator ts = none →
      Runs (fun inner => Parser.loop separator (body inner) a) ts c ⟨.ok a, ts, [], 0⟩ c
  | loopFailed {separator : Tokens → Option (Nat × ω)} {body : Grammar → α → ω → Parser α} :
      separator (t :: tail) = some (extra, o) → Runs (body · a o) (tail.drop extra) c r c' →
      r.result = .error e →
      Runs (fun inner => Parser.loop separator (body inner) a) (t :: tail) c
        ⟨.error e, r.rest, r.notes, r.dynamicSql⟩ c'
  | loopTurn {separator : Tokens → Option (Nat × ω)} {body : Grammar → α → ω → Parser α} :
      separator (t :: tail) = some (extra, o) → Runs (body · a o) (tail.drop extra) c r c' →
      r.result = .ok b → Runs (fun inner => Parser.loop separator (body inner) b) r.rest c' r' c'' →
      Runs (fun inner => Parser.loop separator (body inner) a) (t :: tail) c
        ⟨r'.result, r'.rest, r.notes ++ r'.notes, r.dynamicSql + r'.dynamicSql⟩ c''
  -- items are read up to the end or a stopping place, and only one that is nested too deeply ends it before
  | recoveringEnd {stop : Tokens → Bool} {resume : Tokens → Nat} {item : Grammar → Parser (Option α)} :
      ts = [] ∨ stop ts →
      Runs (fun inner => Parser.recovering stop resume (item inner)) ts c ⟨.ok [], ts, [], 0⟩ c
  | recoveringTooDeep {stop : Tokens → Bool} {resume : Tokens → Nat} {item : Grammar → Parser (Option α)} :
      stop (t :: tail) = false → Runs item (t :: tail) c r c' →
      r.result = .error (.tooDeep line?) →
      Runs (fun inner => Parser.recovering stop resume (item inner)) (t :: tail) c
        ⟨.error (.tooDeep line?), r.rest, r.notes, r.dynamicSql⟩ c'
  | recoveringFailed {stop : Tokens → Bool} {resume : Tokens → Nat} {item : Grammar → Parser (Option α)} :
      stop (t :: tail) = false → Runs item (t :: tail) c r c' → r.result = .error (.unexpected n) →
      next = Parser.progress (t :: tail) r.rest →
      Runs (fun inner => Parser.recovering stop resume (item inner)) (next.drop (resume next)) c' r' c'' →
      Runs (fun inner => Parser.recovering stop resume (item inner)) (t :: tail) c
        ⟨r'.result, r'.rest, r.notes ++ n :: r'.notes, r.dynamicSql + r'.dynamicSql⟩ c''
  | recoveringItem {stop : Tokens → Bool} {resume : Tokens → Nat} {item : Grammar → Parser (Option α)} :
      stop (t :: tail) = false → Runs item (t :: tail) c r c' → r.result = .ok a? →
      Runs (fun inner => Parser.recovering stop resume (item inner)) (Parser.progress (t :: tail) r.rest) c' r' c'' →
      Runs (fun inner => Parser.recovering stop resume (item inner)) (t :: tail) c
        ⟨r'.result.map (a?.toList ++ ·), r'.rest, r.notes ++ r'.notes, r.dynamicSql + r'.dynamicSql⟩ c''
  -- what is nested is counted as long as it is read, or refused at the limit
  | nested (k : Nonterminal α) : c.value < maxNesting → Runs (·.deepen.parser k) ts c.enter r c' →
      Runs (·.parser k) ts c r c'.leave
  | tooDeep (k : Nonterminal α) : maxNesting ≤ c.value →
      Runs (·.parser k) ts c ⟨.error (.tooDeep ts.line?), ts, [], 0⟩ c

/-- One level is taken away where something nested is begun. -/
theorem Grammar.ofLevels_sub {n : Nat} (h : n < maxNesting) :
    ofLevels (maxNesting - n) = (ofLevels (maxNesting - (n + 1))).deepen := by
  have hlevels : maxNesting - n = maxNesting - (n + 1) + 1 := by omega
  rw [hlevels, ofLevels]

namespace Runs

variable {α : Type} {F : Grammar → Parser α} {ts : Tokens} {c c' : Counter} {r : Reply α}

/-- Whether it succeeds or fails, a run leaves the counter as it found it. -/
theorem value_eq (h : Runs F ts c r c') : c'.value = c.value := by
  induction h with
  | ret | look | skipBy | note | noteDynamicSql | fail | loopEnd | recoveringEnd | tooDeep => rfl
  | bindFailed _ _ ih => exact ih
  | bind _ _ _ ih ih' => exact ih'.trans ih
  | loopFailed _ _ _ ih => exact ih
  | loopTurn _ _ _ _ ih ih' => exact ih'.trans ih
  | recoveringTooDeep _ _ _ ih => exact ih
  | recoveringFailed _ _ _ _ _ ih ih' => exact ih'.trans ih
  | recoveringItem _ _ _ _ ih ih' => exact ih'.trans ih
  | nested _ _ _ ih =>
    simp only [Counter.enter, Counter.leave] at ih ⊢
    omega

/-- The counter is never raised above the limit. -/
theorem peak_le (h : Runs F ts c r c') : c.peak ≤ c'.peak ∧ c'.peak ≤ max c.peak maxNesting := by
  induction h with
  | ret | look | skipBy | note | noteDynamicSql | fail | loopEnd | recoveringEnd | tooDeep =>
    exact ⟨Nat.le_refl _, Nat.le_max_left ..⟩
  | bindFailed _ _ ih => exact ih
  | bind _ _ _ ih ih' => omega
  | loopFailed _ _ _ ih => exact ih
  | loopTurn _ _ _ _ ih ih' => omega
  | recoveringTooDeep _ _ _ ih => exact ih
  | recoveringFailed _ _ _ _ _ ih ih' => omega
  | recoveringItem _ _ _ _ ih ih' => omega
  | nested _ hlimit _ ih =>
    simp only [Counter.enter, Counter.leave] at ih ⊢
    omega

/-- What comes of a run is the reply of the parser around the levels that the counter leaves. -/
theorem reply_eq (h : Runs F ts c r c') (hc : c.value ≤ maxNesting) :
    r = (F (.ofLevels (maxNesting - c.value))).run ts := by
  induction h with
  | ret | look | skipBy | note | noteDynamicSql | fail => rfl
  | bindFailed hp he ih =>
    simp only [Bind.bind, Parser.bind, ← ih hc, he]
  | bind hp ha hf ih ih' =>
    rw [hp.value_eq] at ih'
    simp only [Bind.bind, Parser.bind, ← ih hc, ha, ← ih' hc]
  | @loopEnd _ _ ts _ _ _ _ hend =>
    simp only [Parser.loop]
    cases ts with
    | nil => rw [Parser.loopRun]
    | cons t tail => rw [Parser.loopRun, hend.resolve_left (List.cons_ne_nil _ _)]
  | loopFailed hsep _ he ih =>
    simp only [Parser.loop]
    rw [Parser.loopRun]
    simp only [hsep, ← ih hc, he]
  | loopTurn hsep hp ha _ ih ih' =>
    rw [hp.value_eq] at ih'
    simp only [Parser.loop] at ih' ⊢
    rw [Parser.loopRun]
    simp only [hsep, ← ih hc, ha, ← ih' hc]
  | @recoveringEnd _ ts _ _ _ _ hend =>
    simp only [Parser.recovering]
    cases ts with
    | nil => rw [Parser.recoverRun]
    | cons t tail => rw [Parser.recoverRun, if_pos (hend.resolve_left (List.cons_ne_nil _ _))]
  | recoveringTooDeep hstop _ he ih =>
    simp only [Parser.recovering]
    rw [Parser.recoverRun]
    simp only [hstop, ← ih hc, he, Bool.false_eq_true, if_false]
  | recoveringFailed hstop hp he hnext _ ih ih' =>
    rw [hp.value_eq] at ih'
    simp only [Parser.recovering] at ih' ⊢
    rw [Parser.recoverRun]
    simp only [hstop, ← ih hc, he, Bool.false_eq_true, if_false, ← hnext, ← ih' hc]
  | recoveringItem hstop hp ha _ ih ih' =>
    rw [hp.value_eq] at ih'
    simp only [Parser.recovering] at ih' ⊢
    rw [Parser.recoverRun]
    simp only [hstop, ← ih hc, ha, Bool.false_eq_true, if_false, ← ih' hc]
  | nested _ hlimit _ ih =>
    rw [Grammar.ofLevels_sub hlimit]
    exact ih hlimit
  | tooDeep k hlimit =>
    rw [Nat.sub_eq_zero_of_le hlimit]
    cases k <;> rfl

/-- No run goes back behind what it was given. -/
theorem suffix (h : Runs F ts c r c') (hc : c.value ≤ maxNesting) : r.rest <:+ ts := by
  rw [h.reply_eq hc]
  exact Parser.suffix _ ts

end Runs

/-! ### Termination -/

/-- From a value of the counter, there is a run over all tokens. -/
def Terminates {α : Type} (F : Grammar → Parser α) (n : Nat) : Prop :=
  ∀ ts c, c.value = n → ∃ r c', Runs F ts c r c'

namespace Terminates

variable {α ω : Type} {n : Nat}

/-- A turn of a loop reads its separator, so fewer tokens are left for the next one. -/
theorem loop (hn : n ≤ maxNesting) {separator : Tokens → Option (Nat × ω)} {body : Grammar → α → ω → Parser α}
    (hbody : ∀ a o, Terminates (body · a o) n) (a : α) :
    Terminates (fun inner => Parser.loop separator (body inner) a) n := by
  intro ts
  induction hlength : ts.length using Nat.strongRecOn generalizing ts a with
  | _ length ih =>
    intro c hc
    cases ts with
    | nil => exact ⟨_, _, .loopEnd (.inl rfl)⟩
    | cons t tail =>
      cases hsep : separator (t :: tail) with
      | none => exact ⟨_, _, .loopEnd (.inr hsep)⟩
      | some next =>
        obtain ⟨extra, o⟩ := next
        obtain ⟨r, c', hr⟩ := hbody a o (tail.drop extra) c hc
        cases hresult : r.result with
        | error e => exact ⟨_, _, .loopFailed hsep hr hresult⟩
        | ok b =>
          have hlt : r.rest.length < length := by
            have hle := (hr.suffix (hc ▸ hn)).length_le
            simp only [List.length_cons, List.length_drop] at hlength hle
            omega
          obtain ⟨_, _, hr'⟩ := ih _ hlt b r.rest rfl c' (hr.value_eq.trans hc)
          exact ⟨_, _, .loopTurn hsep hr hresult hr'⟩

/-- An item may read nothing, but then its first token is passed over. -/
theorem recovering {stop : Tokens → Bool} {resume : Tokens → Nat} {item : Grammar → Parser (Option α)}
    (hitem : Terminates item n) : Terminates (fun inner => Parser.recovering stop resume (item inner)) n := by
  intro ts
  induction hlength : ts.length using Nat.strongRecOn generalizing ts with
  | _ length ih =>
    intro c hc
    cases ts with
    | nil => exact ⟨_, _, .recoveringEnd (.inl rfl)⟩
    | cons t tail =>
      cases hstop : stop (t :: tail) with
      | true => exact ⟨_, _, .recoveringEnd (.inr hstop)⟩
      | false =>
        obtain ⟨r, c', hr⟩ := hitem (t :: tail) c hc
        have hc' : c'.value = n := hr.value_eq.trans hc
        have hlt : (Parser.progress (t :: tail) r.rest).length < length :=
          hlength ▸ Parser.progress_length_lt t tail r.rest
        have hdrop (us : Tokens) : (us.drop (resume us)).length ≤ us.length := (List.drop_suffix ..).length_le
        match hresult : r.result with
        | .error (.tooDeep line?) => exact ⟨_, _, .recoveringTooDeep hstop hr hresult⟩
        | .error (.unexpected note) =>
          obtain ⟨_, _, hr'⟩ := ih _ (Nat.lt_of_le_of_lt (hdrop _) hlt) _ rfl c' hc'
          exact ⟨_, _, .recoveringFailed hstop hr hresult rfl hr'⟩
        | .ok a? =>
          obtain ⟨_, _, hr'⟩ := ih _ hlt _ rfl c' hc'
          exact ⟨_, _, .recoveringItem hstop hr hresult hr'⟩

end Terminates

namespace Procedure

variable {α : Type} {F : Grammar → Parser α} {n : Nat}

/-- A procedure terminates if everything that it nests does. -/
theorem terminates_of_nested (hF : Procedure F) (hn : n ≤ maxNesting)
    (h : ∀ {β : Type} (k : Nonterminal β), Terminates (·.parser k) n) : Terminates F n := by
  induction hF with
  | ret a => exact fun _ _ _ => ⟨_, _, .ret a⟩
  | look f => exact fun _ _ _ => ⟨_, _, .look f⟩
  | skipBy count => exact fun _ _ _ => ⟨_, _, .skipBy count⟩
  | note problem h => exact fun _ _ _ => ⟨_, _, .note problem h⟩
  | noteDynamicSql => exact fun _ _ _ => ⟨_, _, .noteDynamicSql⟩
  | fail wanted => exact fun _ _ _ => ⟨_, _, .fail wanted⟩
  | bind _ _ ih ih' =>
    intro ts c hc
    obtain ⟨r, c', hr⟩ := ih ts c hc
    cases hresult : r.result with
    | error e => exact ⟨_, _, .bindFailed hr hresult⟩
    | ok a =>
      obtain ⟨_, _, hr'⟩ := ih' a r.rest c' (hr.value_eq.trans hc)
      exact ⟨_, _, .bind hr hresult hr'⟩
  | loop a _ ih => exact .loop hn ih a
  | recovering _ ih => exact .recovering ih
  | nested k => exact h k

/-- By induction on the levels that are left. -/
theorem terminates_nested {levels : Nat} (hn : n + levels = maxNesting) {β : Type} (k : Nonterminal β) :
    Terminates (·.parser k) n := by
  induction levels generalizing n β k with
  | zero => exact fun _ _ hc => ⟨_, _, .tooDeep k (hc ▸ Nat.le_of_eq hn.symm)⟩
  | succ levels ih =>
    intro ts c hc
    have hlimit : n < maxNesting := by omega
    have hdeeper : Terminates (·.deepen.parser k) (n + 1) :=
      (Grammar.procedure_deepen k).terminates_of_nested hlimit (ih (by omega))
    obtain ⟨_, _, hr⟩ := hdeeper ts c.enter (congrArg (· + 1) hc)
    exact ⟨_, _, .nested k (hc ▸ hlimit) hr⟩

/-- Every procedure terminates, on all tokens and from every counter within the limit. -/
theorem exists_run (hF : Procedure F) (ts : Tokens) {c : Counter} (hc : c.value ≤ maxNesting) :
    ∃ r c', Runs F ts c r c' :=
  hF.terminates_of_nested hc (terminates_nested (Nat.add_sub_cancel' hc)) ts c rfl

end Procedure

end ChangeImpact.Sql
