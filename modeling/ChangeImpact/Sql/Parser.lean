import ChangeImpact.Sql.Diagnostic
import ChangeImpact.Sql.Keyword

/-!
# Parsers over tokens

A parser reads a definition from the left and answers with a value or a failure, the tokens it left, the problems it
noted on the way, and how many calls it counted there whose target is known only when they run; all but the value are
kept when it fails. What it leaves is a suffix of what it was given, by its type, so loops end by the number of tokens
left:

* `loop`: goes on as long as a separator stands ahead, which it reads together with what follows;
* `recovering`: reads items up to a stopping place and goes on after the next boundary when an item fails.
-/

namespace ChangeImpact.Sql

inductive Failure where
  | unexpected (note : Note)
  /-- The nesting limit was met before the token on this line. -/
  | tooDeep (line? : Option Nat)
  deriving DecidableEq, Repr

structure Reply (α : Type) where
  result : Except Failure α
  rest : Tokens
  notes : List Note
  /-- The calls counted on the way whose target is known only when they run. -/
  dynamicSql : Nat

structure Parser (α : Type) where
  run : Tokens → Reply α
  suffix : ∀ ts, (run ts).rest <:+ ts

namespace Parser

variable {α β ω : Type}

protected def pure (a : α) : Parser α where
  run ts := ⟨.ok a, ts, [], 0⟩
  suffix _ := List.suffix_rfl

/-- The second parser reads what the first one left; a failure of the first is final. -/
protected def bind (p : Parser α) (f : α → Parser β) : Parser β where
  run ts :=
    let r := p.run ts
    match r.result with
    | .error e => ⟨.error e, r.rest, r.notes, r.dynamicSql⟩
    | .ok a =>
      let r' := (f a).run r.rest
      ⟨r'.result, r'.rest, r.notes ++ r'.notes, r.dynamicSql + r'.dynamicSql⟩
  suffix ts := by
    dsimp only
    split
    · exact p.suffix ts
    · exact ((_ : Parser β).suffix _).trans (p.suffix ts)

instance : Monad Parser where
  pure := Parser.pure
  bind := Parser.bind

/-- What can be said of the tokens ahead, without reading any. -/
def look (f : Tokens → α) : Parser α where
  run ts := ⟨.ok (f ts), ts, [], 0⟩
  suffix _ := List.suffix_rfl

/-- Reads as many tokens as the count says, or all that are left. -/
def skipBy (count : Tokens → Nat) : Parser Unit where
  run ts := ⟨.ok (), ts.drop (count ts), [], 0⟩
  suffix _ := List.drop_suffix ..

def skip (n : Nat) : Parser Unit :=
  skipBy fun _ => n

/-- Notes a problem with the next token. -/
def note (problem : Problem) : Parser Unit where
  run ts := ⟨.ok (), ts, [⟨ts.line?, problem⟩], 0⟩
  suffix _ := List.suffix_rfl

/-- Counts a call whose target is known only when it runs, and notes it at the next token. -/
def noteDynamicSql : Parser Unit where
  run ts := ⟨.ok (), ts, [⟨ts.line?, .dynamicSql⟩], 1⟩
  suffix _ := List.suffix_rfl

/-- Fails at the next token, where something else is wanted. -/
def fail (wanted : String) : Parser α where
  run ts := ⟨.error (.unexpected ⟨ts.line?, .expected wanted (ts.lexeme? 0)⟩), ts, [], 0⟩
  suffix _ := List.suffix_rfl

/-- Fails because nothing may be nested more deeply. -/
def tooDeep : Parser α where
  run ts := ⟨.error (.tooDeep ts.line?), ts, [], 0⟩
  suffix _ := List.suffix_rfl

/-! ### Loops -/

/-- `separator` says how many tokens to read after the first, and `body` goes on from there. -/
def loopRun (separator : Tokens → Option (Nat × ω)) (body : α → ω → Parser α) (a : α) (ts : Tokens) : Reply α :=
  match ts with
  | [] => ⟨.ok a, [], [], 0⟩
  | t :: tail =>
    match separator (t :: tail) with
    | none => ⟨.ok a, t :: tail, [], 0⟩
    | some (extra, o) =>
      let r := (body a o).run (tail.drop extra)
      match r.result with
      | .error e => ⟨.error e, r.rest, r.notes, r.dynamicSql⟩
      | .ok b =>
        let r' := loopRun separator body b r.rest
        ⟨r'.result, r'.rest, r.notes ++ r'.notes, r.dynamicSql + r'.dynamicSql⟩
termination_by ts.length
decreasing_by
  have := ((body a o).suffix (tail.drop extra)).length_le
  simp at this ⊢
  omega

theorem loopRun_suffix (separator : Tokens → Option (Nat × ω)) (body : α → ω → Parser α) (a : α) (ts : Tokens) :
    (loopRun separator body a ts).rest <:+ ts := by
  fun_induction loopRun separator body a ts with
  | case1 => exact List.suffix_rfl
  | case2 => exact List.suffix_rfl
  | case3 a t tail extra o =>
    exact ((body a o).suffix _).trans ((List.drop_suffix ..).trans (List.suffix_cons ..))
  | case4 a t tail extra o _ _ _ _ _ ih =>
    exact ih.trans (((body a o).suffix _).trans ((List.drop_suffix ..).trans (List.suffix_cons ..)))

/-- From `a`, reads separators and what follows each of them, as long as one stands ahead. -/
def loop (separator : Tokens → Option (Nat × ω)) (body : α → ω → Parser α) (a : α) : Parser α where
  run := loopRun separator body a
  suffix := loopRun_suffix separator body a

/-- Items between commas, at least one. -/
def commaSeparated (item : Parser α) : Parser (List α) := do
  let first ← item
  loop (fun ts => if ts.hasLexeme 0 .comma then some (0, ()) else none)
    (fun items _ => do return items ++ [← item]) [first]

/-- Where to go on after `ts` was read down to `rest`: at least one token is passed. -/
def progress (ts rest : Tokens) : Tokens :=
  if rest.length < ts.length then rest else ts.drop 1

theorem progress_suffix {ts rest : Tokens} (h : rest <:+ ts) : progress ts rest <:+ ts := by
  unfold progress
  split
  · exact h
  · exact List.drop_suffix ..

theorem progress_length_lt (t : Token) (ts rest : Tokens) :
    (progress (t :: ts) rest).length < (t :: ts).length := by
  unfold progress
  split
  · assumption
  · simp

/-- Reads items up to the end or a stopping place. An item that fails is noted, and reading goes on after as many of
the tokens behind it as `resume` counts. -/
def recoverRun (stop : Tokens → Bool) (resume : Tokens → Nat) (item : Parser (Option α)) (ts : Tokens) :
    Reply (List α) :=
  match ts with
  | [] => ⟨.ok [], [], [], 0⟩
  | t :: tail =>
    if stop (t :: tail) then ⟨.ok [], t :: tail, [], 0⟩
    else
      let r := item.run (t :: tail)
      let next := progress (t :: tail) r.rest
      match r.result with
      | .error (.tooDeep line?) => ⟨.error (.tooDeep line?), r.rest, r.notes, r.dynamicSql⟩
      | .error (.unexpected n) =>
        let r' := recoverRun stop resume item (next.drop (resume next))
        ⟨r'.result, r'.rest, r.notes ++ n :: r'.notes, r.dynamicSql + r'.dynamicSql⟩
      | .ok a =>
        let r' := recoverRun stop resume item next
        ⟨r'.result.map (a.toList ++ ·), r'.rest, r.notes ++ r'.notes, r.dynamicSql + r'.dynamicSql⟩
termination_by ts.length
decreasing_by
  · have := progress_length_lt t tail (item.run (t :: tail)).rest
    simp only [List.length_drop]
    omega
  · exact progress_length_lt t tail _

theorem recoverRun_suffix (stop : Tokens → Bool) (resume : Tokens → Nat) (item : Parser (Option α)) (ts : Tokens) :
    (recoverRun stop resume item ts).rest <:+ ts := by
  fun_induction recoverRun stop resume item ts with
  | case1 => exact List.suffix_rfl
  | case2 => exact List.suffix_rfl
  | case3 => exact item.suffix _
  | case4 _ _ _ _ _ _ _ _ ih =>
    exact ih.trans ((List.drop_suffix ..).trans (progress_suffix (item.suffix _)))
  | case5 _ _ _ _ _ _ _ _ ih => exact ih.trans (progress_suffix (item.suffix _))

/-- Items up to the end or a stopping place, without those that failed. -/
def recovering (stop : Tokens → Bool) (resume : Tokens → Nat) (item : Parser (Option α)) : Parser (List α) where
  run := recoverRun stop resume item
  suffix := recoverRun_suffix stop resume item

/-! ### Single tokens -/

def peek : Parser (Option Lexeme) :=
  look (·.lexeme? 0)

/-- Reads `n` tokens if the test holds of the tokens ahead, and says whether it did. -/
def acceptIf (test : Tokens → Bool) (n : Nat) : Parser Bool := do
  if ← look test then
    skip n
    return true
  else return false

def accept (lexeme : Lexeme) : Parser Bool :=
  acceptIf (·.hasLexeme 0 lexeme) 1

def acceptKeyword (keyword : String) : Parser Bool :=
  acceptIf (·.hasKeyword 0 keyword) 1

/-- Reads the first of two keywords, else the second, if one of them stands ahead. -/
def skipEither (first second : String) : Parser Unit := do
  unless ← acceptKeyword first do
    discard <| acceptKeyword second

def expect (lexeme : Lexeme) : Parser Unit := do
  unless ← accept lexeme do
    fail lexeme.describe

def expectKeyword (keyword : String) : Parser Unit := do
  unless ← acceptKeyword keyword do
    fail keyword

end Parser

end ChangeImpact.Sql
