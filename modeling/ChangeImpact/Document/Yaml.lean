import ChangeImpact.Document.Yaml.Token.Scan
import ChangeImpact.Document.Yaml.Value

/-!
# Texts in YAML

A text holds one document at most, with directives in front of it if it has marks of its own. A text without a
document stands for a scalar without characters.
-/

namespace ChangeImpact.Yaml

/-! ### Directives -/

/-- The directives of a document: whether its version is given, and what its handles are short for. -/
structure Directives where
  hasVersion : Bool
  known : Shorthands

/-- Handles that need no directive. -/
def usualShorthands : Shorthands :=
  [("!", "!"), ("!!", "tag:yaml.org,2002:")]

/-- Takes the directives in front of a document; a version may be given once, and a handle as well. -/
def takeDirectives (given : Directives) : List Token → Option (Directives × List Token)
  | .version major minor :: ts =>
    if given.hasVersion || major != 1 || !(minor == 1 || minor == 2) then none
    else takeDirectives { given with hasVersion := true } ts
  | .shorthand handle address :: ts =>
    if (given.known.lookup handle).isSome then none
    else takeDirectives { given with known := (handle, address) :: given.known } ts
  | ts => some (given, ts)

/-! ### Documents -/

/-- Readers need no more steps than this to take all tokens. -/
def steps (ts : List Token) : Nat :=
  4 * ts.length + 4

/-- What stands between the marks of a document. -/
def takeDocument (known : Shorthands) (ts : List Token) : Option (Taken Node) :=
  match ts with
  | [] | .version _ _ :: _ | .shorthand _ _ :: _ | .documentStart :: _ | .documentEnd :: _ => some (.blank, [], ts)
  | ts => takeNode (known ++ usualShorthands) false false (steps ts) ts

/-- Takes a document, with the mark at its beginning if it has one. -/
def takeMarkedDocument (ts : List Token) : Option (Taken Node) := do
  match ts with
  | .version _ _ :: _ | .shorthand _ _ :: _ | .documentStart :: _ =>
    match ← takeDirectives ⟨false, []⟩ ts with
    | (given, .documentStart :: ts) => takeDocument given.known ts
    | _ => none
  | .documentEnd :: _ => none
  | ts => takeDocument [] ts

/-- The value that a text stands for. -/
def read (text : String) : Option Value := do
  let (root, anchored, rest) ← takeMarkedDocument (← tokens? text)
  if rest.all (· == .documentEnd) then some ⟨anchored, root⟩ else none

end ChangeImpact.Yaml
