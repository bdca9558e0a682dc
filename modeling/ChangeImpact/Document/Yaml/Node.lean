import ChangeImpact.Document.Yaml.Token

/-!
# Nodes of YAML

The tree that the tokens of a text make. A node may be left out where a scalar without characters can stand for it:
as an item, as a key and as a value.

A reader takes tokens from the front. It answers with what it read, with the nodes in there that have an anchor, in
the order in which they begin, and with the tokens after it.
-/

namespace ChangeImpact.Yaml

inductive Node where
  /-- The tag is the full address, if there is one. -/
  | scalar (style : Style) (tag : Option String) (text : String)
  | list (items : List Node)
  | object (fields : List (Node × Node))
  | reference (number : Nat)

namespace Node

/-- Stands for a node that is left out. -/
def blank : Node :=
  scalar .plain none ""

end Node

/-- Nodes with the numbers of their anchors. -/
abbrev Anchored := List (Nat × Node)

/-- What a reader answers with. -/
abbrev Taken (α : Type) := α × Anchored × List Token

/-! ### Properties -/

/-- What handles are short for. -/
abbrev Shorthands := List (String × String)

structure Properties where
  anchor : Option Nat
  tag : Option String

/-- The address of a tag; its handle must be known unless it is empty. -/
def fullTag (known : Shorthands) (handle suffix : String) : Option String :=
  if handle.isEmpty then some suffix else (known.lookup handle).map (· ++ suffix)

/-- The anchor and the tag in front of a node, in any order. -/
def takeProperties (known : Shorthands) : List Token → Option (Properties × List Token)
  | .anchor n :: .tag handle suffix :: ts => (fullTag known handle suffix).map fun tag => (⟨some n, some tag⟩, ts)
  | .tag handle suffix :: .anchor n :: ts => (fullTag known handle suffix).map fun tag => (⟨some n, some tag⟩, ts)
  | .anchor n :: ts => some (⟨some n, none⟩, ts)
  | .tag handle suffix :: ts => (fullTag known handle suffix).map fun tag => (⟨none, some tag⟩, ts)
  | ts => some (⟨none, none⟩, ts)

/-! ### Nodes -/

/-- No node is written in front of any of these tokens. -/
def isLeftOut (ends : List Token) (ts : List Token) : Bool :=
  ts.head?.any ends.contains

mutual

/-- A node. Within brackets it cannot be a block. Where it is the value of a field, its items may stand below the key
without being indented, so that they are not a block. -/
def takeNode (known : Shorthands) (inBrackets isField : Bool) :
    Nat → List Token → Option (Taken Node)
  | 0, _ => none
  | fuel + 1, ts =>
    match ts with
    | .reference n :: ts => some (.reference n, [], ts)
    | ts => do
      let (properties, ts) ← takeProperties known ts
      let (node, inner, ts) ← takeContent known inBrackets isField properties fuel ts
      some (node, (properties.anchor.map (·, node)).toList ++ inner, ts)

/-- A node behind its properties. A scalar may be left out if there are any. -/
def takeContent (known : Shorthands) (inBrackets isField : Bool) (properties : Properties) :
    Nat → List Token → Option (Taken Node)
  | 0, _ => none
  | fuel + 1, ts =>
    let isBlock := !inBrackets
    match ts with
    | .scalar style text :: ts => some (.scalar style (properties.tag.filter (· != "!")) text, [], ts)
    | .openList :: ts => (takeListItems known true fuel ts).map fun (items, rest) => (.list items, rest)
    | .openObject :: ts => (takeObjectFields known true fuel ts).map fun (fields, rest) => (.object fields, rest)
    | ts =>
      if isField && ts.head? == some .dash then
        (takeItems known false fuel ts).map fun (items, rest) => (.list items, rest)
      else if isBlock && ts.head? == some .listBlock then
        (takeItems known true fuel (ts.drop 1)).map fun (items, rest) => (.list items, rest)
      else if isBlock && ts.head? == some .objectBlock then
        (takeFields known fuel (ts.drop 1)).map fun (fields, rest) => (.object fields, rest)
      else if properties.anchor.isSome || properties.tag.isSome then some (.scalar .plain properties.tag "", [], ts)
      else none

/-- A node, or nothing in front of some tokens. -/
def takeNodeBefore (known : Shorthands) (ends : List Token) (inBrackets isField : Bool) :
    Nat → List Token → Option (Taken Node)
  | 0, _ => none
  | fuel + 1, ts => if isLeftOut ends ts then some (.blank, [], ts) else takeNode known inBrackets isField fuel ts

/-- Items by dashes; they are a block, or end with the first token that is no dash. -/
def takeItems (known : Shorthands) (isBlock : Bool) : Nat → List Token → Option (Taken (List Node))
  | 0, _ => none
  | fuel + 1, ts =>
    match ts with
    | .dash :: ts => do
      let ends := if isBlock then [.dash, .blockEnd] else [.dash, .key, .value, .blockEnd]
      let (item, first, ts) ← takeNodeBefore known ends false false fuel ts
      let (items, others, ts) ← takeItems known isBlock fuel ts
      some (item :: items, first ++ others, ts)
    | ts =>
      if !isBlock then some ([], [], ts)
      else if ts.head? == some .blockEnd then some ([], [], ts.drop 1)
      else none

/-- The fields of a block. -/
def takeFields (known : Shorthands) : Nat → List Token → Option (Taken (List (Node × Node)))
  | 0, _ => none
  | fuel + 1, ts =>
    match ts with
    | .key :: ts => do
      let (key, first, ts) ← takeNodeBefore known [.key, .value, .blockEnd] false true fuel ts
      let (value, second, ts) ← takeValue known [.key, .value, .blockEnd] false fuel ts
      let (fields, others, ts) ← takeFields known fuel ts
      some ((key, value) :: fields, first ++ second ++ others, ts)
    | .blockEnd :: ts => some ([], [], ts)
    | _ => none

/-- The value behind a key, if there is one. -/
def takeValue (known : Shorthands) (ends : List Token) (inBrackets : Bool) :
    Nat → List Token → Option (Taken Node)
  | 0, _ => none
  | fuel + 1, ts =>
    match ts with
    | .value :: ts => takeNodeBefore known ends inBrackets (!inBrackets) fuel ts
    | ts => some (.blank, [], ts)

/-- Items in brackets. An item with a key is an object of one field. Between a key that is left out and its value, a
token is passed over. -/
def takeListItems (known : Shorthands) (isFirst : Bool) :
    Nat → List Token → Option (Taken (List Node))
  | 0, _ => none
  | fuel + 1, ts =>
    if ts.head? == some .closeList then some ([], [], ts.drop 1)
    else if !isFirst && ts.head? != some .comma then none
    else
      match if isFirst then ts else ts.drop 1 with
      | .closeList :: ts => some ([], [], ts)
      | .key :: ts => do
        let (key, first, ts) ←
          if isLeftOut [.value, .comma, .closeList] ts then some (Node.blank, [], ts.drop 1)
          else takeNode known true false fuel ts
        let (value, second, ts) ← takeValue known [.comma, .closeList] true fuel ts
        let (items, others, ts) ← takeListItems known false fuel ts
        some (.object [(key, value)] :: items, first ++ second ++ others, ts)
      | ts => do
        let (item, first, ts) ← takeNode known true false fuel ts
        let (items, others, ts) ← takeListItems known false fuel ts
        some (item :: items, first ++ others, ts)

/-- Fields in brackets. A key on its own has a value that is left out. -/
def takeObjectFields (known : Shorthands) (isFirst : Bool) :
    Nat → List Token → Option (Taken (List (Node × Node)))
  | 0, _ => none
  | fuel + 1, ts =>
    if ts.head? == some .closeObject then some ([], [], ts.drop 1)
    else if !isFirst && ts.head? != some .comma then none
    else
      match if isFirst then ts else ts.drop 1 with
      | .closeObject :: ts => some ([], [], ts)
      | .key :: ts => do
        let (key, first, ts) ← takeNodeBefore known [.value, .comma, .closeObject] true false fuel ts
        let (value, second, ts) ← takeValue known [.comma, .closeObject] true fuel ts
        let (fields, others, ts) ← takeObjectFields known false fuel ts
        some ((key, value) :: fields, first ++ second ++ others, ts)
      | ts => do
        let (key, first, ts) ← takeNode known true false fuel ts
        let (fields, others, ts) ← takeObjectFields known false fuel ts
        some ((key, .blank) :: fields, first ++ others, ts)

end

end ChangeImpact.Yaml
