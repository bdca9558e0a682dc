/-!
# Tokens of YAML

What a text consists of once its indentation is understood. Blocks have tokens for their beginning and end; within
brackets, and in front of a key or an item, the tokens are those that are written.
-/

namespace ChangeImpact.Yaml

/-- How a scalar is written. -/
inductive Style where
  | plain
  | quoted
  | literal
  | folded
  deriving DecidableEq, Repr

inductive Token where
  /-- The version of the language that a document is written in. -/
  | version (major minor : Nat)
  /-- What a handle in front of tags is short for. -/
  | shorthand (handle address : String)
  | documentStart
  | documentEnd
  | listBlock
  | objectBlock
  | blockEnd
  | openList
  | closeList
  | openObject
  | closeObject
  /-- The dash in front of an item. -/
  | dash
  | comma
  | key
  | value
  /-- Names the node that follows. -/
  | anchor (number : Nat)
  /-- Stands for the node of an anchor. -/
  | reference (number : Nat)
  | tag (handle suffix : String)
  | scalar (style : Style) (text : String)
  deriving DecidableEq, Repr

end ChangeImpact.Yaml
