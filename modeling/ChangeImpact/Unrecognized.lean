/-!
# Words that name nothing

The kinds of objects, usages, changes and severities are read from words. `Unrecognized` says which vocabulary a
word was looked for in, and `message` how that is reported.
-/

namespace ChangeImpact

/-- A word outside the vocabulary it was looked for in, with its ASCII letters brought to one case. -/
inductive Unrecognized where
  | objectKind (word : String)
  | usage (word : String)
  | change (word : String)
  | severity (word : String)
  deriving DecidableEq, Repr

def Unrecognized.message : Unrecognized → String
  | .objectKind word => s!"unknown entity type '{word}' (expected table, view, procedure or function)"
  | .usage word => s!"unknown dependency type '{word}'"
  | .change word => s!"unknown change type '{word}' (expected create, modify or delete)"
  | .severity word => s!"unknown impact level '{word}'"

end ChangeImpact
