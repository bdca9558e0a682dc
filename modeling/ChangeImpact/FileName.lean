/-!
# Names of files

The last part of a path, and what its last point divides it into. A point in front of everything else divides nothing.
-/

namespace ChangeImpact.FileName

/-- The parts of a path between its slashes. -/
def parts (path : String) : List String :=
  (path.splitOn "/").filter fun part => !part.isEmpty && part != "."

/-- The last part of a path, if it names anything. -/
def last? (path : String) : Option String :=
  (parts path).getLast?.filter (· != "..")

/-- A name before and behind its last point. -/
def divide (name : String) : String × Option String :=
  let reversed := name.toList.reverse
  match reversed.dropWhile (· != '.') with
  | _ :: c :: cs => (.ofList (c :: cs).reverse, some (.ofList (reversed.takeWhile (· != '.')).reverse))
  | _ => (name, none)

def stem? (path : String) : Option String :=
  (last? path).map fun name => (divide name).1

def extension? (path : String) : Option String :=
  (last? path).bind fun name => (divide name).2

end ChangeImpact.FileName
