import ChangeImpact.Entity
import ChangeImpact.Settings

/-!
# Errors

What may keep a request from being answered, and how that is reported.
-/

namespace ChangeImpact

inductive Error where
  | settings (fault : Settings.Fault)
  /-- A settings file that cannot be read as settings. -/
  | unreadableSettings (file : String)
  /-- A declaration without a name. -/
  | blankName (kind : ObjectKind)
  /-- A catalog file in a format that is not known. -/
  | unknownFormat (file : String)
  /-- A document that cannot be read as a catalog. -/
  | unreadableCatalog
  | unknownName (name : String) (project : Int)
  | unknownEntity (entity : NamedEntity) (project : Int)
  /-- A file that cannot be read, with the reason. -/
  | file (reason : String)
  deriving DecidableEq, Repr

/-- The classes of errors. -/
inductive Error.Class where
  | config
  | notFound
  | serialization
  | io
  deriving DecidableEq, Repr

namespace Error

def category : Error → Class
  | settings _ | unreadableSettings _ | blankName _ | unknownFormat _ => .config
  | unreadableCatalog => .serialization
  | unknownName _ _ | unknownEntity _ _ => .notFound
  | file _ => .io

def Class.heading : Class → String
  | config => "configuration error"
  | notFound => "not found"
  | serialization => "serialization error"
  | io => "I/O error"

/-- The error without its class. -/
def detail : Error → String
  | settings fault => fault.message
  | unreadableSettings path => s!"{path}: the file does not hold settings"
  | blankName kind => s!"catalog {kind.name} entry has an empty name"
  | unknownFormat path => s!"{path}: catalog must be a .json, .yaml or .yml file"
  | unreadableCatalog => "the file does not hold a catalog"
  | unknownName name project => s!"'{name}' in project {project}"
  | unknownEntity entity project => s!"{entity.describe} in project {project}"
  | file reason => reason

def message (e : Error) : String :=
  s!"{e.category.heading}: {e.detail}"

end Error

end ChangeImpact
