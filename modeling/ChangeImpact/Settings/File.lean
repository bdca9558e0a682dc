import ChangeImpact.Document.Yaml
import ChangeImpact.Error
import ChangeImpact.Settings.Document

/-!
# Settings in a file
-/

namespace ChangeImpact.Settings

/-- Settings as they are, if nothing is wrong with them. -/
def validated (s : Settings) : Except Error Settings :=
  match s.fault? with
  | some fault => .error (.settings fault)
  | none => .ok s

/-- The settings that the text of a file holds. -/
def ofText (file text : String) : Except Error Settings :=
  match (Yaml.read text).bind read? with
  | some s => s.validated
  | none => .error (.unreadableSettings file)

/-- Where settings are looked for in a workspace. -/
def usualFile (workspace : String) : String :=
  s!"{workspace}/.schema-impact/config.yaml"

end ChangeImpact.Settings
