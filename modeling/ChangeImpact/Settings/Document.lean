import ChangeImpact.Document
import ChangeImpact.Settings

/-!
# Settings as documents

A setting that is not given has its default value. `Settings.text` is the form in which settings are saved.
-/

namespace ChangeImpact

open Document (ofNat)

/-- The severity that a name stands for, written exactly. -/
def Severity.ofName? (name : String) : Option Severity :=
  [Severity.none, .low, .medium, .high, .critical].find? (·.name == name)

namespace Settings

open Readable

/-- The greatest number that a setting may be given as. -/
def greatestCount : Nat := 0xffffffffffffffff

/-- The settings that a record stands for. -/
def read? {δ : Type} [Readable δ] (d : δ) : Option Settings := do
  match ← record? ["max-depth", "max-paths", "approval-threshold", "default-criticality"] d with
  | [depth, paths, threshold, criticality] =>
    return {
      maxDepth := ← given? (upTo? greatestCount) default.maxDepth depth
      maxPaths := ← given? (upTo? greatestCount) default.maxPaths paths
      approvalThreshold := ← given? (fun d => (word? d).bind Severity.ofName?) default.approvalThreshold threshold
      defaultCriticality := ← given? (upTo? 255) default.defaultCriticality criticality }
  | _ => none

def fields (s : Settings) : List (String × Document) := [
  ("max-depth", ofNat s.maxDepth),
  ("max-paths", ofNat s.maxPaths),
  ("approval-threshold", .text s.approvalThreshold.name),
  ("default-criticality", ofNat s.defaultCriticality)]

def document (s : Settings) : Document :=
  .object s.fields

/-- One line for each setting. -/
def text (s : Settings) : String :=
  String.join [
    s!"max-depth: {s.maxDepth}\n",
    s!"max-paths: {s.maxPaths}\n",
    s!"approval-threshold: {s.approvalThreshold.name}\n",
    s!"default-criticality: {s.defaultCriticality}\n"]

end Settings

end ChangeImpact
