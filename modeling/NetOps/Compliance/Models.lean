import NetOps.Comparison.Differences
import NetOps.Discovery.Uuids

/-!
# Compliance.Models

Rules and policies of compliance, and what a finding is made of (`compliance/rules`,
`compliance/policies`, `compliance/findings`), with the differences they are evaluated against.

Generated ids are left out of evidence; its time is the time of the evaluation.
-/

namespace NetOps
namespace Compliance

open Discovery (UUID DateTime PyVal PyDict)
open Comparison (DifferenceType)

/-- `comparison/diff.py`'s difference, whose values are any objects. -/
structure Difference where
  id : UUID
  differenceType : DifferenceType
  subjectType : String
  subjectId : String
  fieldName : Option String := none
  expected : PyVal := .none
  observed : PyVal := .none

def Difference.key (d : Difference) : String :=
  d.differenceType.value ++ ":" ++ d.subjectType ++ ":" ++ d.subjectId ++ ":" ++ d.fieldName.getD ""

structure Rule where
  id : UUID
  key : String
  tags : List String := []
  expectedState : PyDict := []

structure Policy where
  id : UUID
  name : String
  description : Option String := none
  rules : List Rule := []
  enabled : Bool := true
  tags : List String := []
  createdAt : DateTime := 0

inductive SeverityLevel where
  | critical
  | high
  | medium
  | low
  | info
  deriving DecidableEq

structure Severity where
  level : SeverityLevel
  score : Int := 0
  label : Option String := none
  deriving DecidableEq

def SeverityLevel.value : SeverityLevel → String
  | .critical => "critical"
  | .high => "high"
  | .medium => "medium"
  | .low => "low"
  | .info => "info"

structure Evidence where
  source : String
  description : String
  reference : Option String := none
  details : PyDict := []
  capturedAt : DateTime

structure Recommendation where
  summary : String
  rationale : Option String := none
  steps : List String := []
  deriving DecidableEq

end Compliance
end NetOps
