import NetOps.Discovery.Contracts

/-!
# Policies.Models

Policies and the packages compiled from them (`policies/models.py`, `lifecycle.py`,
`versioning.py`).
-/

namespace NetOps
namespace Policies

open Discovery (UUID)

/-- Instants, in microseconds. -/
abbrev DateTime := Int

inductive PolicyException where
  | policyValidationError (message : String)
  | circularInheritanceError (message : String)
  | missingBaselineError (message : String)
  | invalidAssignmentError (message : String)
  deriving DecidableEq

inductive PolicyLifecycle where
  | draft
  | review
  | approved
  | published
  | deprecated
  | archived
  deriving DecidableEq

inductive VersionChange where
  | major
  | minor
  | patch
  deriving DecidableEq

structure PolicyVersion where
  major : Int
  minor : Int
  patch : Int
  history : List PolicyVersion := []

structure RuleReference where
  key : String
  name : String
  description : Option String := none
  deriving DecidableEq

structure BaselineReference where
  key : String
  name : String
  description : Option String := none
  deriving DecidableEq

structure PolicyAssignment where
  scope : String
  value : String
  deriving DecidableEq

structure PolicyMetadata where
  createdAt : DateTime
  updatedAt : Option DateTime := none
  owner : Option String := none
  tags : List String := []
  deriving DecidableEq

structure Policy where
  id : UUID
  key : String
  name : String
  version : PolicyVersion
  lifecycle : PolicyLifecycle
  metadata : PolicyMetadata
  rules : List RuleReference := []
  baselines : List BaselineReference := []
  assignments : List PolicyAssignment := []
  inheritance : List UUID := []
  inheritanceScope : String := "global"
  previousVersion : Option PolicyVersion := none
  versionHistory : List PolicyVersion := []

namespace Policy

def bumpVersion (p : Policy) (change : VersionChange) : Policy :=
  let history := p.versionHistory ++ [p.version]
  let next : PolicyVersion := match change with
    | .major => ⟨p.version.major, 0, 0, history⟩
    | .minor => ⟨p.version.major, p.version.minor + 1, 0, history⟩
    | .patch => ⟨p.version.major, p.version.minor, p.version.patch + 1, history⟩
  { p with
    version := next
    previousVersion := some p.version
    versionHistory := history ++ [next] }

end Policy

/-- Compiled for evaluation. -/
structure PolicyPackage where
  policyId : UUID
  policyKey : String
  version : PolicyVersion
  rules : List RuleReference
  baselines : List BaselineReference
  assignments : List PolicyAssignment
  inheritedIds : List UUID
  compiledAt : DateTime

namespace PolicyVersion

/-- `tuple(self)`. -/
def parts (v : PolicyVersion) : List Int := [v.major, v.minor, v.patch]

def lt (v w : PolicyVersion) : Bool := v.parts < w.parts

def asString (v : PolicyVersion) : String := s!"{v.major}.{v.minor}.{v.patch}"

end PolicyVersion
end Policies
end NetOps
