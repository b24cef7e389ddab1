import NetOps.Text
import NetOps.Policies.Models
import NetOps.Evaluation.Context
import NetOps.Dict

/-!
# Policies.Packages

What a policy has to be before it is compiled (`policies/validation.py`), and compiling it
(`policies/compiler.py`, `policies/engine.py`).

Policy packages made into policies that can be evaluated (`policies/evaluation.py`), with the
registry of rules they refer to (`evaluation/registry.py`).
-/

namespace NetOps
namespace Policies

open Discovery (UUID)

namespace PolicyValidator

/-- The scopes of `_validate_assignments`, and the keys of `ASSIGNMENT_TO_TAG`. -/
def assignmentScopes : List String :=
  ["organization", "site", "building", "floor", "rack", "vendor", "platform", "device_type",
    "device"]

def validateRuleReferences (policy : Policy) : Except PolicyException Unit :=
  if (policy.rules.map (·.key)).Nodup then .ok ()
  else .error (.policyValidationError "Duplicate rule references are not allowed")

/-- The walk goes no further than the parents themselves: it ends at the policy's own id. -/
def validateInheritance (policy : Policy) : Except PolicyException Unit :=
  if policy.id ∈ policy.inheritance then
    .error (.circularInheritanceError "Circular inheritance detected")
  else .ok ()

def validateBaselines (policy : Policy) : Except PolicyException Unit :=
  if policy.baselines.any (·.key == "missing") then
    .error (.missingBaselineError "A policy baseline is missing")
  else .ok ()

def validateAssignments : List PolicyAssignment → Except PolicyException Unit
  | [] => .ok ()
  | a :: rest =>
    if Text.strip a.value = "" then
      .error (.invalidAssignmentError "Assignment values are required")
    else if a.scope ∉ assignmentScopes then
      .error (.invalidAssignmentError "Assignment scope is invalid")
    else validateAssignments rest

/-- `validate`. A version always has a text. -/
def validate (policy : Policy) : Except PolicyException Policy := do
  validateRuleReferences policy
  validateInheritance policy
  validateBaselines policy
  validateAssignments policy.assignments
  pure policy

/-- What is accepted of a list of assignments. -/
theorem validateAssignments_iff {assignments : List PolicyAssignment} :
    validateAssignments assignments = .ok () ↔
      ∀ a ∈ assignments, Text.strip a.value ≠ "" ∧ a.scope ∈ assignmentScopes := by
  induction assignments with
  | nil => simp [validateAssignments]
  | cons a rest ih =>
    rw [validateAssignments, List.forall_mem_cons, ← ih]
    by_cases hvalue : Text.strip a.value = ""
    · simp [hvalue]
    · by_cases hscope : a.scope ∈ assignmentScopes
      · simp [hvalue, hscope]
      · simp [hvalue, hscope]

end PolicyValidator

namespace PolicyEngine

/-- `compile`. -/
def compile (policy : Policy) (now : DateTime) : Except PolicyException PolicyPackage := do
  let policy ← PolicyValidator.validate policy
  pure {
    policyId := policy.id
    policyKey := policy.key
    version := policy.version
    rules := policy.rules
    baselines := policy.baselines
    assignments := policy.assignments
    inheritedIds := policy.inheritance
    compiledAt := now }

end PolicyEngine

namespace PolicyCompiler

/-- `compile`, which sorts what is inherited and refuses published policies. -/
def compile (policy : Policy) (now : DateTime) : Except PolicyException PolicyPackage :=
  if policy.lifecycle = .published then
    .error (.policyValidationError "Published policies cannot be recompiled")
  else do
    let package ← PolicyEngine.compile policy now
    pure { package with inheritedIds := policy.inheritance.mergeSort }

end PolicyCompiler

/-! ## Packages -/

open Evaluation (EvaluationError)

/-- `EvaluationRuleRegistry`. -/
structure EvaluationRuleRegistry where
  rules : Dict String Compliance.Rule := .empty

namespace EvaluationRuleRegistry

def register (registry : EvaluationRuleRegistry) (rule : Compliance.Rule) :
    Except EvaluationError EvaluationRuleRegistry :=
  if (registry.rules.get? rule.key).isSome then
    .error (.ruleRegistrationError s!"Rule '{rule.key}' is already registered.")
  else .ok { rules := registry.rules.insert rule.key rule }

def get (registry : EvaluationRuleRegistry) (key : String) :
    Except EvaluationError Compliance.Rule :=
  match registry.rules.get? key with
  | some rule => .ok rule
  | none => .error (.ruleRegistrationError s!"Unknown evaluation rule: '{key}'")

end EvaluationRuleRegistry

namespace PolicyPackageResolver

/-! ## Tags -/

/-- `_assignment_to_tag`. Every scope is its own tag. -/
def assignmentToTag (scope value : String) : Option String :=
  if scope ∈ PolicyValidator.assignmentScopes ∧ Text.strip value ≠ "" then
    some (scope ++ ":" ++ Text.strip value)
  else none

def tagsOf (package : PolicyPackage) : List String :=
  package.assignments.filterMap fun a => assignmentToTag a.scope a.value

/-! ## Inheritance -/

/-- The known ids that are not visited yet. -/
def unvisited (byId : Dict UUID PolicyPackage) (visited : List UUID) : List UUID :=
  (byId.items.map Prod.fst).filter fun id => id ∉ visited

theorem unvisited_le {byId : Dict UUID PolicyPackage} {visited visited' : List UUID}
    (h : ∀ id ∈ visited, id ∈ visited') :
    (unvisited byId visited').length ≤ (unvisited byId visited).length := by
  refine List.Sublist.length_le (List.monotone_filter_right _ ?_)
  intro id hid
  simp only [decide_eq_true_eq] at hid ⊢
  exact fun hmem => hid (h id hmem)

theorem unvisited_lt {byId : Dict UUID PolicyPackage} {visited : List UUID} {id : UUID}
    {package : PolicyPackage} (hnew : id ∉ visited) (hknown : byId.get? id = some package) :
    (unvisited byId (id :: visited)).length < (unvisited byId visited).length := by
  have hkey : id ∈ byId.items.map Prod.fst :=
    List.mem_map.2 ⟨(id, package), Dict.mem_items.2 hknown, rfl⟩
  have hsub : (unvisited byId (id :: visited)).Sublist (unvisited byId visited) := by
    refine List.monotone_filter_right _ ?_
    intro x hx
    simp only [decide_eq_true_eq, List.mem_cons, not_or] at hx ⊢
    exact hx.2
  rcases hsub.length_le.lt_or_eq with hlt | heq
  · exact hlt
  · have hmem : id ∈ unvisited byId (id :: visited) := by
      rw [hsub.eq_of_length heq]
      exact List.mem_filter.2 ⟨hkey, by simpa using hnew⟩
    simp [unvisited] at hmem

/-- The packages that the parents contribute, and the ids visited then. A parent follows what it
inherits, twice. -/
def resolveParents (byId : Dict UUID PolicyPackage) (visited : List UUID) (parents : List UUID) :
    List PolicyPackage × { visited' : List UUID // ∀ id ∈ visited, id ∈ visited' } :=
  match parents with
  | [] => ([], ⟨visited, fun _ h => h⟩)
  | id :: rest =>
    if _ : id ∈ visited then resolveParents byId visited rest
    else
      match _ : byId.get? id with
      | none =>
        let r := resolveParents byId (id :: visited) rest
        (r.1, ⟨r.2.1, fun x hx => r.2.2 x (List.mem_cons_of_mem _ hx)⟩)
      | some parent =>
        let r := resolveParents byId (id :: visited) parent.inheritedIds
        let r' := resolveParents byId r.2.1 rest
        (r.1 ++ [parent, parent] ++ r'.1,
          ⟨r'.2.1, fun x hx => r'.2.2 x (r.2.2 x (List.mem_cons_of_mem _ hx))⟩)
termination_by ((unvisited byId visited).length, parents.length)
decreasing_by
  · simp_wf
    exact Prod.Lex.right _ (by simp)
  · simp_wf
    have hle : (unvisited byId (id :: visited)).length ≤ (unvisited byId visited).length :=
      unvisited_le fun x hx => List.mem_cons_of_mem _ hx
    rcases hle.lt_or_eq with hlt | heq
    · exact Prod.Lex.left _ _ hlt
    · rw [heq]
      exact Prod.Lex.right _ (by simp)
  · exact Prod.Lex.left _ _ (unvisited_lt ‹_› ‹_›)
  · exact Prod.Lex.left _ _ ((unvisited_le r.2.2).trans_lt (unvisited_lt ‹_› ‹_›))

/-- `_resolve_inherited_packages`. -/
def resolveInheritedPackages (byId : Dict UUID PolicyPackage) (package : PolicyPackage) :
    List PolicyPackage :=
  (resolveParents byId [] package.inheritedIds).1 ++ [package]

/-! ## Building -/

/-- The keys of the rules, each once. -/
def ruleKeys (packages : List PolicyPackage) : List String :=
  packages.foldl (fun keys package => package.rules.foldl
    (fun keys rule => if rule.key ∈ keys then keys else keys ++ [rule.key]) keys) []

/-- `_build_policy`. What an unknown rule raises is not the `KeyError` that is caught. -/
def buildPolicy (registry : EvaluationRuleRegistry) (byId : Dict UUID PolicyPackage)
    (package : PolicyPackage) : Except EvaluationError Compliance.Policy := do
  let rules ← (ruleKeys (resolveInheritedPackages byId package)).mapM registry.get
  pure {
    id := package.policyId
    name := package.policyKey
    description := some
      s!"Compiled policy package {package.policyKey}@{package.version.asString}"
    rules := rules
    enabled := true
    tags := tagsOf package
    createdAt := package.compiledAt }

/-- `package_by_id`: of several packages of one id the last counts. -/
def packageById (packages : List PolicyPackage) : Dict UUID PolicyPackage :=
  Dict.byKey (·.policyId) packages

/-- The packages by key, in the order the keys first occur. -/
def packagesByKey (packages : List PolicyPackage) : Dict String (List PolicyPackage) :=
  packages.foldl (fun d p => d.insert p.policyKey ((d.get? p.policyKey).getD [] ++ [p])) .empty

/-- The entry of the latest version: the first one after the stable sort. -/
def latest (entries : List PolicyPackage) : Option PolicyPackage :=
  (entries.mergeSort fun a b => !a.version.lt b.version).head?

def resolveWithVersions (registry : EvaluationRuleRegistry) (packages : List PolicyPackage) :
    Except EvaluationError (List (Compliance.Policy × String)) :=
  ((packagesByKey packages).values.filterMap latest).mapM fun package => do
    let policy ← buildPolicy registry (packageById packages) package
    pure (policy, package.version.asString)

def resolve (registry : EvaluationRuleRegistry) (packages : List PolicyPackage) :
    Except EvaluationError (List Compliance.Policy) := do
  let resolved ← resolveWithVersions registry packages
  pure (resolved.map Prod.fst)

end PolicyPackageResolver
end Policies
end NetOps
