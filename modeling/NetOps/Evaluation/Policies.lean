import NetOps.Dict
import NetOps.Evaluation.Context

/-!
# Evaluation.Policies

Which policies and rules apply to a context (`evaluation/policy.py`). The tags of a policy or rule
that name a scope are read into a dictionary; of several tags of one scope it keeps the last.
-/

namespace NetOps
namespace Evaluation
namespace PolicyEvaluator

open Compliance (Rule Policy)

/-- `tag.split(":", 1)` of a tag with a colon. -/
def splitTag (tag : String) : Option (String × String) :=
  if ':' ∈ tag.toList then some (Text.before ':' tag, Text.after ':' tag) else none

/-- The scopes that tags can require, with what they require of the context. -/
def required (tags : List String) : Dict String String := .ofList (tags.filterMap splitTag)

/-- `scope in required and required[scope] != value`, negated. -/
def meets (required : Dict String String) (scope : String) (value : Option String) : Bool :=
  match required.get? scope with
  | none => true
  | some wanted => some wanted == value

def tagsApply (tags : List String) (context : EvaluationContext) : Bool :=
  let required := required tags
  meets required "site" context.site && meets required "role" context.deviceRole &&
    meets required "platform" context.platform && meets required "vendor" context.vendor &&
    meets required "device_type" context.deviceType

def policyApplies (policy : Policy) (context : EvaluationContext) : Bool :=
  policy.tags.isEmpty || tagsApply policy.tags context

def ruleApplies (rule : Rule) (context : EvaluationContext) : Bool :=
  rule.tags.isEmpty || tagsApply rule.tags context

/-- The policy is applied: its rules are looked at. -/
def applies (context : EvaluationContext) (policy : Policy) : Bool :=
  policy.enabled && policyApplies policy context

/-- The rules of one policy that are not seen yet. -/
def takeRules (context : EvaluationContext) (policy : Policy) :
    List (Rule × Policy) → List Rule → List (Rule × Policy)
  | seen, [] => seen
  | seen, rule :: rules =>
    if ruleApplies rule context && !(seen.map fun e => e.1.key).contains rule.key then
      takeRules context policy (seen ++ [(rule, policy)]) rules
    else takeRules context policy seen rules

def applicableRulesWithSource (policies : List Policy) (context : EvaluationContext) :
    List (Rule × Policy) :=
  policies.foldl (fun seen policy =>
    if applies context policy then takeRules context policy seen policy.rules else seen) []

end PolicyEvaluator
end Evaluation
end NetOps
