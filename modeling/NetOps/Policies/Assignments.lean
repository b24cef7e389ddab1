import NetOps.Evaluation.Policies
import NetOps.Policies.Packages
import NetOps.Words

/-!
# Policies.Assignments

What the assignments of a package come to. The resolver flattens them into tags, and the
evaluator reads the tags of four of the nine scopes into a dictionary that keeps one value each.

* `required_tags`: what the dictionary holds for a package is the last value of each scope.
* `applies_iff`: a context has to meet the last values of the scopes that are read.
* `assignments_iff`: this is what the assignments say, in every context, exactly if the package is
  assigned to scopes that are read, with one value each.
-/

namespace NetOps
namespace Policies

open Discovery (PyVal PyDict)
open Evaluation (EvaluationContext PolicyEvaluator.required PolicyEvaluator.splitTag
  PolicyEvaluator.meets)
open PolicyPackageResolver (assignmentToTag tagsOf buildPolicy)
open PolicyValidator (assignmentScopes validateAssignments validateAssignments_iff)

/-! ## The intended meaning -/

/-- For every scope among the assignments, the context has one of the values assigned there. -/
def InScope (assignments : List PolicyAssignment) (context : EvaluationContext) : Prop :=
  ∀ a ∈ assignments, ∃ b ∈ assignments, b.scope = a.scope ∧
    context.text a.scope = some (Text.strip b.value)

/-- The scopes of assignments that the evaluator reads. -/
def readScopes : List String := ["site", "platform", "vendor", "device_type"]

/-- Only scopes that are read are assigned, each with one value. -/
structure Plain (assignments : List PolicyAssignment) : Prop where
  read : ∀ a ∈ assignments, a.scope ∈ readScopes
  single : ∀ a ∈ assignments, ∀ b ∈ assignments, a.scope = b.scope →
    Text.strip a.value = Text.strip b.value

/-! ## Tags -/

/-- A tag is read back as the scope and the value it was made of. -/
theorem splitTag_tag {scope value : String} (h : ':' ∉ scope.toList) :
    PolicyEvaluator.splitTag (scope ++ ":" ++ value) = some (scope, value) := by
  have hlist : (scope ++ ":" ++ value).toList = scope.toList ++ ':' :: value.toList := by
    simp [String.toList_append]
  have hscope : ∀ c ∈ scope.toList, (c != ':') = true := by
    intro c hc
    rw [bne_iff_ne]
    rintro rfl
    exact h hc
  unfold PolicyEvaluator.splitTag Text.before Text.after
  rw [hlist, Words.takeWhile_gap hscope (by simp), Words.dropWhile_gap hscope (by simp),
    if_pos (by simp)]
  simp

theorem colon_not_mem {scope : String} (h : scope ∈ assignmentScopes) : ':' ∉ scope.toList := by
  have hall : (assignmentScopes.all fun s => decide (':' ∉ s.toList)) = true := by decide
  simpa using List.all_eq_true.1 hall scope h

/-- The assignments as the dictionary reads them. -/
def entries (assignments : List PolicyAssignment) : List (String × String) :=
  assignments.map fun a => (a.scope, Text.strip a.value)

theorem splitTags (package : PolicyPackage) (h : validateAssignments package.assignments = .ok ()) :
    (tagsOf package).filterMap PolicyEvaluator.splitTag = entries package.assignments := by
  rw [validateAssignments_iff] at h
  unfold tagsOf entries
  generalize package.assignments = assignments at h
  induction assignments with
  | nil => rfl
  | cons a rest ih =>
    rw [List.forall_mem_cons] at h
    have htag : assignmentToTag a.scope a.value = some (a.scope ++ ":" ++ Text.strip a.value) :=
      if_pos ⟨h.1.2, h.1.1⟩
    simp only [List.filterMap_cons, htag, splitTag_tag (colon_not_mem h.1.2), List.map_cons, ih h.2]

/-- The last assignment in a scope. -/
def lastAssigned (assignments : List PolicyAssignment) (scope : String) : Option PolicyAssignment :=
  (assignments.filter fun a => a.scope = scope).getLast?

def lastValue (assignments : List PolicyAssignment) (scope : String) : Option String :=
  (lastAssigned assignments scope).map fun a => Text.strip a.value

theorem required_tags (package : PolicyPackage)
    (h : validateAssignments package.assignments = .ok ()) (scope : String) :
    (PolicyEvaluator.required (tagsOf package)).get? scope =
      lastValue package.assignments scope := by
  unfold PolicyEvaluator.required lastValue lastAssigned
  rw [splitTags package h, Dict.get?_ofList_eq_getLast?, entries, List.filter_map,
    List.getLast?_map, Option.map_map]
  rfl

theorem lastValue_mem {assignments : List PolicyAssignment} {scope value : String}
    (h : lastValue assignments scope = some value) :
    ∃ a ∈ assignments, a.scope = scope ∧ Text.strip a.value = value := by
  unfold lastValue lastAssigned at h
  rw [Option.map_eq_some_iff] at h
  obtain ⟨a, ha, hvalue⟩ := h
  have hmem := List.mem_of_getLast? ha
  rw [List.mem_filter, decide_eq_true_eq] at hmem
  exact ⟨a, hmem.1, hmem.2, hvalue⟩

theorem lastValue_isSome {assignments : List PolicyAssignment} {a : PolicyAssignment}
    (h : a ∈ assignments) : ∃ value, lastValue assignments a.scope = some value := by
  have hmem : a ∈ assignments.filter fun b => b.scope = a.scope := by simp [h]
  obtain ⟨b, hb⟩ := Option.ne_none_iff_exists'.1
    (mt List.getLast?_eq_none_iff.1 (List.ne_nil_of_mem hmem))
  exact ⟨Text.strip b.value, by rw [lastValue, lastAssigned, hb]; rfl⟩

/-! ## Which contexts a package is applied to -/

/-- Every scope that is read has its last value in the context. -/
def MeetsLast (assignments : List PolicyAssignment) (context : EvaluationContext) : Prop :=
  ∀ scope ∈ readScopes, ∀ value, lastValue assignments scope = some value →
    context.text scope = some value

theorem meets_iff {required : Dict String String} {scope : String} {value : Option String} :
    PolicyEvaluator.meets required scope value = true ↔
      ∀ wanted, required.get? scope = some wanted → value = some wanted := by
  unfold PolicyEvaluator.meets
  cases required.get? scope with
  | none => simp
  | some wanted =>
    rw [beq_iff_eq]
    constructor
    · rintro h _ ⟨⟩
      exact h.symm
    · intro h
      exact (h wanted rfl).symm

section Built

variable {registry : EvaluationRuleRegistry} {byId : Dict Discovery.UUID PolicyPackage}
  {package : PolicyPackage} {built : Compliance.Policy} {context : EvaluationContext}

theorem buildPolicy_tags (h : buildPolicy registry byId package = .ok built) :
    built.enabled = true ∧ built.tags = tagsOf package := by
  unfold buildPolicy at h
  cases hrules : (PolicyPackageResolver.ruleKeys
      (PolicyPackageResolver.resolveInheritedPackages byId package)).mapM registry.get with
  | error e =>
    rw [hrules] at h
    cases h
  | ok rules =>
    rw [hrules] at h
    cases h
    exact ⟨rfl, rfl⟩

theorem lastValue_role {assignments : List PolicyAssignment}
    (h : validateAssignments assignments = .ok ()) : lastValue assignments "role" = none := by
  rw [validateAssignments_iff] at h
  cases hlast : lastValue assignments "role" with
  | none => rfl
  | some value =>
    obtain ⟨a, ha, hscope, -⟩ := lastValue_mem hlast
    have hmem := (h a ha).2
    rw [hscope] at hmem
    exact absurd hmem (by decide)

/-- The built policy is applied to the contexts that meet the last values. -/
theorem applies_iff (haccepted : validateAssignments package.assignments = .ok ())
    (hbuilt : buildPolicy registry byId package = .ok built) :
    Evaluation.PolicyEvaluator.applies context built = true ↔
      MeetsLast package.assignments context := by
  obtain ⟨henabled, htags⟩ := buildPolicy_tags hbuilt
  have hrequired := required_tags package haccepted
  have hrole : PolicyEvaluator.meets (PolicyEvaluator.required (tagsOf package)) "role"
      context.deviceRole = true := by
    rw [meets_iff, hrequired, lastValue_role haccepted]
    simp
  have hall : Evaluation.PolicyEvaluator.tagsApply (tagsOf package) context = true ↔
      MeetsLast package.assignments context := by
    unfold Evaluation.PolicyEvaluator.tagsApply
    simp only [hrole, Bool.and_true, Bool.and_eq_true, meets_iff, hrequired, MeetsLast, readScopes,
      List.mem_cons, List.not_mem_nil, or_false, forall_eq_or_imp, forall_eq]
    constructor
    · rintro ⟨⟨⟨h₁, h₂⟩, h₃⟩, h₄⟩
      exact ⟨h₁, h₂, h₃, h₄⟩
    · rintro ⟨h₁, h₂, h₃, h₄⟩
      exact ⟨⟨⟨h₁, h₂⟩, h₃⟩, h₄⟩
  unfold Evaluation.PolicyEvaluator.applies Evaluation.PolicyEvaluator.policyApplies
  rw [henabled, htags, Bool.true_and, Bool.or_eq_true, hall, List.isEmpty_iff]
  constructor
  · rintro (hnil | hmeets)
    · rw [← hall, hnil]
      rfl
    · exact hmeets
  · exact .inr

end Built

/-! ## Contexts made of values -/

/-- The context that has these values in the scopes that are read, and no others. -/
def contextWith (values : String → Option String) : EvaluationContext where
  metadata := readScopes.map fun scope => (scope, PyVal.ofOption (values scope))

theorem get?_entries (f : String → PyVal) (scopes : List String) (scope : String) :
    PyDict.get? (scopes.map fun s => (s, f s)) scope =
      if scope ∈ scopes then some (f scope) else none := by
  unfold PyDict.get?
  induction scopes with
  | nil => rfl
  | cons s scopes ih =>
    rw [List.map_cons]
    by_cases h : s = scope
    · simp [h]
    · rw [List.find?_cons_of_neg (by simpa using h), ih]
      simp [Ne.symm h]

theorem text_contextWith {values : String → Option String} {scope value : String}
    (hscope : scope ∈ readScopes) (hvalue : values scope = some value)
    (hblank : Text.strip value ≠ "") :
    (contextWith values).text scope = some (Text.strip value) := by
  have hget : (contextWith values).metadata.getD scope = .str value := by
    simp only [PyDict.getD, contextWith, get?_entries, if_pos hscope, hvalue, Option.getD_some,
      PyVal.ofOption]
  unfold EvaluationContext.text
  rw [hget]
  exact if_neg hblank

theorem text_contextWith_unread {values : String → Option String} {scope : String}
    (hscope : scope ∉ readScopes) : (contextWith values).text scope = none := by
  simp only [EvaluationContext.text, PyDict.getD, contextWith, get?_entries, if_neg hscope,
    Option.getD_none]

/-! ## When the assignments mean what they say -/

variable {assignments : List PolicyAssignment}

theorem inScope_of_plain (h : Plain assignments) {context : EvaluationContext} :
    MeetsLast assignments context ↔ InScope assignments context := by
  constructor
  · intro hmeets a ha
    obtain ⟨value, hlast⟩ := lastValue_isSome ha
    obtain ⟨b, hb, hscope, hvalue⟩ := lastValue_mem hlast
    refine ⟨b, hb, hscope, ?_⟩
    rw [hvalue]
    exact hmeets a.scope (h.read a ha) value hlast
  · intro hin scope _ value hlast
    obtain ⟨a, ha, rfl, hvalue⟩ := lastValue_mem hlast
    obtain ⟨b, hb, hscope, htext⟩ := hin a ha
    rw [htext, h.single b hb a ha hscope, hvalue]

/-- The context with the last values meets them. -/
theorem meets_lastValues (haccepted : validateAssignments assignments = .ok ()) :
    MeetsLast assignments
      (contextWith fun scope => (lastAssigned assignments scope).map (·.value)) := by
  rw [validateAssignments_iff] at haccepted
  intro scope hscope value hlast
  unfold lastValue at hlast
  obtain ⟨a, ha, hvalue⟩ := Option.map_eq_some_iff.1 hlast
  have hmem := List.mem_of_getLast? ha
  rw [← hvalue]
  exact text_contextWith hscope (by rw [ha]; rfl) (haccepted a (List.mem_filter.1 hmem).1).1

theorem plain_of_inScope (haccepted : validateAssignments assignments = .ok ())
    (h : ∀ context, MeetsLast assignments context ↔ InScope assignments context) :
    Plain assignments := by
  have hread : ∀ a ∈ assignments, a.scope ∈ readScopes := by
    intro a ha
    by_contra hunread
    obtain ⟨b, -, -, htext⟩ := (h _).1 (meets_lastValues haccepted) a ha
    rw [text_contextWith_unread hunread] at htext
    cases htext
  have hvalue : ∀ a ∈ assignments, lastValue assignments a.scope = some (Text.strip a.value) := by
    intro a ha
    -- The context has this value in its scope, and the last values elsewhere.
    let values : String → Option String := fun scope =>
      if scope = a.scope then some a.value else (lastAssigned assignments scope).map (·.value)
    have hblank := validateAssignments_iff.1 haccepted
    have htext : (contextWith values).text a.scope = some (Text.strip a.value) :=
      text_contextWith (hread a ha) (if_pos rfl) (hblank a ha).1
    have hin : InScope assignments (contextWith values) := by
      intro b hb
      by_cases hscope : b.scope = a.scope
      · exact ⟨a, ha, hscope.symm, by rw [hscope]; exact htext⟩
      · obtain ⟨value, hlast⟩ := lastValue_isSome hb
        unfold lastValue at hlast
        obtain ⟨c, hc, -⟩ := Option.map_eq_some_iff.1 hlast
        have hmem := List.mem_filter.1 (List.mem_of_getLast? hc)
        refine ⟨c, hmem.1, by simpa using hmem.2, ?_⟩
        refine text_contextWith (hread b hb) ?_ (hblank c hmem.1).1
        simp only [values, if_neg hscope, hc, Option.map_some]
    obtain ⟨value, hlast⟩ := lastValue_isSome ha
    have hmeets := (h _).2 hin a.scope (hread a ha) value hlast
    rw [htext] at hmeets
    rw [hlast, ← hmeets]
  refine ⟨hread, fun a ha b hb hscope => ?_⟩
  have ha' := hvalue a ha
  rw [hscope, hvalue b hb] at ha'
  exact (Option.some.inj ha').symm

/-- The policy built from an accepted package is applied to exactly the contexts its assignments
name, if and only if they name only scopes that the evaluator reads, with one value each. -/
theorem assignments_iff {registry : EvaluationRuleRegistry}
    {byId : Dict Discovery.UUID PolicyPackage}
    {package : PolicyPackage} {built : Compliance.Policy}
    (haccepted : validateAssignments package.assignments = .ok ())
    (hbuilt : buildPolicy registry byId package = .ok built) :
    (∀ context, Evaluation.PolicyEvaluator.applies context built = true ↔
      InScope package.assignments context) ↔ Plain package.assignments := by
  simp only [applies_iff haccepted hbuilt]
  exact ⟨plain_of_inScope haccepted, fun h _ => inScope_of_plain h⟩

/-- A package without rules that is assigned so. -/
def assigned (assignments : List PolicyAssignment) : PolicyPackage where
  policyId := 1
  policyKey := "baseline"
  version := ⟨1, 0, 0, []⟩
  rules := []
  baselines := []
  assignments := assignments
  inheritedIds := []
  compiledAt := 0

theorem assigned_built (assignments : List PolicyAssignment) :
    ∃ built, buildPolicy {} .empty (assigned assignments) = .ok built := by
  have hkeys : PolicyPackageResolver.ruleKeys
      (PolicyPackageResolver.resolveInheritedPackages .empty (assigned assignments)) = [] := by
    simp [PolicyPackageResolver.resolveInheritedPackages, PolicyPackageResolver.resolveParents,
      assigned, PolicyPackageResolver.ruleKeys]
  exact ⟨_, by rw [buildPolicy, hkeys]; rfl⟩

/-- Two scopes, one of them twice with the same value but for blanks. -/
def sitedAssignments : List PolicyAssignment :=
  [⟨"site", "HQ"⟩, ⟨"vendor", "Cisco"⟩, ⟨"site", " HQ "⟩]

theorem one_site_in_scope :
    validateAssignments sitedAssignments = .ok () ∧
      ∃ built, buildPolicy {} .empty (assigned sitedAssignments) = .ok built ∧
        ∀ context, Evaluation.PolicyEvaluator.applies context built = true ↔
          InScope sitedAssignments context := by
  have haccepted : validateAssignments sitedAssignments = .ok () := by decide
  obtain ⟨built, hbuilt⟩ := assigned_built sitedAssignments
  refine ⟨haccepted, built, hbuilt, (assignments_iff haccepted hbuilt).2 ⟨?_, ?_⟩⟩
  · decide
  · decide

/-- Assigned to two sites, a package is not applied at the first. -/
theorem first_site_lost :
    validateAssignments [⟨"site", "HQ"⟩, ⟨"site", "Lab"⟩] = .ok () ∧
      ∃ built, buildPolicy {} .empty (assigned [⟨"site", "HQ"⟩, ⟨"site", "Lab"⟩]) = .ok built ∧
        ¬ ∀ context, Evaluation.PolicyEvaluator.applies context built = true ↔
          InScope [⟨"site", "HQ"⟩, ⟨"site", "Lab"⟩] context := by
  have haccepted : validateAssignments [⟨"site", "HQ"⟩, ⟨"site", "Lab"⟩] = .ok () := by decide
  obtain ⟨built, hbuilt⟩ := assigned_built [⟨"site", "HQ"⟩, ⟨"site", "Lab"⟩]
  refine ⟨haccepted, built, hbuilt, fun h => ?_⟩
  have htext : (contextWith fun _ => some "HQ").text "site" = some (Text.strip "HQ") :=
    text_contextWith (by decide) rfl (by decide)
  have hin : InScope [⟨"site", "HQ"⟩, ⟨"site", "Lab"⟩] (contextWith fun _ => some "HQ") := by
    intro a ha
    refine ⟨⟨"site", "HQ"⟩, List.mem_cons_self, ?_, ?_⟩
    · rcases List.mem_cons.1 ha with rfl | ha
      · rfl
      · rw [List.mem_singleton.1 ha]
    · rcases List.mem_cons.1 ha with rfl | ha
      · exact htext
      · rw [List.mem_singleton.1 ha]
        exact htext
  have hmeets := (applies_iff haccepted hbuilt).1 ((h _).2 hin) "site" (by decide) "Lab" rfl
  rw [htext] at hmeets
  exact absurd hmeets (by decide)

end Policies
end NetOps
