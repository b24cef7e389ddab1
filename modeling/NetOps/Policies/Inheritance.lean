import Mathlib.Logic.Relation
import NetOps.Moments
import NetOps.Outcomes
import NetOps.Policies.Packages

/-!
# Policies.Inheritance

The walk up the inheritance of a package (`_resolve_inherited_packages`) and the rules it gives.

* `mem_resolveInheritedPackages`: the walk meets the package and all that it inherits from, over
  any number of steps, also where inheritance goes round in a circle.
* `resolveInheritedPackages_topological`: without a circle every package comes after all that it
  inherits from.
* `inheritance_closure`: the rules of the policy that is built, each once and in that order. A rule
  that is not registered stops the building.
-/

namespace NetOps
namespace Policies

open Discovery (UUID)
open Evaluation (EvaluationError)
open Moments (Always always_nil always_snoc)
open PolicyPackageResolver
open Relation (ReflTransGen TransGen)

/-! ## The graph of packages -/

section Graph

variable (byId : Dict UUID PolicyPackage)

/-- The second package is in the map under an id that the first one inherits. -/
def Inherits (p q : PolicyPackage) : Prop := ∃ id ∈ p.inheritedIds, byId.get? id = some q

/-- The second package is the first one, or what it inherits from over some steps. -/
def Reaches : PolicyPackage → PolicyPackage → Prop := ReflTransGen (Inherits byId)

/-- The first package inherits from the second one, over one step or more. -/
def Descends : PolicyPackage → PolicyPackage → Prop := TransGen (Inherits byId)

/-- No circle is reached from the package. -/
def Acyclic (p : PolicyPackage) : Prop := ∀ q, Reaches byId p q → ¬ Descends byId q q

/-- The rule is one of a package that is reached. -/
def Contributed (p : PolicyPackage) (key : String) : Prop :=
  ∃ q, Reaches byId p q ∧ key ∈ q.rules.map (·.key)

end Graph

variable {byId : Dict UUID PolicyPackage} {p q : PolicyPackage} {visited parents : List UUID}
  {id : UUID}

/-! ## One step of the walk -/

section Walk

variable (byId) (visited parents)

/-- The packages of a walk. -/
def walked : List PolicyPackage := (resolveParents byId visited parents).1

/-- The ids visited after a walk. -/
def visitedAfter : List UUID := (resolveParents byId visited parents).2.1

end Walk

@[simp] theorem walked_nil : walked byId visited [] = [] := by
  simp [walked, resolveParents]

@[simp] theorem visitedAfter_nil : visitedAfter byId visited [] = visited := by
  simp [visitedAfter, resolveParents]

theorem walk_visited (h : id ∈ visited) :
    walked byId visited (id :: parents) = walked byId visited parents ∧
      visitedAfter byId visited (id :: parents) = visitedAfter byId visited parents := by
  unfold walked visitedAfter
  rw [resolveParents, dif_pos h]
  exact ⟨rfl, rfl⟩

theorem walk_unknown (hnew : id ∉ visited) (hnone : byId.get? id = none) :
    walked byId visited (id :: parents) = walked byId (id :: visited) parents ∧
      visitedAfter byId visited (id :: parents) = visitedAfter byId (id :: visited) parents := by
  unfold walked visitedAfter
  rw [resolveParents, dif_neg hnew]
  split
  · exact ⟨rfl, rfl⟩
  · rename_i hknown
    rw [hnone] at hknown
    cases hknown

theorem walk_known (hnew : id ∉ visited) (hknown : byId.get? id = some p) :
    walked byId visited (id :: parents) =
        walked byId (id :: visited) p.inheritedIds ++ [p, p] ++
          walked byId (visitedAfter byId (id :: visited) p.inheritedIds) parents ∧
      visitedAfter byId visited (id :: parents) =
        visitedAfter byId (visitedAfter byId (id :: visited) p.inheritedIds) parents := by
  unfold walked visitedAfter
  rw [resolveParents, dif_neg hnew]
  split
  · rename_i hnone
    rw [hnone] at hknown
    cases hknown
  · rename_i hsome
    rw [hknown] at hsome
    cases hsome
    exact ⟨rfl, rfl⟩

theorem visitedAfter_mono (h : id ∈ visited) : id ∈ visitedAfter byId visited parents :=
  (resolveParents byId visited parents).2.2 id h

/-! ## What the walk meets -/

theorem walked_sound (h : q ∈ walked byId visited parents) :
    ∃ id ∈ parents, ∃ parent, byId.get? id = some parent ∧ Reaches byId parent q := by
  induction visited, parents using resolveParents.induct byId with
  | case1 visited => simp at h
  | case2 visited id rest hvisited ih =>
    rw [(walk_visited hvisited).1] at h
    obtain ⟨id', hid', hreach⟩ := ih h
    exact ⟨id', List.mem_cons_of_mem _ hid', hreach⟩
  | case3 visited id rest hnew hnone ih =>
    rw [(walk_unknown hnew hnone).1] at h
    obtain ⟨id', hid', hreach⟩ := ih h
    exact ⟨id', List.mem_cons_of_mem _ hid', hreach⟩
  | case4 visited id rest hnew parent hknown r ihUp _ ihRest =>
    rw [(walk_known hnew hknown).1] at h
    rcases List.mem_append.1 h with h | h
    · refine ⟨id, List.mem_cons_self, parent, hknown, ?_⟩
      rcases List.mem_append.1 h with h | h
      · obtain ⟨id', hid', q', hq', hreach⟩ := ihUp h
        exact .head ⟨id', hid', hq'⟩ hreach
      · rw [show q = parent by simpa using h]
        exact .refl
    · obtain ⟨id', hid', hreach⟩ := ihRest h
      exact ⟨id', List.mem_cons_of_mem _ hid', hreach⟩

/-- The walk meets the package of an id, and visits what that package inherits. -/
def Met (byId : Dict UUID PolicyPackage) (met : List PolicyPackage) (visited : List UUID)
    (id : UUID) : Prop :=
  ∀ q, byId.get? id = some q → q ∈ met ∧ ∀ id' ∈ q.inheritedIds, id' ∈ visited

theorem Met.mono {met met' : List PolicyPackage} {visited' : List UUID}
    (h : Met byId met visited id) (hmet : ∀ q ∈ met, q ∈ met')
    (hvisited : ∀ id ∈ visited, id ∈ visited') : Met byId met' visited' id :=
  fun q hq => ⟨hmet q (h q hq).1, fun id' hid' => hvisited id' ((h q hq).2 id' hid')⟩

/-- All parents are visited, and whatever is newly visited is met. -/
theorem walked_complete : (∀ id ∈ parents, id ∈ visitedAfter byId visited parents) ∧
    ∀ id ∈ visitedAfter byId visited parents, id ∉ visited →
      Met byId (walked byId visited parents) (visitedAfter byId visited parents) id := by
  induction visited, parents using resolveParents.induct byId with
  | case1 visited =>
    refine ⟨by simp, fun id hid hnew => ?_⟩
    rw [visitedAfter_nil] at hid
    exact absurd hid hnew
  | case2 visited id rest hvisited ih =>
    rw [(walk_visited hvisited).1, (walk_visited hvisited).2]
    refine ⟨List.forall_mem_cons.2 ⟨visitedAfter_mono hvisited, ih.1⟩, ih.2⟩
  | case3 visited id rest hnew hnone ih =>
    rw [(walk_unknown hnew hnone).1, (walk_unknown hnew hnone).2]
    refine ⟨List.forall_mem_cons.2 ⟨visitedAfter_mono List.mem_cons_self, ih.1⟩, ?_⟩
    intro id' hid' hnew'
    by_cases heq : id' = id
    · intro q hq
      rw [heq, hnone] at hq
      cases hq
    · exact ih.2 id' hid' (by simp [heq, hnew'])
  | case4 visited id rest hnew parent hknown r ihUp _ ihRest =>
    rw [(walk_known hnew hknown).1, (walk_known hnew hknown).2]
    have hid : id ∈ visitedAfter byId (id :: visited) parent.inheritedIds :=
      visitedAfter_mono List.mem_cons_self
    refine ⟨List.forall_mem_cons.2 ⟨visitedAfter_mono hid, ihRest.1⟩, ?_⟩
    intro id' hid' hnew'
    by_cases hup : id' ∈ visitedAfter byId (id :: visited) parent.inheritedIds
    · by_cases heq : id' = id
      · intro q hq
        rw [heq, hknown] at hq
        cases hq
        exact ⟨by simp, fun x hx => visitedAfter_mono (ihUp.1 x hx)⟩
      · refine (ihUp.2 id' hup (by simp [heq, hnew'])).mono ?_ ?_
        · intro q hq
          simp [hq]
        · intro x hx
          exact visitedAfter_mono hx
    · refine (ihRest.2 id' hid' hup).mono ?_ ?_
      · intro q hq
        exact List.mem_append_right _ hq
      · exact fun x hx => hx

theorem mem_resolveInheritedPackages :
    q ∈ resolveInheritedPackages byId p ↔ Reaches byId p q := by
  have hmem : q ∈ resolveInheritedPackages byId p ↔
      q ∈ walked byId [] p.inheritedIds ∨ q = p := by
    unfold resolveInheritedPackages walked
    simp
  rw [hmem]
  constructor
  · rintro (h | rfl)
    · obtain ⟨id, hid, parent, hknown, hreach⟩ := walked_sound h
      exact .head ⟨id, hid, hknown⟩ hreach
    · exact .refl
  · intro h
    obtain ⟨hparents, hmet⟩ := @walked_complete byId [] p.inheritedIds
    -- What is inherited is visited all along the way, so the walk meets it.
    have hup : ∀ q, Reaches byId p q →
        (q ∈ walked byId [] p.inheritedIds ∨ q = p) ∧
          ∀ id ∈ q.inheritedIds, id ∈ visitedAfter byId [] p.inheritedIds := by
      intro q hq
      induction hq with
      | refl => exact ⟨.inr rfl, hparents⟩
      | tail _ hstep ih =>
        obtain ⟨id, hid, hknown⟩ := hstep
        obtain ⟨hwalked, hvisited⟩ := hmet id (ih.2 id hid) (by simp) _ hknown
        exact ⟨.inl hwalked, hvisited⟩
    exact (hup q h).1

/-! ## The order of the walk -/

/-- Every package of the list comes after those it inherits from. -/
def Ordered (byId : Dict UUID PolicyPackage) : List PolicyPackage → Prop :=
  Always fun before d => ∀ a, Inherits byId d a → a ∈ before

theorem ordered_snoc {met : List PolicyPackage} : Ordered byId (met ++ [p]) ↔
    Ordered byId met ∧ ∀ a, Inherits byId p a → a ∈ met := always_snoc

/-- What a package outside a circle inherits reaches neither the package nor what it is above. -/
theorem not_reaches_of_inherits {Open : PolicyPackage → Prop} {parent : PolicyPackage}
    (hopen : ∀ o, Open o → ¬ Reaches byId parent o) (hacyclic : Acyclic byId parent)
    (hstep : Inherits byId parent q) : ∀ o, Open o ∨ o = parent → ¬ Reaches byId q o := by
  rintro o (ho | rfl) hreach
  · exact hopen o ho (.head hstep hreach)
  · exact hacyclic o .refl (.head' hstep hreach)

/-- A walk from packages that do not lead back to those it comes from (`Open`) goes on in order,
and leaves nothing unmet but these. -/
theorem walked_ordered (met : List PolicyPackage) (Open : PolicyPackage → Prop)
    (hmet : Ordered byId met)
    (hvisited : ∀ id ∈ visited, ∀ q, byId.get? id = some q → q ∈ met ∨ Open q)
    (hparents : ∀ id ∈ parents, ∀ q, byId.get? id = some q →
      (∀ o, Open o → ¬ Reaches byId q o) ∧ Acyclic byId q) :
    Ordered byId (met ++ walked byId visited parents) ∧
      ∀ id ∈ visitedAfter byId visited parents, ∀ q, byId.get? id = some q →
        q ∈ met ++ walked byId visited parents ∨ Open q := by
  induction visited, parents using resolveParents.induct byId generalizing met Open with
  | case1 visited =>
    rw [walked_nil, visitedAfter_nil, List.append_nil]
    exact ⟨hmet, hvisited⟩
  | case2 visited id rest hold ih =>
    rw [(walk_visited hold).1, (walk_visited hold).2]
    exact ih met Open hmet hvisited (List.forall_mem_cons.1 hparents).2
  | case3 visited id rest hnew hnone ih =>
    rw [(walk_unknown hnew hnone).1, (walk_unknown hnew hnone).2]
    refine ih met Open hmet (List.forall_mem_cons.2 ⟨?_, hvisited⟩)
      (List.forall_mem_cons.1 hparents).2
    intro q hq
    rw [hnone] at hq
    cases hq
  | case4 visited id rest hnew parent hknown r ihUp ihRest =>
    obtain ⟨hparent, hrest⟩ := List.forall_mem_cons.1 hparents
    obtain ⟨hopen, hacyclic⟩ := hparent parent hknown
    rw [(walk_known hnew hknown).1, (walk_known hnew hknown).2]
    -- While the parent's own parents are walked, the parent is open too.
    obtain ⟨hup, hafter⟩ := ihUp met (fun o => Open o ∨ o = parent) hmet
      (by
        refine List.forall_mem_cons.2 ⟨fun q hq => ?_, fun id' hid' q hq => ?_⟩
        · rw [hknown] at hq
          cases hq
          exact .inr (.inr rfl)
        · exact (hvisited id' hid' q hq).imp_right .inl)
      (by
        intro id' hid' q hq
        have hstep : Inherits byId parent q := ⟨id', hid', hq⟩
        exact ⟨not_reaches_of_inherits hopen hacyclic hstep,
          fun x hx => hacyclic x (.head hstep hx)⟩)
    have habove : ∀ a, Inherits byId parent a →
        a ∈ met ++ walked byId (id :: visited) parent.inheritedIds := by
      rintro a ⟨id', hid', ha⟩
      have hapart := not_reaches_of_inherits hopen hacyclic ⟨id', hid', ha⟩
      rcases hafter id' (walked_complete.1 id' hid') a ha with hmem | ho
      · exact hmem
      · exact absurd .refl (hapart a ho)
    have honce : Ordered byId (met ++ walked byId (id :: visited) parent.inheritedIds ++
        [parent] ++ [parent]) := by
      refine ordered_snoc.2 ⟨ordered_snoc.2 ⟨hup, habove⟩, fun a ha => ?_⟩
      exact List.mem_append_left _ (habove a ha)
    obtain ⟨hall, hlast⟩ := ihRest (met ++ walked byId (id :: visited) parent.inheritedIds ++
        [parent] ++ [parent]) Open honce
      (by
        intro id' hid' q hq
        rcases hafter id' hid' q hq with hmem | ho | rfl
        · exact .inl (List.mem_append_left _ (List.mem_append_left _ hmem))
        · exact .inr ho
        · exact .inl (by simp))
      hrest
    have hsame : met ++ walked byId (id :: visited) parent.inheritedIds ++ [parent] ++ [parent] ++
        walked byId (visitedAfter byId (id :: visited) parent.inheritedIds) rest =
        met ++ (walked byId (id :: visited) parent.inheritedIds ++ [parent, parent] ++
          walked byId (visitedAfter byId (id :: visited) parent.inheritedIds) rest) := by
      simp
    rw [← hsame]
    exact ⟨hall, hlast⟩

/-- Without a circle, every package comes after all that it inherits from. -/
theorem resolveInheritedPackages_topological (h : Acyclic byId p) :
    Always (fun before d => ∀ a, Descends byId d a → a ∈ before)
      (resolveInheritedPackages byId p) := by
  obtain ⟨hwalked, hafter⟩ := @walked_ordered byId [] p.inheritedIds [] (fun o => o = p)
    always_nil (by simp)
    (by
      intro id hid q hq
      have hstep : Inherits byId p q := ⟨id, hid, hq⟩
      refine ⟨?_, fun x hx => h x (.head hstep hx)⟩
      rintro o rfl hreach
      exact h o .refl (.head' hstep hreach))
  have hordered : Ordered byId (resolveInheritedPackages byId p) := by
    refine ordered_snoc.2 ⟨hwalked, ?_⟩
    rintro a ⟨id, hid, ha⟩
    rcases hafter id (walked_complete.1 id hid) a ha with hmem | rfl
    · exact hmem
    · exact absurd (.single ⟨id, hid, ha⟩) (h a .refl)
  -- Over several steps, by the steps.
  have hmany : ∀ d a, Descends byId d a → ∀ before rest,
      resolveInheritedPackages byId p = before ++ d :: rest → a ∈ before := by
    intro d a hdescends
    induction hdescends using TransGen.head_induction_on with
    | single hstep =>
      intro before rest hsplit
      exact hordered before _ rest hsplit a hstep
    | head hstep _ ih =>
      intro before rest hsplit
      obtain ⟨before', rest', rfl⟩ := List.append_of_mem (hordered before _ rest hsplit _ hstep)
      have hmem := ih before' (rest' ++ _ :: rest) (by rw [hsplit, List.append_assoc]; rfl)
      exact List.mem_append_left _ hmem
  exact fun before d rest hsplit a ha => hmany d a ha before rest hsplit

/-! ## Rule keys -/

/-- The keys, with those of a package that are not among them yet. -/
def addKeys (keys : List String) (p : PolicyPackage) : List String :=
  p.rules.foldl (fun keys rule => if rule.key ∈ keys then keys else keys ++ [rule.key]) keys

theorem mem_addKeys {keys : List String} {key : String} :
    key ∈ addKeys keys p ↔ key ∈ keys ∨ key ∈ p.rules.map (·.key) := by
  unfold addKeys
  induction p.rules generalizing keys with
  | nil => simp
  | cons rule rules ih =>
    rw [List.foldl_cons, ih, List.map_cons, List.mem_cons]
    split
    · rename_i hold
      constructor
      · exact fun h => h.imp_right .inr
      · rintro (h | rfl | h)
        · exact .inl h
        · exact .inl hold
        · exact .inr h
    · rw [List.mem_append, List.mem_singleton, or_assoc]

theorem nodup_addKeys {keys : List String} (h : keys.Nodup) : (addKeys keys p).Nodup := by
  unfold addKeys
  induction p.rules generalizing keys with
  | nil => exact h
  | cons rule rules ih =>
    rw [List.foldl_cons]
    split
    · exact ih h
    · rename_i hnew
      refine ih (List.nodup_append.2 ⟨h, List.nodup_singleton _, ?_⟩)
      rintro a ha b hb rfl
      exact hnew (List.mem_singleton.1 hb ▸ ha)

theorem prefix_addKeys (keys : List String) (p : PolicyPackage) : keys <+: addKeys keys p := by
  unfold addKeys
  induction p.rules generalizing keys with
  | nil => exact List.prefix_rfl
  | cons rule rules ih =>
    rw [List.foldl_cons]
    split
    · exact ih keys
    · exact (List.prefix_append keys _).trans (ih _)

theorem ruleKeys_snoc (packages : List PolicyPackage) :
    ruleKeys (packages ++ [p]) = addKeys (ruleKeys packages) p := List.foldl_concat ..

theorem mem_ruleKeys {packages : List PolicyPackage} {key : String} :
    key ∈ ruleKeys packages ↔ ∃ q ∈ packages, key ∈ q.rules.map (·.key) := by
  induction packages using List.reverseRecOn with
  | nil => simp [ruleKeys]
  | append_singleton packages p ih =>
    rw [ruleKeys_snoc, mem_addKeys, ih]
    simp only [List.mem_append, List.mem_singleton, or_and_right, exists_or, exists_eq_left]

theorem nodup_ruleKeys (packages : List PolicyPackage) : (ruleKeys packages).Nodup := by
  induction packages using List.reverseRecOn with
  | nil => exact .nil
  | append_singleton packages p ih =>
    rw [ruleKeys_snoc]
    exact nodup_addKeys ih

theorem prefix_ruleKeys (packages later : List PolicyPackage) :
    ruleKeys packages <+: ruleKeys (packages ++ later) := by
  induction later using List.reverseRecOn with
  | nil => rw [List.append_nil]
  | append_singleton later p ih =>
    rw [← List.append_assoc, ruleKeys_snoc]
    exact ih.trans (prefix_addKeys _ p)

/-- The first package of the walk that has the rule. -/
def FirstFrom (byId : Dict UUID PolicyPackage) (p : PolicyPackage) (key : String)
    (q : PolicyPackage) : Prop :=
  ∃ before rest, resolveInheritedPackages byId p = before ++ q :: rest ∧
    key ∈ q.rules.map (·.key) ∧ ∀ x ∈ before, key ∉ x.rules.map (·.key)

/-- What an ancestor contributes comes before what its descendant is the first to contribute. -/
theorem ruleKeys_ordered {a d : PolicyPackage} {key key' : String} (h : Acyclic byId p)
    (hdescends : Descends byId d a) (hkey : FirstFrom byId p key a)
    (hkey' : FirstFrom byId p key' d) :
    [key, key'].Sublist (ruleKeys (resolveInheritedPackages byId p)) := by
  obtain ⟨-, -, -, hcontributes, -⟩ := hkey
  obtain ⟨before, rest, hsplit, hcontributes', hfirst⟩ := hkey'
  have habove := resolveInheritedPackages_topological h before d rest hsplit a hdescends
  have hearly : key ∈ ruleKeys before := mem_ruleKeys.2 ⟨a, habove, hcontributes⟩
  have hnotEarly : key' ∉ ruleKeys before := by
    rw [mem_ruleKeys]
    rintro ⟨x, hx, hmem⟩
    exact hfirst x hx hmem
  obtain ⟨later, hlater⟩ := prefix_ruleKeys before (d :: rest)
  have hlate : key' ∈ later := by
    have hmem : key' ∈ ruleKeys (before ++ d :: rest) := by
      rw [mem_ruleKeys]
      exact ⟨d, by simp, hcontributes'⟩
    rw [← hlater] at hmem
    exact (List.mem_append.1 hmem).resolve_left hnotEarly
  rw [hsplit, ← hlater]
  exact (List.singleton_sublist.2 hearly).append (List.singleton_sublist.2 hlate)

/-! ## The policy that is built -/

variable {registry : EvaluationRuleRegistry} {built : Compliance.Policy}

/-- Every rule is filed under its own key, as `register` files it. -/
def EvaluationRuleRegistry.Filed (registry : EvaluationRuleRegistry) : Prop :=
  ∀ key rule, registry.rules.get? key = some rule → rule.key = key

theorem register_filed {registry' : EvaluationRuleRegistry} {rule : Compliance.Rule}
    (hfiled : registry.Filed) (h : registry.register rule = .ok registry') : registry'.Filed := by
  unfold EvaluationRuleRegistry.register at h
  split at h
  · cases h
  · cases h
    intro key r hr
    rw [Dict.get?_insert] at hr
    split at hr
    · rename_i hkey
      cases hr
      exact hkey.symm
    · exact hfiled key r hr

example (rule : Compliance.Rule) (registry' : EvaluationRuleRegistry)
    (h : EvaluationRuleRegistry.register {} rule = .ok registry') : registry'.Filed :=
  register_filed (fun _ _ hrule => by cases hrule) h

theorem get_ok_iff {key : String} {rule : Compliance.Rule} :
    registry.get key = .ok rule ↔ registry.rules.get? key = some rule := by
  unfold EvaluationRuleRegistry.get
  cases registry.rules.get? key with
  | none => simp
  | some rule' => simp

theorem buildPolicy_ok (h : buildPolicy registry byId p = .ok built) :
    (ruleKeys (resolveInheritedPackages byId p)).mapM registry.get = .ok built.rules := by
  unfold buildPolicy at h
  obtain ⟨rules, hrules, h⟩ := Outcomes.bind_ok h
  cases h
  exact hrules

theorem buildPolicy_succeeds_iff : (∃ built, buildPolicy registry byId p = .ok built) ↔
    ∀ key ∈ ruleKeys (resolveInheritedPackages byId p),
      ∃ rule, registry.rules.get? key = some rule := by
  simp only [← get_ok_iff]
  rw [← Outcomes.mapM_succeeds_iff]
  constructor
  · rintro ⟨built, h⟩
    exact ⟨built.rules, buildPolicy_ok h⟩
  · rintro ⟨rules, h⟩
    unfold buildPolicy
    rw [h]
    exact ⟨_, rfl⟩

theorem mem_ruleKeys_resolved {key : String} :
    key ∈ ruleKeys (resolveInheritedPackages byId p) ↔ Contributed byId p key := by
  simp only [mem_ruleKeys, mem_resolveInheritedPackages, Contributed]

/-- The keys are those of the package and of all that it inherits, each once, and without a circle
those of an ancestor come before those of its descendants. -/
structure Closure (byId : Dict UUID PolicyPackage) (p : PolicyPackage) (keys : List String) :
    Prop where
  nodup : keys.Nodup
  closed : ∀ key, key ∈ keys ↔ Contributed byId p key
  ordered : Acyclic byId p → ∀ a d key key', Descends byId d a → FirstFrom byId p key a →
    FirstFrom byId p key' d → [key, key'].Sublist keys

/-- A policy is built if all rules that are contributed are registered, and only then; its rules
are those of the closure. -/
theorem inheritance_closure (registry : EvaluationRuleRegistry) (byId : Dict UUID PolicyPackage)
    (p : PolicyPackage) :
    ((∃ built, buildPolicy registry byId p = .ok built) ↔
      ∀ key, Contributed byId p key → ∃ rule, registry.rules.get? key = some rule) ∧
    ∀ built, buildPolicy registry byId p = .ok built → ∃ keys, Closure byId p keys ∧
      List.Forall₂ (fun key rule => registry.rules.get? key = some rule) keys built.rules ∧
      (registry.Filed → built.rules.map (·.key) = keys) := by
  constructor
  · rw [buildPolicy_succeeds_iff]
    simp only [mem_ruleKeys_resolved]
  · intro built h
    have hrules : List.Forall₂ (fun key rule => registry.rules.get? key = some rule)
        (ruleKeys (resolveInheritedPackages byId p)) built.rules :=
      (Outcomes.mapM_ok_iff.1 (buildPolicy_ok h)).imp fun _ _ => get_ok_iff.1
    refine ⟨_, ⟨nodup_ruleKeys _, fun key => mem_ruleKeys_resolved,
      fun hacyclic a d key key' => ruleKeys_ordered hacyclic⟩, hrules, fun hfiled => ?_⟩
    clear h
    generalize ruleKeys (resolveInheritedPackages byId p) = keys at hrules
    generalize built.rules = rules at hrules
    induction hrules with
    | nil => rfl
    | cons hfirst _ ih => rw [List.map_cons, hfiled _ _ hfirst, ih]

/-- A package with one rule that refers to no other package. -/
def plainPackage : PolicyPackage where
  policyId := 1
  policyKey := "baseline"
  version := ⟨1, 0, 0, []⟩
  rules := [{ key := "ntp", name := "NTP" }]
  baselines := []
  assignments := []
  inheritedIds := []
  compiledAt := 0

/-- Without its rule in the registry it gives no policy. -/
theorem unregistered_raises : ¬ ∃ built, buildPolicy {} .empty plainPackage = .ok built := by
  rw [buildPolicy_succeeds_iff]
  intro h
  have hkey : Contributed .empty plainPackage "ntp" := ⟨plainPackage, .refl, by decide⟩
  obtain ⟨rule, hrule⟩ := h "ntp" (mem_ruleKeys_resolved.2 hkey)
  cases hrule

end Policies
end NetOps
