import NetOps.Moments
import NetOps.Policies.Models

/-!
# Policies.Versions

Versions of a policy over sequences of bumps. A MAJOR bump keeps the major number, and every bump
after the first one writes the version it starts from a second time into the history.

* `versions_kept`: the history after a bump has every version the policy has had.
* `versions_advance_iff`: the versions advance as they should over a sequence of bumps if and only
  if the sequence has at most one bump, of a policy whose history is in order, that does advance.
-/

namespace NetOps
namespace Policies

open Moments (Always)

/-! ## The order of versions -/

namespace PolicyVersion

theorem lt_iff {v w : PolicyVersion} : v.lt w = true ↔
    v.major < w.major ∨ v.major = w.major ∧
      (v.minor < w.minor ∨ v.minor = w.minor ∧ v.patch < w.patch) := by
  simp [lt, parts, List.cons_lt_cons_iff]

@[simp] theorem lt_irrefl (v : PolicyVersion) : v.lt v = false := by
  rw [← Bool.not_eq_true, lt_iff]
  omega

theorem lt_trans {u v w : PolicyVersion} (h : u.lt v = true) (h' : v.lt w = true) :
    u.lt w = true := by
  rw [lt_iff] at *
  omega

theorem not_lt_of_lt {v w : PolicyVersion} (h : v.lt w = true) : w.lt v = false := by
  rw [← Bool.not_eq_true]
  rw [lt_iff] at *
  omega

/-- In the order of versions. -/
def Increasing (versions : List PolicyVersion) : Prop := versions.Pairwise fun v w => v.lt w = true

theorem Increasing.nodup {versions : List PolicyVersion} (h : Increasing versions) :
    versions.Nodup := by
  refine h.imp ?_
  rintro v w hlt rfl
  simp at hlt

theorem increasing_snoc {versions : List PolicyVersion} {v w : PolicyVersion} :
    Increasing (versions ++ [v] ++ [w]) ↔ Increasing (versions ++ [v]) ∧ v.lt w = true := by
  unfold Increasing
  rw [List.pairwise_append]
  simp only [List.pairwise_singleton, true_and, List.mem_singleton, forall_eq]
  constructor
  · intro ⟨hinit, hlast⟩
    exact ⟨hinit, hlast v (by simp)⟩
  · intro ⟨hinit, hlast⟩
    refine ⟨hinit, ?_⟩
    intro u hu
    rcases List.mem_append.1 hu with hu | hu
    · exact lt_trans ((List.pairwise_append.1 hinit).2.2 u hu v (by simp)) hlast
    · rw [List.mem_singleton.1 hu]
      exact hlast

end PolicyVersion

namespace Policy

/-! ## Sequences of bumps -/

/-- The policy after the bumps. -/
def bumped (p : Policy) (changes : List VersionChange) : Policy := changes.foldl bumpVersion p

/-- The versions the policy has had since it was created. -/
def versions (p : Policy) : List VersionChange → List PolicyVersion
  | [] => [p.version]
  | c :: changes => p.version :: versions (p.bumpVersion c) changes

@[simp] theorem bumped_snoc (p : Policy) (changes : List VersionChange) (c : VersionChange) :
    p.bumped (changes ++ [c]) = (p.bumped changes).bumpVersion c := List.foldl_concat ..

theorem versions_snoc (p : Policy) (changes : List VersionChange) (c : VersionChange) :
    p.versions (changes ++ [c]) = p.versions changes ++ [(p.bumped (changes ++ [c])).version] := by
  induction changes generalizing p with
  | nil => rfl
  | cons d changes ih =>
    rw [List.cons_append, versions, versions, ih, List.cons_append]
    rfl

/-- What the bump does to the versions of the policy, after the bumps before it. -/
structure Advances (p : Policy) (past : List VersionChange) (c : VersionChange) : Prop where
  greater : (p.bumped past).version.lt (p.bumped (past ++ [c])).version = true
  increasing : PolicyVersion.Increasing (p.bumped (past ++ [c])).versionHistory
  distinct : (p.bumped (past ++ [c])).versionHistory.Nodup
  complete : ∀ v ∈ p.versions (past ++ [c]), v ∈ (p.bumped (past ++ [c])).versionHistory
  current : (p.bumped (past ++ [c])).versionHistory.getLast? =
    some (p.bumped (past ++ [c])).version
  previous : (p.bumped (past ++ [c])).previousVersion = some (p.bumped past).version

/-- A MAJOR bump drops the other two numbers and changes nothing else. -/
def Raises (v : PolicyVersion) (c : VersionChange) : Prop :=
  c = .major → v.minor < 0 ∨ v.minor = 0 ∧ v.patch < 0

/-- At most one bump, which raises the version of a policy with its history in order. -/
def OneRaise (p : Policy) (changes : List VersionChange) : Prop :=
  changes = [] ∨ ∃ c, changes = [c] ∧ Raises p.version c ∧
    PolicyVersion.Increasing (p.versionHistory ++ [p.version])

/-! ## One bump -/

variable {p : Policy} {changes past : List VersionChange} {c : VersionChange}

theorem bumpVersion_history (p : Policy) (c : VersionChange) :
    (p.bumpVersion c).versionHistory =
      p.versionHistory ++ [p.version] ++ [(p.bumpVersion c).version] := by
  cases c <;> rfl

@[simp] theorem bumpVersion_previous (p : Policy) (c : VersionChange) :
    (p.bumpVersion c).previousVersion = some p.version := by
  cases c <;> rfl

theorem bumpVersion_lt_iff : p.version.lt (p.bumpVersion c).version = true ↔
    Raises p.version c := by
  unfold Raises
  rw [PolicyVersion.lt_iff]
  cases c with
  | major => simp [bumpVersion]
  | minor =>
    have hlt : p.version.minor < p.version.minor + 1 := by omega
    simp [bumpVersion, hlt]
  | patch =>
    have hlt : p.version.patch < p.version.patch + 1 := by omega
    simp [bumpVersion, hlt]

/-- The history after a bump has every version so far. -/
theorem versions_kept (p : Policy) (past : List VersionChange) (c : VersionChange) :
    ∀ v ∈ p.versions (past ++ [c]), v ∈ (p.bumped (past ++ [c])).versionHistory := by
  induction past using List.reverseRecOn generalizing c with
  | nil =>
    intro v hv
    rw [List.nil_append] at hv ⊢
    have hhistory := bumpVersion_history p c
    simp only [versions, List.mem_cons, List.not_mem_nil, or_false] at hv
    show v ∈ (p.bumpVersion c).versionHistory
    rw [hhistory]
    rcases hv with rfl | rfl
    · simp
    · simp
  | append_singleton past d ih =>
    intro v hv
    rw [versions_snoc, List.mem_append, List.mem_singleton] at hv
    rw [bumped_snoc] at hv ⊢
    rw [bumpVersion_history]
    rcases hv with hv | rfl
    · exact List.mem_append_left _ (List.mem_append_left _ (ih d v hv))
    · simp

/-- Apart from the order, a bump keeps the versions as it should. -/
theorem advances_iff : p.Advances past c ↔ Raises (p.bumped past).version c ∧
    PolicyVersion.Increasing ((p.bumped past).versionHistory ++ [(p.bumped past).version]) := by
  have hsnoc : PolicyVersion.Increasing (p.bumped (past ++ [c])).versionHistory ↔
      PolicyVersion.Increasing ((p.bumped past).versionHistory ++ [(p.bumped past).version]) ∧
        Raises (p.bumped past).version c := by
    rw [bumped_snoc, bumpVersion_history, PolicyVersion.increasing_snoc, bumpVersion_lt_iff]
  constructor
  · intro h
    exact (hsnoc.1 h.increasing).symm
  · intro h
    have hincreasing := hsnoc.2 h.symm
    refine ⟨?_, hincreasing, hincreasing.nodup, versions_kept p past c, ?_, ?_⟩
    · rw [bumped_snoc, bumpVersion_lt_iff]
      exact h.1
    · rw [bumped_snoc, bumpVersion_history, List.getLast?_concat]
    · rw [bumped_snoc, bumpVersion_previous]

/-- After a bump the version stands in the history already. -/
theorem not_increasing_bumped (p : Policy) (past : List VersionChange) (c : VersionChange) :
    ¬ PolicyVersion.Increasing ((p.bumped (past ++ [c])).versionHistory ++
      [(p.bumped (past ++ [c])).version]) := by
  rw [bumped_snoc, bumpVersion_history, PolicyVersion.increasing_snoc]
  simp

/-! ## The sequence -/

/-- Every bump of a sequence leads to a greater version, recorded with all before it in order, if
and only if there is at most one bump, it is not a MAJOR bump of a version that has nothing below
zero behind its major number, and the policy began with its history in order. -/
theorem versions_advance_iff (p : Policy) (changes : List VersionChange) :
    Always p.Advances changes ↔ p.OneRaise changes := by
  constructor
  · intro h
    cases changes with
    | nil => exact .inl rfl
    | cons c changes =>
      have hfirst := advances_iff.1 (h [] c changes rfl)
      cases changes with
      | nil => exact .inr ⟨c, rfl, hfirst⟩
      | cons d rest =>
        have hsecond := advances_iff.1 (h [c] d rest rfl)
        exact absurd hsecond.2 (not_increasing_bumped p [] c)
  · intro h past c rest hsplit
    rcases h with rfl | ⟨d, rfl, hraises, hincreasing⟩
    · simp at hsplit
    · cases past with
      | nil =>
        cases hsplit
        exact advances_iff.2 ⟨hraises, hincreasing⟩
      | cons e past => simp at hsplit

/-- A policy that was just created. -/
def created (major minor patch : Int) : Policy where
  id := 1
  key := "baseline"
  name := "Baseline"
  version := ⟨major, minor, patch, []⟩
  lifecycle := .draft
  metadata := { createdAt := 0 }

/-- A MAJOR bump of 1.0.0 gives 1.0.0. -/
theorem major_stays : ¬ Always (created 1 0 0).Advances [.major] := by
  intro h
  exact absurd (h [] .major [] rfl).greater (by decide)

end Policy
end Policies
end NetOps
