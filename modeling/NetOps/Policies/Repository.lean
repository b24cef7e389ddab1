import NetOps.Dict
import NetOps.Moments
import NetOps.Policies.Models

/-!
# Policies.Repository

The repository of policies (`policies/repository.py`). It files policies by key and finds them by
id; `add` replaces what its key leads to, and `update` asks only whether the caller's copy of the
old policy is published.

* `stores_kept`, `unique_kept`: what a harmless call keeps; `harmless_of_kept`: only such a call
  keeps it.
* `immutable_iff`: over a sequence of calls published policies are immutable if and only if every
  call is refused or harmless in the repository that it meets.
-/

namespace NetOps
namespace Policies

open Discovery (UUID)
open Moments (Always)

structure InMemoryPolicyRepository where
  policies : Dict String Policy := .empty

/-- What changes a repository. -/
inductive RepositoryCall where
  | add (policy : Policy)
  | update (existing updated : Policy)

namespace InMemoryPolicyRepository

def add (repo : InMemoryPolicyRepository) (policy : Policy) : InMemoryPolicyRepository :=
  { policies := repo.policies.insert policy.key policy }

def get (repo : InMemoryPolicyRepository) (policyId : UUID) : Option Policy :=
  repo.policies.values.find? fun policy => policy.id = policyId

def list (repo : InMemoryPolicyRepository) : List Policy := repo.policies.values

def update (repo : InMemoryPolicyRepository) (existing updated : Policy) :
    Except PolicyException Policy × InMemoryPolicyRepository :=
  if existing.lifecycle = .published then
    (.error (.policyValidationError "Published policies cannot be modified"), repo)
  else (.ok updated, { policies := repo.policies.insert existing.key updated })

/-- The call raises. -/
def raises (repo : InMemoryPolicyRepository) : RepositoryCall → Prop
  | .add _ => False
  | .update existing updated => ∃ e, (repo.update existing updated).1 = .error e

def after (repo : InMemoryPolicyRepository) : RepositoryCall → InMemoryPolicyRepository
  | .add policy => repo.add policy
  | .update existing updated => (repo.update existing updated).2

/-- The repository after a sequence of calls on an empty one. -/
def run (calls : List RepositoryCall) : InMemoryPolicyRepository := calls.foldl after {}

@[simp] theorem run_snoc (calls : List RepositoryCall) (c : RepositoryCall) :
    run (calls ++ [c]) = (run calls).after c := List.foldl_concat ..

/-! ## Immutability -/

/-- The policy is stored under the key. -/
def Stores (repo : InMemoryPolicyRepository) (key : String) (p : Policy) : Prop :=
  repo.policies.get? key = some p

/-- Two stored policies never share an id. -/
def UniqueIds (repo : InMemoryPolicyRepository) : Prop :=
  ∀ k k' p p', repo.Stores k p → repo.Stores k' p' → p.id = p'.id → k = k'

end InMemoryPolicyRepository

namespace RepositoryCall

/-- The key a call files a policy under, unless it raises. -/
def key : RepositoryCall → String
  | .add policy => policy.key
  | .update existing _ => existing.key

/-- The policy a call files. -/
def policy : RepositoryCall → Policy
  | .add policy => policy
  | .update _ updated => updated

/-- The guard of `update`. -/
def guarded : RepositoryCall → Prop
  | .add _ => False
  | .update existing _ => existing.lifecycle = .published

end RepositoryCall

namespace InMemoryPolicyRepository

/-- The call is to replace a stored published policy by another one. -/
def Replaces (repo : InMemoryPolicyRepository) (c : RepositoryCall) : Prop :=
  ∃ p, repo.Stores c.key p ∧ p.lifecycle = .published ∧ c.policy ≠ p

/-- Published policies are immutable over the calls. -/
structure Immutable (calls : List RepositoryCall) : Prop where
  kept : ∀ past later rest, calls = past ++ later ++ rest → ∀ key p, (run past).Stores key p →
    p.lifecycle = .published → (run (past ++ later)).get p.id = some p
  refused : Always (fun past c => (run past).Replaces c →
    (run past).raises c ∧ run (past ++ [c]) = run past) calls
  unique : ∀ past rest, calls = past ++ rest → (run past).UniqueIds

/-- The call files its policy under a key that leads to no other published one, and no other key
leads to a policy of its id. -/
structure Harmless (repo : InMemoryPolicyRepository) (c : RepositoryCall) : Prop where
  published : ¬ repo.Replaces c
  fresh : ∀ key p, repo.Stores key p → p.id = c.policy.id → key = c.key

/-! ## One call -/

variable {repo : InMemoryPolicyRepository} {c : RepositoryCall}

theorem raises_iff : repo.raises c ↔ c.guarded := by
  cases c with
  | add policy => exact Iff.rfl
  | update existing updated =>
    by_cases hpublished : existing.lifecycle = .published
    · simp [raises, update, RepositoryCall.guarded, hpublished]
    · simp [raises, update, RepositoryCall.guarded, hpublished]

theorem after_guarded (h : c.guarded) : repo.after c = repo := by
  cases c with
  | add policy => exact absurd h id
  | update existing updated =>
    have hpublished : existing.lifecycle = .published := h
    simp only [after, update, if_pos hpublished]

theorem after_policies (h : ¬ c.guarded) :
    (repo.after c).policies = repo.policies.insert c.key c.policy := by
  cases c with
  | add policy => rfl
  | update existing updated =>
    have hnot : ¬ existing.lifecycle = .published := h
    simp only [after, update, if_neg hnot]
    rfl

theorem stores_after (h : ¬ c.guarded) {key : String} {p : Policy} :
    (repo.after c).Stores key p ↔ if key = c.key then c.policy = p else repo.Stores key p := by
  unfold Stores
  rw [after_policies h, Dict.get?_insert]
  split <;> simp

/-- With different ids, `get` finds what is stored. -/
theorem get_iff (hunique : repo.UniqueIds) {p : Policy} :
    repo.get p.id = some p ↔ ∃ key, repo.Stores key p := by
  unfold get
  constructor
  · intro h
    exact Dict.mem_values.1 (List.mem_of_find?_eq_some h)
  · intro ⟨key, hkey⟩
    cases hfind : repo.policies.values.find? fun q => q.id = p.id with
    | none =>
      have hno := List.find?_eq_none.1 hfind p (Dict.mem_values.2 ⟨key, hkey⟩)
      simp at hno
    | some q =>
      obtain ⟨key', hkey'⟩ := Dict.mem_values.1 (List.mem_of_find?_eq_some hfind)
      have hid : q.id = p.id := by simpa using List.find?_some hfind
      cases hunique key' key q p hkey' hkey hid
      rw [Stores, hkey'] at hkey
      exact hkey

theorem stores_policy (h : ¬ c.guarded) : (repo.after c).Stores c.key c.policy := by
  rw [stores_after h, if_pos rfl]

/-- A call that replaces no published policy leaves those that are stored. -/
theorem stores_kept (h : c.guarded ∨ ¬ repo.Replaces c) {key : String} {p : Policy}
    (hp : repo.Stores key p) (hpublished : p.lifecycle = .published) :
    (repo.after c).Stores key p := by
  by_cases hguard : c.guarded
  · rw [after_guarded hguard]
    exact hp
  · have hnot := h.resolve_left hguard
    rw [stores_after hguard]
    split
    · rename_i hkey
      subst hkey
      by_contra hne
      exact hnot ⟨p, hp, hpublished, hne⟩
    · exact hp

theorem unique_kept (hunique : repo.UniqueIds) (h : c.guarded ∨ repo.Harmless c) :
    (repo.after c).UniqueIds := by
  by_cases hguard : c.guarded
  · rw [after_guarded hguard]
    exact hunique
  · have hfresh := (h.resolve_left hguard).fresh
    intro k k' p p' hp hp' hid
    rw [stores_after hguard] at hp hp'
    by_cases hk : k = c.key
    · by_cases hk' : k' = c.key
      · rw [hk, hk']
      · rw [if_pos hk] at hp
        rw [if_neg hk'] at hp'
        subst hp
        exact hk.trans (hfresh k' p' hp' hid.symm).symm
    · rw [if_neg hk] at hp
      by_cases hk' : k' = c.key
      · rw [if_pos hk'] at hp'
        subst hp'
        exact (hfresh k p hp hid).trans hk'.symm
      · rw [if_neg hk'] at hp'
        exact hunique k k' p p' hp hp' hid

/-- A call that leaves different ids and the published policies is harmless. -/
theorem harmless_of_kept (hunique : repo.UniqueIds) (hafter : (repo.after c).UniqueIds)
    (hkept : ∀ key p, repo.Stores key p → p.lifecycle = .published →
      (repo.after c).get p.id = some p) (hguard : ¬ c.guarded) : repo.Harmless c := by
  constructor
  · intro ⟨p, hp, hpublished, hne⟩
    obtain ⟨key, hkey⟩ := (get_iff hafter).1 (hkept c.key p hp hpublished)
    rw [stores_after hguard] at hkey
    split at hkey
    · exact hne hkey
    · rename_i hother
      exact hother (hunique key c.key p p hkey hp rfl)
  · intro key p hp hid
    by_contra hother
    have hstill : (repo.after c).Stores key p := by
      rw [stores_after hguard, if_neg hother]
      exact hp
    exact hother (hafter key c.key p c.policy hstill (stores_policy hguard) hid)

/-! ## Sequences of calls -/

variable {calls : List RepositoryCall}

/-- Every call of the sequence is refused by the guard or harmless where it is made. -/
def AllHarmless (calls : List RepositoryCall) : Prop :=
  Always (fun past c => c.guarded ∨ (run past).Harmless c) calls

theorem run_unique {past rest : List RepositoryCall} (h : AllHarmless (past ++ rest)) :
    (run past).UniqueIds := by
  induction past using List.reverseRecOn generalizing rest with
  | nil =>
    intro k k' p p' hp
    cases hp
  | append_singleton past c ih =>
    rw [List.append_assoc] at h
    rw [run_snoc]
    exact unique_kept (ih h) (h past c rest rfl)

theorem run_stores {past later rest : List RepositoryCall}
    (h : AllHarmless (past ++ later ++ rest)) {key : String} {p : Policy}
    (hp : (run past).Stores key p) (hpublished : p.lifecycle = .published) :
    (run (past ++ later)).Stores key p := by
  induction later using List.reverseRecOn generalizing rest with
  | nil =>
    rw [List.append_nil]
    exact hp
  | append_singleton later c ih =>
    rw [← List.append_assoc] at h ⊢
    rw [List.append_assoc] at h
    rw [run_snoc]
    refine stores_kept ?_ (ih h) hpublished
    exact (h (past ++ later) c rest rfl).imp_right (·.published)

/-- Published policies are immutable over a sequence of calls exactly when every call is refused
by the guard of `update`, or files its policy where no other published policy is stored and under
an id that no other key has. -/
theorem immutable_iff (calls : List RepositoryCall) : Immutable calls ↔ AllHarmless calls := by
  constructor
  · intro h past c rest hsplit
    by_cases hguard : c.guarded
    · exact .inl hguard
    · right
      have hnext : calls = (past ++ [c]) ++ rest := by rw [hsplit, List.append_assoc]; rfl
      have hafter := h.unique (past ++ [c]) rest hnext
      have hkept := h.kept past [c] rest hnext
      rw [run_snoc] at hafter hkept
      exact harmless_of_kept (h.unique past (c :: rest) hsplit) hafter hkept hguard
  · intro h
    constructor
    · intro past later rest hsplit key p hp hpublished
      rw [hsplit] at h
      exact (get_iff (run_unique h)).2 ⟨key, run_stores h hp hpublished⟩
    · intro past c rest hsplit hreplaces
      rcases h past c rest hsplit with hguard | hharmless
      · rw [run_snoc]
        exact ⟨raises_iff.2 hguard, after_guarded hguard⟩
      · exact absurd hreplaces hharmless.published
    · intro past rest hsplit
      rw [hsplit] at h
      exact run_unique h

/-! ## A published policy replaced -/

def samplePolicy : Policy where
  id := 1
  key := "baseline"
  name := "Baseline"
  version := ⟨1, 0, 0, []⟩
  lifecycle := .published
  metadata := { createdAt := 0 }

/-- The next minor version of a published policy is added, and replaces it. -/
theorem published_replaced :
    ¬ Immutable [.add samplePolicy, .add (samplePolicy.bumpVersion .minor)] := by
  intro h
  have hstored : (run [.add samplePolicy]).Stores "baseline" samplePolicy := rfl
  have hreplaces : (run [.add samplePolicy]).Replaces
      (.add (samplePolicy.bumpVersion .minor)) := by
    refine ⟨samplePolicy, hstored, rfl, ?_⟩
    intro heq
    have hversion := congrArg (fun p : Policy => p.version.minor) heq
    cases hversion
  exact (h.refused _ _ [] rfl hreplaces).1

end InMemoryPolicyRepository
end Policies
end NetOps
