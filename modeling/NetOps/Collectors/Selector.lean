import NetOps.Collectors.Cisco

/-!
# Collectors.Selector

The transport selector (`CiscoTransportSelector.select` without a preferred name) over any manager
and any table of transport names. It goes through the capabilities in priority order and through
the names listed for each; an unknown name raises what the loop does not catch.

* `selectFirst_ok`, `selectFirst_error`: the two loops are one pass over the listed pairs.
* `complete_iff`: the selector answers the first usable pair, or that there is none, exactly when
  every name it looks at before is registered.
-/

namespace NetOps
namespace Collectors
namespace Cisco

open Discovery (Exn TransportCapability)
open Transports (BaseTransport TransportManager)
open Vendors.Cisco (CiscoPlatformDefinition)

variable {W : Type}

structure CiscoTransportSelector (W : Type) where
  transportManager : TransportManager W
  transportNames : TransportCapability → List String := defaultTransportNames

namespace CiscoTransportSelector

/-- The loop over the names of a capability. -/
def selectAmong (s : CiscoTransportSelector W) (platform : CiscoPlatformDefinition) :
    List TransportCapability → Except Exn CiscoTransportSelection
  | [] => .error (.raised s!"No registered transport is available for '{platform.family}'.")
  | capability :: rest =>
    if platform.transportSupport.contains capability then
      match selectName s.transportManager capability (s.transportNames capability) with
      | .error e => .error e
      | .ok (some selection) => .ok selection
      | .ok none => s.selectAmong platform rest
    else s.selectAmong platform rest

/-- `select(platform)`, without a preferred name. -/
def selectByPriority (s : CiscoTransportSelector W) (platform : CiscoPlatformDefinition) :
    Except Exn CiscoTransportSelection :=
  s.selectAmong platform transportPriority

theorem selectAmong_default (m : TransportManager W) (platform : CiscoPlatformDefinition)
    (capabilities : List TransportCapability) :
    selectAmong { transportManager := m } platform capabilities =
      selectDefault m platform capabilities := by
  induction capabilities with
  | nil => rfl
  | cons capability rest ih =>
    rw [selectDefault, ← ih]
    rfl

/-- With the default names this is what a collector's selector does. -/
theorem selectByPriority_default (m : TransportManager W) (platform : CiscoPlatformDefinition) :
    selectByPriority { transportManager := m } platform = select m platform none :=
  selectAmong_default m platform transportPriority

/-! ## The listed pairs -/

variable (s : CiscoTransportSelector W) (platform : CiscoPlatformDefinition)

/-- The pairs listed for the platform, in the order the selector looks at them. -/
def pairsOf (capabilities : List TransportCapability) : List (TransportCapability × String) :=
  (capabilities.filter platform.transportSupport.contains).flatMap fun capability =>
    (s.transportNames capability).map fun name => (capability, name)

def pairs : List (TransportCapability × String) := s.pairsOf platform transportPriority

/-- The named transport is registered. -/
def registered (p : TransportCapability × String) : Bool :=
  (s.transportManager.resolve p.2).isOk

/-- The named transport is registered and has the capability. -/
def usable (p : TransportCapability × String) : Bool :=
  match s.transportManager.resolve p.2 with
  | .ok transport => transport.capabilities.contains p.1
  | .error _ => false

/-- One pass over the pairs. -/
def selectFirst : List (TransportCapability × String) →
    Except Exn (Option CiscoTransportSelection)
  | [] => .ok none
  | p :: rest =>
    match s.transportManager.resolve p.2 with
    | .error e => .error e
    | .ok transport =>
      if transport.capabilities.contains p.1 then .ok (some ⟨p.1, transport.name⟩)
      else selectFirst rest

theorem resolve_name {m : TransportManager W} {name : String} {transport : BaseTransport W}
    (h : m.resolve name = .ok transport) : transport.name = name := by
  unfold TransportManager.resolve at h
  split at h
  · rename_i found hfound
    cases h
    simpa using List.find?_some hfound
  · cases h

theorem resolve_error {m : TransportManager W} {name : String} {e : Exn}
    (h : m.resolve name = .error e) : ∃ message, e = .transportUnavailable message := by
  unfold TransportManager.resolve at h
  split at h
  · cases h
  · cases h
    exact ⟨_, rfl⟩

theorem selectFirst_names (capability : TransportCapability) (names : List String)
    (rest : List (TransportCapability × String)) :
    s.selectFirst ((names.map fun name => (capability, name)) ++ rest) =
      match selectName s.transportManager capability names with
      | .error e => .error e
      | .ok (some selection) => .ok (some selection)
      | .ok none => s.selectFirst rest := by
  induction names with
  | nil => rfl
  | cons name names ih =>
    rw [List.map_cons, List.cons_append, selectFirst, selectName]
    cases hresolve : s.transportManager.resolve name with
    | error e => rfl
    | ok transport =>
      by_cases hcap : transport.capabilities.contains capability = true
      · simp only [hcap, if_true]
      · simp only [hcap, Bool.false_eq_true, if_false]
        exact ih

/-- The two loops are one pass over the pairs. -/
theorem selectAmong_eq (capabilities : List TransportCapability) :
    s.selectAmong platform capabilities =
      match s.selectFirst (s.pairsOf platform capabilities) with
      | .error e => .error e
      | .ok (some selection) => .ok selection
      | .ok none =>
        .error (.raised s!"No registered transport is available for '{platform.family}'.") := by
  induction capabilities with
  | nil => rfl
  | cons capability rest ih =>
    unfold selectAmong pairsOf
    by_cases hsupport : platform.transportSupport.contains capability = true
    · rw [if_pos hsupport, List.filter_cons_of_pos hsupport, List.flatMap_cons, selectFirst_names]
      cases selectName s.transportManager capability (s.transportNames capability) with
      | error e => rfl
      | ok found =>
        cases found with
        | none => exact ih
        | some selection => rfl
    · rw [if_neg hsupport, List.filter_cons_of_neg hsupport]
      exact ih

/-! ## The first usable pair -/

/-- If all names before the first usable pair are registered, the pass finds that pair. -/
theorem selectFirst_ok {pairs : List (TransportCapability × String)}
    (h : ∀ p ∈ pairs.takeWhile (fun p => !s.usable p), s.registered p = true) :
    s.selectFirst pairs = .ok ((pairs.find? s.usable).map fun p => ⟨p.1, p.2⟩) := by
  induction pairs with
  | nil => rfl
  | cons p rest ih =>
    unfold selectFirst
    by_cases huse : s.usable p = true
    · rw [List.find?_cons_of_pos huse]
      unfold usable at huse
      cases hresolve : s.transportManager.resolve p.2 with
      | error e => simp [hresolve] at huse
      | ok transport =>
        simp only [hresolve] at huse
        simp only [huse, if_true, Option.map_some, resolve_name hresolve]
    · rw [List.takeWhile_cons_of_pos (by simpa using huse), List.forall_mem_cons] at h
      rw [List.find?_cons_of_neg huse]
      have hregistered := h.1
      unfold usable at huse
      unfold registered at hregistered
      cases hresolve : s.transportManager.resolve p.2 with
      | error e =>
        rw [hresolve] at hregistered
        cases hregistered
      | ok transport =>
        simp only [hresolve] at huse
        simp only [huse, Bool.false_eq_true, if_false]
        exact ih h.2

/-- If one of them is not, the pass ends there. -/
theorem selectFirst_error {pairs : List (TransportCapability × String)}
    (h : ¬ ∀ p ∈ pairs.takeWhile (fun p => !s.usable p), s.registered p = true) :
    ∃ message, s.selectFirst pairs = .error (.transportUnavailable message) := by
  induction pairs with
  | nil => simp at h
  | cons p rest ih =>
    unfold selectFirst
    have hnot : ¬ s.usable p = true := by
      intro huse
      rw [List.takeWhile_cons_of_neg (by simp [huse])] at h
      simp at h
    rw [List.takeWhile_cons_of_pos (by simpa using hnot), List.forall_mem_cons] at h
    unfold usable at hnot
    cases hresolve : s.transportManager.resolve p.2 with
    | error e =>
      obtain ⟨message, rfl⟩ := resolve_error hresolve
      exact ⟨message, rfl⟩
    | ok transport =>
      simp only [hresolve] at hnot
      simp only [hnot, Bool.false_eq_true, if_false]
      refine ih fun hrest => h ⟨?_, hrest⟩
      simp [registered, hresolve, Except.isOk, Except.toBool]

/-! ## Completeness -/

/-- The selector answers the first usable pair, and raises its own error if there is none and only
then. -/
structure Complete : Prop where
  first : ∀ before p after, s.pairs platform = before ++ p :: after → s.usable p = true →
    (∀ q ∈ before, s.usable q = false) → s.selectByPriority platform = .ok ⟨p.1, p.2⟩
  noPair : s.selectByPriority platform =
      .error (.raised s!"No registered transport is available for '{platform.family}'.") ↔
    ∀ p ∈ s.pairs platform, s.usable p = false

theorem complete_of_eq (h : s.selectFirst (s.pairs platform) =
    .ok (((s.pairs platform).find? s.usable).map fun p => ⟨p.1, p.2⟩)) : s.Complete platform := by
  have heq := s.selectAmong_eq platform transportPriority
  rw [← pairs, h] at heq
  rw [← selectByPriority] at heq
  constructor
  · intro before p after hsplit huse hbefore
    have hfind : (s.pairs platform).find? s.usable = some p := by
      rw [List.find?_eq_some_iff_append]
      refine ⟨huse, before, after, hsplit, fun q hq => ?_⟩
      rw [hbefore q hq]
      rfl
    rw [heq, hfind]
    rfl
  · rw [heq]
    constructor
    · intro herror p hp
      cases hfind : (s.pairs platform).find? s.usable with
      | none => simpa using List.find?_eq_none.1 hfind p hp
      | some q =>
        rw [hfind] at herror
        cases herror
    · intro hnone
      have hfind : (s.pairs platform).find? s.usable = none := by
        rw [List.find?_eq_none]
        intro p hp
        rw [hnone p hp]
        exact Bool.false_ne_true
      rw [hfind]
      rfl

/-- The selector is complete exactly when every name listed before the first usable pair is
registered; every listed name, if no pair is usable. -/
theorem complete_iff : s.Complete platform ↔
    ∀ p ∈ (s.pairs platform).takeWhile (fun p => !s.usable p), s.registered p = true := by
  constructor
  · intro h
    by_contra hnot
    obtain ⟨message, herror⟩ := s.selectFirst_error hnot
    have heq := s.selectAmong_eq platform transportPriority
    rw [← pairs, herror] at heq
    rw [← selectByPriority] at heq
    cases hfind : (s.pairs platform).find? s.usable with
    | none =>
      have hraised := h.noPair.2 fun p hp => by simpa using List.find?_eq_none.1 hfind p hp
      rw [heq] at hraised
      cases hraised
    | some p =>
      obtain ⟨huse, before, after, hsplit, hbefore⟩ := List.find?_eq_some_iff_append.1 hfind
      have hok := h.first before p after hsplit huse fun q hq => by simpa using hbefore q hq
      rw [heq] at hok
      cases hok
  · intro h
    exact s.complete_of_eq platform (s.selectFirst_ok h)

/-! ## An unregistered name -/

/-- A manager that has Paramiko only. -/
def paramikoOnly : CiscoTransportSelector Unit where
  transportManager := { registry := [⟨"paramiko", [.ssh], fun _ _ => .ok (), fun _ _ => none,
    fun _ _ => none⟩] }

def sshPlatform : CiscoPlatformDefinition where
  family := "catalyst-2960"
  modelNames := []
  productIds := []
  transportSupport := [.ssh]
  parserFamily := "ios"
  capabilities := []
  platformStrings := []
  sysObjectIds := []
  httpBanners := []

/-- Netmiko is listed before Paramiko and is not registered, so Paramiko is not selected. -/
theorem paramiko_not_selected : ¬ paramikoOnly.Complete sshPlatform := by
  intro h
  have hok := h.first [(.ssh, "netmiko")] (.ssh, "paramiko") [] rfl (by decide) (by
    intro q hq
    cases List.mem_singleton.1 hq
    decide)
  cases hok

end CiscoTransportSelector
end Cisco
end Collectors
end NetOps
