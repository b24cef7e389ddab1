import NetOps.Conc.Alone
import NetOps.Discovery.OptIn
import NetOps.Discovery.Runs
import NetOps.Discovery.Samples

/-!
# Discovery.Inheritance

What the target of a child takes from its scope (`_create_child`). Every target has a policy, and
two targets that differ in their plain-HTTP column alone have the same one if and only if their
HTTP opt-ins agree (`policyFor_eq_iff`). `createChild` copies every field the policy is read from
but that column, so the child's policy is the scope's if and only if the column agrees or the
metadata opts in (`child_policy_iff`).
-/

namespace NetOps
namespace Discovery

open Conc Text
open DiscoveryExecutionService
open MultiTransportPolicy (fromCredentialProfile)

/-! ## Every target has a policy -/

/-- A name of the chain: in lower case, and plain HTTP only with its opt-in. -/
def Named (allowInsecureHttp : Bool) (name : String) : Prop :=
  (∃ text, name = lower text) ∧ (name = "http" → allowInsecureHttp = true)

theorem named_ssh (allowInsecureHttp : Bool) : Named allowInsecureHttp "ssh" :=
  ⟨⟨"ssh", by decide⟩, fun h => absurd h (by decide)⟩

theorem policy_new_allowed {transports : List TransportPolicyEntry}
    {allowInsecure allowInsecureHttp : Bool} (credentialProfileId : Option UUID)
    (h : ∀ t ∈ transports, t.Allowed allowInsecure allowInsecureHttp) :
    MultiTransportPolicy.new transports allowInsecure allowInsecureHttp credentialProfileId =
      .ok ⟨transports, allowInsecure, allowInsecureHttp, credentialProfileId, h⟩ := dif_pos h

theorem profileEntry_some {credentialType : Option String} {allowInsecure allowInsecureHttp : Bool}
    {name : String} {entry : TransportPolicyEntry}
    (h : profileEntry credentialType allowInsecure allowInsecureHttp name = some entry) :
    entry.Allowed allowInsecure allowInsecureHttp ∧
      TransportCapability.ofValue (upper name) = some entry.capability ∧
      entry.isInsecure = insecureTransports.contains entry.capability ∧
      entry.transportName = lower name := by
  unfold profileEntry at h
  split at h
  · cases h
  · rename_i capability hcap
    split at h
    · cases h
    · split at h
      · cases h
      · rename_i hopt
        cases h
        rw [not_or, not_and, not_and] at hopt
        refine ⟨fun _ => ⟨fun ht => ?_, fun hh => ?_⟩, hcap, rfl, rfl⟩
        · simpa using hopt.1 ht
        · simpa using hopt.2 hh

/-- The letters of `http` have no upper or lower case outside the alphabet. -/
theorem http_letters : ∀ l ∈ "http".toList,
    (97 ≤ l.toNat ∧ l.toNat ≤ 122) ∧ l ≠ 's' ∧ l ≠ 'i' ∧ l ≠ 'f' ∧ l ≠ 'k' := by
  intro l hl
  have hall : ("http".toList.all fun l =>
      decide ((97 ≤ l.toNat ∧ l.toNat ≤ 122) ∧ l ≠ 's' ∧ l ≠ 'i' ∧ l ≠ 'f' ∧ l ≠ 'k')) = true := by
    decide
  exact of_decide_eq_true (List.all_eq_true.1 hall l hl)

theorem ofValue_http {text : String} (h : lower text = "http") :
    TransportCapability.ofValue (upper text) = some .http := by
  rw [upper_of_lower (fun l hl => ⟨(http_letters l hl).1, (http_letters l hl).2.2.2.2⟩) h]
  decide

/-- Every profile has a policy of its own, of names of the chain. -/
theorem fromCredentialProfile_named (profile : CredentialProfileRecord)
    (allowInsecure allowInsecureHttp : Bool) :
    ∃ policy, fromCredentialProfile profile allowInsecure allowInsecureHttp = .ok policy ∧
      ∀ entry ∈ policy.transports, Named allowInsecureHttp entry.transportName := by
  have hentries : ∀ types : List String, ∀ entry ∈ dedupeBy (·.transportName)
      (types.filterMap (profileEntry profile.credentialType allowInsecure allowInsecureHttp)),
      entry.Allowed allowInsecure allowInsecureHttp ∧
        Named allowInsecureHttp entry.transportName := by
    intro types entry hentry
    obtain ⟨raw, _, hraw⟩ := List.mem_filterMap.1 (mem_of_mem_dedupeBy hentry)
    obtain ⟨hallowed, hcap, hinsecure, hname⟩ := profileEntry_some hraw
    refine ⟨hallowed, ⟨raw, hname⟩, fun hhttp => ?_⟩
    rw [hname] at hhttp
    rw [ofValue_http hhttp, Option.some.injEq] at hcap
    rw [← hcap] at hinsecure
    exact (hallowed hinsecure).2 hcap.symm
  unfold fromCredentialProfile
  exact ⟨_, policy_new_allowed _ fun t ht => (hentries _ t ht).1,
    fun entry hentry => (hentries _ entry hentry).2⟩

/-- The names a profile brings in are names of the chain. -/
theorem profileNames_named (profile : Option CredentialProfileRecord)
    (allowInsecure allowInsecureHttp : Bool) :
    ∃ names, profileNames profile allowInsecure allowInsecureHttp = .ok names ∧
      ∀ name ∈ names, Named allowInsecureHttp name := by
  have hssh : ∀ name ∈ ["ssh"], Named allowInsecureHttp name := by
    intro name hname
    rw [List.mem_singleton.1 hname]
    exact named_ssh allowInsecureHttp
  cases profile with
  | none => exact ⟨["ssh"], rfl, hssh⟩
  | some profile =>
    obtain ⟨policy, hpolicy, hnamed⟩ :=
      fromCredentialProfile_named profile allowInsecure allowInsecureHttp
    simp only [profileNames, hpolicy, bind, Except.bind, pure, Except.pure]
    refine ⟨_, rfl, ?_⟩
    split
    · exact hssh
    · intro name hname
      obtain ⟨entry, hentry, rfl⟩ := List.mem_map.1 hname
      exact hnamed entry (List.mem_filter.1 hentry).1

theorem addFallback_named {supported : Option (List String)}
    {allowInsecure allowInsecureHttp : Bool} {names : List String}
    (h : ∀ name ∈ names, Named allowInsecureHttp name) {text : String} :
    ∀ name ∈ addFallback supported allowInsecure allowInsecureHttp names (lower text),
      Named allowInsecureHttp name := by
  unfold addFallback
  split
  · exact h
  · rename_i hopt
    simp only [Bool.or_eq_true, Bool.and_eq_true, beq_iff_eq, not_or, not_and] at hopt
    intro name hname
    rcases List.mem_append.1 hname with hold | hnew
    · exact h name hold
    · rw [List.mem_singleton.1 hnew]
      exact ⟨⟨text, rfl⟩, fun hhttp => by simpa using hopt.2 hhttp⟩

theorem fallbacks_named {supported : Option (List String)} {allowInsecure allowInsecureHttp : Bool}
    (metadata : PyDict) {names : List String} (h : ∀ name ∈ names, Named allowInsecureHttp name) :
    ∀ name ∈ (fallbackNames metadata).foldl
      (addFallback supported allowInsecure allowInsecureHttp) names,
      Named allowInsecureHttp name := by
  have hlower : ∀ name ∈ fallbackNames metadata, ∃ text, name = lower text := by
    intro name hname
    unfold fallbackNames at hname
    split at hname
    · obtain ⟨t, _, rfl⟩ := List.mem_map.1 hname
      exact ⟨t.text, rfl⟩
    · cases hname
  generalize fallbackNames metadata = fallbacks at hlower
  induction fallbacks generalizing names with
  | nil => exact h
  | cons fallback fallbacks ih =>
    obtain ⟨text, rfl⟩ := hlower fallback List.mem_cons_self
    rw [List.foldl_cons]
    exact ih (addFallback_named h) fun name hname => hlower name (List.mem_cons_of_mem _ hname)

theorem mem_preferFirst {metadata : PyDict} {ordered : List String} {name : String}
    (h : name ∈ preferFirst metadata ordered) : name ∈ ordered := by
  unfold preferFirst at h
  split at h
  · rename_i preferred _
    split at h
    · rename_i hin
      rcases List.mem_cons.1 h with rfl | hrest
      · simpa using hin
      · exact List.mem_of_mem_erase hrest
    · exact h
  · exact h

/-- The entry of a name of the chain is allowed. -/
theorem chainEntry_allowed {credentialType : Option String} {allowInsecure allowInsecureHttp : Bool}
    {name : String} {entry : TransportPolicyEntry} (hname : Named allowInsecureHttp name)
    (h : chainEntry credentialType allowInsecure name = some entry) :
    entry.Allowed allowInsecure allowInsecureHttp := by
  obtain ⟨hcap, _⟩ := chainEntry_ok h
  have hopt : entry.isInsecure = true → allowInsecure = true := by
    intro hinsecure
    unfold chainEntry at h
    split at h
    · cases h
    · split at h
      · cases h
      · split at h
        · cases h
        · rename_i hnot
          cases h
          simp only [Bool.and_eq_true, not_and] at hnot
          simpa using hnot hinsecure
  refine fun hinsecure => ⟨fun _ => hopt hinsecure, fun hhttp => ?_⟩
  obtain ⟨⟨text, rfl⟩, hflag⟩ := hname
  rw [hhttp] at hcap
  have hupper : upper (lower text) = String.ofList ("http".toList.map Char.toUpper) := by
    rw [value_of_ofValue hcap]
    decide
  refine hflag (lower_of_upper (fun l hl => ?_) hupper)
  obtain ⟨hletter, hs, hi, hf, -⟩ := http_letters l hl
  exact ⟨hletter, hs, hi, hf⟩

theorem ok_of_isSome {α : Type} {r : Except Exn α} (h : r.toOption.isSome = true) :
    r = .ok (r.toOption.get h) := by
  cases r with
  | error e => cases h
  | ok a => rfl

/-- The policy of a target is always there, with the HTTP opt-in of the metadata. -/
theorem transportPolicy_total (metadata : PyDict) (profile : Option CredentialProfileRecord) :
    ∃ policy, transportPolicy metadata profile = .ok policy ∧
      policy.allowInsecureHttp = (metadata.getD "allow_insecure_http").truthy := by
  obtain ⟨names, hnames, hnamed⟩ := profileNames_named profile
    (metadata.getD "allow_insecure_telnet").truthy (metadata.getD "allow_insecure_http").truthy
  unfold transportPolicy
  simp only [hnames, bind, Except.bind]
  rw [policy_new_allowed]
  · exact ⟨_, rfl, rfl⟩
  · intro entry hentry
    obtain ⟨name, hname, hchain⟩ := List.mem_filterMap.1 hentry
    have hordered := mem_of_mem_dedupeBy (mem_preferFirst hname)
    exact chainEntry_allowed (fallbacks_named metadata hnamed name hordered) hchain

/-! ## The policy of a target -/

/-- The policy `_resolve_transport_policy` computes for a target when the profiles table holds
`profiles`. -/
def policyFor (profiles : Tbl (Row .profiles) (primaryKey .profiles))
    (target : DiscoveryTargetRecord) : Except Exn MultiTransportPolicy :=
  transportPolicy target.view.metadata ((profileId target.view.metadata).bind fun id =>
    profiles.rows.find? fun p => p.id == id && p.tenantId == target.tenantId)

/-- At most one profile has the id asked for, so the order of the answer does not matter. -/
theorem head?_profiles {profiles : Tbl (Row .profiles) (primaryKey .profiles)} {id : UUID}
    {tenantId : String} {rows : List (Row .profiles)}
    (h : rows.Perm (profiles.rows.filter fun p => p.id == id && p.tenantId == tenantId)) :
    rows.head? = profiles.rows.find? fun p => p.id == id && p.tenantId == tenantId := by
  rw [← List.head?_filter]
  generalize hfilter : profiles.rows.filter (fun p => p.id == id && p.tenantId == tenantId) = hits
    at h
  have hsame : ∀ p ∈ hits, ∀ q ∈ hits, p = q := by
    intro p hp q hq
    rw [← hfilter, List.mem_filter, Bool.and_eq_true, beq_iff_eq] at hp hq
    have hgetp := Tbl.mem_rows.1 hp.1
    have hgetq := Tbl.mem_rows.1 hq.1
    have hkey : primaryKey .profiles p = primaryKey .profiles q := hp.2.1.trans hq.2.1.symm
    rw [hkey, hgetq] at hgetp
    exact (Option.some.inj hgetp).symm
  cases hits with
  | nil => rw [List.perm_nil.1 h]
  | cons p hits =>
    cases rows with
    | nil => exact absurd (List.nil_perm.1 h) (by simp)
    | cons q rows =>
      have hq : q ∈ p :: hits := h.mem_iff.1 List.mem_cons_self
      rw [List.head?_cons, List.head?_cons, hsame q hq p List.mem_cons_self]

variable {Sid : Type} [DecidableEq Sid] {s : Sid}

/-- `resolveTransportPolicy` computes it. -/
theorem resolveTransportPolicy_sat (target : DiscoveryTargetRecord) (σ : Store schema Sid) :
    Raises.Sat (aloneContract s) (resolveTransportPolicy target.view) σ
      (fun policy _ => policyFor (σ.view s .profiles) target = .ok policy) (fun _ _ => True) := by
  have hunwrap : ∀ (profile : Option CredentialProfileRecord) (σ' : Store schema Sid),
      Raises.Sat (aloneContract s) (unwrap (transportPolicy target.view.metadata profile)) σ'
        (fun policy _ => transportPolicy target.view.metadata profile = .ok policy)
        (fun _ _ => True) := by
    intro profile σ'
    obtain ⟨policy, hpolicy, _⟩ := transportPolicy_total target.view.metadata profile
    rw [hpolicy]
    exact Raises.sat_pure rfl
  unfold resolveTransportPolicy policyFor
  cases profileId target.view.metadata with
  | none => exact hunwrap none σ
  | some id =>
    refine Raises.sat_bind (sat_ask ?_)
    rintro σ₁ rfl
    refine ⟨trivial, ?_, fun _ _ _ => trivial⟩
    rintro rows σ₂ ⟨hrows, _⟩
    have hhead : List.head? rows = (σ₁.view s .profiles).rows.find? fun p =>
        p.id == id && p.tenantId == target.tenantId := head?_profiles hrows
    rw [Option.bind_some, ← hhead]
    exact hunwrap (List.head? rows) σ₂

/-- The metadata of an execution is the same for two targets that differ in what no policy is read
from, and in their plain-HTTP column, if their HTTP opt-ins agree. -/
theorem resolvedMetadata_inherit {scope target : DiscoveryTargetRecord}
    (hinherit : target = DiscoveryFanoutService.inheritScope scope target)
    (hhttp : target.httpOptIn = scope.httpOptIn) :
    resolvedMetadata target = resolvedMetadata scope := by
  have hflag : ∀ t : DiscoveryTargetRecord, resolvedMetadata t =
      ((((((setDefaultOf (setDefaultOf t.metadataJson "platform_family" t.platformHint)
        "transport_name" t.preferredTransport).set "credential_reference"
          (.str t.credentialReference)).set "credential_profile_id"
          (.ofOption t.credentialProfileId)).set "allow_insecure_telnet"
          (.bool t.allowInsecureTelnet)).set "allow_insecure_http" (.bool t.httpOptIn)).setDefault
          "allowed_fallback_transports" (.list (t.allowedFallbackTransports.map .str) "")) := by
    intro t
    simp [resolvedMetadata, getD_setDefaultOf_ne, getD_set, DiscoveryTargetRecord.httpOptIn]
  rw [hflag target, hflag scope, hhttp, hinherit]
  rfl

/-- Two targets of a tenant that differ in what no policy is read from and in their plain-HTTP
column have the same policy if and only if their HTTP opt-ins agree. -/
theorem policyFor_eq_iff {scope target : DiscoveryTargetRecord}
    (htenant : target.tenantId = scope.tenantId)
    (hinherit : target = DiscoveryFanoutService.inheritScope scope target)
    (profiles : Tbl (Row .profiles) (primaryKey .profiles)) :
    policyFor profiles target = policyFor profiles scope ↔
      target.httpOptIn = scope.httpOptIn := by
  constructor
  · intro h
    obtain ⟨policy, hpolicy, hflag⟩ := transportPolicy_total target.view.metadata
      ((profileId target.view.metadata).bind fun id =>
        profiles.rows.find? fun p => p.id == id && p.tenantId == target.tenantId)
    obtain ⟨policy', hpolicy', hflag'⟩ := transportPolicy_total scope.view.metadata
      ((profileId scope.view.metadata).bind fun id =>
        profiles.rows.find? fun p => p.id == id && p.tenantId == scope.tenantId)
    have hsame : policy = policy' := by
      unfold policyFor at h
      rw [hpolicy, hpolicy', Except.ok.injEq] at h
      exact h
    have htarget := (resolvedMetadata_optIns target).2
    have hscope := (resolvedMetadata_optIns scope).2
    simp only [DiscoveryTargetRecord.view] at hflag hflag'
    rw [htarget] at hflag
    rw [hscope, ← hsame, hflag] at hflag'
    simpa [PyVal.truthy] using hflag'
  · intro h
    have hmeta : target.view.metadata = scope.view.metadata :=
      resolvedMetadata_inherit hinherit h
    unfold policyFor
    rw [hmeta, htenant]

/-! ## The target of a child -/

namespace DiscoveryFanoutService

open DiscoveryJobRepository

/-- The failure of a target's insert is undone by its savepoint. -/
def Savepoint :
    (c : Statement) → Except DbError c.Ans → Store schema Sid → Store schema Sid → Prop
  | .insert .targets _, .error .integrity, σ, σ' => σ' = σ
  | _, _, _, _ => True

/-- Other sessions may do anything while session `s` creates a child, but commit no targets. -/
def childContract (s : Sid) : Prog.Contract lang (Store schema Sid) where
  rely _ σ σ' := σ'.db .targets = σ.db .targets ∧ σ'.log s = σ.log s ∧ σ'.dirty s = σ.dirty s
  act σ c r σ' := Store.Exec s σ c r σ' ∧ Savepoint c r σ σ'
  guar _ _ := True

theorem savepoint_answer [Fintype Sid] {ans : (x : Ext) → Ext.Answer x} {σ σ' : Store schema Sid}
    {c : Statement} {r : Except DbError c.Ans} (h : σ.answer ans s c = some (r, σ')) :
    Savepoint c r σ σ' := by
  unfold Savepoint
  split
  · simp only [Store.answer] at h
    split at h
    · cases h
      rfl
    · split at h <;> cases h
  · trivial

/-- A statement that writes no target keeps the targets the session has. -/
theorem pending_ask {c : Statement} (hc : c.OffTable Table.targets) {T : Tbl (Row .targets) _}
    {σ : Store schema Sid} (h : σ.pending s .targets = T) :
    Raises.Sat (childContract s) (ask c) σ (fun _ σ' => σ'.pending s .targets = T)
      (fun _ _ => True) := by
  refine sat_ask fun σ₁ hrely => ⟨trivial, ?_, fun _ _ _ => trivial⟩
  rintro _ σ₂ ⟨hexec, _⟩
  rw [hexec.pending_eq hc, Store.pending_congr hrely.1 hrely.2.1 hrely.2.2]
  exact h

theorem pending_bind {c : Statement} (hc : c.OffTable Table.targets)
    {T : Tbl (Row .targets) (primaryKey .targets)} {σ : Store schema Sid} {α : Type}
    {f : c.Ans → M α} {Q : α → Store schema Sid → Prop} (h : σ.pending s .targets = T)
    (hf : ∀ a σ', σ'.pending s .targets = T →
      Raises.Sat (childContract s) (f a) σ' Q (fun _ _ => True)) :
    Raises.Sat (childContract s) (ask c >>= f) σ Q (fun _ _ => True) :=
  Raises.sat_bind ((pending_ask hc h).mono hf fun _ _ _ => trivial)

/-- And leaves none of its changes to targets unsent. -/
theorem sent_ask {c : Statement} (hc : c.OffTable Table.targets) {T : Tbl (Row .targets) _}
    {σ : Store schema Sid} (h : σ.pending s .targets = T) (hs : σ.Sent s .targets) :
    Raises.Sat (childContract s) (ask c) σ
      (fun _ σ' => σ'.pending s .targets = T ∧ σ'.Sent s .targets) (fun _ _ => True) := by
  refine sat_ask fun σ₁ hrely => ⟨trivial, ?_, fun _ _ _ => trivial⟩
  rintro _ σ₂ ⟨hexec, _⟩
  have hs₁ : σ₁.Sent s .targets := by
    intro c hmem
    rw [hrely.2.2] at hmem
    exact hs c hmem
  refine ⟨?_, hexec.sent hc hs₁⟩
  rw [hexec.pending_eq hc, Store.pending_congr hrely.1 hrely.2.1 hrely.2.2]
  exact h

/-- The target of that identifier, before the child is created. -/
def Prior (T : Tbl (Row .targets) (primaryKey .targets)) (tenantId identifier : String)
    (prior : Option DiscoveryTargetRecord) : Prop :=
  T.rows.filter (fun t => t.tenantId == tenantId && t.identifier == identifier) = prior.toList

theorem findTarget_sat {tenantId identifier : String} {T : Tbl (Row .targets) _}
    {σ : Store schema Sid} {prior : Option DiscoveryTargetRecord}
    (h : σ.pending s .targets = T) (hs : σ.Sent s .targets)
    (hprior : Prior T tenantId identifier prior) :
    Raises.Sat (childContract s) (findTarget tenantId identifier) σ
      (fun found σ' => found = prior ∧ σ'.pending s .targets = T ∧ σ'.Sent s .targets)
      (fun _ _ => True) := by
  refine Raises.sat_bind (sat_ask fun σ₁ hrely => ⟨trivial, ?_, fun _ _ _ => trivial⟩)
  rintro rows σ₂ ⟨⟨hrows, hstore⟩, _⟩
  have hs₁ : σ₁.Sent s .targets := by
    intro c hmem
    rw [hrely.2.2] at hmem
    exact hs c hmem
  have hT : σ₁.pending s .targets = T :=
    (Store.pending_congr hrely.1 hrely.2.1 hrely.2.2).trans h
  have hfound : rows.Perm prior.toList := by
    rw [← hs₁.pending_eq, hT] at hrows
    rw [← hprior]
    exact hrows
  subst hstore
  refine Raises.sat_pure ⟨?_, (Store.pending_congr rfl rfl rfl).trans hT, hs₁⟩
  cases prior with
  | none => rw [List.perm_nil.1 hfound]; rfl
  | some t => rw [List.perm_singleton.1 hfound]; rfl

/-- What becomes of the target of a child: it is there with what it takes from its scope, and its
plain-HTTP column is what it was before. -/
structure Inherited (scope : DiscoveryTargetRecord) (tenantId : String)
    (prior : Option DiscoveryTargetRecord) (T : Tbl (Row .targets) (primaryKey .targets))
    (target : DiscoveryTargetRecord) : Prop where
  there : T.get target.id = some target
  tenant : target.tenantId = tenantId
  inherits : target = inheritScope scope target
  http : target.allowInsecureHttp = prior.any (·.allowInsecureHttp)

/-- The targets `T'` after the target of a child is there: the prior one with the columns of the
scope, or a new one. -/
def Placed (scope : DiscoveryTargetRecord) (tenantId address : String)
    (T T' : Tbl (Row .targets) (primaryKey .targets)) (target : DiscoveryTargetRecord) :
    Option DiscoveryTargetRecord → Prop
  | some t => T.get t.id = some t ∧ t.tenantId = tenantId ∧ target = inheritScope scope t ∧
      T' = T.set target
  | none => ∃ id, T.get id = none ∧
      target = newChildTarget tenantId scope s!"{scope.identifier}:{address}" address id ∧
      T' = T.set target

theorem Placed.inherited {scope target : DiscoveryTargetRecord} {tenantId address : String}
    {T T' : Tbl (Row .targets) (primaryKey .targets)} {prior : Option DiscoveryTargetRecord}
    (h : Placed scope tenantId address T T' target prior) :
    Inherited scope tenantId prior T' target := by
  cases prior with
  | some t =>
    obtain ⟨_, htenant, rfl, rfl⟩ := h
    exact ⟨by rw [Tbl.get_set]; exact if_pos rfl, htenant, rfl, rfl⟩
  | none =>
    obtain ⟨id, _, rfl, rfl⟩ := h
    exact ⟨by rw [Tbl.get_set]; exact if_pos rfl, rfl, rfl, rfl⟩

theorem childTarget_sat {tenantId address : String} {scope : DiscoveryTargetRecord}
    {T : Tbl (Row .targets) (primaryKey .targets)} {σ : Store schema Sid}
    {prior : Option DiscoveryTargetRecord} (hT : σ.pending s .targets = T)
    (hs : σ.Sent s .targets) (hprior : Prior T tenantId s!"{scope.identifier}:{address}" prior) :
    Raises.Sat (childContract s) (childTarget tenantId scope address) σ
      (fun target σ' => Placed scope tenantId address T (σ'.pending s .targets) target prior)
      (fun _ _ => True) := by
  refine Raises.sat_bind ((findTarget_sat hT hs hprior).mono ?_ fun _ _ _ => trivial)
  rintro found σ₁ ⟨rfl, hT₁, hs₁⟩
  cases found with
  | some target =>
    have hmem : target ∈ T.rows.filter fun t =>
        t.tenantId == tenantId && t.identifier == s!"{scope.identifier}:{address}" := by
      rw [hprior]
      exact List.mem_singleton_self target
    obtain ⟨hrow, hmatch⟩ := List.mem_filter.1 hmem
    simp only [Bool.and_eq_true, beq_iff_eq] at hmatch
    refine Raises.sat_bind (sat_ask fun σ₂ hrely => ⟨trivial, ?_, fun _ _ _ => trivial⟩)
    rintro _ σ₃ ⟨hexec, _⟩
    have hget : T.get target.id = some target := Tbl.mem_rows.1 hrow
    have hT₃ : σ₃.pending s .targets = T.set (inheritScope scope target) := by
      rw [show σ₃ = _ from hexec, Store.pending_change,
        Store.pending_congr hrely.1 hrely.2.1 hrely.2.2, hT₁, Change.applyTo_some hget]
    exact Raises.sat_pure ⟨hget, hmatch.1, rfl, hT₃⟩
  | none =>
    refine Raises.sat_bind ((sent_ask (c := .ext .uuid4) trivial hT₁ hs₁).mono ?_
      fun _ _ _ => trivial)
    rintro id σ₂ ⟨hT₂, hs₂⟩
    refine Raises.sat_bind ((sent_ask (c := .flush) trivial hT₂ hs₂).mono ?_ fun _ _ _ => trivial)
    rintro _ σ₃ ⟨hT₃, hs₃⟩
    have hsent : ∀ {σ σ' : Store schema Sid} {c : Statement},
        (childContract s).rely c σ σ' → σ.Sent s .targets → σ'.Sent s .targets := by
      intro σ σ' c hrely hsent c hmem
      rw [hrely.2.2] at hmem
      exact hsent c hmem
    refine Raises.sat_tryCatch (Raises.sat_bind
      (sat_ask fun σ₄ hrely => ⟨trivial, ?_, fun e σ₅ => ?_⟩))
    · -- the target is new
      rintro _ σ₅ ⟨⟨htaken, _, hstore⟩, _⟩
      have hT₄ : σ₄.pending s .targets = T :=
        (Store.pending_congr hrely.1 hrely.2.1 hrely.2.2).trans hT₃
      refine Raises.sat_pure ⟨id, ?_, rfl, ?_⟩
      · rw [← (hsent hrely hs₃).pending_eq, hT₄] at htaken
        exact Option.not_isSome_iff_eq_none.1 fun hsome => htaken (.inl hsome)
      · rw [hstore, (hsent hrely hs₃).pending_insert, hT₄]
    · -- its id is taken: nobody has inserted a target of that identifier meanwhile
      rintro ⟨hexec, hsave⟩
      cases e with
      | operational => exact Raises.sat_throw trivial
      | integrity =>
        have hstore : σ₅ = σ₄ := hsave
        have hT₅ : σ₅.pending s .targets = T := by
          rw [hstore, Store.pending_congr hrely.1 hrely.2.1 hrely.2.2, hT₃]
        have hs₅ : σ₅.Sent s .targets := hstore ▸ hsent hrely hs₃
        refine Raises.sat_bind ((findTarget_sat hT₅ hs₅ hprior).mono ?_ fun _ _ _ => trivial)
        rintro found σ₆ ⟨rfl, _⟩
        exact Raises.sat_throw trivial

theorem raiseIf_bind {c : Prop} [Decidable c] {e : Exn} {α : Type} {σ : Store schema Sid}
    {f : Unit → M α} {Q : α → Store schema Sid → Prop}
    (hf : Raises.Sat (childContract s) (f ()) σ Q (fun _ _ => True)) :
    Raises.Sat (childContract s) (raiseIf c e >>= f) σ Q (fun _ _ => True) := by
  refine Raises.sat_bind ?_
  unfold raiseIf
  split
  · exact Raises.sat_throw trivial
  · exact Raises.sat_pure hf

/-- The job of a child is for its target; creating it writes no target. -/
theorem create_sat {a : JobRequest} {T : Tbl (Row .targets) (primaryKey .targets)}
    {σ : Store schema Sid} (h : σ.pending s .targets = T) :
    Raises.Sat (childContract s) (create a) σ
      (fun job σ' => job.targetId = a.targetId ∧ σ'.pending s .targets = T) (fun _ _ => True) := by
  have hinsert {onError : Exn → M Unit}
      (honError : ∀ e σ, Raises.Sat (childContract s) (onError e) σ
        (fun _ σ' => σ'.pending s .targets = T) (fun _ _ => True))
      (job : DiscoveryJobRecord) (σ : Store schema Sid) (hσ : σ.pending s .targets = T) :
      Raises.Sat (childContract s) (tryCatch (insert .jobs job) onError) σ
        (fun _ σ' => σ'.pending s .targets = T) (fun _ _ => True) := by
    have hask := pending_ask (c := .insert .jobs job) (s := s) (by simp [Stmt.OffTable]) hσ
    exact Raises.sat_tryCatch (hask.mono (fun _ _ h => h) fun e σ' _ => honError e σ')
  unfold create
  refine pending_bind (c := .get .targets _) trivial h fun target σ₁ h₁ => ?_
  refine pending_bind (c := .get .runs _) trivial h₁ fun run σ₂ h₂ => ?_
  refine raiseIf_bind (raiseIf_bind ?_)
  refine pending_bind (c := .select .jobs _) trivial h₂ fun active σ₃ h₃ => ?_
  refine raiseIf_bind ?_
  refine pending_bind (c := .ext .uuid4) trivial h₃ fun id σ₄ h₄ => ?_
  refine pending_bind (c := .ext .utcNow) trivial h₄ fun now σ₅ h₅ => ?_
  refine Raises.sat_bind ((hinsert (fun e σ' => ?_) _ σ₅ h₅).mono (fun _ σ₆ h₆ => ?_)
    fun _ _ _ => trivial)
  · split
    · refine Raises.sat_bind (sat_ask fun σ₁ _ => ⟨trivial, fun _ _ _ => ?_, fun _ _ _ => trivial⟩)
      exact Raises.sat_throw trivial
    · exact Raises.sat_throw trivial
  · exact Raises.sat_pure ⟨rfl, h₆⟩

theorem createChild_sat {tenantId address : String} {parent : DiscoveryJobRecord}
    {scope : DiscoveryTargetRecord} {T₀ : Tbl (Row .targets) (primaryKey .targets)}
    {σ : Store schema Sid} {prior : Option DiscoveryTargetRecord} (hT₀ : σ.pending s .targets = T₀)
    (hs : σ.Sent s .targets) (hprior : Prior T₀ tenantId s!"{scope.identifier}:{address}" prior) :
    Raises.Sat (childContract s) (createChild tenantId parent scope address) σ
      (fun child σ' => ∃ target, target.id = child.1.targetId ∧
        Placed scope tenantId address T₀ (σ'.pending s .targets) target prior)
      (fun _ _ => True) := by
  unfold createChild
  refine Raises.sat_bind ((childTarget_sat hT₀ hs hprior).mono ?_ fun _ _ _ => trivial)
  intro target σ₁ htarget
  generalize hT : σ₁.pending s .targets = T at htarget
  refine pending_bind (c := .ext .uuid4) trivial hT fun runId σ₂ h₂ => ?_
  refine pending_bind (by simp [Stmt.OffTable]) h₂ fun _ σ₃ h₃ => ?_
  refine pending_bind (c := .flush) trivial h₃ fun _ σ₄ h₄ => ?_
  refine pending_bind (c := .ext .uuid4) trivial h₄ fun correlationId σ₅ h₅ => ?_
  refine Raises.sat_bind ((create_sat h₅).mono ?_ fun _ _ _ => trivial)
  rintro child σ₆ ⟨hchild, h₆⟩
  refine pending_bind (c := .ext .uuid4) trivial h₆ fun resultId σ₇ h₇ => ?_
  refine pending_bind (by simp [Stmt.OffTable]) h₇ fun _ σ₈ h₈ => ?_
  refine Raises.sat_pure ⟨target, hchild.symm, ?_⟩
  rw [h₈]
  exact htarget

/-! ## The policy of a child -/

/-- The plain-HTTP opt-in of the scope reaches its child: it is in the metadata, which is copied, or
the column of the child's target says the same as the scope's already. -/
def HttpInherited (scope : DiscoveryTargetRecord) (prior : Option DiscoveryTargetRecord) : Prop :=
  (scope.metadataJson.getD "allow_insecure_http").truthy = true ∨
    prior.any (·.allowInsecureHttp) = scope.allowInsecureHttp

theorem Inherited.policy_iff {scope target : DiscoveryTargetRecord}
    {prior : Option DiscoveryTargetRecord} {T : Tbl (Row .targets) (primaryKey .targets)}
    (h : Inherited scope scope.tenantId prior T target)
    (profiles : Tbl (Row .profiles) (primaryKey .profiles)) :
    policyFor profiles target = policyFor profiles scope ↔ HttpInherited scope prior := by
  have hmeta : target.metadataJson = scope.metadataJson := by
    rw [h.inherits]
    rfl
  rw [policyFor_eq_iff h.tenant h.inherits, DiscoveryTargetRecord.httpOptIn,
    DiscoveryTargetRecord.httpOptIn, hmeta, h.http, HttpInherited]
  cases (scope.metadataJson.getD "allow_insecure_http").truthy <;> simp

/-- Whatever targets there are, the target of a child that `_create_child` returns has the policy
of its scope if and only if the plain-HTTP opt-in of the scope reaches it. -/
theorem child_policy_iff (s : Sid) (σ : Store schema Sid) (tenantId : String)
    (parent : DiscoveryJobRecord) (scope : DiscoveryTargetRecord) (address : String)
    (prior : Option DiscoveryTargetRecord) (htenant : scope.tenantId = tenantId)
    (hs : σ.Sent s .targets)
    (hprior : Prior (σ.pending s .targets) tenantId s!"{scope.identifier}:{address}" prior) :
    Raises.Sat (childContract s) (createChild tenantId parent scope address) σ
      (fun child σ' => ∃ target, (σ'.pending s .targets).get child.1.targetId = some target ∧
        ∀ profiles, policyFor profiles target = policyFor profiles scope ↔
          HttpInherited scope prior) (fun _ _ => True) := by
  subst htenant
  refine (createChild_sat rfl hs hprior).mono ?_ fun _ _ _ => trivial
  rintro child σ' ⟨target, hid, htarget⟩
  refine ⟨target, ?_, htarget.inherited.policy_iff⟩
  rw [← hid]
  exact htarget.inherited.there

/-! ## A scope with plain HTTP -/

theorem child_policy_iff_empty :
    Raises.Sat (childContract ()) (createChild Samples.tenant Samples.scopeJob Samples.scopeTarget
        "10.0.0.1") (Samples.store fun _ => Tbl.empty)
      (fun child σ' => ∃ target, (σ'.pending () .targets).get child.1.targetId = some target ∧
        ∀ profiles, policyFor profiles target = policyFor profiles Samples.scopeTarget ↔
          HttpInherited Samples.scopeTarget none) (fun _ _ => True) :=
  child_policy_iff () _ Samples.tenant Samples.scopeJob Samples.scopeTarget "10.0.0.1" none rfl
    (fun _ h => by cases h) rfl

/-- A scope that opts in to both insecure transports and falls back to plain HTTP. -/
def httpScope : DiscoveryTargetRecord :=
  { Samples.scopeTarget with
    allowInsecureTelnet := true
    allowInsecureHttp := true
    allowedFallbackTransports := ["http"] }

/-- The scope is there, with its job and run; no child is. -/
def httpScopeStore : Store schema Unit :=
  Samples.store (Function.update (Samples.tables [Samples.scopeJob] []) .targets
    (Tbl.empty.set httpScope))

/-- The names of the transports in a target's policy, when there are no profiles. -/
def transportNames (target : DiscoveryTargetRecord) : Option (List String) :=
  (policyFor .empty target).toOption.map fun policy => policy.transports.map (·.transportName)

theorem httpScope_transports : transportNames httpScope = some ["ssh", "http"] := by
  decide

/-- The child is created, and its policy has SSH alone. -/
def losesHttp (r : Except Exn (DiscoveryJobRecord × DiscoveryDeviceResultRecord) ×
    Store schema Unit) : Bool :=
  match r.1 with
  | .ok child => ((r.2.pending () .targets).get child.1.targetId).any fun target =>
      transportNames target == some ["ssh"]
  | .error _ => false

theorem httpScope_child :
    ((ExceptT.run (createChild Samples.tenant Samples.scopeJob httpScope "10.0.0.1")).drive
      (Samples.world 0 50) () httpScopeStore).map losesHttp = some true := by
  decide

/-- The child of such a scope does not have its policy. -/
theorem child_policy_fails :
    ¬ Raises.Sat (childContract ()) (createChild Samples.tenant Samples.scopeJob httpScope
        "10.0.0.1") httpScopeStore
      (fun child σ' => ∀ target, (σ'.pending () .targets).get child.1.targetId = some target →
        ∀ profiles, policyFor profiles target = policyFor profiles httpScope)
      (fun _ _ => True) := by
  intro h
  obtain ⟨⟨r, σ'⟩, hrun, hloses⟩ := Option.map_eq_some_iff.1 httpScope_child
  have hpost := Prog.Sat.drive (C := childContract ()) (fun _ _ => ⟨rfl, rfl, rfl⟩)
    (fun c σ r σ' hanswer => ⟨Store.answer_exec hanswer, savepoint_answer hanswer⟩) h hrun
  cases r with
  | error e => cases hloses
  | ok child =>
    obtain ⟨target, htarget, hnames⟩ := (Option.any_eq_true _ _).1 hloses
    have hsame := hpost target htarget .empty
    rw [beq_iff_eq, transportNames, hsame, ← transportNames, httpScope_transports] at hnames
    exact absurd hnames (by decide)

end DiscoveryFanoutService
end Discovery
end NetOps
