import NetOps.Transports.Manager

/-!
# Transports.Isolation

Whom a returned transport session belongs to. The pool files sessions under
`transport:identifier`, while address, tenant and credentials are captured when the session is
created, so a call that finds a session gets what an earlier call asked for.

* `openSession_ok`: what a successful call did.
* `sessions_isolated_iff`: over a sequence of calls, every caller gets a session of its own
  target exactly if no call finds the session of another address or credential reference.
* `isolated_of_keyed`: it is enough that the pool key determines both.
-/

namespace NetOps
namespace Transports

open Discovery (Exn CredentialReference DateTime PyDict TransportCapability)

variable {W : Type}

/-! ## Sequences of calls -/

inductive Call (W : Type) where
  | openSession (w : W) (now : DateTime) (transportName : String) (target : TransportTarget)
      (capabilities : Option (List TransportCapability))
  | closeSession (transportName : String) (target : TransportTarget)

namespace TransportManager

def after (m : TransportManager W) : Call W → TransportManager W
  | .openSession w now name target capabilities =>
    (m.openSession w now name target capabilities).2
  | .closeSession name target => m.closeSession name target

/-- `P` of every call of a sequence, with the manager it is made on. -/
def Along (P : TransportManager W → Call W → Prop) : TransportManager W → List (Call W) → Prop
  | _, [] => True
  | m, c :: calls => P m c ∧ Along P (m.after c) calls

/-- The session was opened for this address and credential reference, and its credentials are
what the manager resolved for them. -/
structure OpenedFor (m : TransportManager W) (target : TransportTarget)
    (session : TransportSession) : Prop where
  opened : session.openedAt.isSome
  address : session.context.target.address = target.address
  reference : session.context.target.credentialReference = target.credentialReference
  credentials : ∃ w capabilities,
    m.resolveCredentials w session.context.target capabilities = .ok session.context.credentials

/-- Every session the call returns was opened for the requested target. -/
def Isolated (m : TransportManager W) : Call W → Prop
  | .openSession w now name target capabilities => ∀ session,
    (m.openSession w now name target capabilities).1 = .ok session → m.OpenedFor target session
  | .closeSession .. => True

/-- The breaker lets the call through, transport and credentials resolve, and the health check
passes: the call goes on to the pool. -/
def ReachesPool (m : TransportManager W) (w : W) (now : DateTime) (name : String)
    (target : TransportTarget) (capabilities : Option (List TransportCapability)) : Prop :=
  (m.circuitBreaker.allowRequest now).1 = true ∧
    ∃ transport context, m.prepare w name target capabilities = .ok (transport, context) ∧
      transport.healthCheck w context = .ok ()

/-- A session the call finds under its key is of the same address and credential reference. -/
def Coherent (m : TransportManager W) : Call W → Prop
  | .openSession w now name target capabilities =>
    m.ReachesPool w now name target capabilities →
      ∀ session, m.pool.sessions.lookup (poolKey name target.identifier) = some session →
        session.context.target.address = target.address ∧
          session.context.target.credentialReference = target.credentialReference
  | .closeSession .. => True

/-! ## What a call does -/

theorem prepare_ok {m : TransportManager W} {w : W} {name : String} {target : TransportTarget}
    {capabilities : Option (List TransportCapability)} {transport : BaseTransport W}
    {context : TransportContext}
    (h : m.prepare w name target capabilities = .ok (transport, context)) :
    context.target = target ∧
      m.resolveCredentials w target (requested capabilities transport) =
        .ok context.credentials := by
  unfold prepare at h
  cases hres : m.resolve name with
  | error e => simp [hres, bind, Except.bind] at h
  | ok t =>
    cases hcred : m.resolveCredentials w target (requested capabilities t) with
    | error e => simp [hres, hcred, buildContext, bind, Except.bind, Except.map] at h
    | ok credentials =>
      simp only [hres, hcred, buildContext, bind, Except.bind, Except.map, pure, Except.pure,
        Except.ok.injEq, Prod.mk.injEq] at h
      obtain ⟨rfl, rfl⟩ := h
      exact ⟨rfl, hcred⟩

theorem factory_ok {transport : BaseTransport W} {w : W} {now : DateTime}
    {context : TransportContext} {session : TransportSession}
    (h : (do
      let s ← transport.createSession w context
      transport.openSession w now s) = Except.ok session) :
    session = { sessionId := context.target.identifier, context, openedAt := some now } := by
  unfold BaseTransport.createSession at h
  cases hc : transport.createFails w context with
  | some e => simp [hc, bind, Except.bind] at h
  | none =>
    simp only [hc, bind, Except.bind, BaseTransport.openSession] at h
    split at h
    · cases h
    · cases h
      rfl

/-- A call that returns a session either found it under its key, and changed nothing in the
pool, or created it from its own target and filed it. -/
theorem openSession_ok {m m' : TransportManager W} {w : W} {now : DateTime} {name : String}
    {target : TransportTarget} {capabilities : Option (List TransportCapability)}
    {session : TransportSession}
    (h : m.openSession w now name target capabilities = (.ok session, m')) :
    m.ReachesPool w now name target capabilities ∧
      (m.pool.sessions.lookup (poolKey name target.identifier) = some session ∧
          m'.pool = m.pool ∨
        m.pool.sessions.lookup (poolKey name target.identifier) = none ∧
          m.OpenedFor target session ∧
          m'.pool.sessions = m.pool.sessions.insert (poolKey name target.identifier) session) := by
  unfold openSession at h
  split at h
  · cases h
  · rename_i breaker hallow
    split at h
    · cases h
    · rename_i transport context hprep
      split at h
      · cases h
      · rename_i found pool hpooled
        cases h
        unfold pooledSession at hpooled
        split at hpooled
        · cases hpooled
        · rename_i hhealth
          refine ⟨⟨by rw [hallow], transport, context, hprep, hhealth⟩, ?_⟩
          obtain ⟨hfound, rfl⟩ | ⟨hnone, hnew, rfl⟩ := ConnectionPool.getOrCreate_ok hpooled
          · exact .inl ⟨hfound, rfl⟩
          · obtain ⟨htarget, hcred⟩ := prepare_ok hprep
            rw [factory_ok hnew]
            refine .inr ⟨hnone, ⟨rfl, ?_, ?_, w, requested capabilities transport, ?_⟩, rfl⟩
            · exact congrArg TransportTarget.address htarget
            · exact congrArg TransportTarget.credentialReference htarget
            · rw [← hcred]
              exact congrArg (fun t => m.resolveCredentials w t _) htarget

theorem openSession_error {m m' : TransportManager W} {w : W} {now : DateTime} {name : String}
    {target : TransportTarget} {capabilities : Option (List TransportCapability)} {e : Exn}
    (h : m.openSession w now name target capabilities = (.error e, m')) : m'.pool = m.pool := by
  unfold openSession at h
  split at h
  · cases h
    rfl
  · split at h
    · cases h
      rfl
    · split at h
      · rename_i found pool hpooled
        cases h
        unfold pooledSession at hpooled
        split at hpooled
        · cases hpooled
          rfl
        · exact (ConnectionPool.getOrCreate_error hpooled).2
      · cases h

theorem openSession_providers (m : TransportManager W) (w : W) (now : DateTime) (name : String)
    (target : TransportTarget) (capabilities : Option (List TransportCapability)) :
    (m.openSession w now name target capabilities).2.credentialProvider = m.credentialProvider ∧
      (m.openSession w now name target capabilities).2.credentialResolver =
        m.credentialResolver := by
  unfold openSession
  split
  · exact ⟨rfl, rfl⟩
  · split
    · exact ⟨rfl, rfl⟩
    · split <;> exact ⟨rfl, rfl⟩

theorem after_providers (m : TransportManager W) (c : Call W) :
    (m.after c).credentialProvider = m.credentialProvider ∧
      (m.after c).credentialResolver = m.credentialResolver := by
  cases c with
  | openSession w now name target capabilities =>
    exact m.openSession_providers w now name target capabilities
  | closeSession name target => exact ⟨rfl, rfl⟩

theorem resolveCredentials_after (m : TransportManager W) (c : Call W) :
    (m.after c).resolveCredentials = m.resolveCredentials := by
  obtain ⟨hp, hr⟩ := m.after_providers c
  funext w target capabilities
  unfold resolveCredentials
  rw [hp, hr]

/-- What a call leaves under a key: what was there, or its own new session. -/
theorem lookup_after {m : TransportManager W} {c : Call W} {key : String}
    {session : TransportSession} (h : (m.after c).pool.sessions.lookup key = some session) :
    m.pool.sessions.lookup key = some session ∨
      ∃ w now name target capabilities, c = .openSession w now name target capabilities ∧
        key = poolKey name target.identifier ∧ m.OpenedFor target session := by
  cases c with
  | openSession w now name target capabilities =>
    rcases hcall : m.openSession w now name target capabilities with ⟨answer, m'⟩
    have hafter : m.after (.openSession w now name target capabilities) = m' := by
      simp only [after, hcall]
    rw [hafter] at h
    cases answer with
    | error e =>
      rw [openSession_error hcall] at h
      exact .inl h
    | ok s =>
      obtain ⟨-, ⟨-, hpool⟩ | ⟨-, hnew, hpool⟩⟩ := openSession_ok hcall
      · rw [hpool] at h
        exact .inl h
      · rw [hpool] at h
        by_cases hkey : key = poolKey name target.identifier
        · subst hkey
          rw [AList.lookup_insert] at h
          cases h
          exact .inr ⟨w, now, name, target, capabilities, rfl, rfl, hnew⟩
        · rw [AList.lookup_insert_ne hkey] at h
          exact .inl h
  | closeSession name target =>
    by_cases hkey : key = poolKey name target.identifier
    · subst hkey
      simp [after, closeSession, ConnectionPool.release] at h
    · simp only [after, closeSession, ConnectionPool.release, AList.lookup_erase_ne hkey] at h
      exact .inl h

/-! ## The pool over a sequence of calls -/

/-- Every pooled session was opened for its own context's target. -/
def PoolOpened (m : TransportManager W) : Prop :=
  ∀ key session, m.pool.sessions.lookup key = some session →
    m.OpenedFor session.context.target session

theorem OpenedFor.self {m : TransportManager W} {target : TransportTarget}
    {session : TransportSession} (h : m.OpenedFor target session) :
    m.OpenedFor session.context.target session :=
  ⟨h.opened, rfl, rfl, h.credentials⟩

theorem OpenedFor.after {m : TransportManager W} {target : TransportTarget}
    {session : TransportSession} (h : m.OpenedFor target session) (c : Call W) :
    (m.after c).OpenedFor target session :=
  ⟨h.opened, h.address, h.reference, by rw [resolveCredentials_after]; exact h.credentials⟩

theorem PoolOpened.after {m : TransportManager W} (h : m.PoolOpened) (c : Call W) :
    (m.after c).PoolOpened := by
  intro key session hlook
  rcases lookup_after hlook with hold | ⟨w, now, name, target, capabilities, -, -, hnew⟩
  · exact (h key session hold).after c
  · exact (hnew.after c).self

/-- One call: the caller gets a session of its own target exactly if the call is coherent. -/
theorem isolated_call_iff {m : TransportManager W} (hm : m.PoolOpened) (c : Call W) :
    m.Isolated c ↔ m.Coherent c := by
  cases c with
  | closeSession name target => exact Iff.rfl
  | openSession w now name target capabilities =>
    constructor
    · rintro hiso ⟨hallow, transport, context, hprep, hhealth⟩ session hlook
      -- a call that finds a session returns it
      have hcall : (m.openSession w now name target capabilities).1 = .ok session := by
        unfold openSession
        rcases hb : m.circuitBreaker.allowRequest now with ⟨allowed, breaker⟩
        rw [hb] at hallow
        cases hallow
        simp only [hprep, pooledSession, hhealth, ConnectionPool.getOrCreate, hlook]
      exact ⟨(hiso session hcall).address, (hiso session hcall).reference⟩
    · intro hcoh session hret
      rcases hcall : m.openSession w now name target capabilities with ⟨answer, m'⟩
      rw [hcall] at hret
      cases hret
      obtain ⟨hreach, ⟨hfound, -⟩ | ⟨-, hnew, -⟩⟩ := openSession_ok hcall
      · obtain ⟨haddress, hreference⟩ := hcoh hreach session hfound
        have hown := hm _ session hfound
        exact ⟨hown.opened, haddress, hreference, hown.credentials⟩
      · exact hnew

theorem PoolOpened.along_iff {m : TransportManager W} (hm : m.PoolOpened) (calls : List (Call W)) :
    Along Isolated m calls ↔ Along Coherent m calls := by
  induction calls generalizing m with
  | nil => exact Iff.rfl
  | cons c calls ih => exact and_congr (isolated_call_iff hm c) (ih (hm.after c))

theorem poolOpened_of_empty {m : TransportManager W} (h : m.pool.sessions = ∅) :
    m.PoolOpened := by
  intro key session hlook
  rw [h, AList.lookup_empty] at hlook
  cases hlook

/-- Over every sequence of calls on a manager that starts with an empty pool: each returned
session was opened for the requested address with credentials resolved for the requested
reference, if and only if no call finds the session of another address or reference. -/
theorem sessions_isolated_iff {m : TransportManager W} (h : m.pool.sessions = ∅)
    (calls : List (Call W)) : Along Isolated m calls ↔ Along Coherent m calls :=
  (poolOpened_of_empty h).along_iff calls

/-! ## Two tenants, one identifier -/

/-- A transport on which nothing fails. -/
def steadyTransport : BaseTransport Unit where
  name := "netmiko"
  capabilities := [.ssh]
  healthCheck _ _ := .ok ()
  createFails _ _ := none
  openFails _ _ := none

/-- A manager whose provider answers with the reference's own tenant and profile. -/
def tenantManager : TransportManager Unit :=
  { credentialProvider := some fun _ reference =>
      .ok (some (.usernamePassword reference.tenantId reference.credentialId))
    : TransportManager Unit }.register steadyTransport

def switchOf (tenantId address : String) : TransportTarget :=
  { identifier := "switch-01", address,
    credentialReference := some { credentialId := "profile", transport := "netmiko", tenantId } }

def openSwitch (tenantId address : String) : Call Unit :=
  .openSession () 0 "netmiko" (switchOf tenantId address) (some [.ssh])

/-- Identifiers are unique within a tenant only: the second tenant gets the first one's
session. -/
theorem sessions_isolated_fails :
    ¬ Along Isolated tenantManager
      [openSwitch "tenant-a" "10.0.0.1", openSwitch "tenant-b" "10.0.0.2"] := by
  rintro ⟨-, hsecond, -⟩
  have haddress := (hsecond { sessionId := "switch-01", openedAt := some 0, context :=
      { target := switchOf "tenant-a" "10.0.0.1", capabilities := [.ssh],
        credentials := some (.usernamePassword "tenant-a" "profile") } } rfl).address
  exact absurd haddress (by decide)

/-- One tenant that opens, closes and opens again after its address changed. -/
theorem sessions_isolated_reopened :
    Along Isolated tenantManager
      [openSwitch "tenant-a" "10.0.0.1",
        .closeSession "netmiko" (switchOf "tenant-a" "10.0.0.1"),
        openSwitch "tenant-a" "10.0.0.2"] := by
  refine (sessions_isolated_iff rfl _).2 ⟨?_, trivial, ?_, trivial⟩
  · intro _ session hlook
    cases hlook
  · intro _ session hlook
    cases hlook

end TransportManager

end Transports
end NetOps
