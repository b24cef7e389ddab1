import NetOps.Discovery.TargetRequests

/-!
# Discovery.Admission

The rules by which targets are admitted, over sequences of requests.

What `create_target` stores satisfies them (`create_admissible`). A patch is validated field by
field, so what `update_target` stores satisfies them if and only if the patch is `Vetted` against
the stored row it changes (`admissible_update_iff`); and if every accepted patch of a sequence is,
every stored target satisfies the rules at all times (`targets_admissible`).
-/

namespace NetOps
namespace Discovery

open Conc Text

/-! ## The rules -/

/-- The transport a target is tried with first. -/
def preferredOf (preferred : Option String) : String :=
  canonicalTransport (lower ((truthy preferred).getD "ssh"))

/-- The transport types of a profile cover a target's transports. -/
structure Covers (profile : CredentialProfileRecord) (preferred : Option String)
    (fallbacks : List String) : Prop where
  preferred : preferredOf preferred ∈ profileTransports profile
  fallbacks : ∀ f ∈ fallbacks, lower f ∈ profileTransports profile

/-- The rules that `create_target` enforces, of a stored target. -/
structure Admissible (db : TargetDb) (target : DiscoveryTargetRecord) : Prop where
  telnet : Uses "telnet" target.preferredTransport target.allowedFallbackTransports →
    target.allowInsecureTelnet = true
  http : Uses "http" target.preferredTransport target.allowedFallbackTransports →
    target.allowInsecureHttp = true
  supported : ∀ f ∈ target.allowedFallbackTransports, f ∈ supportedFallbacks
  distinct : target.allowedFallbackTransports.Nodup
  profile : ∀ text, target.credentialProfileId = some text →
    ∃ profile, db.findProfile target.tenantId text = some profile ∧
      Covers profile target.preferredTransport target.allowedFallbackTransports

def AllAdmissible (db : TargetDb) : Prop :=
  ∀ id target, db.targets.get id = some target → Admissible db target

/-! ## Patches -/

/-- A patch asks for no insecure transport without its opt-in: where it names the transport, the
opt-in is given or stored, and where it withdraws the opt-in, the transport is used no more. -/
structure PatchOptIn (name : String) (flag : DiscoveryTargetRecord → Bool) (withdrawn : Bool)
    (r : DiscoveryTargetUpdateRequest) (target : DiscoveryTargetRecord) : Prop where
  named : Uses name r.preferredTransport (r.allowedFallbackTransports.getD []) →
    flag (patched target r) = true
  withdrawn : withdrawn = true → ¬Uses name (patched target r).preferredTransport
    (patched target r).allowedFallbackTransports

/-- A patch goes with the row it changes. -/
structure Vetted (db : TargetDb) (tenantId : String) (target : DiscoveryTargetRecord)
    (r : DiscoveryTargetUpdateRequest) : Prop where
  telnet : PatchOptIn "telnet" (·.allowInsecureTelnet) (r.allowInsecureTelnet = some false) r target
  http : PatchOptIn "http" (·.allowInsecureHttp) (r.allowInsecureHttp = some false) r target
  fallbacks : ∀ fallbacks, r.allowedFallbackTransports = some fallbacks →
    (∀ f ∈ fallbacks, f ∈ supportedFallbacks) ∧ fallbacks.Nodup
  /-- The profile the target keeps has the transports the patch brings. -/
  kept : ∀ text profile, r.credentialProfileId = none → target.credentialProfileId = some text →
    db.findProfile tenantId text = some profile →
    (∀ name, r.preferredTransport = some name →
      preferredOf (some name) ∈ profileTransports profile) ∧
    ∀ f ∈ r.allowedFallbackTransports.getD [], lower f ∈ profileTransports profile
  /-- The profile the patch brings has the transports of the target it makes. -/
  given : ∀ text profile, r.credentialProfileId = some (some text) →
    db.findProfile tenantId text = some profile →
    Covers profile (patched target r).preferredTransport
      (patched target r).allowedFallbackTransports

/-- Of an accepted patch: it goes with the row it changes. -/
def VettedRequest (db : TargetDb) : TargetRequest → Prop
  | .create .. => True
  | .update tenantId targetId r => ∀ target record, db.getTarget tenantId targetId = some target →
      updateTarget db tenantId targetId r = .ok record → Vetted db tenantId target r

/-- Every patch of a sequence of requests that is accepted goes with the row it changes then. -/
def VettedRun (db : TargetDb) : List TargetRequest → Prop
  | [] => True
  | request :: requests => VettedRequest db request ∧ VettedRun (serve db request) requests

variable {db db' : TargetDb} {tenantId : String} {target record : DiscoveryTargetRecord}

/-! ## Creating -/

theorem mem_supported_of_fallbackErrors {fallbacks : List String}
    (h : fallbackErrors fallbacks = []) : ∀ f ∈ fallbacks, f ∈ supportedFallbacks := by
  unfold fallbackErrors at h
  split at h
  · cases h
  · rename_i hany
    simpa using hany

/-- What is validated: the fallbacks are supported and distinct, the opt-ins are given. -/
theorem validate_ok {request r : DiscoveryTargetRequest} (h : request.validate = .ok r) :
    (∀ f ∈ r.allowedFallbackTransports, f ∈ supportedFallbacks) ∧
    r.allowedFallbackTransports.Nodup ∧
    (Uses "telnet" r.preferredTransport r.allowedFallbackTransports →
      r.allowInsecureTelnet = true) ∧
    (Uses "http" r.preferredTransport r.allowedFallbackTransports →
      r.allowInsecureHttp = true) := by
  unfold DiscoveryTargetRequest.validate at h
  split at h
  · rename_i hfields
    dsimp only at h
    split at h
    · rename_i hscope
      cases h
      have hsupported : ∀ f ∈ request.allowedFallbackTransports, f ∈ supportedFallbacks := by
        unfold DiscoveryTargetRequest.fieldErrors at hfields
        exact mem_supported_of_fallbackErrors (List.append_eq_nil_iff.1 hfields).2
      have hdistinct := nodup_dedupeBy id request.allowedFallbackTransports
      rw [List.map_id] at hdistinct
      refine ⟨fun f hf => hsupported f (mem_of_mem_dedupeBy hf), hdistinct, ?_⟩
      unfold DiscoveryTargetRequest.validateScopeDefinition at hscope
      split at hscope
      · cases hscope
      split at hscope
      · cases hscope
      split at hscope
      · cases hscope
      rename_i htelnet
      split at hscope
      · cases hscope
      rename_i hhttp
      rw [not_and, Bool.not_eq_false] at htelnet hhttp
      exact ⟨htelnet, hhttp⟩
    · cases h
  · cases h

theorem createReference_ok {r : DiscoveryTargetRequest} {reference : String}
    (h : createReference db tenantId r = .ok reference) (text : String)
    (htext : r.credentialProfileId = some text) :
    ∃ profile, db.findProfile tenantId text = some profile ∧
      Covers profile r.preferredTransport r.allowedFallbackTransports := by
  unfold createReference at h
  rw [htext] at h
  dsimp only at h
  split at h
  · cases h
  · rename_i profile hfound
    refine ⟨profile, hfound, ?_⟩
    split at h
    · cases h
    rename_i hpreferred
    split at h
    · cases h
    rename_i hfallbacks
    rw [ne_eq, Decidable.not_not, List.filter_eq_nil_iff] at hfallbacks
    refine ⟨Decidable.not_not.1 hpreferred, fun f hf => ?_⟩
    simpa using hfallbacks f hf

/-- What is created satisfies the rules. -/
theorem create_admissible {request : DiscoveryTargetRequest} {id : UUID}
    (h : createTarget db tenantId request id = .ok record) : Admissible db record := by
  unfold createTarget at h
  cases hvalid : request.validate with
  | error e =>
    rw [hvalid] at h
    cases h
  | ok r =>
    rw [hvalid] at h
    simp only [bind, Except.bind] at h
    split at h
    · cases h
    cases hreference : createReference db tenantId r with
    | error e =>
      rw [hreference] at h
      cases h
    | ok reference =>
      rw [hreference] at h
      dsimp only at h
      split at h
      · cases h
      cases h
      obtain ⟨hsupported, hdistinct, htelnet, hhttp⟩ := validate_ok hvalid
      exact {
        telnet := htelnet
        http := hhttp
        supported := hsupported
        distinct := hdistinct
        profile := createReference_ok hreference }

/-! ## Patching -/

variable {r : DiscoveryTargetUpdateRequest}

theorem patchProfile_ok {existing : DiscoveryTargetRecord}
    (h : patchProfile db tenantId existing r target = .ok record) :
    r.credentialProfileId = none ∧ record = target ∨
    r.credentialProfileId = some none ∧
      record = { target with credentialProfileId := none, credentialReference := "" } ∨
    ∃ text profile reference, r.credentialProfileId = some (some text) ∧
      db.findProfile tenantId text = some profile ∧
      record = { target with
        credentialProfileId := some (textOfUuid profile.id)
        credentialReference := reference } := by
  unfold patchProfile at h
  split at h
  · rename_i hnone
    cases h
    exact .inl ⟨hnone, rfl⟩
  · rename_i hcleared
    cases h
    exact .inr (.inl ⟨hcleared, rfl⟩)
  · rename_i text htext
    split at h
    · cases h
    · rename_i profile hfound
      dsimp only at h
      split at h
      · cases h
      · cases h
        exact .inr (.inr ⟨text, profile, _, htext, hfound, rfl⟩)

theorem updateTarget_ok {targetId : UUID} (h : updateTarget db tenantId targetId r = .ok record) :
    ∃ target, db.getTarget tenantId targetId = some target ∧
      patchProfile db tenantId target r (patched target r) = .ok record := by
  unfold updateTarget at h
  split at h
  · split at h
    · cases h
    · rename_i target hget
      exact ⟨target, hget, h⟩
  · cases h

theorem getTarget_some {targetId : UUID} (h : db.getTarget tenantId targetId = some target) :
    db.targets.get targetId = some target ∧ target.tenantId = tenantId := by
  obtain ⟨hget, htenant⟩ := Option.filter_eq_some_iff.1 h
  exact ⟨hget, of_decide_eq_true htenant⟩

/-- The text that is stored for a profile names the profile. -/
theorem findProfile_stored {text : String} {profile : CredentialProfileRecord}
    (h : db.findProfile tenantId text = some profile) :
    db.findProfile tenantId (textOfUuid profile.id) = some profile := by
  unfold TargetDb.findProfile at h ⊢
  obtain ⟨id, hid, hprofile⟩ := Option.bind_eq_some_iff.1 h
  have hkey : profile.id = id :=
    db.profiles.keyed id profile (Option.filter_eq_some_iff.1 hprofile).1
  rw [hkey, uuidOfText_textOfUuid (uuidOfText_lt hid), Option.bind_some]
  exact hprofile

/-! ### The opt-ins -/

theorem uses_of_named {name : String}
    (h : Uses name r.preferredTransport (r.allowedFallbackTransports.getD [])) :
    Uses name (patched target r).preferredTransport
      (patched target r).allowedFallbackTransports := by
  rcases h with hpreferred | hfallback
  · refine .inl ?_
    obtain ⟨p, hp, hname⟩ := Option.map_eq_some_iff.1 hpreferred
    unfold patched
    rw [hp]
    exact congrArg some hname
  · refine .inr ?_
    unfold patched
    cases hgiven : r.allowedFallbackTransports with
    | none =>
      rw [hgiven] at hfallback
      cases hfallback
    | some fallbacks =>
      rw [hgiven] at hfallback
      exact hfallback

/-- What a patched row uses, the patch names or the row used before. -/
theorem named_or_used {name : String}
    (h : Uses name (patched target r).preferredTransport
      (patched target r).allowedFallbackTransports) :
    Uses name r.preferredTransport (r.allowedFallbackTransports.getD []) ∨
      Uses name target.preferredTransport target.allowedFallbackTransports := by
  unfold patched at h
  rcases h with hpreferred | hfallback
  · cases hgiven : r.preferredTransport with
    | none =>
      rw [hgiven] at hpreferred
      exact .inr (.inl hpreferred)
    | some p =>
      rw [hgiven] at hpreferred
      exact .inl (.inl hpreferred)
  · cases hgiven : r.allowedFallbackTransports with
    | none =>
      rw [hgiven] at hfallback
      exact .inr (.inr hfallback)
    | some fallbacks =>
      rw [hgiven] at hfallback
      exact .inl (.inr hfallback)

/-- A rule of an opt-in holds of a patched row if and only if the patch is opted in. -/
theorem patchOptIn_iff {name : String} {flag : DiscoveryTargetRecord → Bool} {given : Option Bool}
    (hflag : flag (patched target r) = given.getD (flag target))
    (hstored : Uses name target.preferredTransport target.allowedFallbackTransports →
      flag target = true) :
    (Uses name (patched target r).preferredTransport
        (patched target r).allowedFallbackTransports → flag (patched target r) = true) ↔
      PatchOptIn name flag (given = some false) r target := by
  constructor
  · intro hrule
    refine ⟨fun hnamed => hrule (uses_of_named hnamed), fun hwithdrawn huses => ?_⟩
    have htrue := hrule huses
    rw [hflag, of_decide_eq_true hwithdrawn] at htrue
    cases htrue
  · intro hopted huses
    rcases named_or_used huses with hnamed | hused
    · exact hopted.named hnamed
    · rw [hflag, hstored hused]
      cases hgiven : given with
      | none => rfl
      | some b =>
        cases b with
        | true => rfl
        | false => exact absurd huses (hopted.withdrawn (decide_eq_true hgiven))

/-! ### The rules after a patch -/

theorem fallbacks_patched_iff (hstored : Admissible db target) :
    ((∀ f ∈ (patched target r).allowedFallbackTransports, f ∈ supportedFallbacks) ∧
        (patched target r).allowedFallbackTransports.Nodup) ↔
      ∀ fallbacks, r.allowedFallbackTransports = some fallbacks →
        (∀ f ∈ fallbacks, f ∈ supportedFallbacks) ∧ fallbacks.Nodup := by
  unfold patched
  cases r.allowedFallbackTransports with
  | none => simpa [hstored.distinct] using hstored.supported
  | some fallbacks => simp

/-- A profile that covers a row covers the patched one if it has what the patch brings. -/
theorem covers_patched_iff {profile : CredentialProfileRecord}
    (hstored : Covers profile target.preferredTransport target.allowedFallbackTransports) :
    Covers profile (patched target r).preferredTransport
        (patched target r).allowedFallbackTransports ↔
      (∀ name, r.preferredTransport = some name →
        preferredOf (some name) ∈ profileTransports profile) ∧
      ∀ f ∈ r.allowedFallbackTransports.getD [], lower f ∈ profileTransports profile := by
  have hpreferred : preferredOf (patched target r).preferredTransport ∈ profileTransports profile ↔
      ∀ name, r.preferredTransport = some name →
        preferredOf (some name) ∈ profileTransports profile := by
    unfold patched
    cases r.preferredTransport with
    | none => simp [hstored.preferred]
    | some name => simp
  have hfallbacks : (∀ f ∈ (patched target r).allowedFallbackTransports,
      lower f ∈ profileTransports profile) ↔
      ∀ f ∈ r.allowedFallbackTransports.getD [], lower f ∈ profileTransports profile := by
    unfold patched
    cases r.allowedFallbackTransports with
    | none => simpa using hstored.fallbacks
    | some fallbacks => simp
  constructor
  · rintro ⟨hp, hf⟩
    exact ⟨hpreferred.1 hp, hfallbacks.1 hf⟩
  · rintro ⟨hp, hf⟩
    exact ⟨hpreferred.2 hp, hfallbacks.2 hf⟩

/-- The rule of the profile, after a patch. -/
def ProfileRule (db : TargetDb) (target : DiscoveryTargetRecord) : Prop :=
  ∀ text, target.credentialProfileId = some text →
    ∃ profile, db.findProfile target.tenantId text = some profile ∧
      Covers profile target.preferredTransport target.allowedFallbackTransports

theorem profileRule_iff {targetId : UUID} (hstored : Admissible db target)
    (hget : db.getTarget tenantId targetId = some target)
    (hok : patchProfile db tenantId target r (patched target r) = .ok record) :
    ProfileRule db record ↔
      (∀ text profile, r.credentialProfileId = none → target.credentialProfileId = some text →
        db.findProfile tenantId text = some profile →
        (∀ name, r.preferredTransport = some name →
          preferredOf (some name) ∈ profileTransports profile) ∧
        ∀ f ∈ r.allowedFallbackTransports.getD [], lower f ∈ profileTransports profile) ∧
      ∀ text profile, r.credentialProfileId = some (some text) →
        db.findProfile tenantId text = some profile →
        Covers profile (patched target r).preferredTransport
          (patched target r).allowedFallbackTransports := by
  have htenant := (getTarget_some hget).2
  unfold ProfileRule
  rcases patchProfile_ok hok with
    ⟨hkept, rfl⟩ | ⟨hcleared, rfl⟩ | ⟨text, profile, reference, hgiven, hfound, rfl⟩
  · constructor
    · intro hrule
      refine ⟨fun text profile _ htext hfound => ?_, fun text profile hgiven => ?_⟩
      · obtain ⟨profile', hfound', hcovers'⟩ := hstored.profile text htext
        obtain ⟨profile'', hfound'', hcovers''⟩ := hrule text htext
        have hsame' : profile' = profile := by
          rw [htenant, hfound] at hfound'
          exact (Option.some.inj hfound').symm
        have hsame'' : profile'' = profile := by
          have hfound : db.findProfile target.tenantId text = some profile := htenant ▸ hfound
          exact Option.some.inj (hfound''.symm.trans hfound)
        rw [hsame'] at hcovers'
        rw [hsame''] at hcovers''
        exact (covers_patched_iff hcovers').1 hcovers''
      · rw [hkept] at hgiven
        cases hgiven
    · rintro ⟨hrule, _⟩ text htext
      obtain ⟨profile, hfound, hcovers⟩ := hstored.profile text htext
      exact ⟨profile, hfound,
        (covers_patched_iff hcovers).2 (hrule text profile hkept htext (htenant ▸ hfound))⟩
  · constructor
    · intro _
      refine ⟨fun text profile hnone => ?_, fun text profile hgiven => ?_⟩
      · rw [hcleared] at hnone
        cases hnone
      · rw [hcleared] at hgiven
        cases hgiven
    · intro _ text htext
      cases htext
  · have hfoundStored : db.findProfile target.tenantId (textOfUuid profile.id) = some profile := by
      rw [htenant]
      exact findProfile_stored hfound
    constructor
    · intro hrule
      refine ⟨fun text profile hnone => ?_, fun text' profile' hgiven' hfound' => ?_⟩
      · rw [hgiven] at hnone
        cases hnone
      · obtain ⟨profile'', hfound'', hcovers⟩ := hrule _ rfl
        have hsame'' : profile'' = profile := Option.some.inj (hfound''.symm.trans hfoundStored)
        have hsame' : profile' = profile := by
          rw [hgiven] at hgiven'
          cases hgiven'
          rw [hfound] at hfound'
          exact (Option.some.inj hfound').symm
        rw [hsame'' , ← hsame'] at hcovers
        exact hcovers
    · rintro ⟨_, hrule⟩ text' htext'
      rw [← Option.some.inj htext']
      exact ⟨profile, hfoundStored, hrule text profile hgiven hfound⟩

/-- The row of an accepted patch satisfies the rules if and only if the patch is vetted against
the row it changes, which does. -/
theorem admissible_update_iff {targetId : UUID} (hstored : Admissible db target)
    (hget : db.getTarget tenantId targetId = some target)
    (hok : updateTarget db tenantId targetId r = .ok record) :
    Admissible db record ↔ Vetted db tenantId target r := by
  obtain ⟨target', hget', hpatch⟩ := updateTarget_ok hok
  have hsame : target' = target := Option.some.inj (hget'.symm.trans hget)
  subst hsame
  have htelnet : _ ↔ PatchOptIn "telnet" (·.allowInsecureTelnet)
      (r.allowInsecureTelnet = some false) r target' := patchOptIn_iff rfl hstored.telnet
  have hhttp : _ ↔ PatchOptIn "http" (·.allowInsecureHttp)
      (r.allowInsecureHttp = some false) r target' := patchOptIn_iff rfl hstored.http
  have hfallbacks := fallbacks_patched_iff (r := r) hstored
  have hprofile := profileRule_iff hstored hget hpatch
  -- the profile aside, the row is the patched one
  have hrow : record.preferredTransport = (patched target' r).preferredTransport ∧
      record.allowedFallbackTransports = (patched target' r).allowedFallbackTransports ∧
      record.allowInsecureTelnet = (patched target' r).allowInsecureTelnet ∧
      record.allowInsecureHttp = (patched target' r).allowInsecureHttp := by
    rcases patchProfile_ok hpatch with ⟨_, rfl⟩ | ⟨_, rfl⟩ | ⟨_, _, _, _, _, rfl⟩
    · exact ⟨rfl, rfl, rfl, rfl⟩
    · exact ⟨rfl, rfl, rfl, rfl⟩
    · exact ⟨rfl, rfl, rfl, rfl⟩
  obtain ⟨hpreferred, hfalls, hflagTelnet, hflagHttp⟩ := hrow
  constructor
  · intro h
    have hrules := h.telnet
    have hrulesHttp := h.http
    have hsupported := h.supported
    have hdistinct := h.distinct
    rw [hpreferred, hfalls, hflagTelnet] at hrules
    rw [hpreferred, hfalls, hflagHttp] at hrulesHttp
    rw [hfalls] at hsupported hdistinct
    have hcovers := hprofile.1 h.profile
    exact {
      telnet := htelnet.1 hrules
      http := hhttp.1 hrulesHttp
      fallbacks := hfallbacks.1 ⟨hsupported, hdistinct⟩
      kept := hcovers.1
      given := hcovers.2 }
  · intro h
    have hrules := htelnet.2 h.telnet
    have hrulesHttp := hhttp.2 h.http
    have hlist := hfallbacks.2 h.fallbacks
    rw [← hpreferred, ← hfalls, ← hflagTelnet] at hrules
    rw [← hpreferred, ← hfalls, ← hflagHttp] at hrulesHttp
    rw [← hfalls] at hlist
    exact {
      telnet := hrules
      http := hrulesHttp
      supported := hlist.1
      distinct := hlist.2
      profile := hprofile.2 ⟨h.kept, h.given⟩ }

/-! ## Sequences of requests -/

theorem serve_profiles (request : TargetRequest) : (serve db request).profiles = db.profiles := by
  unfold serve
  split
  · rfl
  · rfl

/-- The rules read the profiles only. -/
theorem admissible_of_profiles (hprofiles : db'.profiles = db.profiles)
    (h : Admissible db target) : Admissible db' target := by
  have hfind : ∀ tenantId text, db'.findProfile tenantId text = db.findProfile tenantId text := by
    intro tenantId text
    unfold TargetDb.findProfile
    rw [hprofiles]
  exact {
    telnet := h.telnet
    http := h.http
    supported := h.supported
    distinct := h.distinct
    profile := fun text htext => by
      rw [hfind]
      exact h.profile text htext }

/-- A request that is accepted stores a row that satisfies the rules, if its patch is vetted. -/
theorem handle_admissible {request : TargetRequest} (h : AllAdmissible db)
    (hvetted : VettedRequest db request) (hok : handle db request = .ok record) :
    Admissible db record := by
  cases request with
  | create tenantId request id => exact create_admissible hok
  | update tenantId targetId r =>
    obtain ⟨target, hget, _⟩ := updateTarget_ok hok
    have hstored := h targetId target (getTarget_some hget).1
    exact (admissible_update_iff hstored hget hok).2 (hvetted target record hget hok)

theorem serve_admissible {request : TargetRequest} (h : AllAdmissible db)
    (hvetted : VettedRequest db request) : AllAdmissible (serve db request) := by
  intro id target hget
  refine admissible_of_profiles (serve_profiles request) ?_
  unfold serve at hget
  split at hget
  · rename_i record hok
    rw [Tbl.get_set] at hget
    split at hget
    · rw [← Option.some.inj hget]
      exact handle_admissible h hvetted hok
    · exact h id target hget
  · exact h id target hget

/-- If every patch that is accepted goes with the row it changes, every stored target satisfies
the rules of `create_target` after each request. -/
theorem targets_admissible {requests served : List TargetRequest} (h : AllAdmissible db)
    (hrun : VettedRun db requests) (hserved : served <+: requests) :
    AllAdmissible (served.foldl serve db) := by
  induction served generalizing db requests with
  | nil => exact h
  | cons request served ih =>
    cases requests with
    | nil => exact absurd (List.prefix_nil.1 hserved) (List.cons_ne_nil _ _)
    | cons request' requests =>
      obtain ⟨rfl, hrest⟩ := List.cons_prefix_cons.1 hserved
      exact ih (serve_admissible h hrun.1) hrun.2 hrest

def noTargets : TargetDb where
  targets := Tbl.empty
  profiles := Tbl.empty

/-- A target that is tried with SSH. -/
def sshRequest : TargetRequest :=
  .create "tenant"
    { identifier := "edge", address := some "10.0.0.1", tenantId := "tenant"
      credentialReference := some "env:EDGE" } 1

/-- A patch that makes Telnet its preferred transport. -/
def telnetPatch (optIn : Option Bool) : TargetRequest :=
  .update "tenant" 1 { preferredTransport := some "telnet", allowInsecureTelnet := optIn }

def sshTarget : DiscoveryTargetRecord where
  id := 1
  tenantId := "tenant"
  identifier := "edge"
  address := "10.0.0.1"
  scopeType := .singleDevice
  scopeEnd := none
  scopeCidr := none
  vendor := none
  hostname := none
  platformHint := none
  preferredTransport := none
  enabled := true
  credentialReference := "env:EDGE"
  credentialProfileId := none
  credentialReferences := []
  allowedFallbackTransports := []
  allowInsecureTelnet := false
  allowInsecureHttp := false
  metadataJson := []

theorem noTargets_admissible : AllAdmissible noTargets := by
  intro id target hget
  cases hget

theorem sshRequest_stored : handle noTargets sshRequest = .ok sshTarget := by rfl

theorem sshTarget_found : (serve noTargets sshRequest).getTarget "tenant" 1 = some sshTarget := by
  rw [serve, sshRequest_stored]
  rfl

/-- With the opt-in, the patch goes with the row. -/
theorem telnetPatch_vetted : VettedRun noTargets [sshRequest, telnetPatch (some true)] := by
  refine ⟨trivial, fun target record hget _ => ?_, trivial⟩
  rw [sshTarget_found] at hget
  rw [← Option.some.inj hget]
  constructor
  · exact ⟨fun _ => rfl, fun h => absurd h (by decide)⟩
  · exact ⟨fun h => absurd h (by decide), fun h => absurd h (by decide)⟩
  · intro fallbacks h
    cases h
  · intro text profile _ h
    cases h
  · intro text profile h
    cases h

theorem targets_admissible_edge :
    AllAdmissible ([sshRequest, telnetPatch (some true)].foldl serve noTargets) :=
  targets_admissible noTargets_admissible telnetPatch_vetted (List.prefix_refl _)

/-- Without it, the patch is accepted too, and the stored target breaks the rule. -/
theorem telnet_without_optIn :
    AllAdmissible noTargets ∧
      ¬AllAdmissible ([sshRequest, telnetPatch none].foldl serve noTargets) := by
  refine ⟨noTargets_admissible, fun h => ?_⟩
  have hpatch : handle (serve noTargets sshRequest) (telnetPatch none) =
      .ok { sshTarget with preferredTransport := some "telnet" } := by
    unfold handle telnetPatch updateTarget
    dsimp only
    rw [sshTarget_found]
    rfl
  have hrow := h 1 { sshTarget with preferredTransport := some "telnet" } (by
    rw [List.foldl_cons, List.foldl_cons, List.foldl_nil, serve, hpatch]
    rfl)
  exact absurd (hrow.telnet (by decide)) (by decide)

end Discovery
end NetOps
