import NetOps.Discovery.ProfileReferences
import NetOps.History

/-!
# Discovery.ProfileWrites

What the routes of credential profiles write, read back (`api/v1/credentials.py`, and the second
route that creates profiles, in `api/v1/discovery.py`).

A patch tells a field that is absent from one that is `null`, but its request does not, and the
route sets every column from the request (`ProfilePatch.request`, `updateProfile`).

* `create_reads_back_iff`: a new profile is read back as supplied exactly when its transports are
  given and the route forwards the fields that are.
* `patch_reads_back_iff`: a profile that is read back as supplied still is after a patch exactly
  when the patch is complete, drops nothing and gives valid transports, or fails and says nothing
  new.
* `writes_read_back_iff`: so for a new profile and any sequence of patches.
-/

namespace NetOps
namespace Discovery

open Conc Text History

/-! ## Creating a profile -/

/-- The two routes that create profiles. -/
inductive CreateEndpoint where
  | credentials
  | discovery
  deriving DecidableEq

/-- What `create_credential_profile` of the discovery routes forwards. -/
def CredentialProfileRequest.forwarded (r : CredentialProfileRequest) :
    CreateEndpoint → CredentialProfileRequest
  | .credentials => r
  | .discovery =>
    { r with vendor := none, platform := none, credentialType := none, username := none }

/-- The text has a character that PostgreSQL does not store. -/
def hasNul (text : String) : Bool := text.toList.contains (Char.ofNat 0)

/-- Texts that fit the columns of a row. The requests bound every one but the provider reference,
for which a patch allows 512 characters and the column 255. -/
def storable (name providerReference : String) (others : List (Option String)) : Bool :=
  providerReference.length ≤ 255 && !hasNul name && !hasNul providerReference &&
    others.all fun text => !(text.any hasNul)

/-- The flush of a row. -/
def flushProfile (r : CredentialProfileRecord) : Except RequestError CredentialProfileRecord :=
  if storable r.name r.providerReference
      [r.description, r.vendor, r.platform, r.credentialType, r.username] then .ok r
  else .error internalError

/-- `create_profile`, and `create_credential_profile` of the discovery routes: the stored row. -/
def createThrough (endpoint : CreateEndpoint) (db : TargetDb) (tenantId : String)
    (request : CredentialProfileRequest) (id : UUID) :
    Except RequestError CredentialProfileRecord := do
  let r ← request.validate
  if (db.profiles.get id).isSome then .error internalError
  else flushProfile (newProfile tenantId (r.forwarded endpoint) id)

/-! ## Patching a profile -/

/-- A field of a body: absent, `null` or a value. -/
abbrev Given (α : Type) := Option (Option α)

structure ProfilePatch where
  name : Given String := none
  description : Given String := none
  vendor : Given String := none
  platform : Given String := none
  credentialType : Given String := none
  username : Given String := none
  transportTypes : Given (List String) := none
  providerReference : Given String := none
  enabled : Given Bool := none

/-- The request of a body, whose fields default to `None`. -/
def ProfilePatch.request (b : ProfilePatch) : CredentialProfileUpdateRequest where
  name := b.name.join
  description := b.description.join
  vendor := b.vendor.join
  platform := b.platform.join
  credentialType := b.credentialType.join
  username := b.username.join
  transportTypes := b.transportTypes.join
  providerReference := b.providerReference.join
  enabled := b.enabled.join

/-- `update_profile`: the stored row. -/
def applyProfilePatch (db : TargetDb) (tenantId : String) (profileId : UUID) (b : ProfilePatch) :
    Except RequestError CredentialProfileRecord := do
  let record ← updateProfile db tenantId profileId b.request
  flushProfile record

/-- The tables after a patch; one that fails leaves them. -/
def afterPatch (db : TargetDb) (tenantId : String) (profileId : UUID) (b : ProfilePatch) :
    TargetDb :=
  match applyProfilePatch db tenantId profileId b with
  | .ok record => db.setProfile record
  | .error _ => db

/-! ## Reading it back -/

structure CredentialProfileResponse where
  profileId : UUID
  tenantId : String
  name : String
  description : Option String
  vendor : Option String
  platform : Option String
  credentialType : Option String
  username : Option String
  transportTypes : List String
  providerReference : String
  secretStatus : String
  enabled : Bool

/-- `_profile_response`. -/
def profileResponse (record : CredentialProfileRecord) : CredentialProfileResponse where
  profileId := record.id
  tenantId := record.tenantId
  name := record.name
  description := record.description
  vendor := record.vendor
  platform := record.platform
  credentialType := record.credentialType
  username := record.username
  transportTypes := record.transportTypes
  providerReference := record.providerReference
  secretStatus := record.secretStatus
  enabled := record.enabled

/-- `get_profile`. Transports that are a JSON `null` make it fail; here they are the empty list,
which breaks the rules of transports too. -/
def readProfile (db : TargetDb) (tenantId : String) (profileId : UUID) :
    Except RequestError CredentialProfileResponse :=
  match db.getProfile tenantId profileId with
  | none => .error (.http 404 "Credential profile was not found.")
  | some record => .ok (profileResponse record)

/-! ## What was supplied -/

/-- The value supplied last for each field. -/
structure Supplied where
  name : Option String
  description : Option String
  vendor : Option String
  platform : Option String
  credentialType : Option String
  username : Option String
  transportTypes : Option (List String)
  providerReference : Option String
  enabled : Option Bool
  deriving DecidableEq

/-- What a request that creates a profile supplies; its transports are stored clean. -/
def CredentialProfileRequest.supplied (r : CredentialProfileRequest) : Supplied where
  name := some r.name
  description := r.description
  vendor := r.vendor
  platform := r.platform
  credentialType := r.credentialType
  username := r.username
  transportTypes := some (dedupeBy id (cleaned (r.transportTypes.getD [])))
  providerReference := some r.providerReference
  enabled := some true

/-- The fields a body gives, over those supplied before. -/
def Supplied.over (x : Supplied) (b : ProfilePatch) : Supplied where
  name := b.name.getD x.name
  description := b.description.getD x.description
  vendor := b.vendor.getD x.vendor
  platform := b.platform.getD x.platform
  credentialType := b.credentialType.getD x.credentialType
  username := b.username.getD x.username
  transportTypes := b.transportTypes.getD x.transportTypes
  providerReference := b.providerReference.getD x.providerReference
  enabled := b.enabled.getD x.enabled

/-- A body that does not validate supplies nothing. -/
def Supplied.patch (x : Supplied) (b : ProfilePatch) : Supplied :=
  if b.request.fieldErrors = [] then x.over b else x

def CredentialProfileResponse.supplied (r : CredentialProfileResponse) : Supplied where
  name := some r.name
  description := r.description
  vendor := r.vendor
  platform := r.platform
  credentialType := r.credentialType
  username := r.username
  transportTypes := some r.transportTypes
  providerReference := some r.providerReference
  enabled := some r.enabled

/-- What `validate_transport_types` enforces. -/
structure TransportRules (types : List String) : Prop where
  accepted : CredentialProfileRequest.transportTypesErrors types = []
  clean : CredentialProfileRequest.cleaned types = types
  nodup : types.Nodup

/-- The profile is read back as supplied, with transports that keep the rules. -/
def ReadsBack (tenantId : String) (profileId : UUID) (s : TargetDb × Supplied) : Prop :=
  ∃ response, readProfile s.1 tenantId profileId = .ok response ∧ response.supplied = s.2 ∧
    TransportRules response.transportTypes

/-- A patch, on the tables and on what was supplied. -/
def PatchStep (tenantId : String) (profileId : UUID) (s : TargetDb × Supplied) (b : ProfilePatch)
    (s' : TargetDb × Supplied) : Prop :=
  s' = (afterPatch s.1 tenantId profileId b, s.2.patch b)

/-! ## When they are read back -/

/-- The patch gives every column that may not be `NULL`, and texts that fit. -/
def ProfilePatch.Complete (b : ProfilePatch) : Prop :=
  ∃ name providerReference enabled, b.name = some (some name) ∧
    b.providerReference = some (some providerReference) ∧ b.enabled = some (some enabled) ∧
    storable name providerReference [b.description.join, b.vendor.join, b.platform.join,
      b.credentialType.join, b.username.join] = true

/-- The fields that the patch leaves out are empty in the row. -/
structure DropsNothing (record : CredentialProfileRecord) (b : ProfilePatch) : Prop where
  description : b.description = none → record.description = none
  vendor : b.vendor = none → record.vendor = none
  platform : b.platform = none → record.platform = none
  credentialType : b.credentialType = none → record.credentialType = none
  username : b.username = none → record.username = none

/-- The patch gives transports that keep the rules. -/
def GivesTransports (b : ProfilePatch) : Prop :=
  ∃ types, b.transportTypes = some (some types) ∧ TransportRules types

/-- The fields that the patch gives are those of the row already. -/
def SaysNothingNew (record : CredentialProfileRecord) (b : ProfilePatch) : Prop :=
  (profileResponse record).supplied.over b = (profileResponse record).supplied

/-- The patch of a stored row is not valid, or it is complete, drops nothing and gives transports
that keep the rules, or it is not complete and says nothing new. -/
def PatchCondition (record : CredentialProfileRecord) (b : ProfilePatch) : Prop :=
  b.request.fieldErrors = [] →
    (b.Complete ∧ DropsNothing record b ∧ GivesTransports b) ∨
      (¬ b.Complete ∧ SaysNothingNew record b)

variable {db : TargetDb} {tenantId : String} {profileId : UUID} {record : CredentialProfileRecord}
  {x : Supplied} {b : ProfilePatch}

theorem readsBack_iff : ReadsBack tenantId profileId (db, x) ↔
    ∃ record, db.getProfile tenantId profileId = some record ∧
      (profileResponse record).supplied = x ∧ TransportRules record.transportTypes := by
  unfold ReadsBack readProfile
  cases db.getProfile tenantId profileId with
  | none => simp
  | some record =>
    simp only [Except.ok.injEq, Option.some.injEq, exists_eq_left']
    rfl

/-- The row of a complete patch. -/
def patchedRow (record : CredentialProfileRecord) (b : ProfilePatch) (name : String)
    (providerReference : String) (enabled : Bool) : CredentialProfileRecord :=
  { record with
    name := name
    description := b.description.join
    vendor := b.vendor.join
    platform := b.platform.join
    credentialType := b.credentialType.join
    username := b.username.join
    transportTypes := b.transportTypes.join.getD []
    providerReference := providerReference
    enabled := enabled }

theorem join_eq_some {α : Type} {g : Given α} {v : α} : g.join = some v ↔ g = some (some v) := by
  cases g with
  | none => simp
  | some g => cases g <;> simp

/-- A complete patch stores its row. -/
theorem applyProfilePatch_ok (hvalid : b.request.fieldErrors = [])
    (hget : db.getProfile tenantId profileId = some record) (hcomplete : b.Complete) :
    ∃ name providerReference enabled, b.name = some (some name) ∧
      b.providerReference = some (some providerReference) ∧ b.enabled = some (some enabled) ∧
      applyProfilePatch db tenantId profileId b =
        .ok (patchedRow record b name providerReference enabled) := by
  obtain ⟨name, providerReference, enabled, hname, hreference, henabled, hfits⟩ := hcomplete
  refine ⟨name, providerReference, enabled, hname, hreference, henabled, ?_⟩
  have hupdate : updateProfile db tenantId profileId b.request =
      .ok (patchedRow record b name providerReference enabled) := by
    unfold updateProfile
    rw [hvalid, hget]
    simp only [ProfilePatch.request, hname, hreference, henabled, Option.join_some]
    rfl
  unfold applyProfilePatch
  rw [hupdate]
  exact if_pos hfits

/-- A patch that is not complete fails. -/
theorem applyProfilePatch_error (hvalid : b.request.fieldErrors = [])
    (hget : db.getProfile tenantId profileId = some record) (hcomplete : ¬ b.Complete) :
    applyProfilePatch db tenantId profileId b = .error internalError := by
  unfold applyProfilePatch updateProfile
  rw [hvalid, hget]
  dsimp only
  split
  · rename_i name providerReference enabled hname hreference henabled
    simp only [bind, Except.bind, flushProfile]
    refine if_neg fun hfits => hcomplete ?_
    exact ⟨name, providerReference, enabled, join_eq_some.1 hname, join_eq_some.1 hreference,
      join_eq_some.1 henabled, hfits⟩
  · rfl

theorem not_transportRules_nil : ¬ TransportRules [] := fun h => by
  have hnil := h.accepted
  cases hnil

/-- The transports of a patched row keep the rules exactly when the patch gives such. -/
theorem transportRules_patchedRow :
    TransportRules (b.transportTypes.join.getD []) ↔ GivesTransports b := by
  unfold GivesTransports
  constructor
  · intro h
    cases hjoin : b.transportTypes.join with
    | none =>
      rw [hjoin] at h
      exact absurd h not_transportRules_nil
    | some types =>
      rw [hjoin] at h
      exact ⟨types, join_eq_some.1 hjoin, h⟩
  · rintro ⟨types, htypes, h⟩
    rw [htypes]
    exact h

theorem join_eq_getD {g : Given String} {old : Option String} :
    g.join = g.getD old ↔ (g = none → old = none) := by
  cases g with
  | none => simp [eq_comm]
  | some g => simp

/-- A patched row is the row with the patch over it, as far as nothing is dropped. -/
theorem supplied_patchedRow {name providerReference : String} {enabled : Bool}
    (hname : b.name = some (some name))
    (hreference : b.providerReference = some (some providerReference))
    (henabled : b.enabled = some (some enabled)) (htransports : GivesTransports b) :
    (profileResponse (patchedRow record b name providerReference enabled)).supplied =
        (profileResponse record).supplied.over b ↔ DropsNothing record b := by
  obtain ⟨types, htypes, _⟩ := htransports
  simp only [profileResponse, CredentialProfileResponse.supplied, patchedRow, Supplied.over, hname,
    hreference, henabled, htypes, Option.getD_some, Option.join_some, Supplied.mk.injEq,
    join_eq_getD, true_and, and_true]
  exact ⟨fun ⟨h1, h2, h3, h4, h5⟩ => ⟨h1, h2, h3, h4, h5⟩,
    fun h => ⟨h.description, h.vendor, h.platform, h.credentialType, h.username⟩⟩

theorem getProfile_setProfile {row : CredentialProfileRecord} (hid : row.id = profileId)
    (htenant : row.tenantId = tenantId) :
    (db.setProfile row).getProfile tenantId profileId = some row := by
  rw [getProfile_some, TargetDb.setProfile, Tbl.get_set, if_pos hid.symm]
  exact ⟨rfl, htenant⟩

/-- A profile that is read back as supplied still is after a patch, exactly under the condition. -/
theorem patch_reads_back_iff (hget : db.getProfile tenantId profileId = some record)
    (hrules : TransportRules record.transportTypes) :
    ReadsBack tenantId profileId
        (afterPatch db tenantId profileId b, (profileResponse record).supplied.patch b) ↔
      PatchCondition record b := by
  unfold Supplied.patch PatchCondition
  by_cases hvalid : b.request.fieldErrors = []
  · rw [if_pos hvalid]
    simp only [hvalid, forall_const]
    by_cases hcomplete : b.Complete
    · obtain ⟨name, providerReference, enabled, hname, hreference, henabled, hok⟩ :=
        applyProfilePatch_ok hvalid hget hcomplete
      have hkey : record.id = profileId := db.profiles.keyed _ _ (getProfile_some.1 hget).1
      have hrow : (db.setProfile (patchedRow record b name providerReference enabled)).getProfile
          tenantId profileId = some (patchedRow record b name providerReference enabled) :=
        getProfile_setProfile hkey (getProfile_some.1 hget).2
      unfold afterPatch
      rw [hok, readsBack_iff]
      simp only [hrow, Option.some.injEq, exists_eq_left', hcomplete, true_and, not_true_eq_false,
        false_and, or_false]
      rw [show (patchedRow record b name providerReference enabled).transportTypes =
        b.transportTypes.join.getD [] from rfl, transportRules_patchedRow]
      exact and_congr_left fun htransports =>
        supplied_patchedRow hname hreference henabled htransports
    · have herror := applyProfilePatch_error hvalid hget hcomplete
      unfold afterPatch
      rw [herror, readsBack_iff]
      simp only [hget, Option.some.injEq, exists_eq_left', hrules, and_true, hcomplete, false_and,
        not_false_eq_true, true_and, false_or]
      exact eq_comm
  · have herror : ∃ e, applyProfilePatch db tenantId profileId b = .error e := by
      unfold applyProfilePatch updateProfile
      cases hcase : b.request.fieldErrors with
      | nil => exact absurd hcase hvalid
      | cons e es => exact ⟨_, rfl⟩
    obtain ⟨e, herror⟩ := herror
    rw [if_neg hvalid]
    unfold afterPatch
    rw [herror, readsBack_iff]
    simp [hvalid, hget, hrules]

/-! ## Creation, and whole histories -/

/-- The transports are given, and the route forwards every field that is. -/
def CreateCondition (endpoint : CreateEndpoint) (request : CredentialProfileRequest) : Prop :=
  request.transportTypes.isSome ∧ (endpoint = .discovery → request.vendor = none ∧
    request.platform = none ∧ request.credentialType = none ∧ request.username = none)

/-- The supported transports are clean. -/
theorem clean_supported : ∀ item ∈ supportedProfileTransports, lower (strip item) = item := by
  decide

theorem transportRules_validated {types : List String}
    (h : CredentialProfileRequest.transportTypesErrors types = []) :
    TransportRules (dedupeBy id (CredentialProfileRequest.cleaned types)) := by
  unfold CredentialProfileRequest.transportTypesErrors at h
  split at h
  · cases h
  rename_i hne
  split at h
  · cases h
  rename_i hsupported
  have hmem : ∀ item ∈ dedupeBy id (CredentialProfileRequest.cleaned types),
      item ∈ supportedProfileTransports := by
    intro item hitem
    simp only [List.any_eq_true, decide_eq_true_eq, not_exists, not_and, not_not] at hsupported
    exact hsupported item (mem_of_mem_dedupeBy hitem)
  have hclean : CredentialProfileRequest.cleaned
      (dedupeBy id (CredentialProfileRequest.cleaned types)) =
        dedupeBy id (CredentialProfileRequest.cleaned types) := by
    unfold CredentialProfileRequest.cleaned at hmem ⊢
    exact (List.map_congr_left fun item hitem => clean_supported item (hmem item hitem)).trans
      (List.map_id _)
  refine ⟨?_, hclean, ?_⟩
  · unfold CredentialProfileRequest.transportTypesErrors
    rw [hclean, if_neg, if_neg]
    · simpa using hmem
    · cases hcleaned : CredentialProfileRequest.cleaned types with
      | nil => exact absurd hcleaned hne
      | cons item items => simp [dedupeBy]
  · have hnodup := nodup_dedupeBy id (CredentialProfileRequest.cleaned types)
    rwa [List.map_id] at hnodup

variable {endpoint : CreateEndpoint} {request : CredentialProfileRequest} {id : UUID}

/-- What a route that creates a profile stores. -/
theorem createThrough_ok (h : createThrough endpoint db tenantId request id = .ok record) :
    request.fieldErrors = [] ∧ record = newProfile tenantId
      (CredentialProfileRequest.forwarded { request with
        transportTypes := request.transportTypes.map fun types =>
          dedupeBy (fun item => item) (CredentialProfileRequest.cleaned types) } endpoint) id := by
  unfold createThrough CredentialProfileRequest.validate at h
  cases herrors : request.fieldErrors with
  | cons e es =>
    rw [herrors] at h
    cases h
  | nil =>
    rw [herrors] at h
    simp only [bind, Except.bind] at h
    split at h
    · cases h
    · unfold flushProfile at h
      split at h
      · exact ⟨rfl, (Except.ok.inj h).symm⟩
      · cases h

/-- A new profile is read back as supplied, exactly under the condition. -/
theorem create_reads_back_iff (h : createThrough endpoint db tenantId request id = .ok record) :
    ReadsBack tenantId id (db.setProfile record, request.supplied) ↔
      CreateCondition endpoint request := by
  obtain ⟨herrors, hrecord⟩ := createThrough_ok h
  have hid : record.id = id := by
    rw [hrecord]
    rfl
  have htenant : record.tenantId = tenantId := by
    rw [hrecord]
    rfl
  rw [readsBack_iff]
  simp only [getProfile_setProfile hid htenant, Option.some.injEq, exists_eq_left']
  unfold CreateCondition
  cases htypes : request.transportTypes with
  | none =>
    have hempty : record.transportTypes = [] := by
      rw [hrecord, htypes]
      cases endpoint <;> rfl
    rw [hempty]
    simp [not_transportRules_nil]
  | some types =>
    have hvalid : CredentialProfileRequest.transportTypesErrors types = [] := by
      unfold CredentialProfileRequest.fieldErrors at herrors
      simp only [List.append_eq_nil_iff] at herrors
      have hgiven := herrors.1.2
      rw [htypes] at hgiven
      exact hgiven
    have hstored : record.transportTypes =
        dedupeBy (fun item => item) (CredentialProfileRequest.cleaned types) := by
      rw [hrecord, htypes]
      cases endpoint <;> rfl
    have hrules : TransportRules record.transportTypes := by
      rw [hstored]
      exact transportRules_validated hvalid
    simp only [hrules, and_true, Option.isSome_some, true_and]
    rw [hrecord]
    cases endpoint with
    | credentials =>
      simp [profileResponse, CredentialProfileResponse.supplied, newProfile,
        CredentialProfileRequest.forwarded, CredentialProfileRequest.supplied, htypes]
      rfl
    | discovery =>
      simp [profileResponse, CredentialProfileResponse.supplied, newProfile,
        CredentialProfileRequest.forwarded, CredentialProfileRequest.supplied, htypes]
      exact ⟨fun ⟨hv, hp, hc, hu, _⟩ => ⟨hv.symm, hp.symm, hc.symm, hu.symm⟩,
        fun ⟨hv, hp, hc, hu⟩ => ⟨hv.symm, hp.symm, hc.symm, hu.symm, rfl⟩⟩

/-- What a run of patches asks of each of them. -/
def PatchesMeet (tenantId : String) (profileId : UUID) (s : TargetDb × Supplied) (b : ProfilePatch)
    (_ : TargetDb × Supplied) : Prop :=
  ∀ record, s.1.getProfile tenantId profileId = some record → PatchCondition record b

/-- A created profile and each state of it under patches are read back as supplied, with transports
that keep the rules, if and only if the creation and every patch meet their conditions. -/
theorem writes_read_back_iff (endpoint : CreateEndpoint) (db : TargetDb) (tenantId : String)
    (request : CredentialProfileRequest) (id : UUID) (record : CredentialProfileRecord)
    (hcreate : createThrough endpoint db tenantId request id = .ok record)
    (patches : List (ProfilePatch × TargetDb × Supplied))
    (hrun : Run (PatchStep tenantId id) (db.setProfile record, request.supplied) patches) :
    (ReadsBack tenantId id (db.setProfile record, request.supplied) ∧
        Throughout (fun _ _ s => ReadsBack tenantId id s) (db.setProfile record, request.supplied)
          patches) ↔
      CreateCondition endpoint request ∧
        Throughout (PatchesMeet tenantId id) (db.setProfile record, request.supplied) patches := by
  rw [create_reads_back_iff hcreate]
  refine and_congr_right fun hcondition => ?_
  refine throughout_iff ?_ (fun _ _ _ _ _ h => h) ((create_reads_back_iff hcreate).2 hcondition)
    hrun
  rintro ⟨db, x⟩ b _ hs rfl
  obtain ⟨record, hget, rfl, hrules⟩ := readsBack_iff.1 hs
  rw [patch_reads_back_iff hget hrules]
  exact ⟨fun h record' hget' => Option.some.inj (hget.symm.trans hget') ▸ h, fun h => h record hget⟩

/-- A profile for SSH, with a username. -/
def coreRequest : CredentialProfileRequest where
  name := "core"
  credentialType := some "ssh_password"
  username := some "netops"
  transportTypes := some ["ssh"]
  providerReference := "core"

def coreProfile : CredentialProfileRecord := newProfile "default" coreRequest 7

def noProfiles : TargetDb := ⟨default, default⟩

theorem coreProfile_created :
    createThrough .credentials noProfiles "default" coreRequest 7 = .ok coreProfile := rfl

/-- A patch that renames the profile, and gives all that it must. -/
def renameCore : ProfilePatch where
  name := some (some "core ssh")
  transportTypes := some (some ["ssh"])
  providerReference := some (some "core")
  enabled := some (some true)

def coreCreated : TargetDb × Supplied := (noProfiles.setProfile coreProfile, coreRequest.supplied)

def coreRenamed : TargetDb × Supplied :=
  (afterPatch coreCreated.1 "default" 7 renameCore, coreCreated.2.patch renameCore)

theorem core_read_back :
    createThrough .credentials noProfiles "default" coreRequest 7 = .ok coreProfile ∧
    Run (PatchStep "default" 7) coreCreated [(renameCore, coreRenamed)] ∧
    ((ReadsBack "default" 7 coreCreated ∧
        Throughout (fun _ _ s => ReadsBack "default" 7 s) coreCreated
          [(renameCore, coreRenamed)]) ↔
      CreateCondition .credentials coreRequest ∧
        Throughout (PatchesMeet "default" 7) coreCreated [(renameCore, coreRenamed)]) :=
  ⟨coreProfile_created, ⟨rfl, trivial⟩, writes_read_back_iff .credentials noProfiles "default"
    coreRequest 7 coreProfile coreProfile_created [(renameCore, coreRenamed)] ⟨rfl, trivial⟩⟩

/-- The patch leaves out the username, and the profile has none afterwards. -/
theorem rename_loses_username :
    createThrough .credentials noProfiles "default" coreRequest 7 = .ok coreProfile ∧
    ReadsBack "default" 7 coreCreated ∧ ¬ ReadsBack "default" 7 coreRenamed := by
  have hget : (noProfiles.setProfile coreProfile).getProfile "default" 7 = some coreProfile :=
    getProfile_setProfile rfl rfl
  have hstart := (create_reads_back_iff coreProfile_created).2 ⟨rfl, fun h => by cases h⟩
  obtain ⟨record, hrecord, _, hrules⟩ := readsBack_iff.1 hstart
  rw [hget, Option.some.injEq] at hrecord
  subst hrecord
  refine ⟨coreProfile_created, hstart, fun hbroken => ?_⟩
  have hcondition := (patch_reads_back_iff hget hrules).1 hbroken rfl
  rcases hcondition with ⟨_, hdrops, _⟩ | ⟨hcomplete, _⟩
  · cases hdrops.username rfl
  · exact hcomplete ⟨"core ssh", "core", true, rfl, rfl, rfl, rfl⟩

end Discovery
end NetOps
