import NetOps.Discovery.Admission
import NetOps.Discovery.Inheritance
import NetOps.Discovery.Profiles

/-!
# Discovery.ProfileReferences

The references of targets to credential profiles, over sequences of operations.

Every operation but the deletion of a profile keeps that each reference names a profile of the
tenant (`attempt_keeps`). A deletion finds the referring targets by the text of the id, so it keeps
it if and only if no target of the tenant spells the id otherwise (`deleteProfile_keeps_iff`); and
no reference dangles after any operation of a sequence if and only if none does at first and every
deletion that succeeds meets that (`references_kept_iff`).
-/

namespace NetOps
namespace Discovery

open Conc Text

variable {db db' : TargetDb} {tenantId : String} {profileId : UUID}
  {target record : DiscoveryTargetRecord}

/-! ## References -/

/-- The reference of a target names a profile of its tenant. -/
def Refers (db : TargetDb) (target : DiscoveryTargetRecord) : Prop :=
  ∀ text, target.credentialProfileId = some text →
    ∃ profile, db.findProfile target.tenantId text = some profile

/-- No reference of a stored target dangles. -/
def NoDangling (db : TargetDb) : Prop :=
  ∀ id target, db.targets.get id = some target → Refers db target

/-- No stored target refers to the profile, however its reference is spelled. -/
def Unreferenced (db : TargetDb) (profileId : UUID) : Prop :=
  ∀ id target text, db.targets.get id = some target → target.credentialProfileId = some text →
    uuidOfText text ≠ some profileId

/-- The targets of the tenant that refer to the profile spell its id as `str` does. -/
def Canonical (db : TargetDb) (tenantId : String) (profileId : UUID) : Prop :=
  ∀ id target text, db.targets.get id = some target → target.tenantId = tenantId →
    target.credentialProfileId = some text → uuidOfText text = some profileId →
    text = textOfUuid profileId

/-- Of a deletion that finds its profile: the references to the profile are canonical. -/
def CanonicalOperation (db : TargetDb) : ProfileOperation → Prop
  | .deleteProfile tenantId profileId =>
    (db.getProfile tenantId profileId).isSome → Canonical db tenantId profileId
  | _ => True

def CanonicalRun (db : TargetDb) : List ProfileOperation → Prop
  | [] => True
  | operation :: operations =>
    CanonicalOperation db operation ∧ CanonicalRun (perform db operation) operations

theorem findProfile_some {text : String} {profile : CredentialProfileRecord} :
    db.findProfile tenantId text = some profile ↔ ∃ id, uuidOfText text = some id ∧
      db.profiles.get id = some profile ∧ profile.tenantId = tenantId := by
  unfold TargetDb.findProfile
  simp [Option.bind_eq_some_iff, Option.filter_eq_some_iff]

theorem getProfile_some {profile : CredentialProfileRecord} :
    db.getProfile tenantId profileId = some profile ↔
      db.profiles.get profileId = some profile ∧ profile.tenantId = tenantId := by
  unfold TargetDb.getProfile
  simp [Option.filter_eq_some_iff]

/-- Without a dangling reference, nobody refers to a profile that is not there. -/
theorem NoDangling.unreferenced (h : NoDangling db) (hnone : db.profiles.get profileId = none) :
    Unreferenced db profileId := by
  intro id target text hget htext hread
  obtain ⟨profile, hfound⟩ := h id target hget text htext
  obtain ⟨id', hread', hprofile, _⟩ := findProfile_some.1 hfound
  rw [hread, Option.some.injEq] at hread'
  rw [← hread', hnone] at hprofile
  cases hprofile

/-! ## Storing profiles and targets -/

/-- Every profile of `db` is there in `db'`, under its tenant. -/
def ProfilesKept (db db' : TargetDb) : Prop :=
  ∀ tenantId text profile, db.findProfile tenantId text = some profile →
    ∃ profile', db'.findProfile tenantId text = some profile'

theorem Refers.of_kept (h : Refers db target) (hkept : ProfilesKept db db') :
    Refers db' target := by
  intro text htext
  obtain ⟨profile, hfound⟩ := h text htext
  exact hkept _ _ _ hfound

/-- A profile is stored under a new id, or over a profile of its tenant. -/
theorem setProfile_kept {profile : CredentialProfileRecord}
    (h : ∀ old, db.profiles.get profile.id = some old → old.tenantId = profile.tenantId) :
    ProfilesKept db (db.setProfile profile) := by
  intro tenantId text old hfound
  obtain ⟨id, hread, hget, htenant⟩ := findProfile_some.1 hfound
  by_cases hid : id = profile.id
  · subst hid
    refine ⟨profile, findProfile_some.2 ⟨_, hread, ?_, (h old hget).symm.trans htenant⟩⟩
    rw [TargetDb.setProfile, Tbl.get_set, if_pos rfl]
  · refine ⟨old, findProfile_some.2 ⟨id, hread, ?_, htenant⟩⟩
    rw [TargetDb.setProfile, Tbl.get_set, if_neg hid]
    exact hget

theorem NoDangling.setProfile {profile : CredentialProfileRecord} (h : NoDangling db)
    (hkept : ProfilesKept db (db.setProfile profile)) : NoDangling (db.setProfile profile) :=
  fun id target hget => (h id target hget).of_kept hkept

theorem NoDangling.setTarget (h : NoDangling db) (hrecord : Refers db record) :
    NoDangling (db.setTarget record) := by
  intro id target hget
  have hkept : ProfilesKept db (db.setTarget record) := fun _ _ profile hfound => ⟨profile, hfound⟩
  rw [TargetDb.setTarget, Tbl.get_set] at hget
  split at hget
  · rw [← Option.some.inj hget]
    exact hrecord.of_kept hkept
  · exact (h id target hget).of_kept hkept

theorem createProfile_kept {request : CredentialProfileRequest} {id : UUID}
    {profile : CredentialProfileRecord} (h : createProfile db tenantId request id = .ok profile) :
    ProfilesKept db (db.setProfile profile) := by
  unfold createProfile at h
  cases hvalid : request.validate with
  | error e =>
    rw [hvalid] at h
    cases h
  | ok r =>
    rw [hvalid] at h
    simp only [bind, Except.bind] at h
    split at h
    · cases h
    · rename_i hnew
      cases h
      refine setProfile_kept fun old hold => ?_
      rw [show (newProfile tenantId r id).id = id from rfl] at hold
      rw [hold] at hnew
      exact absurd rfl hnew

theorem updateProfile_kept {request : CredentialProfileUpdateRequest}
    {profile : CredentialProfileRecord}
    (h : updateProfile db tenantId profileId request = .ok profile) :
    ProfilesKept db (db.setProfile profile) := by
  unfold updateProfile at h
  split at h
  · split at h
    · cases h
    · rename_i stored hget
      obtain ⟨hstored, _⟩ := getProfile_some.1 hget
      split at h
      · cases h
        refine setProfile_kept fun old hold => ?_
        have hkey : stored.id = profileId := db.profiles.keyed profileId stored hstored
        dsimp only at hold
        rw [hkey, hstored] at hold
        rw [← Option.some.inj hold]
      · cases h
  · cases h

/-! ## Targets -/

theorem createTarget_refers {request : DiscoveryTargetRequest} {id : UUID}
    (h : createTarget db tenantId request id = .ok record) : Refers db record := by
  intro text htext
  obtain ⟨profile, hfound, _⟩ := (create_admissible h).profile text htext
  exact ⟨profile, hfound⟩

theorem updateTarget_refers {targetId : UUID} {request : DiscoveryTargetUpdateRequest}
    (hdb : NoDangling db) (h : updateTarget db tenantId targetId request = .ok record) :
    Refers db record := by
  obtain ⟨target, hget, hpatch⟩ := updateTarget_ok h
  obtain ⟨hstored, htenant⟩ := getTarget_some hget
  obtain ⟨_, rfl⟩ | ⟨_, rfl⟩ | ⟨text, profile, reference, _, hfound, rfl⟩ := patchProfile_ok hpatch
  · -- the reference is the stored one
    exact hdb targetId target hstored
  · intro text htext
    cases htext
  · intro text' htext
    dsimp only at htext
    subst htenant
    rw [← Option.some.inj htext]
    exact ⟨profile, findProfile_stored hfound⟩

/-- A child has the reference of its scope. -/
theorem placeChild_refers {scope : DiscoveryTargetRecord} {address : String} {id : UUID}
    (hscope : Refers db scope) (htenant : scope.tenantId = tenantId)
    (h : placeChild db tenantId scope address id = .ok record) : Refers db record := by
  have hsame : record.credentialProfileId = scope.credentialProfileId ∧
      record.tenantId = tenantId := by
    unfold placeChild at h
    dsimp only at h
    split at h
    · rename_i child hfound
      have hmatch := List.find?_some hfound
      rw [Bool.and_eq_true, beq_iff_eq] at hmatch
      cases h
      exact ⟨rfl, hmatch.1⟩
    · split at h
      · cases h
      · cases h
        exact ⟨rfl, rfl⟩
  intro text htext
  rw [hsame.2, ← htenant]
  exact hscope text (hsame.1 ▸ htext)

theorem handle_refers {request : TargetRequest} (hdb : NoDangling db)
    (h : handle db request = .ok record) : Refers db record := by
  cases request with
  | create tenantId request id => exact createTarget_refers h
  | update tenantId targetId request => exact updateTarget_refers hdb h

/-! ## Deleting -/

theorem foldl_setTarget (f : DiscoveryTargetRecord → DiscoveryTargetRecord)
    (targets : List DiscoveryTargetRecord) (db : TargetDb) :
    targets.foldl (fun db target => db.setTarget (f target)) db =
      { db with targets := db.targets.overlay (targets.map f) } := by
  induction targets generalizing db with
  | nil => rfl
  | cons target targets ih => exact ih _

/-- The targets of the tenant that spell the profile as `str` does lose it. -/
theorem unassignProfile_get (db : TargetDb) (tenantId : String) (profileId id : UUID) :
    (unassignProfile db tenantId profileId).targets.get id = (db.targets.get id).map fun target =>
      if target.tenantId = tenantId ∧ target.credentialProfileId = some (textOfUuid profileId) then
        unassigned target
      else target := by
  unfold unassignProfile
  rw [foldl_setTarget, List.filter_filter]
  refine (Tbl.get_overlay_map db.targets _ (f := unassigned) (fun _ => rfl) id).trans ?_
  congr 1
  funext target
  simp [and_comm]

theorem unassignProfile_profiles (db : TargetDb) (tenantId : String) (profileId : UUID) :
    (unassignProfile db tenantId profileId).profiles = db.profiles := by
  unfold unassignProfile
  rw [foldl_setTarget]

/-- What a deletion does. -/
structure Deleted (db : TargetDb) (tenantId : String) (profileId : UUID) (db' : TargetDb) :
    Prop where
  there : (db.getProfile tenantId profileId).isSome
  targets : ∀ id, db'.targets.get id = (db.targets.get id).map fun target =>
    if target.tenantId = tenantId ∧ target.credentialProfileId = some (textOfUuid profileId) then
      unassigned target
    else target
  profiles : ∀ id, db'.profiles.get id = if id = profileId then none else db.profiles.get id

theorem deleteProfile_eq (db : TargetDb) (tenantId : String) (profileId : UUID) :
    deleteProfile db tenantId profileId =
      if (db.getProfile tenantId profileId).isSome then
        .ok { targets := (unassignProfile db tenantId profileId).targets
              profiles := db.profiles.filter fun profile => profile.id ≠ profileId }
      else .error (.http 404 "Credential profile was not found.") := by
  have hsame : (unassignProfile db tenantId profileId).getProfile tenantId profileId =
      db.getProfile tenantId profileId := by
    unfold TargetDb.getProfile
    rw [unassignProfile_profiles]
  unfold deleteProfile
  dsimp only
  rw [hsame, unassignProfile_profiles]
  cases db.getProfile tenantId profileId with
  | none => rfl
  | some profile => rfl

theorem deleteProfile_ok (h : deleteProfile db tenantId profileId = .ok db') :
    Deleted db tenantId profileId db' := by
  rw [deleteProfile_eq] at h
  split at h
  · rename_i hthere
    cases h
    refine ⟨hthere, unassignProfile_get db tenantId profileId, fun id => ?_⟩
    rw [Tbl.get_filter]
    cases hid : db.profiles.get id with
    | none => simp
    | some other =>
      have hkey : other.id = id := db.profiles.keyed id other hid
      by_cases hne : id = profileId <;> simp [hkey, hne]
  · cases h

/-- A deletion leaves no reference that dangles if and only if the references to the profile are
spelled as its id is. -/
theorem deleteProfile_keeps_iff (hdb : NoDangling db)
    (h : deleteProfile db tenantId profileId = .ok db') :
    NoDangling db' ↔ Canonical db tenantId profileId := by
  have hdeleted := deleteProfile_ok h
  obtain ⟨profile, hprofile⟩ := Option.isSome_iff_exists.1 hdeleted.there
  obtain ⟨hstored, htenant⟩ := getProfile_some.1 hprofile
  constructor
  · intro hdb' id target text hget hscope htext hread
    by_contra hne
    have hgone : db'.profiles.get profileId = none := by rw [hdeleted.profiles, if_pos rfl]
    have hunref := hdb'.unreferenced hgone
    refine hunref id target text ?_ htext hread
    rw [hdeleted.targets, hget, Option.map_some, if_neg]
    rintro ⟨_, hsame⟩
    rw [htext, Option.some.injEq] at hsame
    exact hne hsame
  · intro hcanonical id target hget
    rw [hdeleted.targets] at hget
    obtain ⟨old, hold, rfl⟩ := Option.map_eq_some_iff.1 hget
    split
    · intro text htext
      cases htext
    · rename_i hkept
      intro text htext
      obtain ⟨other, hfound⟩ := hdb id old hold text htext
      obtain ⟨otherId, hread, hother, hscope⟩ := findProfile_some.1 hfound
      refine ⟨other, findProfile_some.2 ⟨otherId, hread, ?_, hscope⟩⟩
      rw [hdeleted.profiles, if_neg, hother]
      rintro rfl
      -- the reference is to the deleted profile: it is spelled as its id, and was cleared
      rw [hstored, Option.some.injEq] at hother
      have hold_tenant : old.tenantId = tenantId := by rw [← hscope, ← hother, htenant]
      have hsame := hcanonical id old text hold hold_tenant htext hread
      exact hkept ⟨hold_tenant, by rw [htext, hsame]⟩

/-! ## Sequences of operations -/

/-- An operation that succeeds keeps that no reference dangles if and only if it is canonical. -/
theorem attempt_keeps_iff (hdb : NoDangling db) {operation : ProfileOperation}
    (h : attempt db operation = .ok db') : NoDangling db' ↔ CanonicalOperation db operation := by
  cases operation with
  | createProfile tenantId request id =>
    obtain ⟨profile, hprofile, rfl⟩ := Outcomes.map_ok h
    exact iff_of_true (hdb.setProfile (createProfile_kept hprofile)) trivial
  | updateProfile tenantId profileId request =>
    obtain ⟨profile, hprofile, rfl⟩ := Outcomes.map_ok h
    exact iff_of_true (hdb.setProfile (updateProfile_kept hprofile)) trivial
  | deleteProfile tenantId profileId =>
    rw [deleteProfile_keeps_iff hdb h]
    exact ⟨fun hcanonical _ => hcanonical, fun hthere => hthere (deleteProfile_ok h).there⟩
  | target request =>
    obtain ⟨record, hrecord, rfl⟩ := Outcomes.map_ok h
    exact iff_of_true (hdb.setTarget (handle_refers hdb hrecord)) trivial
  | createChild tenantId scopeId address id =>
    simp only [attempt] at h
    split at h
    · cases h
    · rename_i scope hscope
      obtain ⟨record, hrecord, rfl⟩ := Outcomes.map_ok h
      obtain ⟨hstored, htenant⟩ := getTarget_some hscope
      have hrefers := placeChild_refers (hdb scopeId scope hstored) htenant hrecord
      exact iff_of_true (hdb.setTarget hrefers) trivial

/-- One operation keeps that no reference dangles if and only if it is canonical. -/
theorem perform_keeps_iff (hdb : NoDangling db) (operation : ProfileOperation) :
    NoDangling (perform db operation) ↔ CanonicalOperation db operation := by
  unfold perform
  split
  · rename_i hok
    exact attempt_keeps_iff hdb hok
  · rename_i e herror
    refine iff_of_true hdb ?_
    cases operation with
    | deleteProfile tenantId profileId =>
      intro hthere
      rw [attempt, deleteProfile_eq, if_pos hthere] at herror
      cases herror
    | _ => trivial

/-- References that do not dangle, after every operation of a sequence; and after a deletion that
succeeds, nobody refers to the profile. -/
structure ReferencesKept (db : TargetDb) (operations : List ProfileOperation) : Prop where
  references : ∀ served, served <+: operations → NoDangling (served.foldl perform db)
  deleted : ∀ served tenantId profileId db',
    served ++ [.deleteProfile tenantId profileId] <+: operations →
    deleteProfile (served.foldl perform db) tenantId profileId = .ok db' →
    Unreferenced db' profileId

theorem noDangling_run (hdb : NoDangling db) {operations served : List ProfileOperation}
    (hrun : CanonicalRun db operations) (hserved : served <+: operations) :
    NoDangling (served.foldl perform db) := by
  induction served generalizing db operations with
  | nil => exact hdb
  | cons operation served ih =>
    cases operations with
    | nil => exact absurd (List.prefix_nil.1 hserved) (List.cons_ne_nil _ _)
    | cons operation' operations =>
      obtain ⟨rfl, hrest⟩ := List.cons_prefix_cons.1 hserved
      exact ih ((perform_keeps_iff hdb operation).2 hrun.1) hrun.2 hrest

theorem canonicalRun_of_references {operations : List ProfileOperation}
    (h : ∀ served, served <+: operations → NoDangling (served.foldl perform db)) :
    CanonicalRun db operations := by
  induction operations generalizing db with
  | nil => trivial
  | cons operation operations ih =>
    have hdb : NoDangling db := h [] List.nil_prefix
    have hnext : NoDangling (perform db operation) :=
      h [operation] (List.cons_prefix_cons.2 ⟨rfl, List.nil_prefix⟩)
    refine ⟨(perform_keeps_iff hdb operation).1 hnext, ih fun served hserved => ?_⟩
    exact h (operation :: served) (List.cons_prefix_cons.2 ⟨rfl, hserved⟩)

/-- No reference to a profile dangles after any operation of a sequence, and a deleted profile has
none, if and only if none dangles before the sequence and every deletion that finds its profile
finds the references to it spelled as its id. -/
theorem references_kept_iff (db : TargetDb) (operations : List ProfileOperation) :
    ReferencesKept db operations ↔ NoDangling db ∧ CanonicalRun db operations := by
  constructor
  · intro h
    exact ⟨h.references [] List.nil_prefix, canonicalRun_of_references h.references⟩
  · rintro ⟨hdb, hrun⟩
    refine ⟨fun served hserved => noDangling_run hdb hrun hserved, ?_⟩
    intro served tenantId profileId db' hserved hdelete
    have hafter := noDangling_run hdb hrun hserved
    have hperform :
        perform (served.foldl perform db) (.deleteProfile tenantId profileId) = db' := by
      rw [perform, attempt, hdelete]
    rw [List.foldl_append, List.foldl_cons, List.foldl_nil, hperform] at hafter
    refine hafter.unreferenced ?_
    rw [(deleteProfile_ok hdelete).profiles, if_pos rfl]

/-! ## The target of a child -/

namespace DiscoveryFanoutService

/-- The targets after the target of a child is there are those after `placeChild`. -/
theorem Placed.placeChild {scope : DiscoveryTargetRecord} {address : String}
    {T' : Tbl (Row .targets) (primaryKey .targets)} {prior : Option DiscoveryTargetRecord}
    (h : Placed scope tenantId address db.targets T' target prior)
    (hprior : Prior db.targets tenantId s!"{scope.identifier}:{address}" prior) :
    ∃ id, placeChild db tenantId scope address id = .ok target ∧
      T' = (db.setTarget target).targets := by
  have hfind : db.targets.rows.find? (fun t =>
      t.tenantId == tenantId && t.identifier == s!"{scope.identifier}:{address}") = prior := by
    have hhead := congrArg List.head? hprior
    rw [List.head?_filter] at hhead
    refine hhead.trans ?_
    cases prior <;> rfl
  unfold NetOps.Discovery.placeChild
  dsimp only
  rw [hfind]
  cases prior with
  | some t =>
    obtain ⟨_, _, rfl, rfl⟩ := h
    exact ⟨t.id, rfl, rfl⟩
  | none =>
    obtain ⟨id, hnew, rfl, rfl⟩ := h
    refine ⟨id, ?_, rfl⟩
    have hclash : db.clashes
        (newChildTarget tenantId scope s!"{scope.identifier}:{address}" address id) = false := by
      rw [List.find?_eq_none] at hfind
      simp only [TargetDb.clashes, newChildTarget, inheritScope, Bool.or_eq_false_iff]
      refine ⟨by rw [hnew]; rfl, Bool.eq_false_iff.2 fun hany => ?_⟩
      obtain ⟨t, ht, hmatch⟩ := List.any_eq_true.1 hany
      rw [Bool.and_eq_true] at hmatch
      refine hfind t ht ?_
      rw [Bool.and_eq_true, beq_iff_eq, beq_iff_eq]
      exact ⟨of_decide_eq_true hmatch.1, of_decide_eq_true hmatch.2⟩
    dsimp only
    rw [hclash, if_neg Bool.false_ne_true]

/-- What `_create_child` leaves of the targets is what `placeChild` does. -/
theorem createChild_places {Sid : Type} [DecidableEq Sid] {s : Sid} {address : String}
    {parent : DiscoveryJobRecord} {scope : DiscoveryTargetRecord} {σ : Store schema Sid}
    {prior : Option DiscoveryTargetRecord} (hdb : σ.pending s .targets = db.targets)
    (hs : σ.Sent s .targets)
    (hprior : Prior db.targets tenantId s!"{scope.identifier}:{address}" prior) :
    Raises.Sat (childContract s) (createChild tenantId parent scope address) σ
      (fun child σ' => ∃ id target, placeChild db tenantId scope address id = .ok target ∧
        target.id = child.1.targetId ∧ σ'.pending s .targets = (db.setTarget target).targets)
      (fun _ _ => True) := by
  refine (createChild_sat hdb hs hprior).mono ?_ fun _ _ _ => trivial
  rintro child σ' ⟨target, hid, hplaced⟩
  obtain ⟨id, hplace, htargets⟩ := hplaced.placeChild hprior
  exact ⟨id, target, hplace, hid, htargets⟩

end DiscoveryFanoutService

/-! ## A reference in capitals -/

/-- A profile is created, a target refers to it in capitals, and the profile is deleted. -/
def capitalReference : List ProfileOperation := [
  .createProfile "tenant"
    { name := "switches", transportTypes := some ["ssh"], providerReference := "env:SWITCH" } 171,
  .target (.create "tenant"
    { identifier := "edge", address := some "10.0.0.1", tenantId := "tenant"
      credentialProfileId := some "000000000000000000000000000000AB" } 1),
  .deleteProfile "tenant" 171]

/-- The references that are left, and whether they name a profile. -/
def referenceTexts (db : TargetDb) : List (String × Bool) :=
  db.targets.rows.filterMap fun target => target.credentialProfileId.map fun text =>
    (text, (db.findProfile target.tenantId text).isSome)

theorem NoDangling.of_texts (h : NoDangling db) {entry : String × Bool}
    (hentry : entry ∈ referenceTexts db) : entry.2 = true := by
  obtain ⟨target, hrow, hmap⟩ := List.mem_filterMap.1 hentry
  obtain ⟨text, htext, rfl⟩ := Option.map_eq_some_iff.1 hmap
  obtain ⟨profile, hfound⟩ := h target.id target (Tbl.mem_rows.1 hrow) text htext
  dsimp only
  rw [hfound]
  rfl

theorem capitalReference_left :
    referenceTexts (capitalReference.foldl perform noTargets) =
      [("000000000000000000000000000000AB", false)] := by
  decide

/-- The reference in capitals stays when its profile is deleted. -/
theorem capital_reference_dangles :
    NoDangling noTargets ∧ ¬ReferencesKept noTargets capitalReference := by
  refine ⟨fun id target hget => (by cases hget), fun h => ?_⟩
  have hafter := h.references capitalReference (List.prefix_refl _)
  have hentry := hafter.of_texts
    (show ("000000000000000000000000000000AB", false) ∈ _ by
      rw [capitalReference_left]
      exact List.mem_singleton_self _)
  cases hentry

end Discovery
end NetOps
