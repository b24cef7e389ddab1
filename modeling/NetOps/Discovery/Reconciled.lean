import NetOps.Discovery.Ledger

/-!
# Discovery.Reconciled

The reconciliation of a scope job that no other session disturbs, statement by statement: each
keeps the ledger, and one round of the loop settles one address (`reconcileAddress_yields`), so
that the whole of it settles them all (`reconcileChildren_yields`).
-/

namespace NetOps
namespace Discovery
namespace DiscoveryFanoutService

open Conc DiscoveryJobRepository

variable {Sid : Type} [DecidableEq Sid] {s : Sid} {job : DiscoveryJobRecord}
  {W W₀ : Known job} {N U : List Table} {σ : Store schema Sid}

/-! ## Creating a child -/

omit [DecidableEq Sid] in
/-- A new row that does not matter. -/
theorem knows_insert {t : Table} {r : Row t} (hof : (treeFocus job).of t r = none)
    (hW : W t (primaryKey t r) = none)
    (h : σ.Knows (treeFocus job) s (Function.update W t
      (Function.update (W t) (primaryKey t r) ((treeFocus job).of t r))) U) :
    σ.Knows (treeFocus job) s W U := by
  rw [hof, ← hW, Function.update_eq_self, Function.update_eq_self] at h
  exact h

theorem inheritScope_keeps (scope target : DiscoveryTargetRecord) :
    (treeFocus job).of .targets (inheritScope scope target) = (treeFocus job).of .targets target :=
  rfl

theorem inheritScope_respects (scope : DiscoveryTargetRecord) :
    (treeFocus job).Respects (t := .targets) (inheritScope scope) :=
  .of_map (g := id) (fun r => by rw [inheritScope_keeps, Option.map_id_fun, id]) fun _ => rfl

theorem findTarget_yields {tenantId identifier : String} (h : σ.Knows (treeFocus job) s W U) :
    Yields (treeFocus job) N s (findTarget tenantId identifier) σ
      fun _ σ' => σ'.Knows (treeFocus job) s W U :=
  (Yields.reading (c := .select .targets _) trivial h).bind fun _ _ h₁ => Yields.pure h₁

theorem childTarget_yields {tenantId address : String} {scope : DiscoveryTargetRecord}
    (hroot : Rooted job W) (h : σ.Knows (treeFocus job) s W U) :
    Yields (treeFocus job) N s (childTarget tenantId scope address) σ
      fun _ σ' => σ'.Knows (treeFocus job) s W (.targets :: U) := by
  unfold childTarget
  refine (findTarget_yields h).bind fun found σ₁ h₁ => ?_
  cases found with
  | some target =>
    refine (Yields.change_keep h₁ (inheritScope_respects scope) fun _ => rfl).bind ?_
    intro _ σ₂ h₂
    exact Yields.pure h₂
  | none =>
    refine (Yields.reading (c := .ext .uuid4) trivial h₁).bind fun id σ₂ h₂ => ?_
    refine (Yields.flush h₂).bind fun _ σ₃ h₃ => ?_
    refine Yields.tryCatch (E := fun e σ' => e = .db .integrity → σ'.Knows (treeFocus job) s W [])
      (Raises.sat_bind (sat_ask fun σ₄ hrely => ⟨trivial, ?_, ?_⟩)) ?_
    · rintro _ σ₅ ⟨⟨hfree, _, rfl⟩, _⟩
      have h₄ := h₃.rely hrely.1 hrely.2.1 hrely.2.2.2
      have hnone : W .targets id = none := h₄.fresh (by simp) hfree
      refine Raises.sat_pure ((knows_insert ?_ hnone (h₄.insert (by simp) _)).mono (by simp))
      refine if_neg ?_
      rintro ⟨(rfl : id = job.targetId), _⟩
      have htarget := hroot.target
      rw [hnone] at htarget
      cases htarget
    · rintro e σ₅ ⟨_, hsave, _⟩ he
      cases he
      rw [show σ₅ = σ₄ from hsave]
      exact h₃.rely hrely.1 hrely.2.1 hrely.2.2.2
    · intro e σ₅ h₅
      split
      · refine (findTarget_yields (h₅ rfl)).bind fun found σ₆ h₆ => ?_
        cases found with
        | some target => exact Yields.pure (h₆.mono (by simp))
        | none => exact Yields.throw
      · exact Yields.throw

/-- A new job is one that was not there. -/
theorem create_yields {a : JobRequest} (h : σ.Knows (treeFocus job) s W []) :
    Yields (treeFocus job) N s (create a) σ fun child σ' =>
      child.parentJobId = a.parentJobId ∧ child.tenantId = a.tenantId ∧
        W .jobs child.id = none ∧
        σ'.Knows (treeFocus job) s (Function.update W .jobs
          (Function.update (W .jobs) child.id ((treeFocus job).of .jobs child))) [] := by
  unfold create
  refine (Yields.reading (c := .get .targets _) trivial h).bind fun target σ₁ h₁ => ?_
  refine (Yields.reading (c := .get .runs _) trivial h₁).bind fun run σ₂ h₂ => ?_
  refine Yields.raiseIf fun _ => Yields.raiseIf fun _ => ?_
  refine (Yields.reading (c := .select .jobs _) trivial h₂).bind fun active σ₃ h₃ => ?_
  refine Yields.raiseIf fun _ => ?_
  refine (Yields.reading (c := .ext .uuid4) trivial h₃).bind fun id σ₄ h₄ => ?_
  refine (Yields.reading (c := .ext .utcNow) trivial h₄).bind fun now σ₅ h₅ => ?_
  refine Yields.bind (Yields.tryCatch (Yields.insert h₅ (by simp)) fun e σ₆ _ => ?_) ?_
  · split
    · exact (Raises.sat_bind (sat_ask fun _ _ => ⟨trivial, fun _ _ _ => trivial,
        fun _ _ _ => trivial⟩))
    · exact Yields.throw
  · rintro _ σ₆ ⟨hnone, h₆⟩
    exact Yields.pure ⟨rfl, rfl, hnone, h₆⟩

theorem createChild_yields {address : String} {parent : DiscoveryJobRecord}
    {scope : DiscoveryTargetRecord} (hparent : parent.id = job.id) (hroot : Rooted job W)
    (hU : .runs ∉ U) (h : σ.Knows (treeFocus job) s W U) :
    Yields (treeFocus job) N s (createChild job.tenantId parent scope address) σ fun child σ' =>
      ∃ W', Created job address W W' child.2 ∧ σ'.Knows (treeFocus job) s W' [] := by
  unfold createChild
  refine (childTarget_yields hroot h).bind fun target σ₁ h₁ => ?_
  refine (Yields.reading (c := .ext .uuid4) trivial h₁).bind fun runId σ₂ h₂ => ?_
  refine (Yields.insert h₂ (by simp [hU])).bind ?_
  rintro _ σ₃ ⟨hnone, h₃⟩
  have hother : (treeFocus job).of .runs (newChildRun job.tenantId parent target address runId) =
      none := by
    refine if_neg ?_
    rintro (rfl : runId = job.runId)
    have hrun := hroot.run
    rw [show W .runs job.runId = none from hnone] at hrun
    cases hrun
  have h₃' := knows_insert hother hnone h₃
  refine (Yields.flush h₃').bind fun _ σ₄ h₄ => ?_
  refine (Yields.reading (c := .ext .uuid4) trivial h₄).bind fun correlationId σ₅ h₅ => ?_
  refine (create_yields h₅).bind ?_
  rintro child σ₆ ⟨hchild, htenant, hnew, h₆⟩
  replace hchild : child.parentJobId = some job.id := hchild.trans (congrArg some hparent)
  refine (Yields.reading (c := .ext .uuid4) trivial h₆).bind fun resultId σ₇ h₇ => ?_
  refine (Yields.insert h₇ (by simp)).bind ?_
  rintro _ σ₈ ⟨hresult, h₈⟩
  refine Yields.pure ⟨_, ?_, h₈⟩
  refine ⟨hnew, ?_, ⟨rfl, hparent⟩, rfl, rfl, ⟨child.steady, hchild, htenant, ?_⟩, ?_, ?_, ?_⟩
  · rw [Function.update_of_ne (by simp)] at hresult
    exact hresult
  · rw [Function.update_of_ne (by simp), Function.update_self]
    congr 1
    exact if_pos (.inr hchild)
  · rw [Function.update_self, Function.update_of_ne (by simp)]
    congr 1
    exact if_pos ⟨rfl, hparent⟩
  · rw [Function.update_of_ne (by simp), Function.update_of_ne (by simp)]
  · rw [Function.update_of_ne (by simp), Function.update_of_ne (by simp)]

/-! ## Reconciling one address -/

variable {found : List DiscoveryDeviceResultRecord} {done : List String} {rs : Results}
  {f : DiscoveryDeviceResultRecord → DiscoveryDeviceResultRecord}
  {result : DiscoveryDeviceResultRecord} {address : String} {interrupted : Bool}

/-- An `UPDATE` of jobs, in terms of what is known of them. -/
theorem execute_yields {u : JobUpdate} (hu : JobStatement u) (hU : .jobs ∉ U)
    (h : σ.Knows (treeFocus job) s W U) :
    Yields (treeFocus job) N s u.execute σ fun ids σ' =>
      σ'.Knows (treeFocus job) s (Function.update W .jobs fun k =>
        if k ∈ ids then (W .jobs k).map fun x : DiscoveryJobRecord => (u.values x).steady
        else W .jobs k) U ∧
      ∃ T : Tbl (Row .jobs) (primaryKey .jobs),
        (∀ k, (treeFocus job).shown (t := .jobs) T k = W .jobs k) ∧
          ids = (T.rows.filter u.filter).map (·.id) :=
  Yields.update h hU (focus_update hu) fun r => (hu.identity r).1

/-- The `UPDATE` of an unfinished child ends it, or matches nothing. -/
theorem reconciledChild_yields {k : UUID} {now : DateTime} (hU : .jobs ∉ U)
    (h : σ.Knows (treeFocus job) s W U) :
    Yields (treeFocus job) N s
      (reconciledChildUpdate job.tenantId k (outcome interrupted) now).execute σ fun _ σ' =>
      ∃ W', σ'.Knows (treeFocus job) s W' U ∧ MayEnd job k W W' ∧
        ((W .jobs k).isSome → EndedIn job W' k) := by
  refine (execute_yields (.reconciledChild ..) hU h).imp ?_
  rintro ids σ' ⟨h', T, hT, hids⟩
  have hended : ∀ x : DiscoveryJobRecord,
      ((reconciledChildUpdate job.tenantId k
        (outcome interrupted) now).values x).steady.state.isTerminal =
        true := by
    intro x
    cases interrupted <;> rfl
  refine ⟨_, h', ⟨fun t ht => Function.update_of_ne ht .., fun k' hk' => ?_, fun hnone => ?_,
    fun x hx => ?_⟩, fun hsome => ?_⟩
  · rw [Function.update_self, if_neg]
    rw [hids]
    intro hmem
    obtain ⟨r, hr, rfl⟩ := List.mem_map.1 hmem
    have hfilter := (List.mem_filter.1 hr).2
    simp only [reconciledChildUpdate, Bool.and_eq_true, beq_iff_eq] at hfilter
    exact hk' hfilter.1
  · rw [Function.update_self, hnone]
    simp
  · rw [Function.update_self]
    split
    · rw [hx]
      exact ⟨_, rfl, rfl, .inr (hended x)⟩
    · exact ⟨x, hx, rfl, .inl rfl⟩
  · obtain ⟨x, hx⟩ := Option.isSome_iff_exists.1 hsome
    unfold EndedIn
    rw [Function.update_self]
    split
    · rw [hx]
      exact ⟨_, rfl, fun _ => hended x⟩
    · rename_i hnot
      refine ⟨x, hx, fun htenant => ?_⟩
      rw [← hT] at hx
      obtain ⟨r, hget, hof⟩ := Option.bind_eq_some_iff.1 hx
      obtain ⟨rfl, _⟩ := focus_job.1 hof
      refine absurd ?_ hnot
      have hkey : r.id = k := T.keyed _ _ hget
      rw [hids]
      refine List.mem_map.2 ⟨r, List.mem_filter.2 ⟨Tbl.mem_rows_of_get hget, ?_⟩, hkey⟩
      simp only [reconciledChildUpdate, Bool.and_eq_true, beq_iff_eq]
      exact ⟨hkey, htenant⟩

/-- The child of a result is ended, unless it has ended as far as the session knows. -/
theorem endChild_yields (hU : .jobs ∉ U) (h : σ.Knows (treeFocus job) s W U) :
    Yields (treeFocus job) N s (endChild job.tenantId (outcome interrupted) result) σ fun _ σ' =>
      ∃ W', σ'.Knows (treeFocus job) s W' U ∧ MayEnd job result.childJobId W W' ∧
        (.jobs ∈ N → (W .jobs result.childJobId).isSome → EndedIn job W' result.childJobId) := by
  have hget : Yields (treeFocus job) N s (sessionGet .jobs result.childJobId) σ fun child σ' =>
      σ'.Knows (treeFocus job) s W U ∧
        (∀ v : DiscoveryJobRecord, child = some v → v.id = result.childJobId) ∧
        (.jobs ∈ N → ∀ x : DiscoveryJobRecord, W .jobs result.childJobId = some x →
          ∃ v : DiscoveryJobRecord, child = some v ∧ v.state = x.state) := by
    refine Yields.ask h fun σ₁ child σ₂ h₁ _ hexec hcurrent => ?_
    obtain ⟨hchild, rfl⟩ := hexec
    refine ⟨h₁.load _, fun v hv => ?_, fun hN x hx => ?_⟩
    · subst hv
      rcases hchild with hview | ⟨v', hv', _, hkey⟩
      · exact (σ₁.view s .jobs).keyed _ _ hview.symm
      · cases hv'
        exact hkey
    · rw [← h₁.view hU] at hx
      obtain ⟨v, hv, hof⟩ := Option.bind_eq_some_iff.1 hx
      exact ⟨v, (hcurrent hN).trans hv, by rw [(focus_job.1 hof).1]; rfl⟩
  unfold endChild
  refine hget.bind ?_
  rintro child σ₁ ⟨h₁, hkey, hcurrent⟩
  cases child with
  | none =>
    refine Yields.pure ⟨W, h₁, .refl _ _, fun hN hsome => ?_⟩
    obtain ⟨x, hx⟩ := Option.isSome_iff_exists.1 hsome
    obtain ⟨v, hv, _⟩ := hcurrent hN x hx
    cases hv
  | some child =>
    refine Yields.doIf (fun _ => ?_) fun hterminal => ⟨W, h₁, .refl _ _, fun hN hsome => ?_⟩
    · refine (Yields.reading (c := .ext .utcNow) trivial h₁).bind fun now σ₂ h₂ => ?_
      rw [hkey child rfl]
      refine (reconciledChild_yields hU h₂).bind ?_
      rintro _ σ₃ ⟨W', h₃, hend, hended⟩
      exact Yields.pure ⟨W', h₃, hend, fun _ => hended⟩
    · obtain ⟨x, hx⟩ := Option.isSome_iff_exists.1 hsome
      obtain ⟨v, hv, hstate⟩ := hcurrent hN x hx
      cases hv
      refine ⟨x, hx, fun _ => ?_⟩
      rw [← hstate]
      exact Bool.eq_true_of_not_eq_false hterminal

theorem setResult_yields (hf : KeepsResult f) (hl : Ledger job W₀ W rs) (hmem : result ∈ rs.all)
    (h : σ.Knows (treeFocus job) s W U) :
    Yields (treeFocus job) N s (setResult result f) σ fun r σ' => r = f result ∧
      ∃ W', Ledger job W₀ W' (rs.replace (f result)) ∧ (∀ t, t ≠ .results → W' t = W t) ∧
        σ'.Knows (treeFocus job) s W' (.results :: U) := by
  unfold setResult
  have hW := (hl.results _ _).2 ⟨hmem, rfl⟩
  refine (Yields.change h hf.respects hW).bind ?_
  rintro _ σ₁ ⟨r, hr, _, h₁⟩
  obtain ⟨rfl, hroot⟩ := focus_result.1 hr
  refine Yields.pure ⟨rfl, _, hl.set hf hmem ?_ fun t ht => ?_, fun t ht => ?_, h₁⟩
  · rw [Function.update_self, hf.focus, hr]
    rfl
  · exact Function.update_of_ne ht ..
  · exact Function.update_of_ne ht ..

theorem resultOf_yields {parent : DiscoveryJobRecord} {target : DiscoveryTargetRecord}
    (hparent : parent.id = job.id) (hU : .runs ∉ U) (hl : Ledger job W₀ W rs)
    (h : σ.Knows (treeFocus job) s W U) :
    Yields (treeFocus job) N s (resultOf job.tenantId parent target rs address) σ fun r σ' =>
      Picked rs address r.1 r.2 ∧ ∃ W', Ledger job W₀ W' r.2 ∧ W' .runs = W .runs ∧
        (∀ k, EndedIn job W k → EndedIn job W' k) ∧ σ'.Knows (treeFocus job) s W' U := by
  unfold resultOf
  cases hfind : rs.byAddress address with
  | some result =>
    obtain ⟨hmem, haddress⟩ := byAddress_some hfind
    exact Yields.pure ⟨⟨List.mem_append_left _ hmem, haddress, .inl ⟨rfl, hmem⟩⟩, W, hl, rfl,
      fun _ hk => hk, h⟩
  | none =>
    refine (createChild_yields hparent hl.rooted hU h).bind ?_
    rintro ⟨child, result⟩ σ₁ ⟨W', hcreated, h₁⟩
    refine Yields.pure ⟨⟨?_, hcreated.address, .inr ⟨rfl, byAddress_none hfind, hcreated.isOpen⟩⟩,
      W', hl.create hcreated, hcreated.runs, fun k hk => hcreated.ended hk, h₁.mono (by simp)⟩
    exact List.mem_append_right _ (List.mem_append_right _ (List.mem_singleton_self result))

/-- One address: its result is settled and its child ended. -/
theorem reconcileAddress_yields {parent : DiscoveryJobRecord} {target : DiscoveryTargetRecord}
    (hparent : parent.id = job.id) (hroot : (W₀ .jobs job.id).isSome)
    (he : Evolved (outcome interrupted) (FoundDone N job W₀ W)
      (CreatedDone N job (outcome interrupted) W) found done rs)
    (hl : Ledger job W₀ W rs) (h : σ.Knows (treeFocus job) s W [.targets, .results]) :
    Yields (treeFocus job) N s
      (reconcileAddress job.tenantId parent target (outcome interrupted) rs address) σ
      fun rs' σ' => ∃ W', Evolved (outcome interrupted) (FoundDone N job W₀ W')
          (CreatedDone N job (outcome interrupted) W') found (done ++ [address]) rs' ∧
        Ledger job W₀ W' rs' ∧ W' .runs = W .runs ∧
        σ'.Knows (treeFocus job) s W' [.targets, .results] := by
  unfold reconcileAddress
  refine (resultOf_yields hparent (by simp) hl h).bind ?_
  rintro ⟨result, rs₁⟩ σ₁ ⟨hpicked, W₁, hl₁, hruns₁, hmono₁, h₁⟩
  replace hpicked : Picked rs address result rs₁ := hpicked
  replace hl₁ : Ledger job W₀ W₁ rs₁ := hl₁
  refine (endChild_yields (by simp) h₁).bind ?_
  rintro _ σ₂ ⟨W₂, h₂, hend, hended⟩
  have hmono : ∀ k, EndedIn job W k → EndedIn job W₂ k := fun k hk => hend.ended (hmono₁ k hk)
  have hruns₂ : W₂ .runs = W .runs := (hend.others _ (by simp)).trans hruns₁
  have hl₂ : Ledger job W₀ W₂ rs₁ := by
    refine hl₁.mayEnd hend fun hfound heq => ?_
    rcases List.mem_append.1 hpicked.mem with hmem | hmem
    · exact hfound result hmem heq
    · rw [← heq, hl₁.notBefore _ (List.mem_map_of_mem hmem)] at hroot
      cases hroot
  -- what the step makes of the results, whatever `f` it settles them with
  have hevolved : ∀ (f : DiscoveryDeviceResultRecord → DiscoveryDeviceResultRecord)
      (W' : Known job), Ends (outcome interrupted) result f → W' .jobs = W₂ .jobs →
      Closed (f result) →
      (result.resultState = none → (f result).resultState = some (outcome interrupted).resultState ∧
        (f result).state = .job (outcome interrupted).jobState) →
      Evolved (outcome interrupted) (FoundDone N job W₀ W')
        (CreatedDone N job (outcome interrupted) W') found (done ++ [address])
        (rs₁.onResult result.id f) := by
    intro f W' hf hjobs hclosed hstate
    have hmono' : ∀ k, EndedIn job W k → EndedIn job W' k := by
      intro k hk
      unfold EndedIn
      rw [hjobs]
      exact hmono k hk
    have hended' : .jobs ∈ N → (W₁ .jobs result.childJobId).isSome →
        EndedIn job W' (f result).childJobId := by
      intro hN hsome
      unfold EndedIn
      rw [hjobs, hf.keeps.childJobId]
      exact hended hN hsome
    have hP : ∀ r, FoundDone N job W₀ W r → FoundDone N job W₀ W' r ∧ FoundDone N job W₀ W' (f r) :=
      fun r hr => ⟨hr.mono hmono', (hr.mono hmono').ends hf⟩
    have hQ : ∀ r, CreatedDone N job (outcome interrupted) W r →
        CreatedDone N job (outcome interrupted) W' r ∧
          CreatedDone N job (outcome interrupted) W' (f r) :=
      fun r hr => ⟨hr.mono hmono', (hr.mono hmono').ends hf⟩
    obtain ⟨_, rfl, ⟨rfl, hmem⟩ | ⟨rfl, hnone, hopen⟩⟩ := hpicked
    · refine he.onFound hl₁.ids hf hmem hP hQ ⟨hclosed, fun hN hsome => hended' hN ?_⟩
      rw [hf.keeps.childJobId] at hsome
      cases hW : W₁ .jobs result.childJobId with
      | none =>
        rw [hl₁.stay _ hW] at hsome
        cases hsome
      | some x => rfl
    · refine he.onCreated hl₁.ids hf hnone hP hQ ⟨hclosed, hstate hopen, fun hN => hended' hN ?_⟩
      have hmem : result.childJobId ∈ (rs.add result).created.map (·.childJobId) :=
        List.mem_map_of_mem (List.mem_append_right _ (List.mem_singleton_self result))
      obtain ⟨x, hx, _⟩ := (hl₁.children _).2 (.inr hmem)
      rw [hx]
      rfl
  split
  · rename_i hopen
    refine (Yields.reading (c := .ext .utcNow) trivial h₂).bind fun now σ₃ h₃ => ?_
    refine (setResult_yields (settle_keeps _ now) hl₂ hpicked.mem h₃).bind ?_
    rintro _ σ₄ ⟨rfl, W₃, hl₃, hothers, h₄⟩
    refine Yields.pure ⟨W₃, ?_, hl₃, ?_, h₄.mono (by simp)⟩
    · rw [replace_eq hl₂.ids hpicked.mem (settle_keeps (outcome interrupted) now).id]
      exact hevolved _ W₃ (.inr ⟨hopen, now, rfl⟩) (hothers _ (by simp)) (settle_closed ..)
        fun _ => ⟨rfl, rfl⟩
    · exact (hothers _ (by simp)).trans hruns₂
  · rename_i hclosed
    replace hclosed : Closed result := Bool.eq_false_of_not_eq_true hclosed
    refine Yields.pure ⟨W₂, ?_, hl₂, hruns₂, h₂⟩
    have hsame := hevolved id W₂ (.inl rfl) rfl hclosed fun hnone => by
      have hsome := hclosed.resultState
      rw [hnone] at hsome
      cases hsome
    have hid : onResult result.id id = id := funext fun r => ite_self r
    rw [Results.onResult, hid, List.map_id, List.map_id] at hsame
    exact hsame

/-! ## The whole reconciliation -/

/-- The addresses a reconciliation works through: those recorded with the run, else those the
scope expands to. -/
def expectedOf (run : DiscoveryRunRecord) (scope : DiscoveryScope) (maxTargets : Nat) :
    Except Exn (List String) :=
  let recorded := run.metadataJson.expectedAddresses.getD []
  if recorded ≠ [] then .ok recorded else scope.expand maxTargets

/-- The scope job, its target and its run are known, the addresses `expected` are expected of them,
and versions of them that the session may still hold in memory say the same. -/
structure ScopeKnown (N : List Table) (job : DiscoveryJobRecord) (expected : List String)
    (maxTargets : Nat) (s : Sid) (W : Known job) (σ : Store schema Sid) : Prop where
  root : ∃ x : DiscoveryJobRecord, W .jobs job.id = some x ∧ x.identity = job.identity
  rootSeen : .jobs ∉ N → ∀ v ∈ σ.seen s .jobs, v.id = job.id → v.identity = job.identity
  there : ∃ scope run, W .targets job.targetId = some scope ∧ W .runs job.runId = some run ∧
    expectedOf run scope maxTargets = .ok expected ∧
    (.targets ∉ N → ∀ v ∈ σ.seen s .targets, v.id = job.targetId → v.scope = scope) ∧
    (.runs ∉ N → ∀ v ∈ σ.seen s .runs, v.id = job.runId →
      expectedOf v scope maxTargets = .ok expected)

theorem expectedOf_ne_nil {run : DiscoveryRunRecord} {scope : DiscoveryScope} {maxTargets : Nat}
    {expected : List String} (h : expectedOf run scope maxTargets = .ok expected) :
    expected ≠ [] := by
  unfold expectedOf at h
  dsimp only at h
  split at h
  · cases h
    assumption
  · exact scope.expand_ne_nil h

/-- An update of the run of the scope job. -/
theorem setRun_yields {values : DiscoveryRunRecord → DiscoveryRunRecord}
    (hid : ∀ r, (values r).id = r.id) {run : DiscoveryRunRecord}
    (hrun : W .runs job.runId = some run)
    (hU : .runs ∉ U) (h : σ.Knows (treeFocus job) s W U) :
    Yields (treeFocus job) N s (setRun job.runId values) σ fun _ σ' =>
      σ'.Knows (treeFocus job) s (Function.update W .runs
        (Function.update (W .runs) job.runId (some (values run)))) U := by
  have hof : ∀ r, (treeFocus job).of .runs (values r) =
      ((treeFocus job).of .runs r).map values := by
    intro r
    simp only [treeFocus, hid]
    split <;> rfl
  refine (Yields.update h hU hof hid).bind ?_
  rintro ids σ₁ ⟨h₁, T, hT, hids⟩
  have hget : T.get job.runId = some run := by
    rw [← shown_run, hT, hrun]
  have hkey : run.id = job.runId := T.keyed _ _ hget
  have hmem : ∀ k, k ∈ ids ↔ k = job.runId := by
    intro k
    rw [hids, List.mem_map]
    constructor
    · rintro ⟨r, hr, rfl⟩
      exact beq_iff_eq.1 (List.mem_filter.1 hr).2
    · rintro rfl
      exact ⟨run, List.mem_filter.2 ⟨Tbl.mem_rows_of_get hget, beq_iff_eq.2 hkey⟩, hkey⟩
  have hsame : (fun k => if k ∈ ids then (W .runs k).map values else W .runs k) =
      Function.update (W .runs) job.runId (some (values run)) := by
    funext k
    rw [Function.update_apply]
    split
    · rename_i hk
      rw [if_pos ((hmem k).1 hk), (hmem k).1 hk, hrun]
      rfl
    · rename_i hk
      rw [if_neg fun heq => hk ((hmem k).2 heq)]
  rw [← hsame]
  exact Yields.pure h₁

theorem expectedAddresses_yields {parent : DiscoveryJobRecord} {target : DiscoveryTargetRecord}
    {expected : List String} {maxTargets : Nat} (hparent : parent.runId = job.runId)
    {run : DiscoveryRunRecord} (hrun : W .runs job.runId = some run)
    (hexpected : expectedOf run target.scope maxTargets = .ok expected)
    (hseen : .runs ∉ N → ∀ v ∈ σ.seen s .runs, v.id = job.runId →
      expectedOf v target.scope maxTargets = .ok expected)
    (hU : .runs ∉ U) (h : σ.Knows (treeFocus job) s W U) :
    Yields (treeFocus job) N s (expectedAddresses parent (some target) maxTargets) σ
      fun addresses σ' => addresses = expected ∧ ∃ run',
        (.runs ∈ N → run'.metadataJson.expectedAddresses = some expected) ∧
        σ'.Knows (treeFocus job) s (Function.update W .runs
          (Function.update (W .runs) job.runId (some run'))) U := by
  unfold expectedAddresses
  rw [hparent]
  have hsame : Function.update W .runs (Function.update (W .runs) job.runId (some run)) = W := by
    rw [← hrun, Function.update_eq_self, Function.update_eq_self]
  refine (Yields.get (t := .runs)
    (P := fun v => expectedOf v target.scope maxTargets = .ok expected ∧ (.runs ∈ N → v = run))
    h hU hrun (fun r hr _ => ?_)
    fun hN v hv hid => ⟨hseen hN v hv hid, fun hin => absurd hin hN⟩).bind ?_
  · have hsame := focus_run hr
    exact ⟨by rw [hsame]; exact hexpected, fun _ => hsame⟩
  · rintro r σ₁ ⟨h₁, ⟨v, rfl, hv, hcurrent⟩, _⟩
    dsimp only
    unfold expectedOf at hv
    rw [Option.bind_some]
    split
    · rename_i hrecorded
      rw [if_pos hrecorded] at hv
      cases hv
      refine Yields.pure ⟨rfl, run, fun hN => ?_, ?_⟩
      · rw [hcurrent hN] at hrecorded ⊢
        cases hmetadata : run.metadataJson.expectedAddresses with
        | none => simp [hmetadata] at hrecorded
        | some addresses => rfl
      · rw [hsame]
        exact h₁
    · rename_i hrecorded
      rw [if_neg hrecorded] at hv
      rw [hv]
      refine (Yields.unwrap (Q := fun a σ' => a = expected ∧ σ' = σ₁) ?_).bind ?_
      · rintro a ha
        cases ha
        exact ⟨rfl, rfl⟩
      · rintro _ _ ⟨rfl, rfl⟩
        refine Yields.bind (setRun_yields ?_ hrun hU h₁) fun _ σ₂ h₂ => ?_
        · exact fun _ => rfl
        · exact Yields.pure ⟨rfl, _, fun _ => rfl, h₂⟩

theorem finalizeParentRun_yields {parent : DiscoveryJobRecord} {n : Nat}
    {results : List DiscoveryDeviceResultRecord} (hparent : parent.runId = job.runId)
    {run : DiscoveryRunRecord} (hrun : W .runs job.runId = some run)
    (h : σ.Knows (treeFocus job) s W []) :
    Yields (treeFocus job) N s (finalizeParentRun parent n results) σ fun _ σ' =>
      ∃ metadata now, (.runs ∈ N → metadata = run.metadataJson) ∧
        σ'.Knows (treeFocus job) s (Function.update W .runs (Function.update (W .runs) job.runId
          (some (summary n results metadata now run)))) [] := by
  unfold finalizeParentRun
  rw [hparent]
  refine (Yields.get (t := .runs) (P := fun v => .runs ∈ N → v = run) h (by simp) hrun
    (fun v hv _ _ => focus_run hv) fun hN _ _ _ hin => absurd hin hN).bind ?_
  rintro r σ₁ ⟨h₁, ⟨v, rfl, hcurrent⟩, _⟩
  refine (Yields.reading (c := .ext .utcNow) trivial h₁).bind fun now σ₂ h₂ => ?_
  refine (setRun_yields ?_ hrun (by simp) h₂).imp fun _ σ₃ h₃ =>
    ⟨v.metadataJson, now, fun hN => by rw [hcurrent hN], h₃⟩
  exact fun _ => rfl

/-- A reconciliation, up to its commit: it has worked through every expected address, and the run
has the summary of the results it holds. -/
structure Reconciled (N : List Table) (job : DiscoveryJobRecord) (expected : List String)
    (o : Outcome) (W₀ W : Known job) (found : List DiscoveryDeviceResultRecord) (rs : Results) :
    Prop where
  ledger : Ledger job W₀ W rs
  evolved : Evolved o (FoundDone N job W₀ W) (CreatedDone N job o W) found expected rs
  run : ∃ metadata now run,
    W .runs job.runId = some (summary expected.length rs.all metadata now run)

/-- The run has the summary of these results, and the addresses they are for. -/
def Recorded (job : DiscoveryJobRecord) (expected : List String)
    (results : List DiscoveryDeviceResultRecord) (W : Known job) : Prop :=
  ∃ metadata now run, metadata.expectedAddresses = some expected ∧
    W .runs job.runId = some (summary expected.length results metadata now run)

/-- What a reconciliation finds are the results there are, and its ledger starts with the jobs
there are. -/
theorem reconcileChildren_yields {expected : List String} {maxTargets : Nat}
    (hscope : ScopeKnown N job expected maxTargets s W σ) (h : σ.Knows (treeFocus job) s W []) :
    Yields (treeFocus job) N s (reconcileChildren job.tenantId job.id interrupted maxTargets) σ
      fun r σ' => ∃ found rs W₀ W', r = some rs.all ∧ Listed job W found ∧ W₀ .jobs = W .jobs ∧
        Reconciled N job expected (outcome interrupted) W₀ W' found rs ∧
        (.runs ∈ N → Recorded job expected rs.all W') ∧ σ'.Knows (treeFocus job) s W' [] := by
  obtain ⟨root, hrootW, hrootIs⟩ := hscope.root
  obtain ⟨scope, run, htarget, hrun, hexpected, htargetSeen, hrunSeen⟩ := hscope.there
  unfold reconcileChildren
  refine (Yields.get (t := .jobs) (P := fun v : DiscoveryJobRecord => v.id = job.id ∧
    v.identity = job.identity) h (by simp) hrootW
    (fun v hv hid => ?_) fun hN v hv hid => ⟨hid, hscope.rootSeen hN v hv hid⟩).bind ?_
  · have hsteady := (focus_job.1 hv).1
    rw [hsteady] at hrootIs
    exact ⟨hid, hrootIs⟩
  rintro r σ₁ ⟨h₁, ⟨parent, rfl, hid, hidentity⟩, hseen₁⟩
  have htenant : parent.tenantId = job.tenantId := congrArg JobIdentity.tenantId hidentity
  have htargetId : parent.targetId = job.targetId := congrArg JobIdentity.targetId hidentity
  have hrunId : parent.runId = job.runId := congrArg JobIdentity.runId hidentity
  dsimp only
  rw [if_neg (not_not_intro htenant), htargetId]
  refine (Yields.get (t := .targets) (P := fun v => v.scope = scope) h₁ (by simp) htarget
    (fun v hv _ => (focus_target hv).1) fun hN v hv hid => ?_).bind ?_
  · rw [hseen₁ .targets (by simp)] at hv
    exact htargetSeen hN v hv hid
  rintro r σ₂ ⟨h₂, ⟨target, rfl, rfl⟩, hseen₂⟩
  dsimp only
  refine (expectedAddresses_yields hrunId hrun hexpected
    (fun hN v hv hid => ?_) (by simp) h₂).bind ?_
  · rw [hseen₂ .runs (by simp), hseen₁ .runs (by simp)] at hv
    exact hrunSeen hN v hv hid
  rintro addresses σ₃ ⟨rfl, run', hrecorded, h₃⟩
  rw [if_neg (expectedOf_ne_nil hexpected)]
  refine (Yields.select h₃ (by simp)).bind ?_
  rintro found σ₄ ⟨h₄, T, hfound, hT⟩
  generalize hW₁ : Function.update W .runs (Function.update (W .runs) job.runId (some run')) = W₁
    at h₄ hT
  have hothers : ∀ t, t ≠ Table.runs → W₁ t = W t := by
    intro t ht
    subst hW₁
    exact Function.update_of_ne ht ..
  have hrunW₁ : W₁ .runs job.runId = some run' := by
    subst hW₁
    rw [Function.update_self, Function.update_self]
  have hrooted : Rooted job W₁ := by
    refine ⟨?_, ?_, ?_⟩
    · rw [hothers _ (by simp), hrootW]
      rfl
    · rw [hothers _ (by simp), htarget]
      rfl
    · rw [hrunW₁]
      rfl
  have hlisted : Listed job W₁ found := .of_perm hfound hT
  have hlisted' : Listed job W found := ⟨hlisted.ids, fun k r => by
    rw [← hothers .results (by simp)]
    exact hlisted.mem k r⟩
  have hloop := Raises.sat_foldlM (C := undisturbed (treeFocus job) N s) (E := fun _ _ => True)
    (f := reconcileAddress job.tenantId parent target (outcome interrupted)) (l := addresses)
    (I := fun done rs σ' => ∃ W, Evolved (outcome interrupted) (FoundDone N job W₁ W)
      (CreatedDone N job (outcome interrupted) W) found done rs ∧ Ledger job W₁ W rs ∧
      W .runs = W₁ .runs ∧ σ'.Knows (treeFocus job) s W [.targets, .results])
    (fun done address rs σ' h => by
      obtain ⟨W, he, hl, hruns, hk⟩ := h
      refine Yields.imp (reconcileAddress_yields hid hrooted.root he hl hk) ?_
      rintro rs' σ'' ⟨W', he', hl', hruns', hk'⟩
      exact ⟨W', he', hl', hruns'.trans hruns, hk'⟩) [] { found := found } σ₄
    ⟨W₁, .start .., .start hrooted hlisted, rfl, h₄.mono (by simp)⟩
  refine Yields.bind hloop ?_
  rintro rs σ₅ ⟨W', he, hl, hruns, h₅⟩
  have hrunW' : W' .runs job.runId = some run' := by rw [hruns, hrunW₁]
  refine (Yields.flush h₅).bind fun _ σ₆ h₆ => ?_
  refine (finalizeParentRun_yields hrunId hrunW' h₆).bind ?_
  rintro _ σ₇ ⟨metadata, now, hmetadata, h₇⟩
  have hsummary : Function.update W' .runs (Function.update (W' .runs) job.runId (some
      (summary addresses.length rs.all metadata now run'))) .runs job.runId =
      some (summary addresses.length rs.all metadata now run') := by
    rw [Function.update_self, Function.update_self]
  refine Yields.pure ⟨found, rs, W₁, _, rfl, hlisted', hothers _ (by simp), ⟨hl.run, ?_,
    metadata, now, run', hsummary⟩, fun hN => ⟨metadata, now, run', ?_, hsummary⟩, h₇⟩
  · have hended : ∀ k, EndedIn job W' k → EndedIn job (Function.update W' .runs (Function.update
        (W' .runs) job.runId (some (summary addresses.length rs.all metadata now run')))) k := by
      intro k hk
      unfold EndedIn
      rw [Function.update_of_ne (by simp)]
      exact hk
    refine ⟨he.same, he.created, fun r hr => ?_, fun hnodup r hr hin => ?_⟩
    · exact (he.createdDone r hr).mono hended
    · exact (he.foundDone hnodup r hr hin).mono hended
  · rw [hmetadata hN]
    exact hrecorded hN

end DiscoveryFanoutService
end Discovery
end NetOps
