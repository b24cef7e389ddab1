import NetOps.Discovery.Bookkeeping
import NetOps.Discovery.Expansion

/-!
# Discovery.FanoutRuns

Whole runs of a fan-out: the scope job expands its scope, creates its children, waits for them and
reconciles, or is interrupted at any statement and reconciled later.

* `Listing`: the results a reconciliation holds in memory, kept through its loop
  (`reconcileAddresses_books`).
* `executeScope_accounted`: one result and one child for every expected address, whatever the
  order, the interruptions and the answers of the collectors, as long as no device reports an
  address other than its target's (`ownAddress`).
* `executeScope_strays`: a run in which one does.
-/

namespace NetOps
namespace Discovery
namespace DiscoveryFanoutService

open Conc DiscoveryJobRepository

variable {Sid : Type} [DecidableEq Sid] {b : FanOut} {W W₀ : Entries b} {s : Sid}
  {σ : Store schema Sid} {rt : Runtime} {a : ScopeArgs} {N : Prop} {address : String}
  {result : DiscoveryDeviceResultRecord}
  {reports : Store schema Sid → (c : Statement) → Except DbError c.Ans → Prop}

/-! ## Reconciling -/

variable {rs rs₁ : Results} {found : List DiscoveryDeviceResultRecord} {done : List String}
  {f : DiscoveryDeviceResultRecord → DiscoveryDeviceResultRecord} {interrupted : Bool}

/-- The results held in memory are those of the books. -/
structure Listing (b : FanOut) (W : Entries b) (rs : Results) : Prop where
  ids : (rs.all.map (·.id)).Nodup
  entry : ∀ r ∈ rs.all, W .results r.id = some (r.childJobId, r.address)
  all : ∀ i k x, W .results i = some (k, x) → x ∈ rs.all.map (·.address)

theorem Listing.onResult (hf : KeepsResult f) (hl : Listing b W rs) (id : UUID) :
    Listing b W (rs.onResult id f) := by
  have hsame : ∀ r, (DiscoveryFanoutService.onResult id f r).id = r.id ∧
      (DiscoveryFanoutService.onResult id f r).childJobId = r.childJobId ∧
      (DiscoveryFanoutService.onResult id f r).address = r.address := by
    intro r
    unfold DiscoveryFanoutService.onResult
    split
    · exact ⟨hf.id r, hf.childJobId r, hf.address r⟩
    · exact ⟨rfl, rfl, rfl⟩
  refine ⟨?_, fun r hr => ?_, fun i k x hi => ?_⟩
  · rw [Results.onResult_all, map_onResult hf.id]
    exact hl.ids
  · rw [Results.onResult_all] at hr
    obtain ⟨r', hr', rfl⟩ := List.mem_map.1 hr
    obtain ⟨hid, hchild, haddress⟩ := hsame r'
    rw [hid, hchild, haddress]
    exact hl.entry r' hr'
  · rw [Results.onResult_all, map_onResult hf.address]
    exact hl.all i k x hi

/-- The results with a new one. -/
theorem Listing.add (hl : Listing b W rs) (hnew : W .results result.id = none) {W' : Entries b}
    (hresults : ∀ i, W' .results i =
      if i = result.id then some (result.childJobId, result.address) else W .results i) :
    Listing b W' (rs.add result) := by
  have hold : ∀ r ∈ rs.all, r.id ≠ result.id := by
    intro r hr heq
    have hentry := hl.entry r hr
    rw [heq, hnew] at hentry
    cases hentry
  refine ⟨?_, fun r hr => ?_, fun i k x hi => ?_⟩
  · rw [Results.add_all, List.map_append, List.nodup_append]
    refine ⟨hl.ids, List.nodup_singleton _, ?_⟩
    rintro i hi i' hi' rfl
    obtain ⟨r, hr, rfl⟩ := List.mem_map.1 hi
    exact hold r hr (by simpa using hi')
  · rw [Results.add_all, List.mem_append, List.mem_singleton] at hr
    rw [hresults]
    rcases hr with hr | rfl
    · rw [if_neg (hold r hr)]
      exact hl.entry r hr
    · rw [if_pos rfl]
  · rw [Results.add_all, List.map_append, List.mem_append]
    rw [hresults] at hi
    split at hi
    · cases hi
      exact .inr (by simp)
    · exact .inl (hl.all i k x hi)

/-- What one address makes of the results, whatever `f` its result is settled with. -/
theorem Evolved.step (he : Evolved (outcome interrupted) Closed Closed found done rs)
    (hids : (rs₁.all.map (·.id)).Nodup) (hpicked : Picked rs address result rs₁)
    (hf : Ends (outcome interrupted) result f) (hclosed : Closed (f result)) :
    Evolved (outcome interrupted) Closed Closed found (done ++ [address])
      (rs₁.onResult result.id f) := by
  have hkeep : ∀ r, Closed r → Closed r ∧ Closed (f r) := by
    intro r hr
    rcases hf with rfl | ⟨_, now, rfl⟩
    · exact ⟨hr, hr⟩
    · exact ⟨hr, settle_closed interrupted now r⟩
  obtain ⟨_, rfl, ⟨rfl, hmem⟩ | ⟨rfl, hnone, _⟩⟩ := hpicked
  · exact he.onFound hids hf hmem hkeep hkeep hclosed
  · exact he.onCreated hids hf hnone hkeep hkeep hclosed

/-- The result of an address is found, unless the session can enter one. -/
theorem resultOf_books (hbook : Book b W) (hl : Listing b W rs)
    (hcreated : address ∉ rs.created.map (·.address)) (hexpected : address ∈ b.expected)
    (hN : N ∨ Full b W) (h : Open b s N W₀ W σ) {parent : DiscoveryJobRecord}
    (hparent : parent.id = b.job.id) {scope : DiscoveryTargetRecord}
    (hscope : scope.identifier = b.target.identifier) :
    Books b s rt a reports (resultOf b.job.tenantId parent scope rs address) σ fun r σ' =>
      Picked rs address r.1 r.2 ∧ ∃ W', Book b W' ∧ Listing b W' r.2 ∧ (N ∨ Full b W') ∧
        Open b s N W₀ W' σ' := by
  unfold resultOf
  cases hfind : rs.byAddress address with
  | some result =>
    obtain ⟨hmem, haddress⟩ := byAddress_some hfind
    exact Books.pure ⟨⟨List.mem_append_left _ hmem, haddress, .inl ⟨rfl, hmem⟩⟩, W, hbook, hl,
      hN, h⟩
  | none =>
    have hfree : ∀ i k, W .results i ≠ some (k, address) := by
      intro i k hi
      have hmem := hl.all i k address hi
      rw [Results.all, List.map_append, List.mem_append] at hmem
      exact hmem.elim (byAddress_none hfind) hcreated
    have hable : N := by
      refine hN.resolve_right fun hfull => ?_
      obtain ⟨i, k, hi⟩ := hfull address hexpected
      exact hfree i k hi
    refine (createChild_books hbook hexpected hfree hable h hparent hscope).bind ?_
    rintro ⟨child, result⟩ σ₁ ⟨haddress, hopen, W₁, hbook₁, hnew, hresults, h₁, _⟩
    refine Books.pure ⟨⟨?_, haddress, .inr ⟨rfl, byAddress_none hfind, hopen⟩⟩, W₁, hbook₁,
      hl.add hnew (haddress ▸ hresults), .inl hable, h₁⟩
    exact List.mem_append_right _ (List.mem_append_right _ (List.mem_singleton_self result))

theorem endChild_books (h : Open b s N W₀ W σ) (tenantId : String) :
    Books b s rt a reports (endChild tenantId (outcome interrupted) result) σ
      fun _ σ' => Open b s N W₀ W σ' := by
  unfold endChild
  refine (Books.get h).bind ?_
  rintro child σ₁ ⟨_, h₁⟩
  cases child with
  | none => exact Books.pure h₁
  | some child =>
    dsimp only [doIf]
    split
    · refine (Books.utcNow h₁).bind fun now σ₂ h₂ => ?_
      refine (Books.plain (c := (reconciledChildUpdate tenantId child.id (outcome interrupted)
        now).statement) (update_tends (.reconciledChild ..)) h₂).bind ?_
      rintro _ σ₃ ⟨_, h₃⟩
      exact Books.pure h₃
    · exact Books.pure h₁

theorem setResult_books (hf : KeepsResult f) (result : DiscoveryDeviceResultRecord)
    (h : Open b s N W₀ W σ) :
    Books b s rt a reports (setResult result f) σ fun r σ' => r = f result ∧ Open b s N W₀ W σ' :=
  (Books.plain (c := .change .results result.id f) (keepsResult_keeps hf _) h).bind
    fun _ _ h₁ => Books.pure ⟨rfl, h₁.2⟩

/-- One address: its result is settled. -/
theorem reconcileAddress_books (hbook : Book b W) (hl : Listing b W rs)
    (he : Evolved (outcome interrupted) Closed Closed found done rs) (hnew : address ∉ done)
    (hexpected : address ∈ b.expected) (hN : N ∨ Full b W) (h : Open b s N W₀ W σ)
    {parent : DiscoveryJobRecord} (hparent : parent.id = b.job.id)
    {scope : DiscoveryTargetRecord} (hscope : scope.identifier = b.target.identifier) :
    Books b s rt a reports
      (reconcileAddress b.job.tenantId parent scope (outcome interrupted) rs address) σ
      fun rs' σ' => ∃ W', Book b W' ∧ Listing b W' rs' ∧
        Evolved (outcome interrupted) Closed Closed found (done ++ [address]) rs' ∧
        (N ∨ Full b W') ∧ Open b s N W₀ W' σ' := by
  have hcreated : address ∉ rs.created.map (·.address) := by
    rw [he.created]
    exact fun hmem => hnew (List.mem_filter.1 hmem).1
  unfold reconcileAddress
  refine (resultOf_books hbook hl hcreated hexpected hN h hparent hscope).bind ?_
  rintro ⟨result, rs₁⟩ σ₁ ⟨hpicked, W₁, hbook₁, hl₁, hN₁, h₁⟩
  replace hpicked : Picked rs address result rs₁ := hpicked
  replace hl₁ : Listing b W₁ rs₁ := hl₁
  refine (endChild_books h₁ _).bind fun _ σ₂ h₂ => ?_
  split
  · rename_i hopen
    refine (Books.utcNow h₂).bind fun now σ₃ h₃ => ?_
    have hkeeps := settle_keeps (outcome interrupted) now
    refine (setResult_books hkeeps result h₃).bind ?_
    rintro _ σ₄ ⟨rfl, h₄⟩
    rw [replace_eq hl₁.ids hpicked.mem hkeeps.id]
    exact Books.pure ⟨W₁, hbook₁, hl₁.onResult hkeeps _,
      he.step hl₁.ids hpicked (.inr ⟨hopen, now, rfl⟩) (settle_closed ..), hN₁, h₄⟩
  · rename_i hclosed
    have hsame := he.step hl₁.ids hpicked (.inl rfl) (Bool.eq_false_of_not_eq_true hclosed)
    have hid : onResult result.id id = id := funext fun r => ite_self r
    rw [Results.onResult, hid, List.map_id, List.map_id] at hsame
    exact Books.pure ⟨W₁, hbook₁, hl₁, hsame, hN₁, h₂⟩

/-! ## The run of the scope job -/

variable {maxTargets : Nat} {parent : DiscoveryJobRecord}

/-- An update of the run that leaves what is expected. -/
theorem setRun_tends (hbook : Book b W) {g : DiscoveryRunRecord → DiscoveryRunRecord}
    (hid : ∀ r, (g r).id = r.id)
    (hg : ∀ r, expectedOf r b.target.scope b.maxTargets = .ok b.expected →
      expectedOf (g r) b.target.scope b.maxTargets = .ok b.expected) :
    Stmt.Tends (bookFocus b) W
      (.update .run .runs (fun r => r.id == b.job.runId) g : Statement) := by
  intro r hr hof
  have hroot : r.id = b.job.runId := beq_iff_eq.1 hr
  refine ⟨hid r, ?_⟩
  have hW : W .runs (schema.key .runs r) = some (.ok b.expected) := by
    rw [show schema.key .runs r = b.job.runId from hroot]
    exact hbook.run
  rw [hW] at hof ⊢
  exact book_run.2 ⟨(hid r).trans hroot, hg r (book_run.1 hof).2⟩

theorem setRun_books (hbook : Book b W) {g : DiscoveryRunRecord → DiscoveryRunRecord}
    (hid : ∀ r, (g r).id = r.id)
    (hg : ∀ r, expectedOf r b.target.scope b.maxTargets = .ok b.expected →
      expectedOf (g r) b.target.scope b.maxTargets = .ok b.expected) (h : Open b s N W₀ W σ) :
    Books b s rt a reports (setRun b.job.runId g) σ fun _ σ' => Open b s N W₀ W σ' :=
  (Books.plain (c := .update .run .runs _ g) (setRun_tends hbook hid hg) h).bind
    fun _ _ h₁ => Books.pure h₁.2

/-- The run of the scope job, as the session gets it. -/
theorem getRun_books (hbook : Book b W) (h : Open b s N W₀ W σ) :
    Books b s rt a reports (sessionGet .runs b.job.runId) σ fun run σ' =>
      (∃ r, run = some r ∧ expectedOf r b.target.scope b.maxTargets = .ok b.expected) ∧
        Open b s N W₀ W σ' := by
  refine (Books.getEntry hbook.run h).mono ?_ fun _ _ he => he
  rintro _ σ₁ ⟨⟨r, rfl, _, hof⟩, h₁⟩
  exact ⟨⟨r, rfl, (book_run.1 hof).2⟩, h₁⟩

theorem expectedOf_record {run r : DiscoveryRunRecord} {scope : DiscoveryScope}
    {expected : List String} (hne : expected ≠ []) :
    expectedOf { r with metadataJson := { run.metadataJson with
      expectedAddresses := some expected } } scope maxTargets = .ok expected := if_pos hne

/-- The addresses a reconciliation works through, whatever limit it is given. -/
theorem expectedAddresses_books (hbook : Book b W) (h : Open b s N W₀ W σ)
    (hparent : parent.runId = b.job.runId) {target : DiscoveryTargetRecord}
    (htarget : target.scope = b.target.scope) :
    Books b s rt a reports (expectedAddresses parent (some target) maxTargets) σ fun xs σ' =>
      xs = b.expected ∧ b.expected ≠ [] ∧ Open b s N W₀ W σ' := by
  unfold expectedAddresses
  rw [hparent]
  refine (getRun_books hbook h).bind ?_
  rintro _ σ₁ ⟨⟨run, rfl, hrun⟩, h₁⟩
  have hne := expectedOf_ne_nil hrun
  unfold expectedOf at hrun
  dsimp only [Option.bind_some] at hrun ⊢
  split
  · rename_i hrecorded
    rw [if_pos hrecorded] at hrun
    exact Books.pure ⟨Except.ok.inj hrun, hne, h₁⟩
  · rename_i hrecorded
    rw [if_neg hrecorded] at hrun
    rw [htarget]
    refine (Books.unwrap (Q := fun xs σ' => xs = b.expected ∧ σ' = σ₁) h₁.inBooks
      fun xs hxs => ⟨DiscoveryScope.expand_limit hxs hrun, rfl⟩).bind ?_
    rintro _ _ ⟨rfl, rfl⟩
    refine (setRun_books hbook ?_ ?_ h₁).bind fun _ σ₂ h₂ => Books.pure ⟨rfl, hne, h₂⟩
    · exact fun _ => rfl
    · exact fun _ _ => expectedOf_record hne

/-- The run that the session has written adds up. -/
def Balanced (b : FanOut) (s : Sid) (σ : Store schema Sid) : Prop :=
  ∀ T : Tbl (Row .runs) (primaryKey .runs), ∃ run : DiscoveryRunRecord,
    (T.overlay (σ.log s .runs)).get b.job.runId = some run ∧ run.totalScanned = run.outcomes

/-- A run whose summary counts every expected address adds up. -/
theorem finalizeParentRun_books (hbook : Book b W) (h : Open b s N W₀ W σ)
    (hdirty : σ.dirty s = []) (hparent : parent.runId = b.job.runId) {n : Nat}
    {results : List DiscoveryDeviceResultRecord}
    (hcount : results.countP (fun r => r.resultState.isSome) = n) :
    Books b s rt a reports (finalizeParentRun parent n results) σ fun _ σ' =>
      Open b s N W₀ W σ' ∧ σ'.dirty s = [] ∧ Balanced b s σ' := by
  unfold finalizeParentRun
  rw [hparent]
  refine Books.bind (R := fun run σ' => (∃ r, run = some r ∧
    expectedOf r b.target.scope b.maxTargets = .ok b.expected) ∧ Open b s N W₀ W σ' ∧
      σ'.dirty s = []) ?_ ?_
  · refine Books.ask (c := .get .runs b.job.runId) trivial h fun σ₁ run σ₂ hrely h₁ he h₂ => ?_
    obtain ⟨hrun, hsome⟩ := h₁.shows.heard he
    obtain ⟨r, rfl⟩ := Option.isSome_iff_exists.1 (hsome (by rw [hbook.run]; rfl))
    obtain ⟨_, hof⟩ := hrun r rfl
    rw [hbook.run] at hof
    refine ⟨⟨r, rfl, (book_run.1 hof).2⟩, h₂, ?_⟩
    rw [he.2, ← hdirty, ← hrely.dirty]
    rfl
  rintro _ σ₁ ⟨⟨run, rfl, hrun⟩, h₁, hdirty₁⟩
  refine Books.bind (R := fun _ σ' => Open b s N W₀ W σ' ∧ σ'.dirty s = []) ?_ ?_
  · refine Books.ask (c := .ext .utcNow) trivial h₁ fun σ₂ now σ₃ hrely _ he h₃ => ⟨h₃, ?_⟩
    rw [show σ₃ = σ₂ from he, hrely.dirty, hdirty₁]
  rintro now σ₂ ⟨h₂, hdirty₂⟩
  refine Books.bind (R := fun _ σ' => Open b s N W₀ W σ' ∧ σ'.dirty s = [] ∧ Balanced b s σ')
    (Books.ask (c := .update .run .runs _ _) (setRun_tends hbook (fun _ => rfl) fun _ _ => hrun)
      h₂ fun σ₃ ids σ₄ hrely h₃ he h₄ => ⟨h₄, ?_, fun T => ?_⟩) fun _ σ₃ h₃ => Books.pure h₃
  · rw [he.2.2, ← hdirty₂, ← hrely.dirty]
    rfl
  · have hview := h₃.shows.view .runs b.job.runId
    rw [hbook.run] at hview
    obtain ⟨row, hrow, hof⟩ := Option.bind_eq_some_iff.1 hview
    have hid : row.id = b.job.runId := (book_run.1 hof).1
    have hwritten : summary n results run.metadataJson now row ∈ ((σ₃.view s .runs).rows.filter
        fun r => r.id == b.job.runId).map (summary n results run.metadataJson now) :=
      List.mem_map_of_mem (List.mem_filter.2 ⟨Tbl.mem_rows_of_get hrow, beq_iff_eq.2 hid⟩)
    obtain ⟨v, hv, hin⟩ := Tbl.overlay_get_of_mem (T := T.overlay (σ₃.log s .runs)) hwritten
    obtain ⟨row', _, rfl⟩ := List.mem_map.1 hin
    refine ⟨summary n results run.metadataJson now row', ?_, ?_⟩
    have hlog : σ₄.log s .runs = σ₃.log s .runs ++ ((σ₃.view s .runs).rows.filter
        fun r => r.id == b.job.runId).map (summary n results run.metadataJson now) := by
      rw [he.2.2]
      simp [Store.write]
    · rw [show primaryKey .runs (summary n results run.metadataJson now row) = _ from hid] at hv
      rw [hlog, Tbl.overlay_append]
      exact hv
    · rw [summary_outcomes, hcount]
      rfl

/-! ## The whole of a reconciliation -/

/-- The results a reconciliation finds are those of the books. -/
theorem found_books (h : Open b s N W₀ W σ) :
    Books b s rt a reports (select .results fun r : DiscoveryDeviceResultRecord =>
      r.tenantId == b.job.tenantId && r.discoveryJobId == b.job.id) σ fun found σ' =>
      Listing b W { found := found } ∧ Open b s N W₀ W σ' := by
  refine Books.ask (c := .select .results _) trivial h fun σ₁ found σ₂ _ h₁ he h₂ => ⟨?_, h₂⟩
  obtain ⟨hrows, hall⟩ := h₁.shows.heard he
  refine ⟨?_, fun r hr => ?_, fun i k x hi => ?_⟩
  · rw [Results.all, List.append_nil]
    exact (he.1.map _).nodup_iff.2 (Tbl.nodup_map_key.sublist (List.filter_sublist.map _))
  · rw [Results.all, List.append_nil] at hr
    obtain ⟨hp, hof⟩ := hrows r hr
    simp only [Bool.and_eq_true, beq_iff_eq] at hp
    exact hof.symm.trans (book_result.2 ⟨hp, rfl, rfl⟩)
  · obtain ⟨r, _, hof, hin⟩ := hall i _ hi
    obtain ⟨hroot, _, rfl⟩ := book_result.1 hof
    rw [Results.all, List.append_nil]
    exact List.mem_map_of_mem (hin (by simp [hroot]))

/-- A result is in the list once, and no other has its address. -/
theorem Listing.addresses (hbook : Book b W) (hl : Listing b W rs) :
    (rs.all.map (·.address)).Nodup := by
  refine List.Nodup.map_on (fun r hr r' hr' heq => ?_) (List.Nodup.of_map _ hl.ids)
  refine List.inj_on_of_nodup_map hl.ids hr hr' (hbook.address _ _ r.childJobId r'.childJobId
    r.address (hl.entry r hr) ?_)
  rw [hl.entry r' hr', heq]

theorem Evolved.expected (he : Evolved (outcome interrupted) Closed Closed found b.expected rs)
    {x : String} (hx : x ∈ b.expected) : x ∈ rs.all.map (·.address) := by
  rw [Results.all, List.map_append, he.addresses, he.created, List.mem_append, List.mem_filter]
  by_cases hfound : x ∈ found.map (·.address)
  · exact .inl hfound
  · exact .inr ⟨hx, by simpa using hfound⟩

/-- Every expected address has one result, and it is closed. -/
theorem Listing.count (hbook : Book b W) (hl : Listing b W rs) (hnodup : b.expected.Nodup)
    (he : Evolved (outcome interrupted) Closed Closed found b.expected rs) :
    rs.all.countP (fun r => r.resultState.isSome) = b.expected.length := by
  have haddresses := hl.addresses hbook
  have hmem : ∀ r ∈ rs.all, r.address ∈ b.expected := fun r hr =>
    (hbook.result _ _ _ (hl.entry r hr)).1
  have hfound : (found.map (·.address)).Nodup := by
    rw [← he.addresses]
    rw [Results.all, List.map_append] at haddresses
    exact (List.nodup_append.1 haddresses).1
  have hclosed : ∀ r ∈ rs.all, r.resultState.isSome = true := by
    intro r hr
    rcases List.mem_append.1 hr with hr' | hr'
    · exact (he.foundDone hfound r hr' (hmem r hr)).resultState
    · exact (he.createdDone r hr').resultState
  have hperm : (rs.all.map (·.address)).Perm b.expected := by
    refine (List.perm_ext_iff_of_nodup haddresses hnodup).2 fun x => ⟨fun hx => ?_, he.expected⟩
    obtain ⟨r, hr, rfl⟩ := List.mem_map.1 hx
    exact hmem r hr
  rw [List.countP_eq_length.2 hclosed, ← hperm.length_eq, List.length_map]

/-- Every expected address, one after the other. -/
theorem reconcileAddresses_books (hbook : Book b W) (hl : Listing b W { found := found })
    (hnodup : b.expected.Nodup) (hN : N ∨ Full b W) (h : Open b s N W₀ W σ)
    (hparent : parent.id = b.job.id) {scope : DiscoveryTargetRecord}
    (hscope : scope.identifier = b.target.identifier) :
    Books b s rt a reports (b.expected.foldlM (reconcileAddress b.job.tenantId parent scope
      (outcome interrupted)) { found := found }) σ fun rs σ' =>
      ∃ W', Book b W' ∧ Full b W' ∧
        rs.all.countP (fun r => r.resultState.isSome) = b.expected.length ∧
        Open b s N W₀ W' σ' := by
  have hloop := Raises.sat_foldlM_list (C := fanOutContract b s rt a reports)
    (f := reconcileAddress b.job.tenantId parent scope (outcome interrupted)) (l := b.expected)
    (E := fun _ σ' => InBooks b σ')
    (I := fun done rs σ' => ∃ W', Book b W' ∧ Listing b W' rs ∧
      Evolved (outcome interrupted) Closed Closed found done rs ∧ (N ∨ Full b W') ∧
      Open b s N W₀ W' σ') (fun done address rest rs σ' hdone hI => ?_) (b := { found := found })
    (g := σ) ⟨W, hbook, hl, .start .., hN, h⟩
  · refine hloop.mono ?_ fun _ _ he => he
    rintro rs σ' ⟨W', hbook', hl', he, _, h'⟩
    refine ⟨W', hbook', fun x hx => ?_, hl'.count hbook' hnodup he, h'⟩
    obtain ⟨r, hr, rfl⟩ := List.mem_map.1 (he.expected hx)
    exact ⟨r.id, r.childJobId, hl'.entry r hr⟩
  · obtain ⟨W', hbook', hl', he, hN', h'⟩ := hI
    have hnew : address ∉ done := by
      rw [hdone] at hnodup
      exact fun hmem => (List.nodup_append.1 hnodup).2.2 _ hmem _ List.mem_cons_self rfl
    have hexpected : address ∈ b.expected := by
      rw [hdone]
      exact List.mem_append_right _ List.mem_cons_self
    exact reconcileAddress_books hbook' hl' he hnew hexpected hN' h' hparent hscope

/-- The scope job, as the session gets it. -/
theorem getRoot_books (hbook : Book b W) (h : Open b s N W₀ W σ) :
    Books b s rt a reports (sessionGet .jobs b.job.id) σ fun found σ' =>
      (∃ r, found = some r ∧ r.id = b.job.id ∧ r.identity = b.job.identity) ∧
        Open b s N W₀ W σ' := by
  refine (Books.getEntry hbook.root h).mono ?_ fun _ _ he => he
  rintro _ σ₁ ⟨⟨r, rfl, hid, hof⟩, h₁⟩
  exact ⟨⟨r, rfl, hid, (book_job.1 hof).2⟩, h₁⟩

/-- The target of the scope job, as the session gets it. -/
theorem getTarget_books (hbook : Book b W) (h : Open b s N W₀ W σ) :
    Books b s rt a reports (sessionGet .targets b.job.targetId) σ fun found σ' =>
      (∃ r, found = some r ∧ r.identifier = b.target.identifier ∧ r.scope = b.target.scope) ∧
        Open b s N W₀ W σ' := by
  refine (Books.getEntry hbook.target h).mono ?_ fun _ _ he => he
  rintro _ σ₁ ⟨⟨r, rfl, _, hof⟩, h₁⟩
  have hidentity := (book_target.1 hof).2
  exact ⟨⟨r, rfl, congrArg TargetIdentity.identifier hidentity,
    congrArg TargetIdentity.scope hidentity⟩, h₁⟩

theorem reconcileChildren_books (hbook : Book b W) (hnodup : b.expected.Nodup)
    (hN : N ∨ Full b W) (h : Open b s N W₀ W σ) :
    Books b s rt a reports (reconcileChildren b.job.tenantId b.job.id interrupted maxTargets) σ
      fun r σ' => ∃ results W', r = some results ∧ Book b W' ∧ Full b W' ∧
        Open b s N W₀ W' σ' ∧ σ'.dirty s = [] ∧ Balanced b s σ' := by
  unfold reconcileChildren
  refine (getRoot_books hbook h).bind ?_
  rintro _ σ₁ ⟨⟨parent, rfl, hparent, hidentity⟩, h₁⟩
  have htenant : parent.tenantId = b.job.tenantId := congrArg JobIdentity.tenantId hidentity
  have htarget : parent.targetId = b.job.targetId := congrArg JobIdentity.targetId hidentity
  have hrun : parent.runId = b.job.runId := congrArg JobIdentity.runId hidentity
  dsimp only
  rw [if_neg (not_not_intro htenant), htarget]
  refine (getTarget_books hbook h₁).bind ?_
  rintro _ σ₂ ⟨⟨target, rfl, hname, hscope⟩, h₂⟩
  refine (expectedAddresses_books hbook h₂ hrun hscope).bind ?_
  rintro _ σ₃ ⟨rfl, hne, h₃⟩
  dsimp only
  rw [if_neg hne]
  refine (found_books h₃).bind ?_
  rintro found σ₄ ⟨hl, h₄⟩
  refine (reconcileAddresses_books hbook hl hnodup hN h₄ hparent hname).bind ?_
  rintro rs σ₅ ⟨W', hbook', hfull, hcount, h₅⟩
  refine (Books.flush h₅).bind ?_
  rintro _ σ₆ ⟨h₆, hdirty⟩
  refine (finalizeParentRun_books hbook' h₆ hdirty hrun hcount).bind ?_
  rintro _ σ₇ ⟨h₇, hdirty', hsum⟩
  exact Books.pure ⟨rs.all, W', rfl, hbook', hfull, h₇, hdirty', hsum⟩

omit [DecidableEq Sid] in
/-- What the committed rows say when they agree with full books. -/
theorem Book.accounted (hbook : Book b W) (hfull : Full b W) (hpub : σ.Published (bookFocus b) W)
    (hsum : ∃ run, (σ.db .runs).get b.job.runId = some run ∧ run.totalScanned = run.outcomes) :
    Accounted b.job b.expected σ.db := by
  have hentry : ∀ r ∈ rootResults b.job (σ.db .results),
      W .results r.id = some (r.childJobId, r.address) := by
    intro r hr
    obtain ⟨hrow, hroot⟩ := List.mem_filter.1 hr
    simp only [Bool.and_eq_true, beq_iff_eq] at hroot
    have hof := (Focus.shown_some (F := bookFocus b) (Tbl.mem_rows.1 hrow)).symm.trans
      (hpub .results r.id)
    exact hof.symm.trans (book_result.2 ⟨hroot, rfl, rfl⟩)
  have hrow : ∀ i k x, W .results i = some (k, x) →
      ∃ r ∈ rootResults b.job (σ.db .results), r.childJobId = k ∧ r.address = x := by
    intro i k x hi
    rw [← hpub] at hi
    obtain ⟨r, hr, hof⟩ := Option.bind_eq_some_iff.1 hi
    obtain ⟨hroot, hk, hx⟩ := book_result.1 hof
    exact ⟨r, List.mem_filter.2 ⟨Tbl.mem_rows_of_get hr, by simp [hroot]⟩, hk, hx⟩
  have hids : ((rootResults b.job (σ.db .results)).map (·.id)).Nodup := nodup_rootResults _
  have hresults : (rootResults b.job (σ.db .results)).Nodup := List.Nodup.of_map _ hids
  refine ⟨?_, fun x => ⟨fun hx => ?_, fun hx => ?_⟩, ⟨?_, fun k => ⟨?_, fun hk => ?_⟩⟩, hsum⟩
  · refine hresults.map_on fun r hr r' hr' heq => List.inj_on_of_nodup_map hids hr hr' ?_
    refine hbook.address _ _ r.childJobId r'.childJobId r.address (hentry r hr) ?_
    rw [hentry r' hr', heq]
  · obtain ⟨r, hr, rfl⟩ := List.mem_map.1 hx
    exact (hbook.result _ _ _ (hentry r hr)).1
  · obtain ⟨i, k, hi⟩ := hfull x hx
    obtain ⟨r, hr, _, rfl⟩ := hrow i k x hi
    exact List.mem_map_of_mem hr
  · refine hresults.map_on fun r hr r' hr' heq => List.inj_on_of_nodup_map hids hr hr' ?_
    refine hbook.child _ _ r.childJobId r.address r'.address (hentry r hr) ?_
    rw [hentry r' hr', heq]
  · rintro ⟨child, hget, hparent⟩
    have hof := hpub .jobs k
    rw [Focus.shown_some (F := bookFocus b) hget] at hof
    obtain ⟨i, x, hi⟩ := hbook.children k _
      (hof.symm.trans (book_job.2 ⟨.inr hparent, rfl⟩)) hparent
    obtain ⟨r, hr, rfl, _⟩ := hrow i k x hi
    exact List.mem_map_of_mem hr
  · obtain ⟨r, hr, rfl⟩ := List.mem_map.1 hk
    obtain ⟨_, x, hx, hparent, _⟩ := hbook.result _ _ _ (hentry r hr)
    rw [← hpub] at hx
    obtain ⟨child, hget, hof⟩ := Option.bind_eq_some_iff.1 hx
    refine ⟨child, hget, ?_⟩
    obtain ⟨_, rfl⟩ := book_job.1 hof
    exact hparent

/-- A commit of full books and of a run that adds up. -/
theorem commit_accounted (hbook : Book b W) (hfull : Full b W) (h : Open b s N W₀ W σ)
    (hdirty : σ.dirty s = []) (hsum : Balanced b s σ) :
    Books b s rt a reports commit σ fun _ σ' =>
      Accounted b.job b.expected σ'.db ∧ Open b s N W W σ' := by
  refine Books.commit hbook h fun σ₁ σ₂ hrely he h₂ => ⟨hbook.accounted hfull h₂.published ?_, h₂⟩
  obtain ⟨run, hrun, hbalance⟩ := hsum (σ₁.db .runs)
  refine ⟨run, ?_, hbalance⟩
  rw [he.2, ← hrun, ← hrely.log]
  have hdirty₁ : σ₁.dirty s = [] := hrely.dirty.trans hdirty
  simp [Store.commit, Store.flush, Store.clean, Store.view, hdirty₁]

/-- A reconciliation that returns has one result and one child for every expected address. -/
theorem reconcileParentJob_books (hbook : Book b W) (hnodup : b.expected.Nodup)
    (hN : N ∨ Full b W) (h : Open b s N W₀ W σ) :
    Books b s rt a reports (reconcileParentJob b.job.tenantId b.job.id interrupted maxTargets) σ
      fun _ σ' => Accounted b.job b.expected σ'.db ∧ InBooks b σ' := by
  unfold reconcileParentJob
  refine (reconcileChildren_books hbook hnodup hN h).bind ?_
  rintro _ σ₁ ⟨results, W', rfl, hbook', hfull, h₁, hdirty, hsum⟩
  refine (commit_accounted hbook' hfull h₁ hdirty hsum).bind ?_
  rintro _ σ₂ ⟨haccounted, h₂⟩
  exact Books.pure ⟨haccounted, h₂.inBooks⟩

/-! ## execute -/

theorem cancellationRequested_books (h : Open b s N W₀ W σ) (tenantId : String) (jobId : UUID) :
    Books b s rt a reports (cancellationRequested tenantId jobId) σ
      fun _ σ' => Open b s N W₀ W σ' := by
  refine (Books.select h).bind ?_
  rintro rows σ₁ ⟨_, h₁⟩
  split
  · exact Books.pure h₁
  · exact (Books.select h₁).bind fun _ _ h₂ => Books.pure h₂.2

/-- The scope job and its target, if the caller names its tenant. -/
theorem loadScope_books (hbook : Book b W) (h : Open b s N W₀ W σ)
    (hparent : a.parentJobId = b.job.id) :
    Books b s rt a reports (loadScope a) σ fun scope σ' =>
      a.tenantId = b.job.tenantId ∧ scope.1.id = b.job.id ∧ scope.1.runId = b.job.runId ∧
        scope.2.identifier = b.target.identifier ∧ scope.2.scope = b.target.scope ∧
          Open b s N W₀ W σ' := by
  unfold loadScope
  rw [hparent]
  refine (getRoot_books hbook h).bind ?_
  rintro _ σ₁ ⟨⟨parent, rfl, hid, hidentity⟩, h₁⟩
  have htenant : parent.tenantId = b.job.tenantId := congrArg JobIdentity.tenantId hidentity
  have htarget : parent.targetId = b.job.targetId := congrArg JobIdentity.targetId hidentity
  have hrun : parent.runId = b.job.runId := congrArg JobIdentity.runId hidentity
  dsimp only
  split
  · exact Books.throw h₁.inBooks
  · rename_i hsame
    rw [htarget]
    refine (getTarget_books hbook h₁).bind ?_
    rintro _ σ₂ ⟨⟨target, rfl, hname, hscope⟩, h₂⟩
    exact Books.pure ⟨(not_not.1 hsame).symm.trans htenant, hid, hrun, hname, hscope, h₂⟩

theorem persistExpectedAddresses_books (hbook : Book b W) (h : Open b s N W₀ W σ)
    (hrunId : parent.runId = b.job.runId) :
    Books b s rt a reports (persistExpectedAddresses parent b.expected) σ
      fun _ σ' => Open b s N W₀ W σ' := by
  unfold persistExpectedAddresses
  rw [hrunId]
  refine (getRun_books hbook h).bind ?_
  rintro _ σ₁ ⟨⟨run, rfl, hrun⟩, h₁⟩
  have hset : Books b s rt a reports (doIf (run.metadataJson.expectedAddresses.isNone = true)
      (setRun b.job.runId fun r => { r with metadataJson :=
        { run.metadataJson with expectedAddresses := some b.expected } })) σ₁
      fun _ σ' => Open b s N W₀ W σ' := by
    unfold doIf
    split
    · exact setRun_books hbook (fun _ => rfl) (fun _ _ =>
        expectedOf_record (expectedOf_ne_nil hrun)) h₁
    · exact Books.pure h₁
  refine hset.bind fun _ σ₂ h₂ => (Books.flush h₂).mono (fun _ _ h₃ => h₃.1) fun _ _ he => he

/-- The fan-out of a scope job without children. -/
theorem executeScope_books (hbook : Book b W) (hnew : ∀ i, W .results i = none)
    (hexpand : b.target.scope.expand b.maxTargets = .ok b.expected) (hnodup : b.expected.Nodup)
    (hN : N) (h : Open b s N W W σ) (hparent : a.parentJobId = b.job.id)
    (hreports : ∀ σ c r, reports σ c r → ownAddress s σ c r) :
    Books b s rt a reports (executeScope a) σ
      fun _ σ' => Accounted b.job b.expected σ'.db ∧ InBooks b σ' := by
  unfold executeScope
  refine (loadScope_books hbook h hparent).bind ?_
  rintro ⟨parent, target⟩ σ₁ ⟨htenant, hid, hrun, hname, hscope, h₁⟩
  dsimp only at hid hrun hname hscope ⊢
  rw [hparent, htenant]
  refine (cancellationRequested_books h₁ _ _).bind fun requested σ₂ h₂ => ?_
  split
  · exact reconcileParentJob_books hbook hnodup (.inl hN) h₂
  refine (Books.unwrap (Q := fun xs σ' => xs = b.expected ∧ σ' = σ₂) h₂.inBooks
    fun xs hxs => ⟨DiscoveryScope.expand_limit (hscope ▸ hxs) hexpand, rfl⟩).bind ?_
  rintro _ _ ⟨rfl, rfl⟩
  refine (persistExpectedAddresses_books hbook h₂ hrun).bind fun _ σ₃ h₃ => ?_
  refine (Books.commit (Q := fun _ σ' => Open b s N W W σ') hbook h₃
    fun _ _ _ _ h₄ => h₄).bind fun _ σ₄ h₄ => ?_
  refine (createChildren_books hN hid hname hnodup (fun _ hx => hx) hbook h₄
    fun x _ i k hi => ?_).bind ?_
  · rw [hnew] at hi
    cases hi
  rintro children σ₅ ⟨W₁, hbook₁, _, hentries, h₅⟩
  refine (Books.commit (Q := fun _ σ' => Open b s N W₁ W₁ σ') hbook₁ h₅
    fun _ _ _ _ h₆ => h₆).bind fun _ σ₆ h₆ => ?_
  refine (gather_books hbook₁ h₆ htenant hreports hentries _).bind fun joined σ₇ h₇ => ?_
  refine (Books.unwrap (Q := fun _ σ' => σ' = σ₇) h₇.inBooks fun _ _ => rfl).bind ?_
  rintro _ _ rfl
  refine (cancellationRequested_books h₇ _ _).bind fun requested σ₈ h₈ => ?_
  have hfull : Full b W₁ := by
    intro x hx
    obtain ⟨i, hi, rfl⟩ := List.getElem_of_mem hx
    have hentry := hentries.get (i := i) hi (hentries.length_eq ▸ hi)
    exact ⟨_, _, hentry⟩
  exact (reconcileParentJob_books hbook₁ hnodup (.inr hfull) h₈).bind fun _ _ h₉ => Books.pure h₉

/-! ## The start of a run -/

/-- The scope is one that is accepted and whose expansion fits the limit, its job has no children
and no results, its run expects these addresses or none yet, and targets that already have the
name of a child have its address. -/
structure Fresh (b : FanOut) (db : Db schema) : Prop where
  root : (db .jobs).get b.job.id = some b.job
  target : (db .targets).get b.job.targetId = some b.target
  tenant : b.target.tenantId = b.job.tenantId
  accepted : b.target.scope.Accepted
  expansion : b.target.scope.expand b.maxTargets = .ok b.expected
  run : ∃ run, (db .runs).get b.job.runId = some run ∧
    expectedOf run b.target.scope b.maxTargets = .ok b.expected
  results : rootResults b.job (db .results) = []
  children : ∀ k, ¬ IsChild b.job (db .jobs) k
  named : ∀ target ∈ (db .targets).rows, target.tenantId = b.job.tenantId →
    ∀ x ∈ b.expected, target.identifier = b.childName x → target.address = x

/-- What the session has, its own changes included, says the same of the books as what is committed,
and it has loaded no row that is gone. -/
structure Tidy (b : FanOut) (s : Sid) (σ : Store schema Sid) : Prop where
  view : ∀ t k, (bookFocus b).shown (σ.view s t) k = (bookFocus b).shown (σ.db t) k
  seen : ∀ t, ∀ v ∈ σ.seen s t, ∃ r, (σ.view s t).get (schema.key t v) = some r ∧
    (bookFocus b).of t r = (bookFocus b).of t v
  dirty : ∀ c ∈ σ.dirty s, c.Keeps (bookFocus b)

/-- What the committed rows say. -/
def committed (b : FanOut) (db : Db schema) : Entries b := fun t => (bookFocus b).shown (db t)

omit [DecidableEq Sid] in
theorem Tidy.opens (h : Tidy b s σ) (hbook : Book b W) (hpub : σ.Published (bookFocus b) W) :
    Open b s True W W σ := by
  have hview : ∀ t k, (bookFocus b).shown (σ.view s t) k = W t k := fun t k =>
    (h.view t k).trans (hpub t k)
  refine ⟨hbook, hpub, ⟨hview, fun t v hv => ?_, fun c hc => (h.dirty c hc).tends W⟩,
    fun _ => ⟨fun t v hv => ?_, h.dirty⟩⟩
  · obtain ⟨r, hr, hof⟩ := h.seen t v hv
    rw [← hof, ← hview]
    exact (Focus.shown_some hr).symm
  · obtain ⟨r, hr, _⟩ := h.seen t v hv
    rw [hr]
    rfl

/-- Nothing is in the books of a fresh scope but what it is. -/
theorem Fresh.noResult {db : Db schema} (h : Fresh b db) (i : UUID) :
    committed b db .results i = none := by
  refine Option.eq_none_iff_forall_not_mem.2 fun x hx => ?_
  obtain ⟨r, hr, hof⟩ := Option.bind_eq_some_iff.1 hx
  obtain ⟨hroot, _⟩ := book_result.1 hof
  have hmem : r ∈ rootResults b.job (db .results) :=
    List.mem_filter.2 ⟨Tbl.mem_rows_of_get hr, by simp [hroot]⟩
  rw [h.results] at hmem
  cases hmem

theorem Fresh.book {db : Db schema} (h : Fresh b db) : Book b (committed b db) := by
  have hnone : ∀ i k x, committed b db .results i ≠ some (k, x) := by
    intro i k x hi
    rw [h.noResult] at hi
    cases hi
  refine ⟨?_, ?_, ?_, fun k y hy x hx hname => ?_, fun i k x hi => absurd hi (hnone i k x),
    fun i _ k _ x hi => absurd hi (hnone i k x), fun i _ k x _ hi => absurd hi (hnone i k x),
    fun k x hx hparent => ?_⟩
  · exact (Focus.shown_some (F := bookFocus b) h.root).trans (book_job.2 ⟨.inl rfl, rfl⟩)
  · refine (Focus.shown_some (F := bookFocus b) h.target).trans (book_target.2 ⟨⟨h.tenant, .inl ?_⟩,
      rfl⟩)
    exact (db .targets).keyed _ _ h.target
  · obtain ⟨run, hrun, hexpected⟩ := h.run
    refine (Focus.shown_some (F := bookFocus b) hrun).trans (book_run.2 ⟨?_, hexpected⟩)
    exact (db .runs).keyed _ _ hrun
  · obtain ⟨target, hget, hof⟩ := Option.bind_eq_some_iff.1 hy
    obtain ⟨⟨htenant, _⟩, rfl⟩ := book_target.1 hof
    exact congrArg some (h.named target (Tbl.mem_rows_of_get hget) htenant x hx hname)
  · obtain ⟨child, hget, hof⟩ := Option.bind_eq_some_iff.1 hx
    obtain ⟨_, rfl⟩ := book_job.1 hof
    exact absurd ⟨child, hget, hparent⟩ (h.children k)

/-! ## A network of which nothing is recorded yet -/

/-- The scope job of a network and its target. -/
def labFanOut (cidr : String) (expected : List String) : FanOut where
  job := Samples.scopeJob
  target := { Samples.scopeTarget with scopeCidr := some cidr }
  maxTargets := defaultMaxTargets
  expected := expected

def labTables (cidr : String) : Db schema
  | .targets => Tbl.empty.set { Samples.scopeTarget with scopeCidr := some cidr }
  | .runs => Tbl.empty.set { Samples.scopeRun with metadataJson := {} }
  | .jobs => Tbl.empty.set Samples.scopeJob
  | _ => Tbl.empty

def labStore (cidr : String) : Store schema Unit := Samples.store (labTables cidr)

def labArgs : ScopeArgs where
  tenantId := Samples.tenant
  parentJobId := Samples.scopeJob.id
  executionOwner := some Samples.worker

theorem labName_ne (cidr : String) (expected : List String) (x : String) :
    Samples.scopeTarget.identifier ≠ (labFanOut cidr expected).childName x := by
  intro h
  have hlength := congrArg String.length h
  simp only [FanOut.childName, labFanOut, Samples.scopeTarget, String.length_append] at hlength
  have hcolon : ":".length = 1 := rfl
  change _ = "lab".length + ":".length + x.length at hlength
  omega

theorem lab_fresh {cidr : String} {expected : List String}
    (haccepted : (labFanOut cidr expected).target.scope.Accepted)
    (hexpand : (labFanOut cidr expected).target.scope.expand defaultMaxTargets = .ok expected) :
    Fresh (labFanOut cidr expected) (labStore cidr).db where
  root := rfl
  target := rfl
  tenant := rfl
  accepted := haccepted
  expansion := hexpand
  run := ⟨_, rfl, hexpand⟩
  results := rfl
  children k := by
    rintro ⟨child, hget, hparent⟩
    have hmem := Tbl.mem_rows_of_get hget
    obtain rfl := List.mem_singleton.1 hmem
    cases hparent
  named target hmem _ x _ hname := by
    obtain rfl := List.mem_singleton.1 hmem
    exact absurd hname (labName_ne cidr expected x)

theorem lab_tidy (cidr : String) (expected : List String) :
    Tidy (labFanOut cidr expected) () (labStore cidr) where
  view _ _ := rfl
  seen _ _ hv := by cases hv
  dirty _ hc := by cases hc

/-- A collector whose calls all succeed. -/
def labCollector : Collector where
  name := "generic"
  capabilities := [.ssh]
  parser := none
  healthCheck _ := .done (.ok ())
  collect _ := .done (.ok [])
  normalize _ _ := .ok false

def labRuntime : Runtime := ⟨⟨[("generic", labCollector)]⟩, id⟩

/-! ## The books after a run -/

/-- The fan-out of a fresh scope, whose devices report no address but their target's, has one
result and one child for every expected address and totals that add up when it returns. When it is
interrupted, at any statement and with its children anywhere, the committed rows agree with the
books, and any later reconciliation that returns has the same outcome. -/
theorem executeScope_accounted (b : FanOut) (rt : Runtime) (a : ScopeArgs) (s : Sid)
    (σ : Store schema Sid) (hfresh : Fresh b σ.db) (htidy : Tidy b s σ)
    (hparent : a.parentJobId = b.job.id) :
    Raises.Sat (fanOutContract b s rt a (ownAddress s)) (executeScope a) σ
        (fun _ σ' => Accounted b.job b.expected σ'.db ∧ InBooks b σ')
        (fun _ σ' => InBooks b σ') ∧
      ∀ (s' : Sid) (σ' : Store schema Sid) (interrupted : Bool) (maxTargets : Nat),
        InBooks b σ' → Tidy b s' σ' →
        Raises.Sat (fanOutContract b s' rt a (ownAddress s'))
          (reconcileParentJob b.job.tenantId b.job.id interrupted maxTargets) σ'
          (fun _ σ'' => Accounted b.job b.expected σ''.db ∧ InBooks b σ'')
          (fun _ σ'' => InBooks b σ'') := by
  have hnodup := hfresh.accepted.nodup hfresh.expansion
  refine ⟨?_, fun s' σ' interrupted maxTargets hbooks htidy' => ?_⟩
  · have hopen := htidy.opens hfresh.book fun t k => rfl
    exact executeScope_books hfresh.book hfresh.noResult hfresh.expansion hnodup trivial hopen
      hparent fun _ _ _ hr => hr
  · obtain ⟨W, hbook, hpub⟩ := hbooks
    exact reconcileParentJob_books hbook hnodup (.inl trivial) (htidy'.opens hbook hpub)

theorem executeScope_accounted_pair :
    Raises.Sat (fanOutContract (labFanOut "10.0.0.0/30" ["10.0.0.1", "10.0.0.2"]) () labRuntime
        labArgs (ownAddress ())) (executeScope labArgs) (labStore "10.0.0.0/30")
        (fun _ σ' => Accounted Samples.scopeJob ["10.0.0.1", "10.0.0.2"] σ'.db ∧
          InBooks (labFanOut "10.0.0.0/30" ["10.0.0.1", "10.0.0.2"]) σ')
        (fun _ σ' => InBooks (labFanOut "10.0.0.0/30" ["10.0.0.1", "10.0.0.2"]) σ') ∧
      ∀ (s' : Unit) (σ' : Store schema Unit) (interrupted : Bool) (maxTargets : Nat),
        InBooks (labFanOut "10.0.0.0/30" ["10.0.0.1", "10.0.0.2"]) σ' →
        Tidy (labFanOut "10.0.0.0/30" ["10.0.0.1", "10.0.0.2"]) s' σ' →
        Raises.Sat (fanOutContract (labFanOut "10.0.0.0/30" ["10.0.0.1", "10.0.0.2"]) s' labRuntime
            labArgs (ownAddress s'))
          (reconcileParentJob Samples.tenant Samples.scopeJob.id interrupted maxTargets) σ'
          (fun _ σ'' => Accounted Samples.scopeJob ["10.0.0.1", "10.0.0.2"] σ''.db ∧
            InBooks (labFanOut "10.0.0.0/30" ["10.0.0.1", "10.0.0.2"]) σ'')
          (fun _ σ'' => InBooks (labFanOut "10.0.0.0/30" ["10.0.0.1", "10.0.0.2"]) σ'') :=
  executeScope_accounted _ labRuntime labArgs () _ (lab_fresh rfl rfl)
    (lab_tidy "10.0.0.0/30" ["10.0.0.1", "10.0.0.2"]) rfl

/-! ## A device that reports another address -/

/-- Every device reports the same address, and ids are new. -/
def strayWorld (σ : Store schema Unit) : (x : Ext) → Ext.Answer x
  | .processPayload _ => .ok { source := "lab", managementIp := some "192.0.2.7" }
  | x => Samples.world 0 (50 + (σ.view () .jobs).rows.length) x

/-- The coroutine of a child, by the ids of its job and its result. -/
def labChild (child result : UUID) : Prog lang Unit :=
  script (runChild labRuntime labArgs Samples.worker { Samples.deviceJob with id := child }
    { Samples.deviceResult with id := result })

/-- The one child runs while the scope job waits for it. -/
def strayAnswer (σ : Store schema Unit) :
    (c : Statement) → Option (Except DbError c.Ans × Store schema Unit)
  | .ext (.gather _ [(child, result)]) =>
    ((labChild child result).driveBy (fun σ c => σ.answer (strayWorld σ) () c) σ).map
      fun r => (.ok (.ok ()), r.2)
  | .ext (.gather ..) => none
  | c => σ.answer (strayWorld σ) () c

theorem strayAnswer_answered (b : FanOut) {σ σ' : Store schema Unit} {c : Statement}
    {r : Except DbError c.Ans} (h : strayAnswer σ c = some (r, σ')) :
    Answered b () labRuntime labArgs (fun _ _ _ => True) σ c r σ' := by
  have hplain : ∀ {c : Statement} {r : Except DbError c.Ans},
      σ.answer (strayWorld σ) () c = some (r, σ') →
        Store.Exec () σ c r σ' ∧ Savepoint c r σ σ' :=
    fun h => ⟨Store.answer_exec h, savepoint_answer h⟩
  cases c with
  | ext x =>
    cases x with
    | gather parentJobId children =>
      rcases children with _ | ⟨⟨child, result⟩, _ | _⟩
      · cases h
      · obtain ⟨⟨_, σ₁⟩, hrun, heq⟩ := Option.map_eq_some_iff.1 h
        cases heq
        refine ⟨Samples.worker, [labChild child result], _, .cons ⟨_, _, rfl, rfl, rfl⟩ .nil,
          Prog.Pool.driveBy (fun _ _ _ _ hanswer => ⟨Store.answer_exec hanswer, trivial⟩) hrun, ?_⟩
        simp
      · cases h
    | _ => exact hplain h
  | _ => exact hplain h

/-- The scope has two results, one of them for an address it does not have. -/
def hasStray (r : Except Exn (List DiscoveryDeviceResultRecord) × Store schema Unit) : Bool :=
  match r.1 with
  | .ok _ => (rootResults Samples.scopeJob (r.2.db .results)).map (·.address) ==
      ["192.0.2.7", "10.0.0.1"]
  | .error _ => false

theorem executeScope_stray :
    ((ExceptT.run (executeScope labArgs)).driveBy strayAnswer (labStore "10.0.0.1/32")).map
      hasStray = some true := by
  decide

/-- A fresh scope of one address, whose device reports another: its run can return and the books
disagree. -/
theorem executeScope_strays :
    Fresh (labFanOut "10.0.0.1/32" ["10.0.0.1"]) (labStore "10.0.0.1/32").db ∧
      ¬ Raises.Sat { fanOutContract (labFanOut "10.0.0.1/32" ["10.0.0.1"]) () labRuntime labArgs
            (fun _ _ _ => True) with guar := fun _ _ => True }
        (executeScope labArgs) (labStore "10.0.0.1/32")
        (fun _ σ' => Accounted Samples.scopeJob ["10.0.0.1"] σ'.db) fun _ _ => True := by
  refine ⟨lab_fresh rfl rfl, fun h => ?_⟩
  obtain ⟨⟨r, σ'⟩, hrun, hstray⟩ := Option.map_eq_some_iff.1 executeScope_stray
  have hpost := Prog.Sat.driveBy (C := { fanOutContract (labFanOut "10.0.0.1/32" ["10.0.0.1"]) ()
      labRuntime labArgs (fun _ _ _ => True) with guar := fun _ _ => True })
    (fun _ _ => ⟨fun _ _ => rfl, fun _ _ _ hget => hget, rfl, rfl, rfl⟩)
    (fun _ _ _ _ hanswer => strayAnswer_answered _ hanswer) h hrun
  cases r with
  | error e => cases hstray
  | ok results =>
    have hmem := (hpost.expected "192.0.2.7").1 (by
      rw [beq_iff_eq.1 hstray]
      exact List.mem_cons_self)
    exact absurd hmem (by decide)

end DiscoveryFanoutService
end Discovery
end NetOps
