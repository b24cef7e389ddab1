import NetOps.Conc.Rows
import NetOps.Discovery.Collectors
import NetOps.Discovery.Statements

/-!
# Discovery.Runs

Runs of discovery programs: what every job `UPDATE` keeps of a row, every run keeps of the
committed rows (`jobs_keep`). An invariant of the jobs table is a relation between a row and its
later versions, checked against the cases of `JobStatement`; a predicate of all job rows is
checked against them and against new jobs (`jobs_hold`).
-/

namespace NetOps
namespace Discovery

open Conc DiscoveryJobRepository

/-- Run a discovery program and drop its result. -/
def script {α : Type} (m : M α) : Prog lang Unit := (ExceptT.run m).bind fun _ => .pure ()

theorem script_stated {α : Type} {A : Kind → Prop} {m : M α} (h : Issues A m) :
    (script m).All (Stated A) :=
  Prog.All.bind h fun _ => trivial

theorem script_all {α : Type} {A : Kind → Prop} {m : M α} (h : Issues A m) :
    (script m).All (Issued A) :=
  (script_stated h).mono fun _ hc => hc.1

theorem sat_ask {G : Type} {C : Prog.Contract lang G} {c : Statement} {g : G}
    {Q : c.Ans → G → Prop} {E : Exn → G → Prop}
    (h : ∀ g', C.rely c g g' → C.guar g' c ∧
      (∀ a g'', C.act g' c (.ok a) g'' → Q a g'') ∧
      (∀ e g'', C.act g' c (.error e) g'' → E (.db e) g'')) :
    Raises.Sat C (ask c) g Q E := by
  intro g' hg
  obtain ⟨hguar, hok, herr⟩ := h g' hg
  refine ⟨hguar, fun r g'' ha => ?_⟩
  cases r with
  | ok a => exact hok a g'' ha
  | error e => exact herr e g'' ha

theorem sat_catching {G : Type} {C : Prog.Contract lang G} {α : Type} {m : M α} {g : G}
    {Q : Except Exn α → G → Prop} {E : Exn → G → Prop}
    (h : Raises.Sat C m g (fun a => Q (.ok a)) fun e => Q (.error e)) :
    Raises.Sat C (catching m) g Q E :=
  Raises.sat_tryCatch (Raises.sat_bind (h.mono (fun _ _ h => h) fun _ _ h => h))

theorem script_sat {G : Type} {C : Prog.Contract lang G} {α : Type} {m : M α} {g : G}
    {Q : Unit → G → Prop} (h : Raises.Sat C m g (fun _ g' => Q () g') (fun _ g' => Q () g')) :
    (script m).Sat C g Q := by
  refine Prog.sat_bind.2 (Prog.Sat.mono (fun r g' hr => ?_) h)
  cases r with
  | ok a => exact hr
  | error e => exact hr

/-- The job `UPDATE` a program is about to issue. -/
def nextUpdate {α : Type} : Prog lang α → Option JobUpdate
  | .pure _ => none
  | .stmt c _ => jobUpdate? c

/-- Discovery programs running over the discovery tables. -/
abbrev Discovering (Sid Tid : Type) := Sys schema world Sid Tid

/-- The jobs session `s` sees. -/
abbrev seenJobs {Sid : Type} (σ : Store schema Sid) (s : Sid) :
    Tbl DiscoveryJobRecord DiscoveryJobRecord.id :=
  σ.view s .jobs

/-- A relation on jobs, as one on the rows of all tables. -/
def JobRel (R : DiscoveryJobRecord → DiscoveryJobRecord → Prop) : (t : Table) → Row t → Row t → Prop
  | .jobs => R
  | _ => fun _ _ => True

section

variable {R : DiscoveryJobRecord → DiscoveryJobRecord → Prop} {A : Kind → Prop}

theorem JobRel.refl (hr : ∀ r, R r r) : ∀ t r, JobRel R t r r := by
  intro t r
  cases t <;> first | exact hr r | trivial

theorem JobRel.trans (ht : ∀ a b c, R a b → R b c → R a c) :
    ∀ t a b c, JobRel R t a b → JobRel R t b c → JobRel R t a c := by
  intro t a b c h h'
  cases t <;> first | exact ht a b c h h' | trivial

/-- Only the job `UPDATE`s need to be checked. -/
theorem Issued.keeps {c : Statement} (hc : Issued A c) {db : Db schema}
    (h : ∀ u, JobStatement u → A (.update u.site) → c = u.statement →
      ∀ r ∈ (db .jobs).rows, u.filter r = true → R r (u.values r)) :
    c.Keeps (JobRel R) db := by
  cases hc with
  | job hu hA => exact fun r hr hf => ⟨(hu.identity r).1, h _ hu hA rfl r hr hf⟩
  | @update t ht site p f hkey _ =>
    intro r _ _
    refine ⟨hkey r, ?_⟩
    cases t <;> first | exact absurd rfl ht | trivial
  | @change t ht id f hkey _ =>
    intro r
    refine ⟨hkey r, ?_⟩
    cases t <;> first | exact absurd rfl ht | trivial
  | _ => trivial

variable {Sid Tid : Type} [DecidableEq Sid] [DecidableEq Tid]
  {start : Tid → Sid → Prog lang Unit → Prop}
  {cond : Discovering Sid Tid → Tid → Statement → Prop}

/-- If every job `UPDATE` issued under `cond` relates the rows it changes by the preorder `R`,
then so does every run, from any state it passes to any later one. -/
theorem jobs_inv (hr : ∀ r, R r r) (ht : ∀ a b c, R a b → R b c → R a c)
    (hstart : ∀ t s p, start t s p → p.All (Issued A))
    (hstep : ∀ (σ : Discovering Sid Tid) t u, JobStatement u → A (.update u.site) →
      cond σ t u.statement → ∀ r ∈ (seenJobs σ.store (σ.task t).sid).rows,
        u.filter r = true → R r (u.values r))
    {σ₀ σ₁ σ₂ : Discovering Sid Tid} (h₀ : σ₀.Initial start) (h₁ : Sys.Steps start cond σ₀ σ₁)
    (h₂ : Sys.Steps start cond σ₁ σ₂) :
    σ₂.store.Inv (JobRel R) ∧ Store.Grew (JobRel R) σ₁.store.db σ₂.store.db := by
  have hkeep : ∀ (σ : Discovering Sid Tid) t c, Issued A c → cond σ t c →
      c.Keeps (JobRel R) (σ.store.view (σ.task t).sid) := by
    intro σ t c hc hcond
    refine hc.keeps fun u hu hA he => ?_
    subst he
    exact hstep σ t u hu hA hcond
  have hall₀ := h₀.allTasks hstart
  have hall₁ := hall₀.steps hstart h₁
  obtain ⟨hinv₁, _⟩ := Sys.Steps.rows_keep (JobRel.refl hr) (JobRel.trans ht) hstart hkeep hall₀
    (h₀.inv _) h₁
  exact Sys.Steps.rows_keep (JobRel.refl hr) (JobRel.trans ht) hstart hkeep hall₁ hinv₁ h₂

/-- `jobs_inv`, of one committed job. -/
theorem jobs_keep (hr : ∀ r, R r r) (ht : ∀ a b c, R a b → R b c → R a c)
    (hstart : ∀ t s p, start t s p → p.All (Issued A))
    (hstep : ∀ (σ : Discovering Sid Tid) t u, JobStatement u → A (.update u.site) →
      cond σ t u.statement → ∀ r ∈ (seenJobs σ.store (σ.task t).sid).rows,
        u.filter r = true → R r (u.values r))
    {σ₀ σ₁ σ₂ : Discovering Sid Tid} (h₀ : σ₀.Initial start) (h₁ : Sys.Steps start cond σ₀ σ₁)
    (h₂ : Sys.Steps start cond σ₁ σ₂) {k : UUID} {r : DiscoveryJobRecord}
    (hk : (σ₁.store.db .jobs).get k = some r) :
    ∃ r', (σ₂.store.db .jobs).get k = some r' ∧ R r r' :=
  (jobs_inv hr ht hstart hstep h₀ h₁ h₂).2 .jobs k r hk

omit [DecidableEq Sid] in
/-- A version that a session sees is a later version of the committed job. -/
theorem seen_keeps (hr : ∀ r, R r r) {σ : Store schema Sid} (h : σ.Inv (JobRel R)) {s : Sid}
    {k : UUID} {r v : DiscoveryJobRecord} (hk : (σ.db .jobs).get k = some r)
    (hv : (seenJobs σ s).get k = some v) : R r v := by
  have hid : v.id = k := (seenJobs σ s).keyed k v hv
  obtain hm | ⟨hd, _⟩ := Tbl.overlay_get hv
  · exact h.mono s .jobs v hm r (by rw [← hid] at hk; exact hk)
  · have hd : (σ.db .jobs).get k = some v := hd
    rw [hk] at hd
    cases hd
    exact hr r

end

/-! ## Predicates of all jobs -/

/-- A predicate of jobs, as one of the rows of all tables. -/
def JobPred (P : DiscoveryJobRecord → Prop) : (t : Table) → Row t → Prop
  | .jobs => P
  | _ => fun _ => True

section

variable {P : DiscoveryJobRecord → Prop} {A : Kind → Prop}

/-- Only the job `UPDATE`s and new jobs need to be checked. -/
theorem Issued.makes {c : Statement} (hc : Issued A c) {db : Db schema}
    (hnew : ∀ a id now, P (JobRequest.record a id now))
    (h : ∀ u, JobStatement u → A (.update u.site) → c = u.statement →
      ∀ r ∈ (db .jobs).rows, u.filter r = true → P r → P (u.values r)) :
    c.Makes (JobPred P) db := by
  cases hc with
  | job hu hA => exact fun r hr hf hP => h _ hu hA rfl r hr hf hP
  | newJob a id now _ => exact hnew a id now
  | @update t ht site p f _ _ =>
    intro r _ _ _
    cases t <;> first | exact absurd rfl ht | trivial
  | @insert t ht r _ => cases t <;> first | exact absurd rfl ht | trivial
  | @change t ht id f _ _ =>
    intro r _
    cases t <;> first | exact absurd rfl ht | trivial
  | _ => trivial

variable {Sid Tid : Type} [DecidableEq Sid] [DecidableEq Tid]
  {start : Tid → Sid → Prog lang Unit → Prop}
  {cond : Discovering Sid Tid → Tid → Statement → Prop}

/-- If new jobs satisfy `P` and every job `UPDATE` issued under `cond` keeps it, then all job rows
satisfy it in every state of a run that starts with such jobs. -/
theorem jobs_hold (hnew : ∀ a id now, P (JobRequest.record a id now))
    (hstart : ∀ t s p, start t s p → p.All (Issued A))
    (hstep : ∀ (σ : Discovering Sid Tid) t u, JobStatement u → A (.update u.site) →
      cond σ t u.statement → ∀ r ∈ (seenJobs σ.store (σ.task t).sid).rows,
        u.filter r = true → P r → P (u.values r))
    {σ₀ σ₁ : Discovering Sid Tid} (h₀ : σ₀.Initial start)
    (hjobs : ∀ k r, (σ₀.store.db .jobs).get k = some r → P r)
    (h₁ : Sys.Steps start cond σ₀ σ₁) : σ₁.store.Holds (JobPred P) := by
  refine Sys.Steps.rows_hold (Q := fun _ _ => Issued A) hstart (fun σ t c hc hcond => ?_)
    (h₀.allTasks hstart) (h₀.holds fun t k r hr => ?_) h₁
  · refine hc.makes hnew fun u hu hA he => ?_
    subst he
    exact hstep σ t u hu hA hcond
  · cases t <;> first | exact hjobs k r hr | trivial

end

end Discovery
end NetOps
