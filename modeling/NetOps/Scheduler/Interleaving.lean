import NetOps.Scheduler.Flags

/-!
# Scheduler.Interleaving

The operations of the scheduler, interleaved at every call: any number of tasks on one repository,
each running one operation after the other.

* `Operation.Effect`: what an operation says of the name, the flag and the state of the schedules,
  and of which there are. A dispatch says nothing.
* `sat_task`: every operation saves what it says, unless another task changed the schedule since it
  was read.
* `operations_in_effect`: so in a run whose saves all come in time, the table changes only by
  operations that say so, and what a completed operation says is there. `pause_undone`: a dispatch
  that saves late takes a pause back.
-/

namespace NetOps
namespace Scheduler

open Conc Conc.Raises History
open Discovery (UUID)

variable {M Tid : Type}

/-! ## Effects -/

/-- What operations say of a schedule. -/
structure Told where
  name : String
  enabled : Bool
  state : ScheduleState
  deriving DecidableEq

def Schedule.told (schedule : Schedule M) : Told :=
  { name := schedule.name, enabled := schedule.enabled, state := schedule.state }

/-- What is stored, of what operations say. -/
def told (table : ScheduleTable M) (id : UUID) : Option Told := (table.get id).map Schedule.told

def Operation.Effect (operation : Operation M) (before after : UUID → Option Told) : Prop :=
  match operation with
  | .register payload => ∃ id, before id = none ∧ after = Function.update before id (some {
      name := payload.name
      enabled := payload.enabled
      state := if payload.enabled then .active else .disabled })
  | .update id payload => after = Function.update before id ((before id).map fun old => {
      name := nameOr payload.name old.name
      enabled := payload.enabled.getD old.enabled
      state := if payload.enabled = some false then .disabled else .active })
  | .pause id => after = Function.update before id ((before id).map fun old =>
      { old with enabled := false, state := .paused })
  | .resume id => after = Function.update before id ((before id).map fun old =>
      { old with enabled := true, state := .active })
  | .delete id => after = Function.update before id none
  | .dispatch _ => after = before

theorem told_put {kind : RepositoryKind} {table : ScheduleTable M} {schedule : Schedule M} :
    told (table.set (savedRow kind table schedule)) =
      Function.update (told table) schedule.id (some schedule.told) := by
  funext id
  rw [told, Tbl.get_set, savedRow_id, Function.update_apply]
  split
  · simp [Schedule.told]
  · rfl

theorem told_erase {table : ScheduleTable M} {id : UUID} :
    told (table.erase id) = Function.update (told table) id none := by
  funext k
  rw [told, ScheduleTable.get_erase, Function.update_apply]
  split <;> rfl

/-! ## What a task knows -/

/-- The world, with what each task runs, or ran last, and the schedules that other tasks changed
since it read them. -/
structure Shared (M Tid : Type) where
  world : World M
  running : Tid → Operation M
  changed : Tid → Set UUID

variable {kind : RepositoryKind} {hasManager : Bool} {i : Tid} {g g' : Shared M Tid}
  {operation : Operation M}

/-- A task runs the same operation; what other tasks changed, they are known to have changed. -/
structure Beside (i : Tid) (g g' : Shared M Tid) : Prop where
  running : g'.running i = g.running i
  grows : ∀ id ∈ g.changed i, id ∈ g'.changed i
  told : ∀ id ∉ g'.changed i, told g'.world.table id = told g.world.table id

theorem Beside.refl : Beside i g g := ⟨rfl, fun _ h => h, fun _ _ => rfl⟩

theorem Beside.trans {g'' : Shared M Tid} (h : Beside i g g') (h' : Beside i g' g'') :
    Beside i g g'' :=
  ⟨h'.running.trans h.running, fun id hid => h'.grows id (h.grows id hid),
    fun id hid => (h'.told id hid).trans (h.told id fun hmem => hid (h'.grows id hmem))⟩

/-- What a task goes on knowing. -/
def Steady (i : Tid) (R : Shared M Tid → Prop) : Prop := ∀ g g', Beside i g g' → R g → R g'

theorem Steady.and {R R' : Shared M Tid → Prop} (h : Steady i R) (h' : Steady i R') :
    Steady i fun g => R g ∧ R' g :=
  fun g g' hbeside hr => ⟨h g g' hbeside hr.1, h' g g' hbeside hr.2⟩

theorem steady_running (operation : Operation M) :
    Steady i fun g : Shared M Tid => g.running i = operation :=
  fun _ _ hbeside h => hbeside.running.trans h

/-- What is told of a schedule, as far as the task can know. -/
def Knows (i : Tid) (id : UUID) (what : Option Told) (g : Shared M Tid) : Prop :=
  id ∉ g.changed i → told g.world.table id = what

theorem steady_knows (id : UUID) (what : Option Told) :
    Steady i (Knows (M := M) i id what) := by
  intro g g' hbeside h hid
  rw [hbeside.told _ hid]
  exact h fun hmem => hid (hbeside.grows _ hmem)

/-- What a task saves or deletes is what its operation says, if it is in time. -/
def Guarantees (i : Tid) (g : Shared M Tid) : Stmt M → Prop
  | .save schedule => schedule.id ∉ g.changed i →
    (g.running i).Effect (told g.world.table)
      (Function.update (told g.world.table) schedule.id (some schedule.told))
  | .delete id =>
    (g.running i).Effect (told g.world.table) (Function.update (told g.world.table) id none)
  | _ => True

/-- A new version of a schedule that is known is what an operation says that changes it so. -/
theorem guarantees_rewrite {row new : Schedule M} {id : UUID} {f : Told → Told}
    (hrunning : g.running i = operation)
    (heffect : ∀ before : UUID → Option Told,
      operation.Effect before (Function.update before id ((before id).map f)))
    (hid : new.id = id) (htold : new.told = f row.told) (hknows : Knows i id (some row.told) g) :
    Guarantees i g (.save new) := by
  intro hunchanged
  have hstored := hknows (hid ▸ hunchanged)
  have hsaid := heffect (told g.world.table)
  rw [hstored, Option.map_some, ← htold] at hsaid
  rw [hrunning, hid]
  exact hsaid

/-! ## Tasks -/

/-- The statement reads schedules. -/
def Stmt.reads : Stmt M → Bool
  | .get _ | .list => true
  | _ => false

variable [DecidableEq Tid]

/-- What other tasks changed, when a statement of a task led to a world. -/
def Shared.noted (g : Shared M Tid) (i : Tid) (s : Stmt M) (world : World M) (j : Tid) : Set UUID :=
  if j ≠ i then { id | id ∈ g.changed j ∨ told world.table id ≠ told g.world.table id }
  else if s.reads then ∅
  else g.changed i

def Shared.Answers (kind : RepositoryKind) (i : Tid) (g : Shared M Tid) (s : Stmt M) (r : s.Resp)
    (g' : Shared M Tid) : Prop :=
  g.world.Answers kind s r g'.world ∧ g'.running = g.running ∧ g'.changed = g.noted i s g'.world

def Operation.task (hasManager : Bool) (operation : Operation M) : Prog (lang M) Unit :=
  (ExceptT.run (operation.program hasManager)).bind fun _ => .pure ()

def Shared.Starts (hasManager : Bool) (i : Tid) (g : Shared M Tid) (p : Prog (lang M) Unit)
    (g' : Shared M Tid) : Prop :=
  ∃ operation : Operation M, p = operation.task hasManager ∧ g' = { g with
    running := Function.update g.running i operation
    changed := Function.update g.changed i ∅ }

abbrev SchedulerPool (M Tid : Type) := Pool (lang M) Tid (Shared M Tid)

abbrev SchedulerPool.Step (kind : RepositoryKind) (hasManager : Bool) :
    SchedulerPool M Tid → Tid × Turn (lang M) → SchedulerPool M Tid → Prop :=
  Pool.Step (Shared.Answers kind) (Shared.Starts hasManager)

/-- A schedule is saved while no other task has changed it since it was read. -/
def InTime (i : Tid) (g : Shared M Tid) (s : Stmt M) (_ : s.Resp) : Prop :=
  match s with
  | .save schedule => schedule.id ∉ g.changed i
  | _ => True

/-- The call that completes an operation was answered. -/
def Completes (s : Stmt M) (r : s.Resp) : Prop :=
  match s, r with
  | .save _, .ok _ => True
  | .delete _, .ok _ => True
  | _, _ => False

/-- The stored schedules changed only as the operation of the task says, and did if its call was
answered; a dispatch changed none. -/
structure InEffect (c : SchedulerPool M Tid) (e : Tid × Turn (lang M))
    (c' : SchedulerPool M Tid) : Prop where
  only : told c'.state.world.table = told c.state.world.table ∨
    (c.state.running e.1).Effect (told c.state.world.table) (told c'.state.world.table)
  completed : ∀ s r, e.2 = .answered s r → Completes s r →
    (c.state.running e.1).Effect (told c.state.world.table) (told c'.state.world.table)
  dispatch : ∀ now, c.state.running e.1 = .dispatch now →
    told c'.state.world.table = told c.state.world.table

/-! ## Calls -/

def contract (kind : RepositoryKind) (i : Tid) : Prog.Contract (lang M) (Shared M Tid) where
  rely _ := Beside i
  act g s r g' := g.Answers kind i s r g' ∧ InTime i g s r
  guar := Guarantees i

/-- The operation keeps the contract, and its results satisfy `Q`. -/
abbrev Holds {α : Type} (kind : RepositoryKind) (i : Tid) (m : Service M α) (g : Shared M Tid)
    (Q : α → Shared M Tid → Prop) : Prop :=
  Sat (contract kind i) m g Q fun _ _ => True

/-- Whatever a task is answered, the others take note. -/
theorem Shared.Answers.beside {s : Stmt M} {r : s.Resp} (h : g.Answers kind i s r g') {j : Tid}
    (hj : j ≠ i) : Beside j g g' := by
  obtain ⟨_, hrunning, hchanged⟩ := h
  have hnoted : g'.changed j =
      { id | id ∈ g.changed j ∨ told g'.world.table id ≠ told g.world.table id } := by
    rw [hchanged, Shared.noted, if_pos hj]
  refine ⟨by rw [hrunning], fun id hid => ?_, fun id hid => ?_⟩
  · rw [hnoted]
    exact .inl hid
  · rw [hnoted] at hid
    by_contra hne
    exact hid (.inr hne)

/-- A statement that reads no schedule and changes none leaves what its task knows. -/
theorem Shared.Answers.own {s : Stmt M} {r : s.Resp} (h : g.Answers kind i s r g')
    (hreads : s.reads = false) (htold : told g'.world.table = told g.world.table) :
    Beside i g g' := by
  obtain ⟨_, hrunning, hnoted⟩ := h
  have hchanged : g'.changed i = g.changed i := by
    rw [hnoted, Shared.noted, if_neg (by simp), hreads, if_neg Bool.false_ne_true]
  refine ⟨by rw [hrunning], fun id hid => ?_, fun id _ => by rw [htold]⟩
  rwa [hchanged]

/-- A save that is in time and says nothing leaves what its task knows. -/
theorem Shared.Answers.same {schedule row : Schedule M}
    (h : g.Answers kind i (.save schedule) (.ok row) g')
    (hintime : schedule.id ∉ g.changed i)
    (hknows : Knows i schedule.id (some schedule.told) g) : Beside i g g' := by
  refine h.own rfl ?_
  obtain ⟨rfl, hworld⟩ := h.1
  rw [hworld, World.put, told_put, ← hknows hintime, Function.update_eq_self]

namespace Shared

variable {R : Shared M Tid → Prop}

theorem sat_answered {α : Type} {s : Stmt M} {k : s.Resp → Prog (lang M) α}
    {Q : α → Shared M Tid → Prop} (hsteady : Steady i R) (hr : R g)
    (hguar : ∀ g', R g' → Guarantees i g' s)
    (h : ∀ g₁ r g₂, R g₁ → g₁.Answers kind i s r g₂ → InTime i g₁ s r →
      (k r).Sat (contract kind i) g₂ Q) :
    (Prog.stmt s k).Sat (contract kind i) g Q := by
  intro g₁ hbeside
  have hr₁ : R g₁ := hsteady g g₁ hbeside hr
  exact ⟨hguar g₁ hr₁, fun r g₂ hact => h g₁ r g₂ hr₁ hact.1 hact.2⟩

theorem sat_clock {Q : Instant → Shared M Tid → Prop} (hsteady : Steady i R) (hr : R g)
    (h : ∀ now g', R g' → Q now g') : Holds kind i clock g Q := by
  refine sat_answered hsteady hr (fun _ _ => trivial) ?_
  intro g₁ now g₂ hr₁ hact _
  have hworld : g₂.world = g₁.world := hact.1.2
  exact h now g₂ (hsteady g₁ g₂ (hact.own rfl (by rw [hworld])) hr₁)

theorem sat_freshId {Q : UUID → Shared M Tid → Prop} (hsteady : Steady i R) (hr : R g)
    (h : ∀ id g', R g' → Knows i id none g' → Q id g') : Holds kind i freshId g Q := by
  refine sat_answered hsteady hr (fun _ _ => trivial) ?_
  intro g₁ id g₂ hr₁ hact _
  obtain ⟨hnew, hworld⟩ := hact.1
  refine h id g₂ (hsteady g₁ g₂ (hact.own rfl (by rw [hworld])) hr₁) fun _ => ?_
  rw [hworld, told, hnew]
  rfl

theorem sat_submit {of : UUID} {current : Instant} {request : JobRequest M}
    {Q : Unit → Shared M Tid → Prop} (hsteady : Steady i R) (hr : R g)
    (h : ∀ g', R g' → Q () g') : Holds kind i (submit of current request) g Q := by
  refine sat_answered hsteady hr (fun _ _ => trivial) ?_
  intro g₁ r g₂ hr₁ hact _
  cases r with
  | error e => trivial
  | ok _ =>
    have hworld : g₂.world = _ := hact.1
    exact h g₂ (hsteady g₁ g₂ (hact.own rfl (by rw [hworld])) hr₁)

theorem sat_append {execution : ScheduleExecution} {Q : Unit → Shared M Tid → Prop}
    (hsteady : Steady i R) (hr : R g) (h : ∀ g', R g' → Q () g') :
    Holds kind i (append execution) g Q := by
  refine sat_answered hsteady hr (fun _ _ => trivial) ?_
  intro g₁ r g₂ hr₁ hact _
  cases r with
  | error e => trivial
  | ok _ =>
    have hworld : g₂.world = _ := hact.1
    exact h g₂ (hsteady g₁ g₂ (hact.own rfl (by rw [hworld])) hr₁)

theorem sat_existing {id : UUID} {Q : Schedule M → Shared M Tid → Prop}
    (hrunning : g.running i = operation)
    (h : ∀ schedule g', schedule.id = id → g'.running i = operation →
      Knows i id (some schedule.told) g' → Q schedule g') :
    Holds kind i (existing id) g Q := by
  refine sat_bind (sat_answered (steady_running operation) hrunning (fun _ _ => trivial) ?_)
  intro g₁ r g₂ hrunning₁ hact _
  cases r with
  | error e => trivial
  | ok found =>
    obtain ⟨⟨rfl, hworld⟩, hrunning₂, _⟩ := hact
    dsimp only
    cases hget : g₁.world.table.get id with
    | none => trivial
    | some schedule =>
      refine h schedule g₂ (g₁.world.table.keyed _ _ hget) (by rw [hrunning₂, hrunning₁]) ?_
      intro _
      rw [hworld, told, hget]
      rfl

theorem sat_list {Q : List (Schedule M) → Shared M Tid → Prop} (hrunning : g.running i = operation)
    (h : ∀ schedules g', g'.running i = operation →
      (∀ schedule ∈ schedules, Knows i schedule.id (some schedule.told) g') → Q schedules g') :
    Holds kind i list g Q := by
  refine sat_answered (steady_running operation) hrunning (fun _ _ => trivial) ?_
  intro g₁ r g₂ hrunning₁ hact _
  cases r with
  | error e => trivial
  | ok schedules =>
    obtain ⟨⟨hlists, hworld⟩, hrunning₂, _⟩ := hact
    refine h schedules g₂ (by rw [hrunning₂, hrunning₁]) fun schedule hmem _ => ?_
    rw [hworld, told, hlists.mem.1 hmem]
    rfl

/-- The save that ends an operation. -/
theorem sat_save {schedule : Schedule M} {Q : Schedule M → Shared M Tid → Prop}
    (hsteady : Steady i R) (hr : R g) (hguar : ∀ g', R g' → Guarantees i g' (.save schedule))
    (h : ∀ row g', Q row g') : Holds kind i (save schedule) g Q := by
  refine sat_answered hsteady hr hguar ?_
  intro g₁ r g₂ _ _ _
  cases r with
  | error e => trivial
  | ok row => exact h row g₂

/-- A save of a dispatch. -/
theorem sat_saveSame {schedule : Schedule M} {now : Option Instant}
    {Q : Schedule M → Shared M Tid → Prop} (hsteady : Steady i R) (hr : R g)
    (hrunning : ∀ g', R g' → g'.running i = .dispatch now)
    (hknows : ∀ g', R g' → Knows i schedule.id (some schedule.told) g')
    (h : ∀ row g', R g' → Q row g') : Holds kind i (save schedule) g Q := by
  refine sat_answered hsteady hr (fun g' hr' hunchanged => ?_) ?_
  · rw [hrunning g' hr', ← hknows g' hr' hunchanged, Function.update_eq_self]
    exact rfl
  · intro g₁ r g₂ hr₁ hact hintime
    cases r with
    | error e => trivial
    | ok row => exact h row g₂ (hsteady g₁ g₂ (hact.same hintime (hknows g₁ hr₁)) hr₁)

end Shared

/-! ## Operations -/

/-- The task runs the operation, and knows what is told of the schedule. -/
def Ready (i : Tid) (operation : Operation M) (id : UUID) (what : Option Told)
    (g : Shared M Tid) : Prop :=
  g.running i = operation ∧ Knows i id what g

omit [DecidableEq Tid] in
theorem steady_ready (operation : Operation M) (id : UUID) (what : Option Told) :
    Steady i (Ready i operation id what : Shared M Tid → Prop) :=
  (steady_running operation).and (steady_knows id what)

theorem sat_update {id : UUID} {payload : ScheduleUpdateRequest}
    (hrunning : g.running i = .update id payload) :
    Holds kind i (updateSchedule id payload) g fun _ _ => True := by
  refine sat_bind (Shared.sat_existing hrunning fun row g₁ hid hrunning₁ hknows => ?_)
  have hsteady := steady_ready (i := i) (.update id payload : Operation M) id (some row.told)
  refine sat_bind (Shared.sat_clock hsteady ⟨hrunning₁, hknows⟩ fun now g₂ hr => ?_)
  refine Shared.sat_save hsteady hr (fun g₃ hr₃ => ?_) fun _ _ => trivial
  exact guarantees_rewrite hr₃.1 (fun _ => rfl) hid rfl hr₃.2

theorem sat_pause {id : UUID} (hrunning : g.running i = .pause id) :
    Holds kind i (pauseSchedule id) g fun _ _ => True := by
  refine sat_bind (Shared.sat_existing hrunning fun row g₁ hid hrunning₁ hknows => ?_)
  have hsteady := steady_ready (i := i) (.pause id : Operation M) id (some row.told)
  refine sat_bind (Shared.sat_clock hsteady ⟨hrunning₁, hknows⟩ fun now g₂ hr => ?_)
  refine Shared.sat_save hsteady hr (fun g₃ hr₃ => ?_) fun _ _ => trivial
  exact guarantees_rewrite hr₃.1 (fun _ => rfl) hid rfl hr₃.2

theorem sat_resume {id : UUID} (hrunning : g.running i = .resume id) :
    Holds kind i (resumeSchedule id) g fun _ _ => True := by
  refine sat_bind (Shared.sat_existing hrunning fun row g₁ hid hrunning₁ hknows => ?_)
  have hsteady := steady_ready (i := i) (.resume id : Operation M) id (some row.told)
  refine sat_bind (Shared.sat_clock hsteady ⟨hrunning₁, hknows⟩ fun current g₂ hr₂ => ?_)
  refine sat_bind (Shared.sat_clock hsteady hr₂ fun now g₃ hr₃ => ?_)
  refine Shared.sat_save hsteady hr₃ (fun g₄ hr₄ => ?_) fun _ _ => trivial
  exact guarantees_rewrite hr₄.1 (fun _ => rfl) hid rfl hr₄.2

theorem sat_deleteSchedule {id : UUID} (hrunning : g.running i = .delete id) :
    Holds kind i (deleteSchedule id) g fun _ _ => True := by
  refine Shared.sat_answered (steady_running (.delete id)) hrunning (fun g' hrunning' => ?_) ?_
  · show (g'.running i).Effect _ _
    rw [hrunning']
    exact rfl
  · intro _ r _ _ _ _
    cases r <;> trivial

theorem sat_register {payload : ScheduleCreateRequest M}
    (hrunning : g.running i = .register payload) :
    Holds kind i (registerSchedule payload) g fun _ _ => True := by
  have hsteady := steady_running (i := i) (Operation.register payload)
  refine sat_bind (Shared.sat_clock hsteady hrunning fun now g₁ hrunning₁ => ?_)
  cases ScheduleKind.ofValue payload.kind with
  | none => exact sat_throw trivial
  | some kindOf =>
    cases ScheduleType.ofValue payload.scheduleType with
    | none => exact sat_throw trivial
    | some typeOf =>
      refine sat_bind (Shared.sat_freshId hsteady hrunning₁ fun id g₂ hrunning₂ hnew => ?_)
      have hready := steady_ready (i := i) (Operation.register payload) id none
      refine sat_bind (Shared.sat_clock hready ⟨hrunning₂, hnew⟩ fun createdAt g₃ hr₃ => ?_)
      refine sat_bind (Shared.sat_clock hready hr₃ fun updatedAt g₄ hr₄ => ?_)
      refine Shared.sat_save hready hr₄ (fun g₅ hr₅ hunchanged => ?_) fun _ _ => trivial
      rw [hr₅.1]
      exact ⟨id, hr₅.2 hunchanged, rfl⟩

/-- The task runs a dispatch, and knows what is told of the schedules it listed. -/
def Listed (i : Tid) (now : Option Instant) (schedules : List (Schedule M)) (g : Shared M Tid) :
    Prop :=
  g.running i = .dispatch now ∧
    ∀ schedule ∈ schedules, Knows i schedule.id (some schedule.told) g

omit [DecidableEq Tid] in
theorem steady_listed (now : Option Instant) (schedules : List (Schedule M)) :
    Steady i (Listed i now schedules : Shared M Tid → Prop) :=
  fun g g' hbeside h => ⟨steady_running _ g g' hbeside h.1,
    fun schedule hmem => steady_knows _ _ g g' hbeside (h.2 schedule hmem)⟩

theorem sat_recordDispatch_shared {now : Option Instant} {current : Instant}
    {schedules : List (Schedule M)} {schedule : Schedule M} (hmem : schedule ∈ schedules)
    (hlisted : Listed i now schedules g) :
    Holds kind i (recordDispatch current schedule) g fun _ => Listed i now schedules := by
  have hsteady := steady_listed (i := i) now schedules
  refine sat_bind (Shared.sat_freshId hsteady hlisted fun id g₁ hlisted₁ _ => ?_)
  refine sat_bind (Shared.sat_append hsteady hlisted₁ fun g₂ hlisted₂ => ?_)
  refine sat_bind (Shared.sat_saveSame hsteady hlisted₂ (fun _ h => h.1)
    (fun _ h => h.2 schedule hmem) fun _ g₃ hlisted₃ => ?_)
  exact sat_pure hlisted₃

theorem sat_dispatchOne_shared {now : Option Instant} {current : Instant}
    {schedules : List (Schedule M)} {schedule : Schedule M} (hmem : schedule ∈ schedules)
    (hlisted : Listed i now schedules g) :
    Holds kind i (dispatchOne hasManager current schedule) g fun _ => Listed i now schedules := by
  cases hasManager with
  | false => exact sat_recordDispatch_shared hmem hlisted
  | true =>
    exact sat_bind (Shared.sat_submit (steady_listed now schedules) hlisted
      fun _ hlisted₁ => sat_recordDispatch_shared hmem hlisted₁)

theorem sat_dispatchAt_shared {now : Option Instant} {current : Instant}
    (hrunning : g.running i = .dispatch now) :
    Holds kind i (dispatchAt hasManager current) g fun _ _ => True := by
  refine sat_bind (Shared.sat_list hrunning fun schedules g₁ hrunning₁ hknows => ?_)
  refine (sat_foldlM_list (I := fun _ _ => Listed i now schedules)
    (fun done schedule rest results g₂ hl hlisted => ?_) ⟨hrunning₁, hknows⟩).mono
      (fun _ _ _ => trivial) fun _ _ h => h
  split
  · exact sat_throw trivial
  · have hmem : schedule ∈ schedules := by simp [hl]
    exact sat_bind ((sat_dispatchOne_shared hmem hlisted).mono (fun _ _ h => sat_pure h)
      fun _ _ h => h)
  · exact sat_pure hlisted

theorem sat_dispatch {now : Option Instant} (hrunning : g.running i = .dispatch now) :
    Holds kind i (dispatchDueJobs hasManager now) g fun _ _ => True := by
  cases now with
  | none =>
    exact sat_bind (Shared.sat_clock (steady_running _) hrunning
      fun _ _ hrunning₁ => sat_dispatchAt_shared hrunning₁)
  | some now => exact sat_dispatchAt_shared hrunning

/-- Every operation keeps the contract. -/
theorem sat_program (hrunning : g.running i = operation) :
    Holds kind i (operation.program hasManager) g fun _ _ => True := by
  cases operation with
  | register payload => exact sat_bind (sat_register hrunning)
  | update id payload => exact sat_bind (sat_update hrunning)
  | pause id => exact sat_bind (sat_pause hrunning)
  | resume id => exact sat_bind (sat_resume hrunning)
  | delete id => exact sat_bind (sat_deleteSchedule hrunning)
  | dispatch now => exact sat_bind (sat_dispatch hrunning)

theorem sat_task (hrunning : g.running i = operation) :
    (operation.task hasManager).Sat (contract kind i) g fun _ _ => True :=
  Prog.sat_bind.2 (Prog.Sat.mono (fun _ _ _ => trivial) (sat_program hrunning))

/-! ## Runs -/

theorem sound (kind : RepositoryKind) (hasManager : Bool) :
    Sound (Shared.Answers kind) (Shared.Starts hasManager) InTime
      (contract kind : Tid → Prog.Contract (lang M) (Shared M Tid)) (fun _ _ => True)
      fun _ => True where
  rely_refl _ _ _ := .refl
  rely_trans _ _ _ _ _ h h' := h.trans h'
  rely_done _ _ _ h _ := h
  started := by
    rintro i g _ _ _ _ ⟨operation, rfl, rfl⟩
    refine ⟨sat_task (Function.update_self ..), trivial, fun j hj s => ?_⟩
    refine ⟨Function.update_of_ne hj .., fun id hid => ?_, fun _ _ => rfl⟩
    dsimp only
    rwa [Function.update_of_ne hj]
  answered i g s r g' _ _ hcond hact :=
    ⟨⟨hact, hcond⟩, trivial, fun j hj _ => hact.beside hj⟩

/-- What a task saves or deletes in time has the effect it says. -/
theorem inEffect_answered {s : Stmt M} {r : s.Resp} (hguar : Guarantees i g s)
    (hintime : InTime i g s r) (hact : g.Answers kind i s r g') :
    (told g'.world.table = told g.world.table ∨
      (g.running i).Effect (told g.world.table) (told g'.world.table)) ∧
    (Completes s r → (g.running i).Effect (told g.world.table) (told g'.world.table)) := by
  obtain ⟨hworld, -, -⟩ := hact
  cases s with
  | save schedule =>
    have heffect := hguar hintime
    rw [← told_put] at heffect
    cases r with
    | ok row =>
      obtain ⟨rfl, hput⟩ := hworld
      rw [hput]
      exact ⟨.inr heffect, fun _ => heffect⟩
    | error e =>
      refine ⟨?_, fun h => h.elim⟩
      rcases hworld with hput | hput
      · rw [hput]
        exact .inl rfl
      · rw [hput]
        exact .inr heffect
  | delete id =>
    have heffect : (g.running i).Effect _ _ := hguar
    rw [← told_erase] at heffect
    cases r with
    | ok found =>
      rw [hworld.2]
      exact ⟨.inr heffect, fun _ => heffect⟩
    | error e =>
      refine ⟨?_, fun h => h.elim⟩
      rcases hworld with hdrop | hdrop
      · rw [hdrop]
        exact .inl rfl
      · rw [hdrop]
        exact .inr heffect
  | get id =>
    refine ⟨.inl ?_, fun h => h.elim⟩
    cases r with
    | ok found => rw [hworld.2]
    | error e => rw [show g'.world = g.world.fail from hworld, World.fail]
  | list =>
    refine ⟨.inl ?_, fun h => h.elim⟩
    cases r with
    | ok schedules => rw [hworld.2]
    | error e => rw [show g'.world = g.world.fail from hworld, World.fail]
  | submit of current request =>
    refine ⟨.inl ?_, fun h => h.elim⟩
    cases r with
    | ok _ => rw [show g'.world = _ from hworld]
    | error e => rw [show g'.world = _ from hworld]
  | append execution =>
    refine ⟨.inl ?_, fun h => h.elim⟩
    cases r with
    | ok _ => rw [show g'.world = _ from hworld]
    | error e => rcases hworld with h | h <;> rw [h] <;> rfl
  | now => exact ⟨.inl (by rw [hworld.2]), fun h => h.elim⟩
  | uuid => exact ⟨.inl (by rw [hworld.2]), fun h => h.elim⟩

/-- From a state in which no task runs, in every history of interleaved operations whose saves are
all in time, everything that completes is in effect and only that. -/
theorem operations_in_effect (kind : RepositoryKind) (hasManager : Bool) (g : Shared M Tid)
    (turns : List ((Tid × Turn (lang M)) × SchedulerPool M Tid))
    (hrun : Run (SchedulerPool.Step kind hasManager) ⟨g, fun _ => .pure ()⟩ turns)
    (hintime : Throughout (Pool.Meets InTime) ⟨g, fun _ => .pure ()⟩ turns) :
    Throughout InEffect ⟨g, fun _ => .pure ()⟩ turns := by
  have hsound : Sound (Shared.Answers kind) (Shared.Starts hasManager) InTime
      (contract kind : Tid → Prog.Contract (lang M) (Shared M Tid)) (fun _ _ => True)
      fun _ => True :=
    sound kind hasManager
  refine hsound.throughout (fun c e c' hfine hstep hmeets => ?_) ⟨trivial, fun _ => trivial⟩ hrun
    hintime
  cases hstep with
  | @answered i s k r g' htask hact =>
    obtain ⟨honly, hcompleted⟩ := inEffect_answered (hsound.guar hfine htask) hmeets hact
    refine ⟨honly, fun s' r' heq hcompletes => ?_, fun now hdispatch => ?_⟩
    · cases heq
      exact hcompleted hcompletes
    · rcases honly with hsame | heffect
      · exact hsame
      · rw [hdispatch] at heffect
        exact heffect
  | started htask hstart =>
    obtain ⟨operation, rfl, rfl⟩ := hstart
    refine ⟨.inl rfl, fun _ _ heq => ?_, fun _ _ => rfl⟩
    cases heq

/-! ## A dispatch and a pause -/

/-- The repository in memory, when no call raises. -/
def World.respond (now : Instant) (g : World M) : (s : Stmt M) → s.Resp × World M
  | .save schedule => (.ok schedule, g.put schedule)
  | .get id => (.ok (g.table.get id), g)
  | .list => (.ok g.table.rows, g)
  | .delete id => (.ok (g.table.get id).isSome, g.drop .inMemory id)
  | .submit of at_ _ => (.ok (), { g with submitted := g.submitted ++ [(of, at_)] })
  | .append execution => (.ok (), { g with executions := g.executions ++ [execution] })
  | .now => (now, g)
  | .uuid => (g.table.keys.max?.getD 0 + 1, g)

theorem World.respond_answers {now : Instant} (hnow : now.aware = true) (g : World M)
    (s : Stmt M) : g.Answers .inMemory s (g.respond now s).1 (g.respond now s).2 := by
  cases s with
  | uuid =>
    refine ⟨?_, rfl⟩
    by_contra hstored
    have hmem := (g.table.dom _).2 (Option.isSome_iff_ne_none.2 hstored)
    have hle : _ ≤ g.table.keys.max?.getD 0 := List.le_max?_getD_of_mem hmem
    exact absurd hle (Nat.not_succ_le_self _)
  | save schedule => exact ⟨rfl, rfl⟩
  | get id => exact ⟨rfl, rfl⟩
  | list => exact ⟨rfl, rfl⟩
  | delete id => exact ⟨rfl, rfl⟩
  | submit of at_ request => rfl
  | append execution => rfl
  | now => exact ⟨hnow, rfl⟩

/-- The next call of a task is answered. -/
def proceed (i : Tid) : Move (lang M) Tid (Shared M Tid) :=
  .answer i fun g s =>
    let answer := g.world.respond 5 s
    (answer.1, { g with world := answer.2, changed := g.noted i s answer.2 })

def launch (i : Tid) (operation : Operation M) : Move (lang M) Tid (Shared M Tid) :=
  .start i (operation.task true) fun g => { g with
    running := Function.update g.running i operation
    changed := Function.update g.changed i ∅ }

theorem valid_proceed (i : Tid) :
    (proceed (M := M) i).Valid (Shared.Answers .inMemory) (Shared.Starts true) :=
  fun g s => ⟨World.respond_answers rfl g.world s, rfl, rfl⟩

theorem valid_launch (i : Tid) (operation : Operation M) :
    (launch i operation).Valid (Shared.Answers .inMemory) (Shared.Starts true) :=
  fun _ => ⟨operation, rfl, rfl⟩

/-- Stored, active, and due at 5. -/
def dueNightly : Schedule Unit :=
  { nightly with enabled := true, state := .active, nextRunAt := some 5 }

/-- Nothing runs yet. -/
def idle : Shared Unit Bool where
  world := { table := Tbl.empty.set dueNightly }
  running _ := .delete 7
  changed _ := ∅

/-- The pause ends before the dispatch lists the schedules. -/
def pauseFirst : List (Move (lang Unit) Bool (Shared Unit Bool)) :=
  [launch true (.dispatch (some 5)), launch false (.pause 7), proceed false, proceed false,
    proceed false, proceed true]

/-- The pause ends between what the dispatch lists and what it saves. -/
def pauseBetween : List (Move (lang Unit) Bool (Shared Unit Bool)) :=
  [launch true (.dispatch (some 5)), proceed true, proceed true, launch false (.pause 7),
    proceed false, proceed false, proceed false, proceed true, proceed true, proceed true]

theorem pause_in_effect : Throughout InEffect ⟨idle, fun _ => .pure ()⟩
    (Pool.play ⟨idle, fun _ => .pure ()⟩ pauseFirst) := by
  refine operations_in_effect .inMemory true idle _ (Pool.run_play ?_) ?_
  · simp [pauseFirst, valid_proceed, valid_launch]
  · refine ⟨trivial, trivial, trivial, trivial, ?_, trivial, trivial⟩
    exact fun h => h

/-- The dispatch saves the schedule as it listed it, enabled. -/
theorem pause_undone : ¬ ∀ turns,
    Run (SchedulerPool.Step .inMemory true) ⟨idle, fun _ => .pure ()⟩ turns →
      Throughout InEffect ⟨idle, fun _ => .pure ()⟩ turns := by
  intro h
  have hall := h (Pool.play ⟨idle, fun _ => .pure ()⟩ pauseBetween) (Pool.run_play ?_)
  · have hlast := hall.2.2.2.2.2.2.2.2.2.1.dispatch (some 5) rfl
    have hseven := congrFun hlast 7
    cases hseven
  · simp [pauseBetween, valid_proceed, valid_launch]

end Scheduler
end NetOps
