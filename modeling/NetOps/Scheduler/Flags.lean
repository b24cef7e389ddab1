import NetOps.Scheduler.Service

/-!
# Scheduler.Flags

The state of a schedule and its enabled flag, over sequences of operations.

* `sat_updateSchedule` and its like: what an operation can do to the table.
* `step_agrees`: an operation keeps that the two agree, and an update that does not mention the flag
  leaves both, if such updates find enabled schedules only (`MentionsFlag`).
* `flags_agree`: so it goes for every sequence of operations. `update_breaks`: an update that does
  not meet the condition breaks it, once it is stored.
-/

namespace NetOps
namespace Scheduler

open Conc Conc.Raises History
open Discovery (UUID)

variable {M : Type} {kind : RepositoryKind} {g g' : World M} {id : UUID}

/-! ## Operations in sequence -/

inductive Operation (M : Type) where
  | register (payload : ScheduleCreateRequest M)
  | update (id : UUID) (payload : ScheduleUpdateRequest)
  | pause (id : UUID)
  | resume (id : UUID)
  | delete (id : UUID)
  | dispatch (now : Option Instant)

def Operation.program (hasManager : Bool) : Operation M → Service M Unit
  | .register payload => do let _ ← registerSchedule payload
  | .update id payload => do let _ ← updateSchedule id payload
  | .pause id => do let _ ← pauseSchedule id
  | .resume id => do let _ ← resumeSchedule id
  | .delete id => do let _ ← deleteSchedule id
  | .dispatch now => do let _ ← dispatchDueJobs hasManager now

/-- One operation, run to its end or to where it raises. -/
def OperationStep (kind : RepositoryKind) (hasManager : Bool) (g : World M)
    (operation : Operation M) (g' : World M) : Prop :=
  ∃ r, (ExceptT.run (operation.program hasManager)).Runs (World.Answers kind) g r g'

/-- What the program of an operation leaves, the operation leaves. -/
theorem OperationStep.post {α : Type} {hasManager : Bool} {operation : Operation M}
    {m : Service M α} {Q : World M → Prop} (hstep : OperationStep kind hasManager g operation g')
    (hprogram : operation.program hasManager = m >>= fun _ => pure ())
    (h : Sat (aloneOn kind) m g (fun _ => Q) fun _ => Q) : Q g' := by
  obtain ⟨r, hrun⟩ := hstep
  rw [hprogram] at hrun
  exact Raises.Sat.runs (sat_bind (h.mono (fun _ _ hq => sat_pure hq) fun _ _ hq => hq)) hrun

/-! ## What an operation does to the table -/

/-- The table is as it was, or the operation stored a new version of the schedule it found. -/
def Rewrote (kind : RepositoryKind) (g : World M) (id : UUID)
    (version : Schedule M → Schedule M → Prop) (g' : World M) : Prop :=
  g'.table = g.table ∨ ∃ row new, g.table.get id = some row ∧ version row new ∧
    g'.table = g.table.set (savedRow kind g.table new)

theorem sat_updateSchedule {payload : ScheduleUpdateRequest} :
    Sat (aloneOn kind) (updateSchedule id payload) g
      (fun _ => Rewrote kind g id fun row new => ∃ now, new = payload.applied now row)
      (fun _ => Rewrote kind g id fun row new => ∃ now, new = payload.applied now row) := by
  refine sat_bind (sat_existing (fun row hrow => ?_) (fun _ => .inl rfl) fun _ => .inl rfl)
  refine sat_bind (sat_clock fun now => ?_)
  have hwrote : Rewrote kind g id (fun row new => ∃ now, new = payload.applied now row)
      (g.put (savedRow kind g.table (payload.applied now row))) :=
    .inr ⟨row, _, hrow, ⟨now, rfl⟩, rfl⟩
  exact sat_save hwrote (fun _ => .inl rfl) fun _ => hwrote

theorem sat_pauseSchedule :
    Sat (aloneOn kind) (pauseSchedule id) g
      (fun _ => Rewrote kind g id fun row new => ∃ now, new = row.paused now)
      (fun _ => Rewrote kind g id fun row new => ∃ now, new = row.paused now) := by
  refine sat_bind (sat_existing (fun row hrow => ?_) (fun _ => .inl rfl) fun _ => .inl rfl)
  refine sat_bind (sat_clock fun now => ?_)
  have hwrote : Rewrote kind g id (fun row new => ∃ now, new = row.paused now)
      (g.put (savedRow kind g.table (row.paused now))) := .inr ⟨row, _, hrow, ⟨now, rfl⟩, rfl⟩
  exact sat_save hwrote (fun _ => .inl rfl) fun _ => hwrote

theorem sat_resumeSchedule :
    Sat (aloneOn kind) (resumeSchedule id) g
      (fun _ => Rewrote kind g id fun row new => ∃ current now, new = row.resumed current now)
      (fun _ => Rewrote kind g id fun row new => ∃ current now, new = row.resumed current now) := by
  refine sat_bind (sat_existing (fun row hrow => ?_) (fun _ => .inl rfl) fun _ => .inl rfl)
  refine sat_bind (sat_clock fun current => ?_)
  refine sat_bind (sat_clock fun now => ?_)
  have hwrote : Rewrote kind g id (fun row new => ∃ current now, new = row.resumed current now)
      (g.put (savedRow kind g.table (row.resumed current now))) :=
    .inr ⟨row, _, hrow, ⟨current, now, rfl⟩, rfl⟩
  exact sat_save hwrote (fun _ => .inl rfl) fun _ => hwrote

/-- The table is as it was, or has a new schedule, enabled and active as the request says. -/
def Registered (kind : RepositoryKind) (g : World M) (payload : ScheduleCreateRequest M)
    (g' : World M) : Prop :=
  g'.table = g.table ∨ ∃ new : Schedule M, g.table.get new.id = none ∧
    new.enabled = payload.enabled ∧ new.state = (if payload.enabled then .active else .disabled) ∧
    g'.table = g.table.set (savedRow kind g.table new)

theorem sat_registerSchedule {payload : ScheduleCreateRequest M} :
    Sat (aloneOn kind) (registerSchedule payload) g (fun _ => Registered kind g payload)
      (fun _ => Registered kind g payload) := by
  refine sat_bind (sat_clock fun now => ?_)
  cases ScheduleKind.ofValue payload.kind with
  | none => exact sat_throw (.inl rfl)
  | some kindOf =>
    cases ScheduleType.ofValue payload.scheduleType with
    | none => exact sat_throw (.inl rfl)
    | some typeOf =>
      refine sat_bind (sat_freshId fun id hid => ?_)
      refine sat_bind (sat_clock fun createdAt => ?_)
      refine sat_bind (sat_clock fun updatedAt => ?_)
      exact sat_save (.inr ⟨_, hid, rfl, rfl, rfl⟩) (fun _ => .inl rfl)
        fun _ => .inr ⟨_, hid, rfl, rfl, rfl⟩

/-! ## Flags -/

def Schedule.flags (schedule : Schedule M) : Bool × ScheduleState :=
  (schedule.enabled, schedule.state)

/-- The same schedules are stored, with the same flags. -/
def SameFlags (table table' : ScheduleTable M) : Prop :=
  ∀ id, (table'.get id).map Schedule.flags = (table.get id).map Schedule.flags

@[simp] theorem flags_savedRow {table : ScheduleTable M} {schedule : Schedule M} :
    (savedRow kind table schedule).flags = schedule.flags := by
  simp [Schedule.flags]

@[simp] theorem flags_dispatched {current : Instant} {schedule : Schedule M} :
    (schedule.dispatched current).flags = schedule.flags := rfl

theorem SameFlags.set {table : ScheduleTable M} {new : Schedule M} (row : Schedule M)
    (hrow : table.get new.id = some row) (hflags : new.flags = row.flags) :
    SameFlags table (table.set (savedRow kind table new)) := by
  intro id
  rw [Tbl.get_set, savedRow_id]
  by_cases hid : id = new.id
  · subst hid
    rw [if_pos rfl, hrow]
    simp [hflags]
  · rw [if_neg hid]

/-- The table has the same flags as before. -/
def FlagsKept (g g' : World M) : Prop := SameFlags g.table g'.table

theorem sat_recordDispatch_flags {g₁ : World M} {current : Instant} {schedule : Schedule M}
    (hkept : FlagsKept g g₁) (h : (g₁.table.get schedule.id).map Schedule.flags =
      some schedule.flags) :
    Sat (aloneOn kind) (recordDispatch current schedule) g₁ (fun _ => FlagsKept g)
      (fun _ => FlagsKept g) := by
  obtain ⟨row, hrow, hflags⟩ := Option.map_eq_some_iff.1 h
  have hset : SameFlags g₁.table
      (g₁.table.set (savedRow kind g₁.table (schedule.dispatched current))) :=
    SameFlags.set row hrow (by rw [flags_dispatched, hflags])
  have hput : FlagsKept g (g₁.put (savedRow kind g₁.table (schedule.dispatched current))) :=
    fun id => (hset id).trans (hkept id)
  refine sat_bind (sat_freshId fun id _ => ?_)
  refine sat_bind (sat_append ?_ (fun _ => hkept) fun _ => hkept)
  exact sat_bind (sat_save (sat_pure hput) (fun _ => hkept) fun _ => hput)

/-- A schedule that is dispatched while its flags are those stored keeps them. -/
theorem sat_dispatchOne_flags {g₁ : World M} {hasManager : Bool} {current : Instant}
    {schedule : Schedule M} (hkept : FlagsKept g g₁)
    (h : (g₁.table.get schedule.id).map Schedule.flags = some schedule.flags) :
    Sat (aloneOn kind) (dispatchOne hasManager current schedule) g₁ (fun _ => FlagsKept g)
      (fun _ => FlagsKept g) := by
  cases hasManager with
  | false => exact sat_recordDispatch_flags hkept h
  | true => exact sat_bind (sat_submit (sat_recordDispatch_flags hkept h) fun _ => hkept)

theorem sat_dispatchAt_flags {hasManager : Bool} {current : Instant} :
    Sat (aloneOn kind) (dispatchAt hasManager current) g (fun _ => FlagsKept g)
      (fun _ => FlagsKept g) := by
  refine sat_bind (sat_list (fun schedules hlists => ?_) fun _ _ => rfl)
  refine sat_foldlM_list (I := fun _ _ => FlagsKept g)
    (fun done schedule rest results g₁ hl hkept => ?_) fun _ => rfl
  split
  · exact sat_throw hkept
  · have hmem : g.table.get schedule.id = some schedule := hlists.mem.1 (by simp [hl])
    have hstored : (g₁.table.get schedule.id).map Schedule.flags = some schedule.flags := by
      rw [hkept schedule.id, hmem, Option.map_some]
    exact sat_bind ((sat_dispatchOne_flags hkept hstored).mono (fun _ _ h => sat_pure h)
      fun _ _ h => h)
  · exact sat_pure hkept

theorem sat_dispatchDueJobs_flags {hasManager : Bool} {now : Option Instant} :
    Sat (aloneOn kind) (dispatchDueJobs hasManager now) g (fun _ => FlagsKept g)
      (fun _ => FlagsKept g) := by
  cases now with
  | none => exact sat_bind (sat_clock fun _ => sat_dispatchAt_flags)
  | some now => exact sat_dispatchAt_flags

/-! ## State and flag agree -/

def Schedule.Agrees (schedule : Schedule M) : Prop :=
  schedule.enabled = true ↔ schedule.state = .active

def AllAgree (table : ScheduleTable M) : Prop :=
  ∀ id schedule, table.get id = some schedule → schedule.Agrees

/-- Of an update that does not mention the flag: the schedule it finds is enabled. -/
def MentionsFlag (g : World M) : Operation M → Prop
  | .update id payload =>
    payload.enabled = none → ∀ schedule, g.table.get id = some schedule → schedule.enabled = true
  | _ => True

/-- All stored schedules agree, and an update that does not mention the flag left the flags. -/
structure StepAgrees (g : World M) (operation : Operation M) (g' : World M) : Prop where
  agree : AllAgree g'.table
  unmentioned : ∀ id payload, operation = .update id payload → payload.enabled = none →
    SameFlags g.table g'.table

theorem Schedule.Agrees.of_flags {schedule schedule' : Schedule M} (h : schedule.Agrees)
    (hflags : schedule'.flags = schedule.flags) : schedule'.Agrees := by
  obtain ⟨henabled, hstate⟩ := Prod.mk.inj hflags
  unfold Schedule.Agrees
  rw [henabled, hstate]
  exact h

theorem AllAgree.of_sameFlags {table table' : ScheduleTable M} (h : AllAgree table)
    (hsame : SameFlags table table') : AllAgree table' := by
  intro id schedule hget
  have hflags := hsame id
  rw [hget, Option.map_some] at hflags
  obtain ⟨row, hrow, heq⟩ := Option.map_eq_some_iff.1 hflags.symm
  exact (h id row hrow).of_flags heq.symm

theorem AllAgree.set {table : ScheduleTable M} {new : Schedule M} (h : AllAgree table)
    (hnew : new.Agrees) : AllAgree (table.set (savedRow kind table new)) := by
  intro id schedule hget
  rw [Tbl.get_set] at hget
  split at hget
  · rw [← Option.some.inj hget]
    exact hnew.of_flags flags_savedRow
  · exact h id schedule hget

theorem AllAgree.erase {table : ScheduleTable M} (h : AllAgree table) :
    AllAgree (table.erase id) := by
  intro id' schedule hget
  rw [ScheduleTable.get_erase] at hget
  split at hget
  · cases hget
  · exact h id' schedule hget

/-- An update that does not mention the flag of an enabled and active schedule leaves its flags. -/
theorem flags_applied {payload : ScheduleUpdateRequest} {now : Instant} {row : Schedule M}
    (hnone : payload.enabled = none) (henabled : row.enabled = true) (hagrees : row.Agrees) :
    (payload.applied now row).flags = row.flags := by
  simp [ScheduleUpdateRequest.applied, Schedule.flags, hnone, hagrees.1 henabled]

theorem agrees_applied {payload : ScheduleUpdateRequest} {now : Instant} {row : Schedule M}
    (hagrees : row.Agrees) (h : payload.enabled = none → row.enabled = true) :
    (payload.applied now row).Agrees := by
  cases henabled : payload.enabled with
  | none => exact hagrees.of_flags (flags_applied henabled (h henabled) hagrees)
  | some enabled =>
    cases enabled <;> simp [ScheduleUpdateRequest.applied, Schedule.Agrees, henabled]

theorem Rewrote.allAgree {version : Schedule M → Schedule M → Prop}
    (h : Rewrote kind g id version g') (hall : AllAgree g.table)
    (hversion : ∀ row new, g.table.get id = some row → version row new → new.Agrees) :
    AllAgree g'.table := by
  rcases h with heq | ⟨row, new, hrow, hnew, heq⟩
  · rwa [heq]
  · rw [heq]
    exact hall.set (hversion row new hrow hnew)

/-- An operation that meets the condition keeps that the schedules agree. -/
theorem step_agrees {hasManager : Bool} {operation : Operation M} (hall : AllAgree g.table)
    (hstep : OperationStep kind hasManager g operation g')
    (hcond : MentionsFlag g operation) : StepAgrees g operation g' := by
  cases operation with
  | register payload =>
    refine ⟨?_, fun _ _ heq => by cases heq⟩
    have hpost : Registered kind g payload g' :=
      hstep.post rfl sat_registerSchedule
    rcases hpost with heq | ⟨new, _, henabled, hstate, heq⟩
    · rwa [heq]
    · rw [heq]
      refine hall.set ?_
      unfold Schedule.Agrees
      rw [henabled, hstate]
      cases payload.enabled <;> simp
  | update id payload =>
    have hpost : Rewrote kind g id (fun row new => ∃ now, new = payload.applied now row) g' :=
      hstep.post rfl sat_updateSchedule
    refine ⟨hpost.allAgree hall ?_, ?_⟩
    · rintro row _ hrow ⟨now, rfl⟩
      exact agrees_applied (hall id row hrow) fun hnone => hcond hnone row hrow
    · rintro _ _ ⟨⟩ hnone
      rcases hpost with heq | ⟨row, _, hrow, ⟨now, rfl⟩, heq⟩
      · rw [heq]
        exact fun _ => rfl
      · rw [heq]
        have hkey : row.id = id := g.table.keyed _ _ hrow
        refine SameFlags.set row ?_
          (flags_applied hnone (hcond hnone row hrow) (hall id row hrow))
        rw [← hrow, ← hkey]
        rfl
  | pause id =>
    refine ⟨?_, fun _ _ heq => by cases heq⟩
    have hpost : Rewrote kind g id (fun row new => ∃ now, new = row.paused now) g' :=
      hstep.post rfl sat_pauseSchedule
    refine hpost.allAgree hall ?_
    rintro row _ _ ⟨now, rfl⟩
    simp [Schedule.Agrees, Schedule.paused]
  | resume id =>
    refine ⟨?_, fun _ _ heq => by cases heq⟩
    have hpost : Rewrote kind g id
        (fun row new => ∃ current now, new = row.resumed current now) g' :=
      hstep.post rfl sat_resumeSchedule
    refine hpost.allAgree hall ?_
    rintro row _ _ ⟨current, now, rfl⟩
    simp [Schedule.Agrees, Schedule.resumed]
  | delete id =>
    refine ⟨?_, fun _ _ heq => by cases heq⟩
    refine hstep.post (Q := fun g' => AllAgree g'.table) (m := deleteSchedule id) rfl ?_
    exact sat_delete (fun _ => hall.erase) (fun _ => hall) fun _ => hall.erase
  | dispatch now =>
    refine ⟨?_, fun _ _ heq => by cases heq⟩
    have hpost : FlagsKept g g' :=
      hstep.post rfl sat_dispatchDueJobs_flags
    exact hall.of_sameFlags hpost

/-- In every sequence of operations whose updates all meet the condition, the stored schedules agree
after each, and an update that does not mention the flag leaves the flags. -/
theorem flags_agree (kind : RepositoryKind) (hasManager : Bool) (g : World M)
    (hall : AllAgree g.table) (operations : List (Operation M × World M))
    (hrun : Run (OperationStep kind hasManager) g operations)
    (hcond : Throughout (fun g operation _ => MentionsFlag g operation) g operations) :
    Throughout StepAgrees g operations := by
  refine throughout_of_inv (I := fun g => AllAgree g.table) ?_ hall hrun hcond
  intro g operation g' hall hstep hmentions
  have hagrees := step_agrees hall hstep hmentions
  exact ⟨hagrees, hagrees.agree⟩

/-- An update that does not meet the condition breaks the agreement once it is stored. -/
theorem update_breaks {payload : ScheduleUpdateRequest} {new : Schedule M}
    (hrun : (ExceptT.run (updateSchedule id payload)).Runs (World.Answers kind) g (.ok new) g')
    (hcond : ¬ MentionsFlag g (.update id payload)) :
    ¬ StepAgrees g (.update id payload) g' := by
  obtain ⟨hnone, row, hrow, hdisabled⟩ : payload.enabled = none ∧ ∃ row,
      g.table.get id = some row ∧ row.enabled = false := by
    simpa [MentionsFlag] using hcond
  have hstored : ∃ now,
      g'.table = g.table.set (savedRow kind g.table (payload.applied now row)) := by
    have hsat : Sat (aloneOn kind) (updateSchedule id payload) g
        (fun _ g' => ∃ now,
          g'.table = g.table.set (savedRow kind g.table (payload.applied now row)))
        (fun _ _ => True) := by
      refine sat_bind (sat_existing (fun row' hrow' => ?_) (fun _ => trivial) fun _ => trivial)
      refine sat_bind (sat_clock fun now => ?_)
      rw [hrow, Option.some.injEq] at hrow'
      rw [← hrow']
      exact sat_save ⟨now, rfl⟩ (fun _ => trivial) fun _ => trivial
    exact Prog.Sat.runs hsat hrun
  obtain ⟨now, htable⟩ := hstored
  intro hagrees
  have hget : g'.table.get row.id = some (savedRow kind g.table (payload.applied now row)) := by
    rw [htable, Tbl.get_set, if_pos]
    simp [ScheduleUpdateRequest.applied]
  have hbroken := hagrees.agree _ _ hget
  simp [Schedule.Agrees, ScheduleUpdateRequest.applied, hnone, hdisabled] at hbroken

/-! ## A schedule that is renamed -/

def nightly : Schedule Unit where
  id := 7
  name := "nightly"
  kind := .discovery
  scheduleType := .daily
  enabled := false
  intervalSeconds := none
  startAt := some 0
  nextRunAt := some ((0 : Instant) + days 1)
  lastRunAt := none
  createdAt := 0
  updatedAt := 0
  state := .disabled
  metadata := ()

def nothingStored : World Unit := { table := .empty }

/-- The schedule is registered disabled, paused, and renamed. -/
def nightlyRegistered : World Unit := nothingStored.put nightly

def nightlyPaused : World Unit := nightlyRegistered.put (nightly.paused 1)

def nightlyRenamed : World Unit :=
  nightlyPaused.put (ScheduleUpdateRequest.applied { name := some "weekly" } 2 (nightly.paused 1))

def registerNightly : Operation Unit :=
  .register { name := "nightly", scheduleType := "daily", enabled := false, metadata := () }

theorem register_nightly : OperationStep .inMemory true nothingStored registerNightly
    nightlyRegistered :=
  ⟨.ok (), 0, _, ⟨rfl, rfl⟩, 7, _, ⟨rfl, rfl⟩, 0, _, ⟨rfl, rfl⟩, 0, _, ⟨rfl, rfl⟩, .ok nightly, _,
    ⟨rfl, rfl⟩, rfl, rfl⟩

theorem pause_nightly : OperationStep .inMemory true nightlyRegistered (.pause 7) nightlyPaused :=
  ⟨.ok (), .ok (some nightly), _, ⟨rfl, rfl⟩, 1, _, ⟨rfl, rfl⟩, .ok _, _, ⟨rfl, rfl⟩, rfl, rfl⟩

theorem rename_nightly : OperationStep .inMemory true nightlyPaused
    (.update 7 { name := some "weekly" }) nightlyRenamed :=
  ⟨.ok (), .ok (some (nightly.paused 1)), _, ⟨rfl, rfl⟩, 2, _, ⟨rfl, rfl⟩, .ok _, _, ⟨rfl, rfl⟩,
    rfl, rfl⟩

theorem nightly_agrees :
    AllAgree nothingStored.table ∧
    Throughout StepAgrees nothingStored
      [(registerNightly, nightlyRegistered), (.pause 7, nightlyPaused)] := by
  have hnone : AllAgree nothingStored.table := fun _ _ h => by cases h
  exact ⟨hnone, flags_agree .inMemory true nothingStored hnone _
    ⟨register_nightly, pause_nightly, trivial⟩ ⟨trivial, trivial, trivial⟩⟩

/-- Renamed, a paused schedule is active again, and not enabled. -/
theorem rename_activates : ¬ ∀ operations,
    Run (OperationStep .inMemory true) nothingStored operations →
      Throughout StepAgrees nothingStored operations := by
  intro h
  have hagrees := (h [(registerNightly, nightlyRegistered), (.pause 7, nightlyPaused),
    (.update 7 { name := some "weekly" }, nightlyRenamed)]
    ⟨register_nightly, pause_nightly, rename_nightly, trivial⟩).2.2.1
  have hbroken := hagrees.agree 7 _ rfl
  cases hbroken.2 rfl

end Scheduler
end NetOps
