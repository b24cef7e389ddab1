import Mathlib.Data.List.Perm.Subperm
import NetOps.Audit.Records
import NetOps.Events.Bus
import NetOps.History

/-!
# Audit.Trail

The audit log of an event bus (`AuditService.attach_event_bus`). However publications, other
handlers and further subscriptions interleave, an event is recorded at most once for each of its
subscriptions of the service, and exactly so often when nothing is cancelled and no record fails
(`trail_exact`); it does not matter what the other handlers raise.
-/

namespace NetOps
namespace Audit

open Events History
open Json (Scalar Style Numbers)

variable {F : Type} {num : Numbers F}

abbrev Payload (F : Type) := List (String × Metadata (Scalar F))

/-- What `record` fills of a row for an event of the bus. -/
structure Row where
  eventType : String
  metadataPayload : List Char
  source : String
  category : String
  deriving DecidableEq

/-- The row of an event, as `_handle` records it. -/
def eventRow (style : Style num) (event : BaseEvent (Payload F)) : Row :=
  ⟨event.name, store style event.payload, "event_bus", "integration"⟩

variable {H X : Type} [DecidableEq H] (handle : H) (style : Style num)

/-- What handlers do to the audit log: `_handle` commits its row, and may raise before or after it
does; the others leave the log alone. -/
def act (h : H) (event : BaseEvent (Payload F)) (o : Outcome X) (rows rows' : List Row) : Prop :=
  if h = handle then
    rows' = rows ++ [eventRow style event] ∨ (o ≠ .returned ∧ rows' = rows)
  else rows' = rows

/-- A bus with subscriptions, but no publication so far. -/
def idle (registry : EventHandlerRegistry H) : EventBus H (Payload F) X (List Row) :=
  ⟨registry, [], []⟩

def attachEventBus (bus : EventBus H (Payload F) X (List Row)) :
    EventBus H (Payload F) X (List Row) :=
  { bus with registry := bus.registry.register "*" handle }

/-- How often an event reaches a service that is attached once: `handlers_for` lists the handlers of
every event twice for the event that has the name of the wildcard. -/
def times (eventName : String) : Nat := if eventName = "*" then 2 else 1

/-- The rows of a list of events. -/
def trail (events : List (BaseEvent (Payload F))) : List Row :=
  events.flatMap fun e => List.replicate (times e.name) (eventRow style e)

/-- The service is not attached again. -/
def Once (_ : EventBus H (Payload F) X (List Row)) (a : Act H (Payload F) X)
    (_ : EventBus H (Payload F) X (List Row)) : Prop :=
  ∀ name, a ≠ .subscribe name handle

/-- No handler is cancelled, and no record fails. -/
def Kept (bus : EventBus H (Payload F) X (List Row)) (a : Act H (Payload F) X)
    (_ : EventBus H (Payload F) X (List Row)) : Prop :=
  ∀ i o, a = .handled i o → o ≠ .cancelled ∧
    ∀ p, bus.publications[i]? = some p → p.next = some handle → o = .returned

/-! ## What is still to be recorded -/

/-- The rows that a publication has still to write. -/
def owed (p : Publication H (Payload F) X) : List Row :=
  List.replicate (p.waiting.count handle) (eventRow style p.event)

omit [DecidableEq H] in
theorem count_flatMap_set {A B : Type} [BEq B] {f : A → List B} {l : List A} {i : Nat} {p : A}
    (hp : l[i]? = some p) (q : A) (x : B) :
    ((l.set i q).flatMap f).count x + (f p).count x =
      (l.flatMap f).count x + (f q).count x := by
  induction l generalizing i with
  | nil => cases hp
  | cons y l ih =>
    cases i with
    | zero =>
      rw [List.getElem?_cons_zero, Option.some.injEq] at hp
      rw [List.set_cons_zero, List.flatMap_cons, List.flatMap_cons, List.count_append,
        List.count_append, hp]
      omega
    | succ i =>
      rw [List.getElem?_cons_succ] at hp
      rw [List.set_cons_succ, List.flatMap_cons, List.flatMap_cons, List.count_append,
        List.count_append]
      have := ih hp
      omega

/-- How many rows of a kind were promised, and are neither written nor owed. -/
def missing (bus : EventBus H (Payload F) X (List Row)) (x : Row) : Int :=
  ((trail style (bus.publications.map (·.event))).count x : Int) -
    (bus.state.count x + (bus.publications.flatMap (owed handle style)).count x : Nat)

/-- The service is attached exactly once. -/
def Attached (bus : EventBus H (Payload F) X (List Row)) : Prop :=
  ∀ name, (bus.registry.handlersFor name).count handle = times name

variable {handle style}

theorem attached_register {registry : EventHandlerRegistry H}
    (hfree : ∀ name, handle ∉ registry.listed name) :
    Attached (F := F) (X := X) handle (attachEventBus handle (idle registry)) := by
  intro name
  have hcount : ∀ n, (EventHandlerRegistry.listed registry n).count handle = 0 :=
    fun n => List.count_eq_zero.2 (hfree n)
  rw [EventHandlerRegistry.handlersFor, attachEventBus, idle, List.count_append,
    EventHandlerRegistry.listed_register, EventHandlerRegistry.listed_register, List.count_append,
    List.count_append, hcount, hcount, if_pos rfl, times]
  split <;> simp

theorem step_attached {bus bus' : EventBus H (Payload F) X (List Row)} {a : Act H (Payload F) X}
    (h : Attached handle bus) (hstep : Events.Step (act handle style) bus a bus')
    (honce : Once handle bus a bus') : Attached handle bus' := by
  cases hstep with
  | publish event => exact h
  | handled hp hnext hact => exact h
  | subscribe eventName handler =>
    intro name
    have hother : handler ≠ handle := fun he => honce eventName (he ▸ rfl)
    have hnone : ∀ n, (if n = eventName then [handler] else []).count handle = 0 := by
      intro n
      split
      · rw [List.count_singleton, if_neg (by simpa using hother)]
      · rfl
    rw [← h name, EventHandlerRegistry.handlersFor, EventHandlerRegistry.handlersFor,
      List.count_append, List.count_append, EventHandlerRegistry.listed_register,
      EventHandlerRegistry.listed_register, List.count_append, List.count_append, hnone, hnone]
    rfl

omit [DecidableEq H] in
/-- A handler that ends leaves the events as they were. -/
theorem map_event_set {l : List (Publication H (Payload F) X)} {i : Nat}
    {p : Publication H (Payload F) X} (hp : l[i]? = some p) (o : Outcome X) :
    (l.set i (p.handled o)).map (·.event) = l.map (·.event) := by
  obtain ⟨hi, rfl⟩ := List.getElem?_eq_some_iff.1 hp
  have hevent : (l.map (·.event)).get ⟨i, by rwa [List.length_map]⟩ = l[i].event :=
    List.getElem_map _
  rw [List.map_set, Publication.handled_event, ← hevent]
  exact List.set_getElem_self _

/-- A publication owes what its event promises. -/
theorem missing_publish {bus : EventBus H (Payload F) X (List Row)} (h : Attached handle bus)
    (event : BaseEvent (Payload F)) (x : Row) :
    missing handle style { bus with
        publications := bus.publications ++ [⟨event, bus.registry.handlersFor event.name, []⟩] } x =
      missing handle style bus x := by
  rw [missing, missing, List.map_append, trail, List.flatMap_append, List.flatMap_append,
    List.count_append, List.count_append, List.map_singleton, List.flatMap_singleton,
    List.flatMap_singleton, owed, Publication.waiting, List.length_nil, List.drop_zero, h, ← trail]
  dsimp only
  omega

/-- A step takes nothing back: what is missing never gets less, and is the same after a step that
cancels nothing and in which no record fails. -/
theorem step_missing {bus bus' : EventBus H (Payload F) X (List Row)} {a : Act H (Payload F) X}
    (h : Attached handle bus) (hstep : Events.Step (act handle style) bus a bus') (x : Row) :
    missing handle style bus x ≤ missing handle style bus' x ∧
      (Kept handle bus a bus' → missing handle style bus' x = missing handle style bus x) := by
  cases hstep with
  | subscribe eventName handler => exact ⟨Int.le_refl _, fun _ => rfl⟩
  | publish event =>
    have hsame : missing handle style _ x = missing handle style bus x :=
      missing_publish h event x
    exact ⟨Int.le_of_eq hsame.symm, fun _ => hsame⟩
  | @handled i p k o rows hp hnext hact =>
    have hset := count_flatMap_set (f := owed handle style) hp (p.handled o) x
    have hwaiting := p.waiting_of_next hnext o
    rw [missing, missing, map_event_set hp]
    by_cases hk : k = handle
    · -- `_handle` owes one row less, and has written it unless it raised
      have howed : (owed handle style p).count x =
          (owed handle style (p.handled o)).count x + [eventRow style p.event].count x := by
        rw [owed, owed, hwaiting, hk, List.count_cons_self, List.replicate_succ',
          List.count_append, Publication.handled_event]
      rw [act, if_pos hk] at hact
      rcases hact with rfl | ⟨hraised, rfl⟩
      · dsimp only
        rw [List.count_append]
        exact ⟨by omega, fun _ => by omega⟩
      · refine ⟨by dsimp only; omega, fun hkept => ?_⟩
        exact absurd ((hkept i o rfl).2 p hp (hk ▸ hnext)) hraised
    · have howed : owed handle style p = owed handle style (p.handled o) := by
        rw [owed, owed, hwaiting, List.count_cons_of_ne hk, Publication.handled_event]
      rw [act, if_neg hk] at hact
      rw [howed] at hset
      rw [hact]
      exact ⟨by dsimp only; omega, fun _ => by dsimp only; omega⟩

/-! ## Runs -/

/-- A step adds the event that it publishes to the publications. -/
theorem step_published {bus bus' : EventBus H (Payload F) X (List Row)} {a : Act H (Payload F) X}
    (hstep : Events.Step (act handle style) bus a bus') :
    bus'.publications.map (·.event) =
      bus.publications.map (·.event) ++ published [(a, bus')] := by
  cases hstep with
  | subscribe eventName handler => exact (List.append_nil _).symm
  | publish event => exact List.map_append
  | handled hp hnext hact => exact (map_event_set hp _).trans (List.append_nil _).symm

/-- A step that cancels nothing leaves no publication cancelled. -/
theorem step_uncancelled {bus bus' : EventBus H (Payload F) X (List Row)}
    {a : Act H (Payload F) X} (hstep : Events.Step (act handle style) bus a bus')
    (hkept : Kept handle bus a bus') (h : ∀ p ∈ bus.publications, p.isCancelled = false) :
    ∀ p ∈ bus'.publications, p.isCancelled = false := by
  cases hstep with
  | subscribe eventName handler => exact h
  | publish event =>
    intro p hp
    rcases List.mem_append.1 hp with hp | hp
    · exact h p hp
    · rw [List.mem_singleton.1 hp]
      rfl
  | @handled i q k o rows hq hnext hact =>
    intro p hp
    rcases List.mem_or_eq_of_mem_set hp with hp | rfl
    · exact h p hp
    · rw [Publication.handled_isCancelled, h q (List.mem_of_getElem? hq), Bool.false_or]
      cases o with
      | cancelled => exact absurd rfl (hkept i _ rfl).1
      | _ => rfl

variable {bus : EventBus H (Payload F) X (List Row)}
  {h : List (Act H (Payload F) X × EventBus H (Payload F) X (List Row))}

theorem run_published (hrun : Run (Events.Step (act handle style)) bus h) :
    (last bus h).publications.map (·.event) = bus.publications.map (·.event) ++ published h := by
  induction h generalizing bus with
  | nil => exact (List.append_nil _).symm
  | cons e h ih =>
    rw [last_cons, ih hrun.2, step_published hrun.1, List.append_assoc, published, published,
      published, ← List.filterMap_append]
    rfl

theorem run_missing (hattached : Attached handle bus)
    (hrun : Run (Events.Step (act handle style)) bus h)
    (honce : Throughout (Once handle) bus h) (x : Row) :
    missing handle style bus x ≤ missing handle style (last bus h) x ∧
      (Throughout (Kept handle) bus h →
        missing handle style (last bus h) x = missing handle style bus x) := by
  induction h generalizing bus with
  | nil => exact ⟨Int.le_refl _, fun _ => rfl⟩
  | cons e h ih =>
    obtain ⟨hle, heq⟩ := step_missing hattached hrun.1 x
    obtain ⟨hle', heq'⟩ := ih (step_attached hattached hrun.1 honce.1) hrun.2 honce.2
    exact ⟨Int.le_trans hle hle', fun hkept => (heq' hkept.2).trans (heq hkept.1)⟩

theorem run_uncancelled (hrun : Run (Events.Step (act handle style)) bus h)
    (hkept : Throughout (Kept handle) bus h)
    (hbus : ∀ p ∈ bus.publications, p.isCancelled = false) :
    ∀ p ∈ (last bus h).publications, p.isCancelled = false := by
  induction h generalizing bus with
  | nil => exact hbus
  | cons e h ih => exact ih hrun.2 hkept.2 (step_uncancelled hrun.1 hkept.1 hbus)

/-- A publication that has ended uncancelled has called all of its handlers. -/
theorem owed_ended {p : Publication H (Payload F) X} (huncancelled : p.isCancelled = false)
    (hended : p.ending ≠ none) : owed handle style p = [] := by
  rw [Publication.ending, huncancelled] at hended
  rw [owed]
  cases hwaiting : p.waiting with
  | nil => rfl
  | cons k rest =>
    rw [hwaiting] at hended
    exact absurd rfl hended

/-- On a bus that the service is attached to once, whatever is published, raised, subscribed and
cancelled in whatever order, no event is recorded more often than it is published to the service;
and when every publication has ended, nothing was cancelled and no record failed, the rows are those
of the published events, in some order. -/
theorem trail_exact {registry : EventHandlerRegistry H}
    (hfree : ∀ name, handle ∉ registry.listed name)
    (hrun : Run (Events.Step (act handle style)) (attachEventBus handle (idle registry)) h)
    (honce : Throughout (Once handle) (attachEventBus handle (idle registry)) h) :
    (last (attachEventBus handle (idle registry)) h).state.Subperm (trail style (published h)) ∧
      (Throughout (Kept handle) (attachEventBus handle (idle registry)) h →
        (∀ p ∈ (last (attachEventBus handle (idle registry)) h).publications, p.ending ≠ none) →
        (last (attachEventBus handle (idle registry)) h).state.Perm
          (trail style (published h))) := by
  have hevents : (last (attachEventBus handle (idle registry)) h).publications.map (·.event) =
      published h := run_published hrun
  have hmissing := run_missing (attached_register hfree) hrun honce
  have hstart : ∀ x, missing handle style (attachEventBus handle (idle registry) :
      EventBus H (Payload F) X (List Row)) x = 0 := fun x => rfl
  constructor
  · refine List.subperm_ext_iff.2 fun x _ => ?_
    have hle := (hmissing x).1
    rw [hstart, missing, hevents] at hle
    omega
  · intro hkept hended
    have hnone : (last (attachEventBus handle (idle registry)) h).publications.flatMap
        (owed handle style) = [] := by
      refine List.flatMap_eq_nil_iff.2 fun p hp => owed_ended ?_ (hended p hp)
      exact run_uncancelled hrun hkept (fun p hp => by cases hp) p hp
    refine List.perm_iff_count.2 fun x => ?_
    have heq := (hmissing x).2 hkept
    rw [hstart, missing, hevents, hnone, List.count_nil] at heq
    omega

/-! ## A handler that raises, and an event that overtakes another -/

def completed : BaseEvent (Payload Empty) := ⟨"job.completed", [("token", .leaf (.str "t"))]⟩

def submitted : BaseEvent (Payload Empty) := ⟨"job.submitted", []⟩

/-- A registry in which another handler waits for completed jobs. -/
def notifier : EventHandlerRegistry Nat :=
  EventHandlerRegistry.register Dict.empty "job.completed" 1

theorem notifier_free (name : String) : 0 ∉ notifier.listed name := by
  rw [notifier, EventHandlerRegistry.listed_register, EventHandlerRegistry.listed, Dict.get?_empty]
  split <;> decide

theorem trail_exact_raised : ∃ h : List (Act Nat (Payload Empty) String ×
      EventBus Nat (Payload Empty) String (List Row)),
    h.map Prod.fst = [.publish completed, .publish submitted, .handled 1 .returned,
      .handled 0 (.raised "unreachable"), .handled 0 .returned] ∧
    (last (attachEventBus 0 (idle notifier)) h).state.Perm
      (trail pythonStyle [completed, submitted]) := by
  have hrun : Run (Events.Step (act 0 pythonStyle)) (attachEventBus 0 (idle notifier))
      [(.publish completed, _), (.publish submitted, _), (.handled 1 .returned, _),
        (.handled 0 (.raised "unreachable"), _), (.handled 0 .returned, _)] :=
    ⟨.publish completed, .publish submitted, .handled rfl rfl (.inl rfl), .handled rfl rfl rfl,
      .handled rfl rfl (.inl rfl), trivial⟩
  refine ⟨_, ?_, (trail_exact notifier_free hrun ?_).2 ?_ ?_⟩
  · rfl
  · simp [Once]
  · refine ⟨?_, ?_, ?_, ?_, ?_, trivial⟩ <;> rintro i o ⟨⟩ <;> refine ⟨by decide, ?_⟩ <;>
      rintro p ⟨⟩ hnext
    · rfl
    · exact absurd hnext (by decide +kernel)
    · rfl
  · decide +kernel

end Audit
end NetOps
