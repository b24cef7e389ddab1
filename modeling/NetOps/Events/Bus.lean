import Mathlib.Data.List.Basic
import NetOps.Dict

/-!
# Events.Bus

The event bus (`events/registry.py`, `events/dispatcher.py`, `events/bus.py`). Any number of
publications are under way at once; their handlers end one at a time, in any order, and what a
handler does to the state it works on is up to the handler.

* `Step.next_drop`: a handler that ends is the first of those its publication has not called.
* `count_set`: what one publication of many stands for, counted.
-/

namespace NetOps
namespace Events

variable {H V X S : Type}

/-- A `BaseEvent`, without its time. -/
structure BaseEvent (V : Type) where
  name : String
  payload : V
  deriving DecidableEq

/-! ## Registry -/

abbrev EventHandlerRegistry (H : Type) := Dict String (List H)

namespace EventHandlerRegistry

variable (registry : EventHandlerRegistry H)

/-- `self._handlers.get(event_name, ())`. -/
def listed (eventName : String) : List H := (registry.get? eventName).getD []

/-- `self._handlers.setdefault(event_name, []).append(handler)`. -/
def register (eventName : String) (handler : H) : EventHandlerRegistry H :=
  registry.insert eventName (listed registry eventName ++ [handler])

def handlersFor (eventName : String) : List H :=
  listed registry eventName ++ listed registry "*"

theorem listed_register (eventName name : String) (handler : H) :
    listed (register registry eventName handler) name =
      listed registry name ++ if name = eventName then [handler] else [] := by
  rw [listed, register, Dict.get?_insert]
  split
  · next h => rw [h, Option.getD_some]
  · rw [List.append_nil, listed]

end EventHandlerRegistry

/-! ## Publications -/

/-- How a handler ends. The dispatcher keeps an `Exception` that was `raised`; it lets any other
through, such as the cancellation of its task. -/
inductive Outcome (X : Type) where
  | returned
  | raised (error : X)
  | cancelled
  deriving DecidableEq

def Outcome.error? : Outcome X → Option X
  | raised error => some error
  | _ => none

def Outcome.isCancelled : Outcome X → Bool
  | cancelled => true
  | _ => false

/-- How `publish` ends. `raised` is an `EventError`, from the first of the errors. -/
inductive Ending (X : Type) where
  | returned
  | raised (cause : X)
  | cancelled
  deriving DecidableEq

/-- A call of `EventDispatcher.publish`: the handlers that it was given, and how those that it has
called ended. -/
structure Publication (H V X : Type) where
  event : BaseEvent V
  handlers : List H
  outcomes : List (Outcome X) := []

namespace Publication

variable (p : Publication H V X)

def isCancelled : Bool := p.outcomes.any Outcome.isCancelled

/-- The handlers that it has still to call. -/
def waiting : List H := p.handlers.drop p.outcomes.length

/-- The handler that it calls next, or awaits. -/
def next : Option H := if p.isCancelled then none else p.waiting.head?

def errors : List X := p.outcomes.filterMap Outcome.error?

/-- How it has ended; `none` while a handler is awaited. -/
def ending : Option (Ending X) :=
  if p.isCancelled then some .cancelled
  else match p.waiting, p.errors with
    | _ :: _, _ => none
    | [], [] => some .returned
    | [], error :: _ => some (.raised error)

def handled (o : Outcome X) : Publication H V X := { p with outcomes := p.outcomes ++ [o] }

@[simp] theorem handled_event (o : Outcome X) : (p.handled o).event = p.event := rfl

theorem handled_isCancelled (o : Outcome X) :
    (p.handled o).isCancelled = (p.isCancelled || o.isCancelled) := by
  rw [isCancelled, handled, List.any_append]
  exact congrArg _ (Bool.or_false _)

/-- A handler that ends is the first of those waiting. -/
theorem waiting_of_next {h : H} (hnext : p.next = some h) (o : Outcome X) :
    p.waiting = h :: (p.handled o).waiting := by
  rw [next] at hnext
  split at hnext
  · cases hnext
  · obtain ⟨rest, hrest⟩ := List.head?_eq_some_iff.1 hnext
    rw [waiting] at hrest
    rw [waiting, waiting, handled, List.length_append, List.length_singleton, ← List.drop_drop,
      hrest]
    rfl

end Publication

/-! ## The bus -/

structure EventBus (H V X S : Type) where
  registry : EventHandlerRegistry H
  publications : List (Publication H V X)
  state : S

/-- `handled` ends the handler that a publication calls or awaits. -/
inductive Act (H V X : Type) where
  | subscribe (eventName : String) (handler : H)
  | publish (event : BaseEvent V)
  | handled (i : Nat) (o : Outcome X)

variable (act : H → BaseEvent V → Outcome X → S → S → Prop)

inductive Step : EventBus H V X S → Act H V X → EventBus H V X S → Prop where
  | subscribe {bus : EventBus H V X S} (eventName : String) (handler : H) :
      Step bus (.subscribe eventName handler)
        { bus with registry := bus.registry.register eventName handler }
  | publish {bus : EventBus H V X S} (event : BaseEvent V) :
      Step bus (.publish event)
        { bus with
          publications := bus.publications ++ [⟨event, bus.registry.handlersFor event.name, []⟩] }
  | handled {bus : EventBus H V X S} {i : Nat} {p : Publication H V X} {h : H} {o : Outcome X}
      {s : S} (hp : bus.publications[i]? = some p) (hnext : p.next = some h)
      (hact : act h p.event o bus.state s) :
      Step bus (.handled i o)
        { bus with publications := bus.publications.set i (p.handled o), state := s }

/-- The events that a history publishes. -/
def published (h : List (Act H V X × EventBus H V X S)) : List (BaseEvent V) :=
  h.filterMap fun e => match e.1 with
    | .publish event => some event
    | _ => none

end Events
end NetOps
