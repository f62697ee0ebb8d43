import NabtoDevice.Spec.EventQueue

/-! The event queue that runs its events on a thread of its own
(`src/modules/event_queue/thread_event_queue.c`). A step is a critical section: the calls
of the interface and the first half of the loop of `queue_thread` hold `queueMutex`, the
callback of an event holds `coreMutex`. Events are numbered as they are created, so that
memory that is used again is another event. -/

namespace NabtoDevice

/-- What the queue thread does while it holds `queueMutex`. -/
inductive QueueThreadTurn (α : Type*)
  | take (event : α) (queue : NmEventQueue α)
  | timedWait (milliseconds : Option ℤ)
  | wait
  | stop

def queueThreadTurn {α : Type*} (overflow : UInt32 → UInt32 → Bool) (queue : NmEventQueue α)
    (stopped : Bool) (now : UInt32) :
    QueueThreadTurn α :=
  match queue.takeEvent with
  | some (event, queue) => .take event queue
  | none =>
    match queue.takeTimedEvent overflow now with
    | some (event, queue) => .take event queue
    | none =>
      match queue.nextTimedEvent with
      | some nextEvent => .timedWait (npTimestampDifference nextEvent now)
      | none => if stopped then .stop else .wait

/-- Where the queue thread is in its loop. -/
inductive QueueThreadState (α : Type*)
  | looping
  /-- An event has been taken off the queue and is to be executed. -/
  | taken (event : α)
  /-- The callback runs, with `coreMutex` held. -/
  | executing (event : α)
  | returned
  deriving DecidableEq, Repr

inductive NpEventMemory
  | unused
  | allocated
  | freed
  deriving DecidableEq, Repr

structure ThreadEventQueue (α : Type*) where
  eventQueue : NmEventQueue α
  stopped : Bool
  queueThread : QueueThreadState α
  /-- Another thread holds `coreMutex`. -/
  coreMutex : Bool
  memory : α → NpEventMemory
  /-- A caller that held `coreMutex` has cancelled or destroyed the event, and it has not
  been posted since. -/
  withdrawn : α → Bool
  /-- The callback of a withdrawn event was invoked. -/
  invokedLate : Bool
  /-- The memory of an event was used that was not allocated. -/
  badAccess : Bool

inductive ThreadQueueEvent (α : Type*)
  | create (event : α)
  | destroy (event : α)
  | post (event : α)
  | postMaybeDouble (event : α)
  | postTimed (event : α) (now milliseconds : UInt32)
  | cancel (event : α)
  | stopBlocking
  /-- Another thread takes and gives back `coreMutex`. -/
  | lockCore
  | unlockCore
  /-- The queue thread locks `queueMutex` and looks for an event. -/
  | turn (now : UInt32)
  /-- The queue thread locks `coreMutex` and invokes the callback. -/
  | execute
  | executed
  deriving DecidableEq, Repr

namespace ThreadEventQueue

variable {α : Type*} (overflow : UInt32 → UInt32 → Bool)

def init (stamps : α → UInt32) : ThreadEventQueue α where
  eventQueue := NmEventQueue.init stamps
  stopped := false
  queueThread := .looping
  coreMutex := false
  memory := fun _ => .unused
  withdrawn := fun _ => false
  invokedLate := false
  badAccess := false

/-- `coreMutex` is held, by the callback that runs or by another thread. -/
def coreHeld (s : ThreadEventQueue α) : Bool :=
  s.coreMutex || match s.queueThread with
    | .executing _ => true
    | _ => false

/-- The lists link the events, so a section of `queueMutex` may use all that are queued. -/
def walk (s : ThreadEventQueue α) : ThreadEventQueue α :=
  { s with badAccess := s.badAccess ||
      (s.eventQueue.events ++ s.eventQueue.timedEvents).any fun event =>
        s.memory event ≠ .allocated }

variable [DecidableEq α]

def posted (s : ThreadEventQueue α) (event : α) (queue : NmEventQueue α) : ThreadEventQueue α :=
  { s.walk with eventQueue := queue, withdrawn := Function.update s.withdrawn event false }

def cancelEvent (s : ThreadEventQueue α) (event : α) : ThreadEventQueue α :=
  { s.walk with
    eventQueue := s.eventQueue.cancelEvent event
    withdrawn := Function.update s.withdrawn event true }

def destroyEvent (s : ThreadEventQueue α) (event : α) : ThreadEventQueue α :=
  { s.walk with
    eventQueue := s.eventQueue.eventDeinit event
    withdrawn := Function.update s.withdrawn event true
    memory := Function.update s.memory event .freed }

omit [DecidableEq α] in
def takeTurn (s : ThreadEventQueue α) (now : UInt32) : ThreadEventQueue α :=
  match queueThreadTurn overflow s.eventQueue s.stopped now with
  | .take event queue => { s.walk with eventQueue := queue, queueThread := .taken event }
  | .timedWait _ | .wait => s.walk
  | .stop => { s.walk with queueThread := .returned }

omit [DecidableEq α] in
/-- `event->cb(event->data)`. -/
def invoke (s : ThreadEventQueue α) (event : α) : ThreadEventQueue α :=
  { s with
    queueThread := .executing event
    invokedLate := s.invokedLate || s.withdrawn event
    badAccess := s.badAccess || s.memory event ≠ .allocated }

/-- Events are not used before they are created or after they are destroyed, and they are
cancelled and destroyed with `coreMutex` held. -/
def step (s : ThreadEventQueue α) : ThreadQueueEvent α → Option (ThreadEventQueue α)
  | .create event =>
    if s.memory event = .unused then
      some { s with memory := Function.update s.memory event .allocated }
    else none
  | .destroy event =>
    if s.memory event = .allocated ∧ s.coreHeld then some (s.destroyEvent event) else none
  | .post event =>
    if s.memory event = .allocated then some (s.posted event (s.eventQueue.postEvent event))
    else none
  | .postMaybeDouble event =>
    if s.memory event = .allocated then
      some (s.posted event (s.eventQueue.postEventMaybeDouble event))
    else none
  | .postTimed event now milliseconds =>
    if s.memory event = .allocated then
      some (s.posted event (s.eventQueue.postTimedEvent overflow event (now + milliseconds)))
    else none
  | .cancel event =>
    if s.memory event = .allocated ∧ s.coreHeld then some (s.cancelEvent event) else none
  | .stopBlocking => some { s with stopped := true }
  | .lockCore => if s.coreHeld then none else some { s with coreMutex := true }
  | .unlockCore => if s.coreMutex then some { s with coreMutex := false } else none
  | .turn now =>
    match s.queueThread with
    | .looping => some (s.takeTurn overflow now)
    | _ => none
  | .execute =>
    match s.queueThread with
    | .taken event => if s.coreMutex then none else some (s.invoke event)
    | _ => none
  | .executed =>
    match s.queueThread with
    | .executing _ => some { s with queueThread := .looping }
    | _ => none

end ThreadEventQueue

def threadEventQueue {α : Type*} [DecidableEq α] (overflow : UInt32 → UInt32 → Bool)
    (stamps : α → UInt32) : Machine (ThreadEventQueue α) (ThreadQueueEvent α) :=
  ⟨ThreadEventQueue.init stamps, ThreadEventQueue.step overflow⟩

end NabtoDevice
