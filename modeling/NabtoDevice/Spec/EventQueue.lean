import NabtoDevice.Lib.Agenda
import NabtoDevice.Lib.Machine
import NabtoDevice.Spec.Timestamp

/-! The event queue of `src/modules/event_queue/nm_event_queue.c`. An event has one list
node, so it is in one of the two lists at most; `expireTimestamp` is a field of the event.
Where the comparison of two stamps overflows, C leaves the result open: `overflow` is what the
compiled program answers there. -/

namespace NabtoDevice

def compiledLessOrEqual (overflow : UInt32 → UInt32 → Bool) (t1 t2 : UInt32) : Bool :=
  (npTimestampLessOrEqual t1 t2).getD (overflow t1 t2)

structure NmEventQueue (α : Type*) where
  events : List α
  timedEvents : List α
  expireTimestamp : α → UInt32

namespace NmEventQueue

variable {α : Type*} (overflow : UInt32 → UInt32 → Bool)

/-- `nm_event_queue_init`. The stamp of an event that was never posted is whatever was in
memory. -/
def init (stamps : α → UInt32) : NmEventQueue α := ⟨[], [], stamps⟩

/-- `none` is the answer `false`. -/
def takeEvent (queue : NmEventQueue α) : Option (α × NmEventQueue α) :=
  match queue.events with
  | [] => none
  | event :: events => some (event, { queue with events := events })

def takeTimedEvent (queue : NmEventQueue α) (now : UInt32) : Option (α × NmEventQueue α) :=
  match queue.timedEvents with
  | [] => none
  | event :: timedEvents =>
    if compiledLessOrEqual overflow (queue.expireTimestamp event) now then
      some (event, { queue with timedEvents := timedEvents })
    else none

def nextTimedEvent (queue : NmEventQueue α) : Option UInt32 :=
  queue.timedEvents.head?.map queue.expireTimestamp

variable [DecidableEq α]

/-- `nn_llist_node_in_list`. -/
def nodeInList (queue : NmEventQueue α) (event : α) : Bool :=
  event ∈ queue.events || event ∈ queue.timedEvents

/-- `nn_llist_erase_node`, from the list in which the node is. -/
def eraseNode (queue : NmEventQueue α) (event : α) : NmEventQueue α :=
  { queue with events := queue.events.erase event, timedEvents := queue.timedEvents.erase event }

/-- The two ways to post differ in a log message. -/
def appendEvent (queue : NmEventQueue α) (event : α) : NmEventQueue α :=
  if queue.nodeInList event then queue else { queue with events := queue.events ++ [event] }

def postEvent : NmEventQueue α → α → NmEventQueue α := appendEvent

def postEventMaybeDouble : NmEventQueue α → α → NmEventQueue α := appendEvent

def cancelEvent (queue : NmEventQueue α) (event : α) : NmEventQueue α :=
  if queue.nodeInList event then queue.eraseNode event else queue

def eventDeinit (queue : NmEventQueue α) (event : α) : NmEventQueue α := queue.cancelEvent event

def lessOrEqual (queue : NmEventQueue α) (a b : α) : Prop :=
  compiledLessOrEqual overflow (queue.expireTimestamp a) (queue.expireTimestamp b) = true

instance (queue : NmEventQueue α) : DecidableRel (queue.lessOrEqual overflow) :=
  fun _ _ => inferInstanceAs (Decidable (_ = true))

/-- The loop puts the event before the first one that does not expire earlier. -/
def postTimedEvent (queue : NmEventQueue α) (event : α) (timestamp : UInt32) : NmEventQueue α :=
  let queue := { queue with
    expireTimestamp := Function.update queue.expireTimestamp event timestamp }
  let queue := if queue.nodeInList event then queue.eraseNode event else queue
  { queue with timedEvents := queue.timedEvents.orderedInsert (queue.lessOrEqual overflow) event }

end NmEventQueue

/-! ### Runs -/

/-- The queue in time, with what its users asked for. -/
structure EventQueueRun (α : Type*) where
  queue : NmEventQueue α
  now : UInt32
  agenda : Agenda α
  /-- The events that were taken, with what they waited for then. -/
  delivered : List (α × Option Appointment)

inductive EventQueueCall (α : Type*)
  | post (event : α)
  | postMaybeDouble (event : α)
  | postTimed (event : α) (timestamp : UInt32)
  | cancel (event : α)
  | take
  | takeTimed
  | clock (now : UInt32)
  deriving DecidableEq, Repr

namespace EventQueueRun

variable {α : Type*} [DecidableEq α] (overflow : UInt32 → UInt32 → Bool)

/-- The event that was taken, if any, leaves the agenda. -/
def deliver (s : EventQueueRun α) : Option (α × NmEventQueue α) → EventQueueRun α
  | none => s
  | some (event, queue) =>
    { s with
      queue := queue
      agenda := s.agenda.drop event
      delivered := s.delivered ++ [(event, s.agenda.pending event)] }

def step (s : EventQueueRun α) : EventQueueCall α → EventQueueRun α
  | .post event => { s with queue := s.queue.postEvent event, agenda := s.agenda.post event }
  | .postMaybeDouble event =>
    { s with queue := s.queue.postEventMaybeDouble event, agenda := s.agenda.post event }
  | .postTimed event timestamp =>
    { s with
      queue := s.queue.postTimedEvent overflow event timestamp
      agenda := s.agenda.postTimed event timestamp }
  | .cancel event => { s with queue := s.queue.cancelEvent event, agenda := s.agenda.drop event }
  | .take => s.deliver s.queue.takeEvent
  | .takeTimed => s.deliver (s.queue.takeTimedEvent overflow s.now)
  | .clock now => { s with now := now }

end EventQueueRun

/-- The queue from the time `now` on. -/
def eventQueue {α : Type*} [DecidableEq α] (overflow : UInt32 → UInt32 → Bool) (stamps : α → UInt32)
    (now : UInt32) : Machine (EventQueueRun α) (EventQueueCall α) where
  init := ⟨NmEventQueue.init stamps, now, Agenda.empty, []⟩
  step s e := some (s.step overflow e)

end NabtoDevice
