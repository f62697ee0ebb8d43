import NabtoDevice.Lib.Machine
import NabtoDevice.Spec.Platform

/-! The futures of the API (`src/api/nabto_device_future.c`). A step is a critical section of
the future's mutex; a condition variable may wake a thread at any time. `FutureWaits` is one
future with the threads that wait for it. -/

namespace NabtoDevice

/-- `struct nabto_device_future`. -/
structure NabtoDeviceFuture where
  cb : Option ℕ
  cbData : ℕ
  ec : NpErrorCode
  ready : Bool
  deriving DecidableEq, Repr

namespace NabtoDeviceFuture

/-- `nabto_device_future_new`. -/
def new : NabtoDeviceFuture := ⟨none, 0, .ok, false⟩

/-- `nabto_device_future_set_callback`; the flag says that the future is posted. -/
def setCallback (fut : NabtoDeviceFuture) (callback data : ℕ) : NabtoDeviceFuture × Bool :=
  ({ fut with cb := some callback, cbData := data }, fut.ready)

/-- `nabto_device_future_reset`. -/
def reset (_ : NabtoDeviceFuture) : NabtoDeviceFuture := ⟨none, 0, .ok, false⟩

/-- The section of `nabto_device_future_popped`, and the callback to invoke after it. -/
def popped (fut : NabtoDeviceFuture) : NabtoDeviceFuture × Option ℕ :=
  ({ fut with cb := none }, fut.cb)

/-- `nabto_device_future_resolve`; with the flag the future is posted, and without it the
condition is signalled. -/
def resolve (fut : NabtoDeviceFuture) (ec : NpErrorCode) : NabtoDeviceFuture × Bool :=
  ({ fut with ec := ec, ready := true }, fut.cb.isSome)

/-- What `nabto_device_future_wait` returns once its condition wait is over, if there was
one. -/
def waitEc (fut : NabtoDeviceFuture) : NpErrorCode := fut.ec

/-- What `nabto_device_future_timed_wait` returns once its condition wait is over, if there
was one. -/
def timedWaitEc (fut : NabtoDeviceFuture) : NpErrorCode :=
  if fut.ready then fut.ec else .futureNotResolved

end NabtoDeviceFuture

/-! ### The threads that wait for a future -/

/-- A thread in `nabto_device_future_wait` or `nabto_device_future_timed_wait`. -/
structure FutureWaiter (τ : Type*) where
  thread : τ
  timed : Bool
  deriving DecidableEq, Repr

/-- A return from one of the two functions. -/
structure FutureReturn (τ : Type*) where
  waiter : FutureWaiter τ
  ec : NpErrorCode
  /-- What the future was resolved with since the last reset. -/
  resolution : Option NpErrorCode
  deriving DecidableEq, Repr

structure FutureWaits (τ : Type*) where
  future : NabtoDeviceFuture
  /-- The threads that are blocked on the condition. -/
  blocked : List (FutureWaiter τ)
  /-- The threads that were woken and have yet to get the mutex back. -/
  woken : List (FutureWaiter τ)
  /-- What the future was resolved with since the last reset. -/
  resolution : Option NpErrorCode
  returned : List (FutureReturn τ)
  deriving DecidableEq, Repr

inductive FutureWaitEvent (τ : Type*)
  | wait (waiter : FutureWaiter τ)
  /-- The condition wait of a thread ends with no signal: its time is out, or the wake-up is
  spurious. -/
  | wake (waiter : FutureWaiter τ)
  /-- A woken thread gets the mutex back and returns. -/
  | resume (waiter : FutureWaiter τ)
  /-- The core resolves the future. A signal of the condition wakes `signalled`. -/
  | resolve (ec : NpErrorCode) (signalled : Option (FutureWaiter τ))
  | reset
  | setCallback (callback data : ℕ)
  | popped
  deriving DecidableEq, Repr

namespace FutureWaits

variable {τ : Type*}

def init : FutureWaits τ := ⟨.new, [], [], none, []⟩

/-- The code the functions return with in the present state of the future. -/
def waiterEc (s : FutureWaits τ) (waiter : FutureWaiter τ) : NpErrorCode :=
  if waiter.timed then s.future.timedWaitEc else s.future.waitEc

def doReturn (s : FutureWaits τ) (waiter : FutureWaiter τ) : FutureWaits τ :=
  { s with returned := s.returned ++ [⟨waiter, s.waiterEc waiter, s.resolution⟩] }

variable [DecidableEq τ]

def wake (s : FutureWaits τ) (waiter : FutureWaiter τ) : FutureWaits τ :=
  { s with blocked := s.blocked.erase waiter, woken := s.woken ++ [waiter] }

/-- The section of `nabto_device_future_resolve`, without the wake-up of a thread. -/
def setResolved (s : FutureWaits τ) (ec : NpErrorCode) : FutureWaits τ :=
  { s with future := (s.future.resolve ec).1, resolution := some ec }

/-- A signal of the condition wakes a thread if one is blocked. -/
def signal (s : FutureWaits τ) : Option (FutureWaiter τ) → Option (FutureWaits τ)
  | some waiter => if waiter ∈ s.blocked then some (s.wake waiter) else none
  | none => if s.blocked = [] then some s else none

def step (s : FutureWaits τ) : FutureWaitEvent τ → Option (FutureWaits τ)
  | .wait waiter =>
    -- a thread is in one call at a time
    if (s.blocked ++ s.woken).any fun other => other.thread = waiter.thread then none
    else if s.future.ready then some (s.doReturn waiter)
    else some { s with blocked := s.blocked ++ [waiter] }
  | .wake waiter => if waiter ∈ s.blocked then some (s.wake waiter) else none
  | .resume waiter =>
    if waiter ∈ s.woken then some ({ s with woken := s.woken.erase waiter }.doReturn waiter)
    else none
  | .resolve ec signalled =>
    if (s.future.resolve ec).2 then
      if signalled = none then some (s.setResolved ec) else none
    else (s.setResolved ec).signal signalled
  | .reset => some { s with future := s.future.reset, resolution := none }
  | .setCallback callback data => some { s with future := (s.future.setCallback callback data).1 }
  | .popped => some { s with future := s.future.popped.1 }

end FutureWaits

def futureWaits (τ : Type*) [DecidableEq τ] : Machine (FutureWaits τ) (FutureWaitEvent τ) :=
  ⟨FutureWaits.init, FutureWaits.step⟩

end NabtoDevice
