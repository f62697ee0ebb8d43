import NabtoDevice.Spec.ListenerInit

/-! What failing calls leave behind that should initialise a listener. Only the calls that get no
memory for their context leave the device as it was. The calls for streams return with the mutex
locked, and all others leave the listener with a context that is freed. -/

namespace NabtoDevice

variable {α φ : Type} {dev dev' : ListenerDevice α φ} {i : ℕ}

def ListenerDevice.Dangling (dev : ListenerDevice α φ) (i : ℕ) : Prop :=
  ∃ listener context, dev.listeners[i]? = some listener ∧ listener.isInitialized = true ∧
    listener.listenerData = some context ∧ context ∉ dev.heap

/-- The call has left nothing behind. Since the device is the same, all later calls on it and its
listeners have the same results. -/
structure CallUndone (dev : ListenerDevice α φ) (i : ℕ) (dev' : ListenerDevice α φ) : Prop where
  released : dev'.eventMutex = false
  not_dangling : ¬ dev'.Dangling i
  stream_listeners : dev'.streamManager.listeners = dev.streamManager.listeners
  resources : dev'.resources = dev.resources
  same : dev' = dev

theorem callUndone_self_iff (hmutex : dev.eventMutex = false) :
    CallUndone dev i dev ↔ ¬ dev.Dangling i :=
  ⟨CallUndone.not_dangling, fun h => ⟨hmutex, h, rfl, rfl, rfl⟩⟩

def InitListenerCall.forStreams : InitListenerCall → Bool
  | .stream _ _ | .streamEphemeral _ => true
  | .coap _ _ _ => false

def initialisedAndFreed (dev : ListenerDevice α φ) (i : ℕ) (listener : NabtoDeviceListener α φ)
    (type : NabtoDeviceListenerType) (context : ℕ) (mutex : Bool) : ListenerDevice α φ :=
  { dev.setListener i (nabtoDeviceListenerInit listener type context).2 with eventMutex := mutex }

variable {context : ℕ}

theorem initialisedAndFreed_dangling {listener : NabtoDeviceListener α φ}
    (type : NabtoDeviceListenerType)
    (mutex : Bool) (hi : dev.listeners[i]? = some listener) (hfresh : context ∉ dev.heap) :
    (initialisedAndFreed dev i listener type context mutex).Dangling i := by
  have hlt : i < dev.listeners.length := (List.getElem?_eq_some_iff.mp hi).1
  exact ⟨(nabtoDeviceListenerInit listener type context).2, context, List.getElem?_set_self hlt,
    rfl, rfl, hfresh⟩

theorem lock_calloc_eq_some {locked : ListenerDevice α φ}
    (hlock : (dev.calloc context).lock = some locked) :
    locked = { dev with eventMutex := true, heap := context :: dev.heap } := by
  obtain ⟨-, rfl⟩ := Machine.of_guard_not hlock
  rfl

theorem free_setListener (listener : NabtoDeviceListener α φ) (type : NabtoDeviceListenerType)
    (context : ℕ) :
    (({ dev with eventMutex := true, heap := context :: dev.heap } : ListenerDevice α φ).setListener i
        (nabtoDeviceListenerInit listener type context).2).free context =
      initialisedAndFreed dev i listener type context true := by
  simp [initialisedAndFreed, ListenerDevice.free, ListenerDevice.setListener]

variable {ec : NpErrorCode}

/-- What the last step of a call returns, when it is not the one that succeeds. -/
theorem device_of_result {ec' : NpErrorCode} {result : ListenerDevice α φ}
    (h : some (ec, result) = some (ec', dev')) : dev' = result :=
  (congrArg Prod.snd (Option.some.inj h)).symm

theorem streamInitListener_failed {type : UInt32} {draws : Fin 10 → UInt32}
    (h : streamInitListener dev i type (some context) draws = some (ec, dev')) (hec : ec ≠ .ok) :
    ∃ listener, dev.listeners[i]? = some listener ∧
      dev' = initialisedAndFreed dev i listener .streams context true := by
  obtain ⟨locked, hlock, h⟩ := Option.bind_eq_some_iff.mp h
  obtain rfl := lock_calloc_eq_some hlock
  obtain ⟨listener, hi, h⟩ := Option.bind_eq_some_iff.mp h
  refine ⟨listener, hi, ?_⟩
  rw [← free_setListener]
  simp only at h
  split_ifs at h with hinit hadd
  · exact device_of_result h
  · exact device_of_result h
  · exact absurd (congrArg Prod.fst (Option.some.inj h)).symm hec

theorem nabtoDeviceCoapInitListener_failed {method : NabtoDeviceCoapMethod}
    {pathSegments : List String} {err : NabtoCoapError}
    (h : nabtoDeviceCoapInitListener dev i method pathSegments (some context) err = some (ec, dev'))
    (hec : ec ≠ .ok) :
    ∃ listener, dev.listeners[i]? = some listener ∧
      dev' = initialisedAndFreed dev i listener .coap context false := by
  obtain ⟨locked, hlock, h⟩ := Option.bind_eq_some_iff.mp h
  obtain rfl := lock_calloc_eq_some hlock
  obtain ⟨listener, hi, h⟩ := Option.bind_eq_some_iff.mp h
  refine ⟨listener, hi, ?_⟩
  have hunlock : initialisedAndFreed dev i listener .coap context false =
      (initialisedAndFreed dev i listener .coap context true).unlock := rfl
  rw [hunlock, ← free_setListener]
  simp only at h
  split_ifs at h with hinit hadd
  · exact device_of_result h
  · exact device_of_result h
  · exact absurd (congrArg Prod.fst (Option.some.inj h)).symm hec

theorem initListener_none {call : InitListenerCall}
    (h : initListener dev i none call = some (ec, dev')) : dev' = dev := by
  cases call <;> exact device_of_result h

/-- A call that gets memory and fails leaves its listener initialised, and the mutex locked if it is
one for streams. -/
theorem initListener_failed {call : InitListenerCall}
    (h : initListener dev i (some context) call = some (ec, dev')) (hec : ec ≠ .ok) :
    ∃ listener type, dev.listeners[i]? = some listener ∧
      dev' = initialisedAndFreed dev i listener type context call.forStreams := by
  cases call with
  | stream type draws =>
    obtain ⟨listener, hi, hdev⟩ := streamInitListener_failed h hec
    exact ⟨listener, _, hi, hdev⟩
  | streamEphemeral draws =>
    obtain ⟨r, hr, heq⟩ := Option.map_eq_some_iff.mp h
    obtain ⟨r', hr', rfl⟩ := Option.map_eq_some_iff.mp hr
    obtain ⟨rfl, rfl⟩ := Prod.mk.inj heq
    obtain ⟨listener, hi, hdev⟩ := streamInitListener_failed hr' hec
    exact ⟨listener, _, hi, hdev⟩
  | coap method pathSegments err =>
    obtain ⟨listener, hi, hdev⟩ := nabtoDeviceCoapInitListener_failed h hec
    exact ⟨listener, _, hi, hdev⟩

/-- A call that fails leaves nothing behind if and only if it got no memory for its context, on a
listener that no earlier call has left with a freed one. The others leave the mutex locked if they
are for streams; none of them touches the listeners of the stream manager or the resources. -/
theorem failed_init_undone_iff {context : Option ℕ} {call : InitListenerCall} {ec : NpErrorCode}
    (hmutex : dev.eventMutex = false) (hfresh : ∀ a, context = some a → a ∉ dev.heap)
    (h : initListener dev i context call = some (ec, dev')) (hec : ec ≠ .ok) :
    (CallUndone dev i dev' ↔ context = none ∧ ¬ dev.Dangling i) ∧
    (dev'.eventMutex = true ↔ context ≠ none ∧ call.forStreams = true) ∧
    dev'.streamManager = dev.streamManager ∧ dev'.resources = dev.resources := by
  cases context with
  | none =>
    rw [initListener_none h, callUndone_self_iff hmutex, hmutex]
    simp
  | some a =>
    obtain ⟨listener, type, hi, rfl⟩ := initListener_failed h hec
    have hdangling := initialisedAndFreed_dangling type call.forStreams hi (hfresh a rfl)
    refine ⟨?_, ?_, rfl, rfl⟩
    · exact iff_of_false (fun hundone => hundone.not_dangling hdangling)
        (fun hnone => Option.some_ne_none a hnone.1)
    · exact (and_iff_right (Option.some_ne_none a)).symm

def twoListeners : ListenerDevice ℕ ℕ :=
  { listeners := [nabtoDeviceListenerNew, nabtoDeviceListenerNew]
    streamManager := ncStreamManagerInit 1 }

theorem failed_init_undone_without_memory :
    initListener twoListeners 1 none (.stream 42 fun _ => 0) = some (.outOfMemory, twoListeners) ∧
    CallUndone twoListeners 1 twoListeners := by
  have h : initListener twoListeners 1 none (.stream 42 fun _ => 0) =
      some (.outOfMemory, twoListeners) := rfl
  refine ⟨h, (failed_init_undone_iff rfl (by simp) h (by decide)).1.mpr ⟨rfl, ?_⟩⟩
  rintro ⟨listener, context, hi, hinit, -⟩
  cases hi
  cases hinit

/-- The second listener asks for the port of the first one. The mutex stays locked, so that the next
call that locks it never returns. A resource that cannot be added leaves the second listener with a
context that is freed. -/
theorem failed_init_not_undone :
    ∃ dev dev' dev'' : ListenerDevice ℕ ℕ,
      initListener twoListeners 0 (some 100) (.stream 42 fun _ => 0) = some (.ok, dev) ∧
      initListener dev 1 (some 200) (.stream 42 fun _ => 0) = some (.operationInProgress, dev') ∧
      dev'.lock = none ∧ dev'.Dangling 1 ∧
      initListener dev 1 (some 200) (.coap .get [] .invalidParameter) =
        some (.invalidArgument, dev'') ∧
      dev''.eventMutex = false ∧ dev''.Dangling 1 := by
  refine ⟨_, _, _, rfl, rfl, rfl, ⟨_, 200, rfl, rfl, rfl, ?_⟩, rfl, rfl,
    ⟨_, 200, rfl, rfl, rfl, ?_⟩⟩ <;>
    decide

end NabtoDevice
