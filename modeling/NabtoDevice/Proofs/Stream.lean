import NabtoDevice.Sanity.Stream

/-! Every function of a stream slot takes a callback out of its field before it calls
it, except `nc_stream_destroy`, which calls all five and clears none, and
`nc_stream_init`, which keeps what it finds. Over any use and reuse of a slot the
callbacks are one-shot and end with their stream exactly if no stream is destroyed
with a callback still registered. -/

namespace NabtoDevice

/-- Each registration was called at most once, and the callbacks that are set were
registered since the last stream of the slot was destroyed. -/
structure CallbacksOneshot (ctx : NcStreamContext) : Prop where
  once : (ctx.calls.map Prod.fst).Nodup
  current : ∀ cb ∈ ctx.registered, cb.incarnation = ctx.incarnation

structure Numbered (ctx : NcStreamContext) : Prop where
  once : ctx.oneshot.Once
  bound : ∀ cb ∈ ctx.oneshot.known, cb.id < ctx.registrations

variable {ctx : NcStreamContext}

theorem Numbered.callbacks (h : Numbered ctx)
    (hcur : ∀ cb ∈ ctx.registered, cb.incarnation = ctx.incarnation) : CallbacksOneshot ctx :=
  ⟨Multiset.coe_nodup.mp h.once.fired_nodup, hcur⟩

variable {a b : NcStreamContext}

theorem Numbered.resolves (ha : Numbered a) (h : Resolves a b) : Numbered b := by
  refine ⟨ha.once.fires h.fires, ?_⟩
  rw [h.fires.known, h.registrations]
  exact ha.bound

theorem Numbered.registers {cb : NcStreamCallback} (ha : Numbered a) (h : Registers a b cb) :
    Numbered b := by
  have hknown : b.oneshot.known = cb ::ₘ a.oneshot.known := by
    rw [Oneshot.known, h.pending, h.fired, Multiset.cons_add]
    rfl
  have hfresh : cb ∉ a.oneshot.known := by
    intro hmem
    have := ha.bound cb hmem
    rw [h.id] at this
    exact lt_irrefl _ this
  refine ⟨ha.once.register hfresh hknown, fun cb' hcb' => ?_⟩
  rw [hknown, Multiset.mem_cons] at hcb'
  rw [h.registrations]
  rcases hcb' with rfl | hcb'
  · rw [h.id]
    exact Nat.lt_succ_self _
  · exact (ha.bound cb' hcb').trans (Nat.lt_succ_self _)

theorem Resolves.incarnation (h : Resolves a b) : b.incarnation = a.incarnation :=
  congrArg StreamLife.incarnation h.life

theorem Resolves.current (h : Resolves a b)
    (ha : ∀ cb ∈ a.registered, cb.incarnation = a.incarnation) :
    ∀ cb ∈ b.registered, cb.incarnation = b.incarnation := by
  intro cb hcb
  rw [h.incarnation]
  exact ha cb (Multiset.mem_coe.mp (Multiset.mem_of_le h.fires.pending (Multiset.mem_coe.mpr hcb)))

theorem Registers.current {cb : NcStreamCallback} (h : Registers a b cb)
    (ha : ∀ cb ∈ a.registered, cb.incarnation = a.incarnation) :
    ∀ cb ∈ b.registered, cb.incarnation = b.incarnation := by
  intro cb' hcb'
  have hinc : b.incarnation = a.incarnation := congrArg StreamLife.incarnation h.life
  have hmem : cb' ∈ cb ::ₘ a.oneshot.pending := h.pending ▸ Multiset.mem_coe.mpr hcb'
  rw [hinc]
  rcases Multiset.mem_cons.mp hmem with rfl | hmem
  · exact h.incarnation
  · exact ha cb' (Multiset.mem_coe.mp hmem)

/-- The event the library ends a step of the slot with, if the step asks for one. -/
def slotNextEvent (ctx : NcStreamContext) : StreamSlotEvent → Option NabtoStreamNextEvent
  | .queue _ answers | .packet _ answers | .dtlsSent _ answers => some (ncStreamNextEvent ctx answers)
  | .connectionClosed _ answers => some (ncStreamNextEvent { ctx with dtls := none } answers)
  | .init _ _ _ | .op _ => none

def destroysRegistered (ctx : NcStreamContext) (e : StreamSlotEvent) : Bool :=
  ctx.active && decide (slotNextEvent ctx e = some .released) && !ctx.registered.isEmpty

theorem destroysRegistered_eq_false (ctx : NcStreamContext) (e : StreamSlotEvent) :
    destroysRegistered ctx e = false ↔
      (ctx.active = true → slotNextEvent ctx e = some .released → ctx.registered = []) := by
  simp [destroysRegistered]

/-- `nc_stream_destroy` leaves the callbacks where they are, under a new incarnation. -/
theorem destroy_callbacks (h : CallbacksOneshot ctx) (hn : Numbered ctx)
    (hactive : ctx.active = true) :
    (CallbacksOneshot (ncStreamDestroy ctx) ↔ ctx.registered = []) ∧
      (ctx.registered = [] → Numbered (ncStreamDestroy ctx)) := by
  have hreg : (ncStreamDestroy ctx).registered = ctx.registered := by
    simp [ncStreamDestroy, hactive, NcStreamContext.registered]
  have hinc : (ncStreamDestroy ctx).incarnation = ctx.incarnation + 1 := by
    simp [ncStreamDestroy, hactive]
  have hnumbered (hnone : ctx.registered = []) : Numbered (ncStreamDestroy ctx) := by
    have hone : (ncStreamDestroy ctx).oneshot = ctx.oneshot := by
      unfold NcStreamContext.oneshot
      rw [hreg]
      simp [ncStreamDestroy, hactive, hnone]
    have hregs : (ncStreamDestroy ctx).registrations = ctx.registrations := by
      simp [ncStreamDestroy, hactive]
    exact ⟨hone ▸ hn.once, by rw [hone, hregs]; exact hn.bound⟩
  refine ⟨⟨fun hd => ?_, fun hnone => ?_⟩, hnumbered⟩
  · by_contra hne
    obtain ⟨cb, hcb⟩ := List.exists_mem_of_ne_nil _ hne
    have hold := h.current cb hcb
    have hnew := hd.current cb (hreg ▸ hcb)
    omega
  · exact (hnumbered hnone).callbacks (by simp [hreg, hnone])

theorem event_callbacks (listeners : List ℕ) (answers : List NabtoStreamNextEvent)
    (h : CallbacksOneshot ctx) (hn : Numbered ctx) :
    (CallbacksOneshot (ncStreamEvent listeners ctx answers) ↔
      (ctx.active = true → ncStreamNextEvent ctx answers = .released → ctx.registered = [])) ∧
    ((ctx.active = true → ncStreamNextEvent ctx answers = .released → ctx.registered = []) →
      Numbered (ncStreamEvent listeners ctx answers)) := by
  rcases ncStreamEvent_cases listeners ctx answers with
    ⟨contentType, kept, hnext, heq⟩ | ⟨hnext, heq⟩ | ⟨-, hnext, hres⟩
  · -- offering the stream touches no callback
    have hres : (ncStreamEvent listeners ctx answers).oneshot = ctx.oneshot ∧
        (ncStreamEvent listeners ctx answers).registrations = ctx.registrations ∧
        (ncStreamEvent listeners ctx answers).incarnation = ctx.incarnation ∧
        (ncStreamEvent listeners ctx answers).registered = ctx.registered := by
      rw [heq, ncStreamManagerReadyForAccept]
      split_ifs <;> exact ⟨rfl, rfl, rfl, rfl⟩
    obtain ⟨hone, hregs, hinc, hreg⟩ := hres
    have hnumbered : Numbered (ncStreamEvent listeners ctx answers) :=
      ⟨hone ▸ hn.once, by rw [hone, hregs]; exact hn.bound⟩
    have hcur := hnumbered.callbacks (by rw [hreg, hinc]; exact h.current)
    simp [hnext, hcur, hnumbered]
  · rw [heq]
    cases hactive : ctx.active with
    | true => simpa [hnext] using destroy_callbacks h hn hactive
    | false => simp [ncStreamDestroy, hactive, h, hn]
  · have hnumbered := hn.resolves hres
    have hcur := hnumbered.callbacks (hres.current h.current)
    simp [hnext, hcur, hnumbered]

theorem op_callbacks (op : StreamOp) (h : CallbacksOneshot ctx) (hn : Numbered ctx) :
    CallbacksOneshot (ncStreamOp ctx op).2 ∧ Numbered (ncStreamOp ctx op).2 := by
  rcases ncStreamOp_cases ctx op with ⟨-, heq⟩ | ⟨-, heq⟩ | ⟨-, cb, mid, hreg, hres⟩
  · rw [heq]
    exact ⟨⟨h.once, h.current⟩, ⟨hn.once, hn.bound⟩⟩
  · rw [heq]
    exact ⟨h, hn⟩
  · have hnumbered := (hn.registers hreg).resolves hres
    exact ⟨hnumbered.callbacks (hres.current (hreg.current h.current)), hnumbered⟩

theorem streamSlotStep_callbacks {ctx' : NcStreamContext} {e : StreamSlotEvent} (hn : Numbered ctx)
    (h : CallbacksOneshot ctx) (hs : streamSlotStep ctx e = some ctx') :
    (CallbacksOneshot ctx' ↔ destroysRegistered ctx e = false) ∧
      (destroysRegistered ctx e = false → Numbered ctx') := by
  rw [destroysRegistered_eq_false]
  cases e with
  | init streamId dtls connectionRef =>
    obtain ⟨-, rfl⟩ := Machine.of_guard_not hs
    have hkeeps : CallbacksOneshot (ncStreamInit ctx streamId dtls connectionRef) :=
      ⟨h.once, h.current⟩
    have hnumbered : Numbered (ncStreamInit ctx streamId dtls connectionRef) := ⟨hn.once, hn.bound⟩
    simp [slotNextEvent, hkeeps, hnumbered]
  | op op =>
    cases hs
    obtain ⟨hkeeps, hnumbered⟩ := op_callbacks op h hn
    simp [slotNextEvent, hkeeps, hnumbered]
  | queue listeners answers =>
    obtain ⟨-, rfl⟩ := Machine.of_guard hs
    simp only [slotNextEvent, Option.some.injEq]
    exact event_callbacks listeners answers h hn
  | packet listeners answers =>
    cases hs
    simp only [slotNextEvent, Option.some.injEq]
    exact event_callbacks listeners answers h hn
  | connectionClosed listeners answers =>
    cases hs
    have h' : CallbacksOneshot { ctx with dtls := none } := ⟨h.once, h.current⟩
    have hn' : Numbered { ctx with dtls := none } := ⟨hn.once, hn.bound⟩
    simp only [slotNextEvent, Option.some.injEq]
    exact event_callbacks listeners answers h' hn'
  | dtlsSent listeners answers =>
    obtain ⟨-, rfl⟩ := Machine.of_guard_not hs
    set sent : NcStreamContext :=
      { ctx with isSending := false, dtlsSends := ctx.dtlsSends.tail } with hsent
    have h' : CallbacksOneshot sent := ⟨h.once, h.current⟩
    have hn' : Numbered sent := ⟨hn.once, hn.bound⟩
    have hnext : ncStreamNextEvent ctx answers = ncStreamNextEvent sent answers := by
      apply ncStreamNextEvent_congr
      rfl
    simp only [slotNextEvent, Option.some.injEq, hnext]
    exact event_callbacks listeners answers h' hn'

/-- Over every run of a slot its callbacks are called at most once and never outlive
their stream, exactly if no stream is destroyed with a callback registered. -/
theorem callbacks_oneshot_iff {evs : List StreamSlotEvent} {s : NcStreamContext}
    (h : streamSlot.Run evs s) :
    (∀ t, streamSlot.Visits evs t → CallbacksOneshot t) ↔
      ∀ t e, streamSlot.Takes evs t e → destroysRegistered t e = false := by
  refine h.good_iff_takes Numbered CallbacksOneshot (fun t e => destroysRegistered t e = false)
    ?_ ?_ fun t e t' hn ht hs => streamSlotStep_callbacks hn ht hs
  · exact ⟨Multiset.nodup_zero, fun cb hcb => absurd hcb (Multiset.notMem_zero cb)⟩
  · exact ⟨List.nodup_nil, fun cb hcb => absurd hcb List.not_mem_nil⟩

def servedTwiceRun : List StreamSlotEvent :=
  [.init 2 7 1, .op (.asyncAccept 0), .queue [] [.applicationEvent .opened ⟨[], [], .ok⟩],
   .op (.asyncReadAll 0 2 []), .queue [] [.applicationEvent .dataReady ⟨[⟨.ok, [1]⟩], [], .ok⟩],
   .op (.asyncClose 0 .ok), .packet [] [.send 20 .ok], .op .release,
   .connectionClosed [] [.applicationEvent .closed ⟨[⟨.aborted, []⟩], [], .aborted⟩],
   .dtlsSent [] [.released], .init 4 8 2, .op (.asyncWrite 1 [9] [⟨.ok, 1⟩])]

theorem callbacks_oneshot_served_twice :
    (∃ s, streamSlot.Run servedTwiceRun s) ∧
      ∀ t, streamSlot.Visits servedTwiceRun t → CallbacksOneshot t := by
  have hrun : ∃ s, streamSlot.Run servedTwiceRun s := ⟨_, Machine.run_of_exec rfl⟩
  refine ⟨hrun, ?_⟩
  obtain ⟨s, hs⟩ := hrun
  rw [callbacks_oneshot_iff hs]
  intro t e ht
  have hall : streamSlot.allTaken (fun t e => !destroysRegistered t e) ncStreamUnused
      servedTwiceRun = true := by decide +kernel
  exact Machine.takes_eq_false_of_allTaken hall ht

/-- A stream is released while it is read from: the callback is called as the stream is
destroyed, keeps the next stream of the slot from being read, and is called again
with that stream's data. -/
theorem stale_callback_called_again :
    (∃ t, streamSlot.Run
        [.init 2 7 1, .op (.asyncReadSome 0 16 []), .op .release, .queue [] [.released],
         .init 2 8 2] t ∧
      (ncStreamAsyncReadSome t 1 16 []).1 = .operationInProgress) ∧
    ∃ s, streamSlot.Run
        [.init 2 7 1, .op (.asyncReadSome 0 16 []), .op .release, .queue [] [.released],
         .init 2 8 2, .packet [] [.applicationEvent .dataReady ⟨[⟨.ok, [1]⟩], [], .ok⟩]] s ∧
      s.calls = [(⟨.read, 0, 0, 0⟩, .aborted), (⟨.read, 0, 0, 0⟩, .ok)] ∧
      ¬ CallbacksOneshot s := by
  refine ⟨⟨_, Machine.run_of_exec rfl, by decide +kernel⟩, _, Machine.run_of_exec rfl,
    by decide +kernel, fun h => ?_⟩
  exact absurd h.once (by decide +kernel)

end NabtoDevice
