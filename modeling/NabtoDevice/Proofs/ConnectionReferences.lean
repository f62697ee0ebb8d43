import NabtoDevice.Sanity.ConnectionReferences
import NabtoDevice.Proofs.ClientConnectionDispatch

/-! A reference finds the connection it was given to and no other. The references come from a
counter of 64 bits that every call of `nc_client_connection_open` takes one from, whether or not
it opens a connection. -/

namespace NabtoDevice

open HandleTable (Table)

variable {t t' : ReferencedDispatch}

structure ReferencesInv (calls : ℕ) (t : ReferencedDispatch) : Prop where
  counter : t.ctx.deviceConnectionRef.toNat = calls
  increasing : t.given.handles.Pairwise (· < ·)
  bounds : ∀ ref ∈ t.given.handles, 0 < ref ∧ ref ≤ t.ctx.deviceConnectionRef
  sound : t.given.Sound
  keys : t.given.keys = (dispatchKeys t.ctx).map (Option.map Prod.fst)
  apart : ∀ (i j : ℕ) (k k' : UInt64 × List UInt8), (dispatchKeys t.ctx)[i]? = some (some k) →
    (dispatchKeys t.ctx)[j]? = some (some k') → k.2 = k'.2 → i = j

theorem referencesInv_init (maxConnections : ℕ) :
    ReferencesInv 0 (referencedDispatch maxConnections).init := by
  have hslots {i : ℕ} {α : Type} {a : α}
      (h : (List.replicate maxConnections (none : Option α))[i]? = some (some a)) : False := by
    rw [List.getElem?_replicate] at h
    split_ifs at h
    cases h
  refine ⟨rfl, List.Pairwise.nil, nofun, ⟨List.nodup_nil, fun i n h => ?_, fun i j n h => ?_⟩, ?_,
    fun i j k k' h => ?_⟩
  · exact (hslots h).elim
  · exact (hslots h).elim
  · simp [referencedDispatch, Table.keys, Table.handleAt, dispatchKeys,
      ncClientConnectionDispatchInit, connectionKey]
  · simp only [referencedDispatch, dispatchKeys, ncClientConnectionDispatchInit,
      List.map_replicate] at h
    exact (hslots h).elim

theorem toNat_next {ref : UInt64} (h : ref.toNat + 1 < 2 ^ 64) :
    (ref + 1).toNat = ref.toNat + 1 := by
  rw [UInt64.toNat_add]
  exact Nat.mod_eq_of_lt h

variable {calls : ℕ}

theorem ReferencesInv.next (h : ReferencesInv calls t) (hfits : calls + 1 < 2 ^ 64) :
    t.ctx.deviceConnectionRef < t.ctx.deviceConnectionRef + 1 := by
  rw [UInt64.lt_iff_toNat_lt, toNat_next (by rw [h.counter]; exact hfits)]
  exact Nat.lt_succ_self _

variable {i : ℕ}

theorem ReferencesInv.opened (h : ReferencesInv calls t) (hfits : calls + 1 < 2 ^ 64)
    {ctx' : ClientConnectionDispatch} {c : DispatchedConnection}
    (hfree : t.ctx.elms[i]? = some none)
    (helms : ctx'.elms = t.ctx.elms.set i (some c))
    (href : ctx'.deviceConnectionRef = t.ctx.deviceConnectionRef + 1)
    (hc : c.connectionRef = t.ctx.deviceConnectionRef + 1)
    (hnew : ∀ c', some c' ∈ t.ctx.elms → middleBytes c'.conn.id ≠ middleBytes c.conn.id) :
    ReferencesInv (calls + 1) ⟨ctx', t.given.create i c.connectionRef⟩ := by
  have hnext := h.next hfits
  have hfresh : c.connectionRef ∉ t.given.handles := fun hmem => by
    have hle := (h.bounds _ hmem).2
    rw [hc] at hle
    exact absurd (UInt64.lt_of_lt_of_le hnext hle) (UInt64.lt_irrefl _)
  have hkeys : dispatchKeys ctx' = (dispatchKeys t.ctx).set i
      (some (c.connectionRef, middleBytes c.conn.id)) := by
    rw [dispatchKeys, dispatchKeys, helms, List.map_set]
    rfl
  -- a key is that of the new connection or was there before
  have hold {j : ℕ} {k : UInt64 × List UInt8} (hj : (dispatchKeys ctx')[j]? = some (some k)) :
      j = i ∧ k.2 = middleBytes c.conn.id ∨
        (dispatchKeys t.ctx)[j]? = some (some k) ∧ k.2 ≠ middleBytes c.conn.id := by
    by_cases heq : i = j
    · subst heq
      obtain ⟨hlt, -⟩ := List.getElem?_eq_some_iff.mp hfree
      rw [hkeys, List.getElem?_set_self (by simpa [dispatchKeys] using hlt)] at hj
      exact Or.inl ⟨rfl, (Option.some.inj (Option.some.inj hj)) ▸ rfl⟩
    · rw [hkeys, List.getElem?_set_ne heq] at hj
      refine Or.inr ⟨hj, ?_⟩
      rw [dispatchKeys, List.getElem?_map] at hj
      obtain ⟨elm, helm, hkey⟩ := Option.map_eq_some_iff.mp hj
      obtain ⟨c', rfl, rfl⟩ := Option.map_eq_some_iff.mp hkey
      exact hnew c' (List.mem_of_getElem? helm)
  refine ⟨?_, ?_, ?_, h.sound.create hfresh i, ?_, ?_⟩
  · rw [href, toNat_next (by rw [h.counter]; exact hfits), h.counter]
  · refine List.pairwise_append.mpr ⟨h.increasing, List.pairwise_singleton _ _, ?_⟩
    intro ref hmem ref' hmem'
    rw [List.mem_singleton.mp hmem', hc]
    exact UInt64.lt_of_le_of_lt (h.bounds ref hmem).2 hnext
  · intro ref hmem
    rw [href]
    rcases List.mem_append.mp hmem with hmem | hmem
    · obtain ⟨hpos, hle⟩ := h.bounds ref hmem
      exact ⟨hpos, UInt64.le_of_lt (UInt64.lt_of_le_of_lt hle hnext)⟩
    · rw [List.mem_singleton.mp hmem, hc]
      exact ⟨UInt64.lt_of_le_of_lt (UInt64.zero_le) hnext, UInt64.le_refl _⟩
  · rw [h.sound.keys_create, hkeys, h.keys, List.map_set]
    rfl
  · intro j j' k k' hj hj' heq
    rcases hold hj with ⟨rfl, hk⟩ | ⟨hj, hk⟩
    · rcases hold hj' with ⟨rfl, -⟩ | ⟨-, hk'⟩
      · rfl
      · exact absurd (heq.symm.trans hk) hk'
    · rcases hold hj' with ⟨-, hk'⟩ | ⟨hj', -⟩
      · exact absurd (heq.trans hk') hk
      · exact h.apart j j' k k' hj hj' heq

theorem ReferencesInv.closed (h : ReferencesInv calls t) {ctx' : ClientConnectionDispatch}
    (helms : ctx'.elms = t.ctx.elms.set i none)
    (href : ctx'.deviceConnectionRef = t.ctx.deviceConnectionRef) :
    ReferencesInv calls ⟨ctx', t.given.drop i⟩ := by
  have hkeys : dispatchKeys ctx' = (dispatchKeys t.ctx).set i none := by
    rw [dispatchKeys, dispatchKeys, helms, List.map_set]
    rfl
  have hold {j : ℕ} {k : UInt64 × List UInt8} (hj : (dispatchKeys ctx')[j]? = some (some k)) :
      (dispatchKeys t.ctx)[j]? = some (some k) := by
    by_cases heq : i = j
    · subst heq
      rw [hkeys, List.getElem?_set_self'] at hj
      cases hi : (dispatchKeys t.ctx)[i]? <;> simp [hi] at hj
    · rwa [hkeys, List.getElem?_set_ne heq] at hj
  refine ⟨href ▸ h.counter, h.increasing, href ▸ h.bounds, h.sound.drop i, ?_, ?_⟩
  · rw [Table.keys_drop, hkeys, h.keys, List.map_set]
    rfl
  · exact fun j j' k k' hj hj' => h.apart j j' k k' (hold hj) (hold hj')

theorem ReferencesInv.step {e : DispatchEvent} (h : ReferencesInv calls t)
    (hs : referencedStep t e = some t')
    (hfits : calls + (callsOpen t e).toNat < 2 ^ 64) :
    ReferencesInv (calls + (callsOpen t e).toNat) t' := by
  obtain ⟨ctx', hstep, rfl⟩ := Option.map_eq_some_iff.mp hs
  have hcalls : callsOpen t e = decide (ctx'.deviceConnectionRef ≠ t.ctx.deviceConnectionRef) := by
    simp [callsOpen, hstep]
  cases dispatchMoves_step hstep with
  | same hkeys href =>
    obtain ⟨hopened, hclosed⟩ := unchanged_elm (active_of_keys hkeys)
    have hnone : callsOpen t e = false := by simp [hcalls, href]
    simp only [hopened, hclosed, hnone, Bool.toNat_false, Nat.add_zero]
    exact ⟨href ▸ h.counter, h.increasing, href ▸ h.bounds, h.sound, hkeys ▸ h.keys,
      hkeys ▸ h.apart⟩
  | failed hkeys href =>
    obtain ⟨hopened, hclosed⟩ := unchanged_elm (active_of_keys hkeys)
    have hsome : callsOpen t e = true := by simp [hcalls, href]
    rw [hsome, Bool.toNat_true] at hfits ⊢
    simp only [hopened, hclosed]
    have hnext := h.next hfits
    refine ⟨?_, h.increasing, fun ref hmem => ?_, h.sound, hkeys ▸ h.keys, hkeys ▸ h.apart⟩
    · rw [href, toNat_next (by rw [h.counter]; exact hfits), h.counter]
    · obtain ⟨hpos, hle⟩ := h.bounds ref hmem
      rw [href]
      exact ⟨hpos, UInt64.le_of_lt (UInt64.lt_of_le_of_lt hle hnext)⟩
  | opened i c hfree helms href hc hnew =>
    have hsome : callsOpen t e = true := by simp [hcalls, href]
    rw [hsome, Bool.toNat_true] at hfits ⊢
    rw [opened_elm hfree helms]
    exact h.opened hfits hfree helms href hc hnew
  | closed i c hc helms href =>
    obtain ⟨hopened, hclosed⟩ := closed_elm hc helms
    have hnone : callsOpen t e = false := by simp [hcalls, href]
    simp only [hopened, hclosed, hnone, Bool.toNat_false, Nat.add_zero]
    exact h.closed helms href

theorem referencesInv_run {maxConnections : ℕ} {evs : List DispatchEvent}
    (h : (referencedDispatch maxConnections).Run evs t)
    (hfew : (referencedDispatch maxConnections).countTaken callsOpen
      (referencedDispatch maxConnections).init evs < 2 ^ 64) :
    ReferencesInv ((referencedDispatch maxConnections).countTaken callsOpen
      (referencedDispatch maxConnections).init evs) t := by
  induction h with
  | nil => exact referencesInv_init maxConnections
  | @snoc evs t e t' hr hs ih =>
    have hcount := hr.countTaken_snoc callsOpen hs
    rw [hcount] at hfew ⊢
    exact (ih (by omega)).step hs hfew

/-- The references given to the connections tell them apart. `found` says that the reference of
the `n`-th connection leads to the element that holds this connection, if there is still one. -/
structure ReferencesSound (t : ReferencedDispatch) : Prop where
  increasing : t.given.handles.Pairwise (· < ·)
  nonzero : ∀ ref ∈ t.given.handles, ref ≠ 0
  distinct : ∀ (i j : ℕ) (c c' : DispatchedConnection), t.ctx.elms[i]? = some (some c) →
    t.ctx.elms[j]? = some (some c') →
    c.connectionRef = c'.connectionRef ∨ middleBytes c.conn.id = middleBytes c'.conn.id → i = j
  found : ∀ (n : ℕ) (ref : UInt64), t.given.handles[n]? = some ref →
    ncDeviceConnectionFromRef t.ctx ref = t.given.slots.findIdx? fun slot => decide (slot = some n)
  unknown : ∀ ref, ref ∉ t.given.handles → ncDeviceConnectionFromRef t.ctx ref = none

/-- The dispatcher finds what the table of the references finds. -/
theorem ReferencesInv.fromRef_eq (h : ReferencesInv calls t) (ref : UInt64) :
    ncDeviceConnectionFromRef t.ctx ref = t.given.lookup ref := by
  rw [Table.lookup_eq_keys, h.keys, dispatchKeys, List.map_map, List.findIdx?_map]
  refine congrArg (fun p => t.ctx.elms.findIdx? p) (funext fun elm => ?_)
  cases elm with
  | none => rfl
  | some c => simp [connectionKey]

/-- An element holds the number of its connection. -/
theorem ReferencesInv.slot_of_elm (h : ReferencesInv calls t) {c : DispatchedConnection}
    (hc : t.ctx.elms[i]? = some (some c)) :
    ∃ n : ℕ, t.given.slots[i]? = some (some n) ∧ t.given.handles[n]? = some c.connectionRef := by
  have hkey : t.given.keys[i]? = some (some c.connectionRef) := by
    rw [h.keys, dispatchKeys, List.map_map, List.getElem?_map, hc]
    rfl
  rw [Table.keys, List.getElem?_map] at hkey
  obtain ⟨slot, hslot, hhandle⟩ := Option.map_eq_some_iff.mp hkey
  obtain ⟨n, rfl, hn⟩ := Option.bind_eq_some_iff.mp hhandle
  exact ⟨n, hslot, hn⟩

theorem ReferencesInv.referencesSound (h : ReferencesInv calls t) : ReferencesSound t := by
  refine ⟨h.increasing, fun ref hmem hzero => ?_, fun i j c c' hc hc' hsame => ?_,
    fun n ref hn => ?_, fun ref hunknown => ?_⟩
  · have hpos := (h.bounds ref hmem).1
    rw [hzero] at hpos
    exact absurd hpos (UInt64.lt_irrefl 0)
  · rcases hsame with href | hid
    · obtain ⟨n, hslot, hn⟩ := h.slot_of_elm hc
      obtain ⟨n', hslot', hn'⟩ := h.slot_of_elm hc'
      rw [← href] at hn'
      obtain ⟨hlt, -⟩ := List.getElem?_eq_some_iff.mp hn
      obtain rfl := (List.getElem?_inj hlt h.sound.nodup).mp (hn.trans hn'.symm)
      exact h.sound.apart i j n hslot hslot'
    · refine h.apart i j (c.connectionRef, middleBytes c.conn.id)
        (c'.connectionRef, middleBytes c'.conn.id) ?_ ?_ hid
      · rw [dispatchKeys, List.getElem?_map, hc]
        rfl
      · rw [dispatchKeys, List.getElem?_map, hc']
        rfl
  · rw [h.fromRef_eq]
    exact h.sound.lookup_eq hn
  · rw [h.fromRef_eq]
    exact Table.lookup_eq_none hunknown

/-- In every run with fewer than 2^64 calls of `nc_client_connection_open` the references tell
the connections apart. -/
theorem connection_references_sound (maxConnections : ℕ) {evs : List DispatchEvent}
    (hfew : (referencedDispatch maxConnections).countTaken callsOpen
      (referencedDispatch maxConnections).init evs < 2 ^ 64)
    (hv : (referencedDispatch maxConnections).Visits evs t) : ReferencesSound t := by
  obtain ⟨pre, ⟨post, rfl⟩, hr⟩ := hv
  have hcount := Machine.countTaken_append callsOpen post hr.exec_eq
  have hpre : (referencedDispatch maxConnections).countTaken callsOpen
      (referencedDispatch maxConnections).init pre < 2 ^ 64 := by omega
  exact (referencesInv_run hr hpre).referencesSound

def reusedElmRun : List DispatchEvent :=
  [.packet 0 0 (helloPacket 1) {}, .connection 0 (.close {}), .connection 0 .closeEvent,
    .packet 0 1 (helloPacket 2) {}]

theorem connection_references_reused :
    ∃ t, (referencedDispatch 10).Run reusedElmRun t ∧ t.given.handles = [1, 2] ∧
      ncDeviceConnectionFromRef t.ctx 1 = none ∧ ncDeviceConnectionFromRef t.ctx 2 = some 0 := by
  refine ⟨_, Machine.run_of_exec rfl, by decide +kernel, ?_, by decide +kernel⟩
  have hsound := @connection_references_sound _ 10 reusedElmRun (by decide +kernel)
    (Machine.run_of_exec rfl).visits
  exact (hsound.found 0 1 (by decide +kernel)).trans (by decide +kernel)

/-! ## After 2^64 calls -/

def referenceTaken : ReferencedDispatch :=
  ((referencedDispatch 2).exec [.packet 0 0 (helloPacket 1) {}]).getD (referencedDispatch 2).init

def failingOpen : DispatchEvent := .packet 0 1 (helloPacket 2) { keepAliveOk := false }

def ReferencedDispatch.withRef (t : ReferencedDispatch) (ref : UInt64) : ReferencedDispatch :=
  { t with ctx := { t.ctx with deviceConnectionRef := ref } }

theorem failingOpen_step (ref : UInt64) :
    referencedStep (referenceTaken.withRef ref) failingOpen =
      some (referenceTaken.withRef (ref + 1)) := by
  obtain ⟨taken, htaken⟩ : ∃ taken, ncDeviceNextConnectionRef
      (referenceTaken.withRef ref).ctx.deviceConnectionRef = (taken, ref + 1) :=
    ⟨_, Prod.ext rfl (nextConnectionRef_counter ref)⟩
  have hdispatch : dispatchStep (referenceTaken.withRef ref).ctx failingOpen =
      some (referenceTaken.withRef (ref + 1)).ctx := by
    unfold failingOpen dispatchStep ncClientConnectionDispatchHandlePacket dispatchUnknown
    rw [htaken]
    -- with or without a reference the call fails
    cases taken with
    | none | some => rfl
  have helms : ∀ i : ℕ, (referenceTaken.withRef (ref + 1)).ctx.elms[i]? = some none ↔
      (referenceTaken.withRef ref).ctx.elms[i]? = some none := fun _ => Iff.rfl
  obtain ⟨hopened, hclosed⟩ := unchanged_elm helms
  rw [referencedStep, hdispatch, Option.map_some, hopened, hclosed]
  rfl

theorem exec_failingOpens (n : ℕ) :
    (referencedDispatch 2).exec ([.packet 0 0 (helloPacket 1) {}] ++ List.replicate n failingOpen) =
      some (referenceTaken.withRef (1 + UInt64.ofNat n)) := by
  induction n with
  | zero => rfl
  | succ n ih =>
    rw [List.replicate_succ', ← List.append_assoc, Machine.exec_snoc, ih]
    refine (failingOpen_step _).trans ?_
    rw [UInt64.ofNat_add, add_assoc]
    rfl

/-- A second connection is opened after 2^64 - 1 calls of `nc_client_connection_open` that
failed, and gets the reference of the first. -/
theorem connection_reference_given_twice :
    ∃ evs t, (referencedDispatch 2).Run evs t ∧ t.given.handles = [1, 1] ∧
      t.ctx.elms.map (Option.map DispatchedConnection.connectionRef) = [some 1, some 1] ∧
      ¬ ReferencesSound t := by
  have hwrapped : (1 : UInt64) + UInt64.ofNat (2 ^ 64 - 1) = 0 := by decide +kernel
  have hexec := exec_failingOpens (2 ^ 64 - 1)
  rw [hwrapped] at hexec
  refine ⟨_, _, Machine.Run.snoc (e := .packet 0 2 (helloPacket 3) {})
    (Machine.run_of_exec hexec) rfl,
    by decide +kernel, by decide +kernel, fun hsound => ?_⟩
  exact absurd (hsound.increasing) (by decide +kernel)

end NabtoDevice
