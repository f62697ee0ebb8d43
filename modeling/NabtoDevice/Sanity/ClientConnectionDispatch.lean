import NabtoDevice.Spec.ClientConnectionDispatch

/-! How the dispatcher of the client connections finds the connection of a packet, what
it reads for that, and the three things a packet can do to it: go to a known connection,
have no effect on the elements, or open a connection. -/

namespace NabtoDevice

variable {ctx ctx' : ClientConnectionDispatch} {d : Datagram} {env : OpenEnv}

def Datagram.middle (d : Datagram) : List UInt8 := (List.range 14).map fun k => d.mem (1 + k)

def knows (elms : List (Option DispatchedConnection)) (d : Datagram) : Bool :=
  elms.any fun elm => elm.any fun c => d.middle == middleBytes c.conn.id

/-- A packet of no known connection opens one: it is a handshake packet, an element is free
and nothing fails. -/
def opensUnknown (ctx : ClientConnectionDispatch) (d : Datagram) (env : OpenEnv) : Bool :=
  d.mem 16 == mbedtlsSslMsgHandshake && ctx.elms.any Option.isNone &&
    (ncDeviceNextConnectionRef ctx.deviceConnectionRef).1.isSome && env.allOk

def opensConnection (ctx : ClientConnectionDispatch) (d : Datagram) (env : OpenEnv) : Bool :=
  !knows ctx.elms d && opensUnknown ctx d env

variable (elms : List (Option DispatchedConnection))

theorem findConnection_val_cons_some (c : DispatchedConnection)
    (elms : List (Option DispatchedConnection)) (i : ℕ) :
    (findConnection d (some c :: elms) i).val =
      if d.middle = middleBytes c.conn.id then some (i,
        c) else (findConnection d elms (i + 1)).val := by
  have hval : (findConnection d (some c :: elms) i).val =
      (if d.middle = middleBytes c.conn.id then pure (some (i, c))
        else findConnection d elms (i + 1) : Traced _).val := rfl
  rw [hval]
  split_ifs <;> rfl

theorem findConnection_isNone (i : ℕ) : (findConnection d elms i).val.isNone = !knows elms d := by
  induction elms generalizing i with
  | nil => rfl
  | cons elm elms ih =>
    cases elm with
    | none => simpa [findConnection, knows] using ih (i + 1)
    | some c =>
      rw [findConnection_val_cons_some]
      split_ifs with hid
      · simp [knows, hid]
      · simpa [knows, beq_false_of_ne hid] using ih (i + 1)

theorem findConnection_mem {elms : List (Option DispatchedConnection)} {i j : ℕ}
    {c : DispatchedConnection} (h : (findConnection d elms i).val = some (j, c)) :
    ∃ k, j = i + k ∧ elms[k]? = some (some c) := by
  induction elms generalizing i with
  | nil => cases h
  | cons elm elms ih =>
    -- the connection is further down the list
    have htail (h : (findConnection d elms (i + 1)).val = some (j, c)) :
        ∃ k, j = i + k ∧ (elm :: elms)[k]? = some (some c) := by
      obtain ⟨k, hj, hk⟩ := ih h
      exact ⟨k + 1, by omega, by simpa using hk⟩
    cases elm with
    | none => exact htail h
    | some c' =>
      rw [findConnection_val_cons_some] at h
      split_ifs at h with hid
      · obtain ⟨rfl, rfl⟩ := Prod.mk.inj (Option.some.inj h)
        exact ⟨0, rfl, rfl⟩
      · exact htail h

theorem findConnection_safe_iff (i n : ℕ) :
    (findConnection d elms i).Safe n ↔ (elms.any Option.isSome = true → 15 ≤ n) := by
  induction elms generalizing i with
  | nil => simp [findConnection]
  | cons elm elms ih =>
    cases elm with
    | none => simpa [findConnection] using ih (i + 1)
    | some c =>
      have hblock : (0 : ℤ) ≤ 14 ∧ ((1 : ℕ) : ℤ) + 14 ≤ n ↔ 15 ≤ n := by omega
      simp only [findConnection, Traced.safe_bind, Traced.safe_readBlock, hblock]
      constructor
      · intro h _
        exact h.1
      · intro h
        have hn : 15 ≤ n := h (by simp)
        refine ⟨hn, ?_⟩
        split_ifs
        · exact Traced.safe_pure _
        · exact (ih (i + 1)).mpr fun _ => hn

theorem hasActive_of_getElem {elms : List (Option DispatchedConnection)} {i : ℕ}
    {c : DispatchedConnection} (h : elms[i]? = some (some c)) : elms.any Option.isSome = true :=
  List.any_eq_true.mpr ⟨some c, List.mem_of_getElem? h, rfl⟩

theorem hasActive_set {elms : List (Option DispatchedConnection)} {i : ℕ}
    {elm : Option DispatchedConnection} (h : elms[i]? = some elm) (c : DispatchedConnection) :
    (elms.set i (some c)).any Option.isSome = true := by
  obtain ⟨hlt, -⟩ := List.getElem?_eq_some_iff.mp h
  exact hasActive_of_getElem (List.getElem?_set_self hlt)

theorem hasActive_mapIdx (f : ℕ → DispatchedConnection → DispatchedConnection) :
    (elms.mapIdx fun i elm => elm.map (f i)).any Option.isSome = elms.any Option.isSome := by
  induction elms generalizing f with
  | nil => rfl
  | cons elm elms ih => simp [List.mapIdx_cons, ih fun i => f (i + 1)]

/-- What the element of an opened connection and the counters become. -/
def ClientConnectionDispatch.opened (ctx : ClientConnectionDispatch) (i : ℕ)
    (c : DispatchedConnection) (ref : UInt64) : ClientConnectionDispatch :=
  { ctx with
    elms := ctx.elms.set i (some c)
    deviceConnectionRef := ref
    openedAfterClose := if ctx.closing then ctx.openedAfterClose + 1 else ctx.openedAfterClose }

theorem openInBuffer_isSome (ref : Option UInt64) (sock ep : ℕ) (d : Datagram) (env : OpenEnv) :
    (openInBuffer ref sock ep d env).val.isSome = (ref.isSome && env.allOk) := by
  unfold openInBuffer
  cases ref with
  | none => rfl
  | some ref => cases env.allOk <;> simp

theorem dispatchUnknown_cases (ctx : ClientConnectionDispatch) (sock ep : ℕ) (d : Datagram)
    (env : OpenEnv) :
    (opensUnknown ctx d env = false ∧
      ∃ ref, (dispatchUnknown ctx sock ep d env).val.1 = { ctx with deviceConnectionRef := ref }) ∨
    (opensUnknown ctx d env = true ∧ ∃ i c ref, ctx.elms[i]? = some none ∧
      (dispatchUnknown ctx sock ep d env).val.1 = ctx.opened i c ref) := by
  by_cases htype : d.mem 16 = mbedtlsSslMsgHandshake
  · simp only [dispatchUnknown, Traced.val_bind, Traced.val_readPlace, htype, ↓reduceIte]
    cases hfree : ctx.elms.findIdx? Option.isNone with
    | none =>
      have hany : ctx.elms.any Option.isNone = false :=
        List.any_eq_false.mpr fun elm helm =>
          Bool.not_eq_true _ ▸ List.findIdx?_eq_none_iff.mp hfree elm helm
      exact Or.inl ⟨by simp [opensUnknown, hany], ctx.deviceConnectionRef, rfl⟩
    | some i =>
      obtain ⟨hlt, hnone, -⟩ := List.findIdx?_eq_some_iff_getElem.mp hfree
      have hi : ctx.elms[i]? = some none := by simpa [hlt] using hnone
      have hany : ctx.elms.any Option.isNone = true :=
        List.any_eq_true.mpr ⟨none, List.mem_of_getElem? hi, rfl⟩
      have hopen := openInBuffer_isSome
        (ncDeviceNextConnectionRef ctx.deviceConnectionRef).1 sock ep
        d env
      have hopens : opensUnknown ctx d env =
          (openInBuffer (ncDeviceNextConnectionRef ctx.deviceConnectionRef).1
            sock ep d env).val.isSome := by
        simp [opensUnknown, htype, hany, hopen]
      rw [hopens]
      simp only [Traced.val_bind]
      cases (openInBuffer
        (ncDeviceNextConnectionRef ctx.deviceConnectionRef).1 sock ep d env).val with
      | none => exact Or.inl ⟨rfl, _, rfl⟩
      | some opened => exact Or.inr ⟨rfl, i, opened.1, _, hi, rfl⟩
  · simp only [dispatchUnknown, Traced.val_bind, Traced.val_readPlace, htype, ↓reduceIte]
    exact Or.inl ⟨by simp [opensUnknown, htype], ctx.deviceConnectionRef, rfl⟩

/-- What a packet can do to the dispatcher. -/
theorem dispatchHandlePacket_cases (ctx : ClientConnectionDispatch) (sock ep : ℕ) (d : Datagram)
    (env : OpenEnv) :
    (opensConnection ctx d env = false ∧ ∃ i c c', ctx.elms[i]? = some (some c) ∧
      (ncClientConnectionDispatchHandlePacket ctx sock ep d env).val.1 =
        { ctx with elms := ctx.elms.set i (some c') }) ∨
    (opensConnection ctx d env = false ∧
      ∃ ref, (ncClientConnectionDispatchHandlePacket ctx sock ep d env).val.1 =
        { ctx with deviceConnectionRef := ref }) ∨
    (opensConnection ctx d env = true ∧ ∃ i c ref, ctx.elms[i]? = some none ∧
      (ncClientConnectionDispatchHandlePacket ctx sock ep d env).val.1 = ctx.opened i c ref) := by
  have hknows := findConnection_isNone (d := d) ctx.elms 0
  simp only [ncClientConnectionDispatchHandlePacket, Traced.val_bind]
  cases hfound : (findConnection d ctx.elms 0).val with
  | some found =>
    obtain ⟨i, c⟩ := found
    obtain ⟨k, hk, hc⟩ := findConnection_mem hfound
    have hopens : opensConnection ctx d env = false := by
      have : knows ctx.elms d = true := by simpa [hfound] using hknows
      simp [opensConnection, this]
    refine Or.inl ⟨hopens, i, c, _, ?_, rfl⟩
    rw [hk, Nat.zero_add]
    exact hc
  | none =>
    have hopens : opensConnection ctx d env = opensUnknown ctx d env := by
      have : knows ctx.elms d = false := by simpa [hfound] using hknows
      simp [opensConnection, this]
    rw [hopens]
    exact Or.inr (dispatchUnknown_cases ctx sock ep d env)

end NabtoDevice
