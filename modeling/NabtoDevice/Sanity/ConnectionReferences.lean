import NabtoDevice.Spec.ConnectionReferences
import NabtoDevice.Sanity.ClientConnection
import NabtoDevice.Sanity.ClientConnectionDispatch

/-! What a step of the dispatcher does to the references and the ids of its connections. A
connection keeps both from when it is opened until it is closed. -/

namespace NabtoDevice

variable {ctx ctx' : ClientConnectionDispatch}

/-! ## The id of a connection -/

variable (conn : NcClientConnection) (env : SrvEnv)

variable (channelId : UInt8)

@[simp] theorem id_handleData (sequence : UInt64) (buffer : List UInt8) :
    (ncClientConnectionHandleData conn channelId sequence buffer).id = conn.id := by
  unfold ncClientConnectionHandleData ncClientConnectionHandleKeepAlive
    ncClientConnectionKeepAliveSendResponse
  cases ncKeepAliveHandleRequest conn.keepAlive buffer <;> dsimp only <;> split_ifs <;>
    first | rfl | exact (calm_asyncSendData _ _).id

@[simp] theorem id_doOne : (nmMbedtlsSrvDoOne conn env).id = conn.id := by
  have hsends := (calm_mbedtlsSends conn env).id
  unfold nmMbedtlsSrvDoOne
  cases conn.dtls.state with
  | connecting => cases env.handshake <;> exact hsends
  | data =>
    cases env.read with
    | data sequence buffer => exact (id_handleData _ _ sequence buffer).trans hsends
    | eof | wantReadWrite | closeNotify | error => exact hsends
  | closing => rfl

@[simp] theorem id_handlePacket (env : SrvEnv) :
    (nmMbedtlsSrvHandlePacket conn channelId env).id = conn.id :=
  id_doOne _ env

@[simp] theorem id_seenOn (sock ep : ℕ) : (conn.seenOn channelId sock ep).id = conn.id := by
  unfold NcClientConnection.seenOn
  split_ifs <;> rfl

theorem id_open (id : List UInt8) (sock ep : ℕ) (env : SrvEnv) :
    (ncClientConnectionOpen id sock ep env).id = id :=
  id_handlePacket _ _ env

theorem id_step {conn conn' : NcClientConnection} {e : ClientConnectionEvent}
    (h : clientConnectionStep conn e = some conn') : conn'.id = conn.id := by
  cases clientConnectionCase_of_step h with
  | packet sock ep buffer env =>
    unfold ncClientConnectionHandlePacket
    split_ifs
    · rfl
    · rw [id_handlePacket, id_seenOn]
  | timer env => exact id_doOne conn env
  | startSend env => exact (sameRoute_startSendDeferred conn.startSendFired env).id
  | deferredEvent env => exact (sameRoute_doEventCallback conn env).id
  | closeEvent => exact (sameRoute_eventClose conn).id
  | close env => exact (calm_asyncClose conn env).id
  | keepAliveEvent env => exact (calm_keepAliveEvent conn env).id
  | sendData => exact (calm_asyncSendData conn _).id
  | udpDone ok env =>
    unfold ncClientConnectionSendToUdpCb nmMbedtlsSrvConnectionSendCallback
    dsimp only
    split_ifs
    · rfl
    · rfl
    · rfl
    · exact id_doOne _ env

/-! ## Steps of the dispatcher -/

def connectionKey (elm : Option DispatchedConnection) : Option (UInt64 × List UInt8) :=
  elm.map fun c => (c.connectionRef, middleBytes c.conn.id)

def dispatchKeys (ctx : ClientConnectionDispatch) : List (Option (UInt64 × List UInt8)) :=
  ctx.elms.map connectionKey

/-- What a step does to the elements and to the counter of the device. -/
inductive DispatchMoves (ctx ctx' : ClientConnectionDispatch) : Prop
  | same (hkeys : dispatchKeys ctx' = dispatchKeys ctx)
      (href : ctx'.deviceConnectionRef = ctx.deviceConnectionRef)
  | failed (hkeys : dispatchKeys ctx' = dispatchKeys ctx)
      (href : ctx'.deviceConnectionRef = ctx.deviceConnectionRef + 1)
  | opened (i : ℕ) (c : DispatchedConnection) (hfree : ctx.elms[i]? = some none)
      (helms : ctx'.elms = ctx.elms.set i (some c))
      (href : ctx'.deviceConnectionRef = ctx.deviceConnectionRef + 1)
      (hc : c.connectionRef = ctx.deviceConnectionRef + 1)
      (hnew : ∀ c', some c' ∈ ctx.elms → middleBytes c'.conn.id ≠ middleBytes c.conn.id)
  | closed (i : ℕ) (c : DispatchedConnection) (hc : ctx.elms[i]? = some (some c))
      (helms : ctx'.elms = ctx.elms.set i none)
      (href : ctx'.deviceConnectionRef = ctx.deviceConnectionRef)

variable {i : ℕ} {c : DispatchedConnection}

/-- A connection is replaced by itself in a later state. -/
theorem dispatchKeys_set {elms : List (Option DispatchedConnection)} {c' : DispatchedConnection}
    (hc : elms[i]? = some (some c)) (hkey : connectionKey (some c') = connectionKey (some c)) :
    (elms.set i (some c')).map connectionKey = elms.map connectionKey := by
  have hi : (elms.map connectionKey)[i]? = some (connectionKey (some c)) := by simp [hc]
  rw [List.map_set, hkey]
  obtain ⟨hlt, hget⟩ := List.getElem?_eq_some_iff.mp hi
  rw [← hget]
  exact List.set_getElem_self hlt

theorem handlePacketInBuffer_id (sock ep : ℕ) (d : Datagram) (env : SrvEnv) :
    (handlePacketInBuffer conn sock ep d env).val.1.id = conn.id := by
  simp only [handlePacketInBuffer, Traced.val_bind]
  split_ifs
  · rfl
  · exact (id_handlePacket _ _ env).trans (id_seenOn conn _ sock ep)

theorem middleBytes_of_header (mem : ℕ → UInt8) :
    middleBytes ((List.range 16).map mem) = (List.range 14).map fun k => mem (1 + k) := rfl

/-- An opened connection has the reference that was taken for it and the id of the packet. -/
theorem openInBuffer_opened {ref : Option UInt64} {sock ep : ℕ} {d : Datagram} {env : OpenEnv}
    {len : UInt16} (h : (openInBuffer ref sock ep d env).val = some (c, len)) :
    ref = some c.connectionRef ∧ middleBytes c.conn.id = d.middle := by
  cases ref with
  | none => cases h
  | some r =>
    simp only [openInBuffer, Traced.val_bind] at h
    split_ifs at h
    obtain ⟨rfl, -⟩ := Prod.mk.inj (Option.some.inj h)
    refine ⟨rfl, ?_⟩
    have hheader : (Traced.readBlock d.mem 0 16).val = (List.range 16).map d.mem := by
      simp [Traced.readBlock]
    rw [id_open, hheader]
    exact middleBytes_of_header d.mem

theorem nextConnectionRef_counter (prev : UInt64) :
    (ncDeviceNextConnectionRef prev).2 = prev + 1 := by
  unfold ncDeviceNextConnectionRef
  dsimp only
  split_ifs <;> rfl

theorem nextConnectionRef_eq {prev ref : UInt64}
    (h : (ncDeviceNextConnectionRef prev).1 = some ref) : ref = prev + 1 := by
  unfold ncDeviceNextConnectionRef at h
  dsimp only at h
  split_ifs at h
  exact (Option.some.inj h).symm

theorem middle_ne_of_unknown {elms : List (Option DispatchedConnection)} {d : Datagram}
    (h : knows elms d = false) (hc : some c ∈ elms) : middleBytes c.conn.id ≠ d.middle := by
  have hnone := List.any_eq_false.mp h (some c) hc
  intro heq
  simp [heq] at hnone

theorem moves_dispatchUnknown (sock ep : ℕ) (d : Datagram) (env : OpenEnv)
    (hunknown : knows ctx.elms d = false) :
    DispatchMoves ctx (dispatchUnknown ctx sock ep d env).val.1 := by
  by_cases htype : d.mem 16 = mbedtlsSslMsgHandshake
  · simp only [dispatchUnknown, Traced.val_bind, Traced.val_readPlace, htype, ↓reduceIte]
    cases hfree : ctx.elms.findIdx? Option.isNone with
    | none => exact .same rfl rfl
    | some i =>
      obtain ⟨hlt, hnone, -⟩ := List.findIdx?_eq_some_iff_getElem.mp hfree
      have hi : ctx.elms[i]? = some none := by simpa [hlt] using hnone
      have hcounter := nextConnectionRef_counter ctx.deviceConnectionRef
      simp only [Traced.val_bind]
      cases hopen : (openInBuffer
        (ncDeviceNextConnectionRef ctx.deviceConnectionRef).1 sock ep d env).val with
      | none => exact .failed rfl hcounter
      | some opened =>
        obtain ⟨c, len⟩ := opened
        obtain ⟨href, hmiddle⟩ := openInBuffer_opened hopen
        exact .opened i c hi rfl hcounter (nextConnectionRef_eq href)
          fun c' hc' => hmiddle ▸ middle_ne_of_unknown hunknown hc'
  · simp only [dispatchUnknown, Traced.val_bind, Traced.val_readPlace, htype, ↓reduceIte]
    exact .same rfl rfl

theorem moves_handlePacket (ctx : ClientConnectionDispatch) (sock ep : ℕ) (d : Datagram)
    (env : OpenEnv) :
    DispatchMoves ctx (ncClientConnectionDispatchHandlePacket ctx sock ep d env).val.1 := by
  have hknows := findConnection_isNone (d := d) ctx.elms 0
  simp only [ncClientConnectionDispatchHandlePacket, Traced.val_bind]
  cases hfound : (findConnection d ctx.elms 0).val with
  | none => exact moves_dispatchUnknown sock ep d env (by simpa [hfound] using hknows)
  | some found =>
    obtain ⟨i, c⟩ := found
    obtain ⟨k, rfl, hc⟩ := findConnection_mem hfound
    rw [Nat.zero_add] at *
    refine .same (dispatchKeys_set hc ?_) rfl
    simp only [connectionKey, Option.map_some]
    rw [handlePacketInBuffer_id]

theorem dispatchMoves_step {e : DispatchEvent} (h : dispatchStep ctx e = some ctx') :
    DispatchMoves ctx ctx' := by
  cases e with
  | packet sock ep d env =>
    obtain ⟨-, rfl⟩ := Machine.of_guard h
    exact moves_handlePacket ctx sock ep d env
  | connection i e =>
    simp only [dispatchStep] at h
    split at h
    · next c hc =>
      split_ifs at h
      obtain ⟨conn, hconn, rfl⟩ := Option.map_eq_some_iff.mp h
      split
      · refine .closed i c hc ?_ ?_
        · simp only [ncClientConnectionDispatchCloseConnection, ncClientConnectionDispatchTryClose]
          split_ifs <;> rfl
        · simp only [ncClientConnectionDispatchCloseConnection, ncClientConnectionDispatchTryClose]
          split_ifs <;> rfl
      · refine .same (dispatchKeys_set hc ?_) rfl
        simp only [connectionKey, Option.map_some]
        rw [id_step hconn]
    · cases h
  | asyncClose envs =>
    obtain ⟨-, rfl⟩ := Machine.of_guard_not h
    have hkeys : (ctx.elms.mapIdx fun i elm => elm.map fun c =>
        { c with conn := nmMbedtlsSrvAsyncClose c.conn (envs i) }).map connectionKey =
        ctx.elms.map connectionKey := by
      refine List.ext_getElem? fun i => ?_
      rw [List.getElem?_map, List.getElem?_mapIdx, List.getElem?_map]
      cases ctx.elms[i]? with
      | none => rfl
      | some elm => cases elm <;> simp [connectionKey, (calm_asyncClose _ _).id]
    refine .same ?_ ?_
    · simp only [ncClientConnectionDispatchAsyncClose]
      split_ifs <;> exact hkeys
    · simp only [ncClientConnectionDispatchAsyncClose]
      split_ifs <;> rfl

/-! ## The observer -/

theorem active_of_keys (h : dispatchKeys ctx' = dispatchKeys ctx) (i : ℕ) :
    ctx'.elms[i]? = some none ↔ ctx.elms[i]? = some none := by
  have hi := congrArg (·[i]?) h
  simp only [dispatchKeys, List.getElem?_map] at hi
  cases helm : ctx.elms[i]? with
  | none => simp_all
  | some elm =>
    cases helm' : ctx'.elms[i]? with
    | none => simp_all
    | some elm' => cases elm <;> cases elm' <;> simp_all [connectionKey]

/-- Where the elements agree on being active no element was opened or closed. -/
theorem unchanged_elm (h : ∀ i : ℕ, ctx'.elms[i]? = some none ↔ ctx.elms[i]? = some none) :
    openedElm ctx ctx' = none ∧ closedElm ctx ctx' = none := by
  constructor
  · refine List.findSome?_eq_none_iff.mpr fun i _ => ?_
    have hi := h i
    split
    · next hfree c hc => simp_all
    · rfl
  · refine List.findSome?_eq_none_iff.mpr fun i _ => ?_
    have hi := h i
    split
    · next c hc hfree => simp_all
    · rfl

theorem opened_elm (hfree : ctx.elms[i]? = some none)
    (helms : ctx'.elms = ctx.elms.set i (some c)) : openedElm ctx ctx' = some (i, c) := by
  obtain ⟨hlt, -⟩ := List.getElem?_eq_some_iff.mp hfree
  have hi : ctx'.elms[i]? = some (some c) := by rw [helms, List.getElem?_set_self hlt]
  -- no other element can have become active
  cases hopened : openedElm ctx ctx' with
  | none =>
    have hnone := List.findSome?_eq_none_iff.mp hopened i
      (by rw [List.mem_range, helms, List.length_set]; exact hlt)
    simp [hfree, hi] at hnone
  | some found =>
    obtain ⟨j, -, hj⟩ := List.exists_of_findSome?_eq_some hopened
    split at hj
    · next c' hfree' hactive =>
      cases hj
      by_cases hji : i = j
      · subst hji
        rw [hi] at hactive
        rw [Option.some.inj (Option.some.inj hactive)]
      · rw [helms, List.getElem?_set_ne hji, hfree'] at hactive
        cases hactive
    · cases hj

theorem closed_elm (hc : ctx.elms[i]? = some (some c)) (helms : ctx'.elms = ctx.elms.set i none) :
    openedElm ctx ctx' = none ∧ closedElm ctx ctx' = some i := by
  obtain ⟨hlt, -⟩ := List.getElem?_eq_some_iff.mp hc
  have hi : ctx'.elms[i]? = some none := by rw [helms, List.getElem?_set_self hlt]
  constructor
  · refine List.findSome?_eq_none_iff.mpr fun j _ => ?_
    split
    · next c' hfree hactive =>
      by_cases hji : i = j
      · subst hji
        rw [hi] at hactive
        cases hactive
      · rw [helms, List.getElem?_set_ne hji, hfree] at hactive
        cases hactive
    · rfl
  · cases hclosed : closedElm ctx ctx' with
    | none =>
      have hnone := List.findSome?_eq_none_iff.mp hclosed i
        (by rw [List.mem_range, helms, List.length_set]; exact hlt)
      simp [hc, hi] at hnone
    | some found =>
      obtain ⟨j, -, hj⟩ := List.exists_of_findSome?_eq_some hclosed
      split at hj
      · next c' hactive hfree =>
        obtain rfl := Option.some.inj hj
        by_cases hji : i = j
        · exact congrArg some hji.symm
        · rw [helms, List.getElem?_set_ne hji, hactive] at hfree
          cases hfree
      · cases hj

end NabtoDevice
