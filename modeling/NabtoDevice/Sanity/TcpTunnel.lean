import NabtoDevice.Spec.TcpTunnel
import Mathlib.Tactic.SplitIfs

/-! What a step of the tunnel services can do, said once for the proofs about them. A verdict on a
stream releases it or hands it to a connection that starts, unless the connection cannot be
initialised. -/

namespace NabtoDevice

open NmTcpTunnels

variable {t t' : NmTcpTunnels} {e : TcpTunnelEvent}

/-! ## Initialising a connection -/

def ConnectionInitEnv.fails (env : ConnectionInitEnv) : Bool :=
  env.connectionNew && (env.tcpCreate != .ok || env.connectEvent != .ok || env.readEvent != .ok ||
    env.writeEvent != .ok)

/-- What `nm_tcp_tunnel_connection_init` leaves if it fails: no stream, or a connection in the
list. -/
structure HalfInitialised (c : NmTcpTunnelConnection) : Prop where
  unconnected : c.connects = []
  unreleased : c.releasedStreams = []
  live : c.frees = 0
  left : c.stream = none ∨ c.service ≠ none

theorem connectionInit_cases (s : NmTcpTunnelService) (stream : ℕ) {env : ConnectionInitEnv}
    (hnew : env.connectionNew = true) :
    (env.fails = false ∧ nmTcpTunnelConnectionInit s {} stream env =
        (.ok, initialisedConnection s.object stream s.address s.port)) ∨
      env.fails = true ∧ ∃ ec c, nmTcpTunnelConnectionInit s {} stream env = (ec, c) ∧ ec ≠ .ok ∧
        HalfInitialised c := by
  unfold ConnectionInitEnv.fails nmTcpTunnelConnectionInit
  rw [hnew, Bool.true_and]
  have hlisted : some s.object ≠ none := Option.some_ne_none _
  split_ifs with htcp hconnect hread hwrite
  · exact .inr ⟨by simp [htcp], _, _, rfl, htcp, ⟨rfl, rfl, rfl, .inl rfl⟩⟩
  · exact .inr ⟨by simp [hconnect], _, _, rfl, hconnect, ⟨rfl, rfl, rfl, .inr hlisted⟩⟩
  · exact .inr ⟨by simp [hread], _, _, rfl, hread, ⟨rfl, rfl, rfl, .inr hlisted⟩⟩
  · exact .inr ⟨by simp [hwrite], _, _, rfl, hwrite, ⟨rfl, rfl, rfl, .inr hlisted⟩⟩
  · rw [not_ne_iff] at htcp hconnect hread hwrite
    exact .inl ⟨by simp [htcp, hconnect, hread, hwrite], rfl⟩

inductive VerdictMove (t : NmTcpTunnels) (r : TunnelStreamRequest) (allow : Bool)
    (env : ConnectionInitEnv) :
    NmTcpTunnels → Prop
  | released (hwhy : t.findServiceByWeakPtr r.serviceWeakPtr = none ∨ allow = false ∨
      env.connectionNew = false) : VerdictMove t r allow env (t.releaseStream r.stream)
  | connected {s : NmTcpTunnelService} (hfind : t.findServiceByWeakPtr r.serviceWeakPtr = some s)
      (hallow : allow = true) (hok : env.fails = false) : VerdictMove t r allow env { t with
        connections :=
          t.connections ++ [(initialisedConnection s.object r.stream s.address s.port).start] }
  | failed {s : NmTcpTunnelService} {c : NmTcpTunnelConnection}
      (hfind : t.findServiceByWeakPtr r.serviceWeakPtr = some s) (hallow : allow = true)
      (hfails : env.fails = true) (hhalf : HalfInitialised c) :
      VerdictMove t r allow env { t with connections := t.connections ++ [c.free] }

theorem verdictMove_of_iamCallback (t : NmTcpTunnels) (r : TunnelStreamRequest) (allow : Bool)
    (env : ConnectionInitEnv) :
    VerdictMove t r allow env (t.serviceStreamIamCallback r allow env) := by
  unfold serviceStreamIamCallback
  split
  · rename_i hfind
    exact .released (.inl hfind)
  · rename_i s hfind
    cases allow with
    | false => exact .released (.inr (.inl rfl))
    | true =>
      cases hnew : env.connectionNew with
      | false => exact .released (.inr (.inr hnew))
      | true =>
        rcases connectionInit_cases s r.stream hnew with
          ⟨hok, hinit⟩ | ⟨hfails, ec, c, hinit, hec, hhalf⟩
        · simp only [hinit]
          exact .connected hfind rfl hok
        · simp only [hinit]
          exact .failed hfind rfl hfails hhalf

/-! ## The steps -/

/-- What `get_service_iam` answers to a request that is allowed. -/
def allowedAnswer (found : Option NmTcpTunnelService) (buffer payload : Bool) : TunnelCoapAnswer :=
  match found with
  | none => .error 404
  | some s => if buffer && payload then .content (encodeService s) else .error 500

theorem getServiceIam_respond (t : NmTcpTunnels) (r : TunnelCoapRequest)
    (allow buffer payload : Bool) :
    ∃ answer, t.getServiceIam r allow buffer payload = t.respond r.request answer ∧
      (allow = true → answer = allowedAnswer (t.findService r.id) buffer payload) := by
  unfold getServiceIam
  cases allow with
  | false => exact ⟨_, rfl, nofun⟩
  | true =>
    cases t.findService r.id with
    | none => exact ⟨_, rfl, fun _ => rfl⟩
    | some s => cases buffer <;> cases payload <;> exact ⟨_, rfl, fun _ => rfl⟩

inductive TunnelsMove (t : NmTcpTunnels) : TcpTunnelEvent → NmTcpTunnels → Prop
  | addRefused {id type : String} {port : UInt16} {listener : Option ℕ} :
      TunnelsMove t (.addService id type none port listener) t
  | added {id type : String} {address : NpIpAddress} {port : UInt16} {listener : Option ℕ} :
      TunnelsMove t (.addService id type (some address) port listener)
        (t.serviceInit id type address port listener)
  | removeRefused {id : Option String} : TunnelsMove t (.removeService id) t
  | removed {id : Option String} {s : NmTcpTunnelService} : TunnelsMove t (.removeService id)
      { t.serviceDeinit s with services := t.services.filter fun other => other.object != s.object }
  | offered {object : ℕ} {authorization : Bool} {s : NmTcpTunnelService} (hs : s ∈ t.services) :
      TunnelsMove t (.streamOffered object authorization)
        (t.serviceStreamListenerCallback s authorization)
  | verdict {i : ℕ} {allow : Bool} {env : ConnectionInitEnv} {r : TunnelStreamRequest}
      {t' : NmTcpTunnels}
      (hr : t.streamRequests[i]? = some r)
      (hm : VerdictMove { t with streamRequests := t.streamRequests.eraseIdx i } r allow env t') :
      TunnelsMove t (.streamVerdict i allow env) t'
  | coapRefused {id : Option String} {authorization : Bool} {answer : TunnelCoapAnswer} :
      TunnelsMove t (.coapRequest id authorization)
        ({ t with coapReceived := t.coapReceived + 1 }.respond t.coapReceived answer)
  | coapWaits {id : Option String} {authorization : Bool} {s : NmTcpTunnelService}
      (hfind : t.findService id = some s) :
      TunnelsMove t (.coapRequest id authorization) { t with
        coapReceived := t.coapReceived + 1
        coapRequests := t.coapRequests ++ [⟨t.coapReceived, id, s.object⟩] }
  | coapAnswered {i : ℕ} {allow buffer payload : Bool} {r : TunnelCoapRequest}
      {answer : TunnelCoapAnswer}
      (hr : t.coapRequests[i]? = some r)
      (hanswer : allow = true → answer = allowedAnswer (t.findService r.id) buffer payload) :
      TunnelsMove t (.coapVerdict i allow buffer payload)
        ({ t with coapRequests := t.coapRequests.eraseIdx i }.respond r.request answer)
  | connection {i : ℕ} {e : TunnelConnectionEvent} {c c' : NmTcpTunnelConnection}
      (hc : t.connections[i]? = some c) (hs : tunnelConnectionStep c e = some c') :
      TunnelsMove t (.connection i e) { t with connections := t.connections.set i c' }

theorem tunnelsMove_of_step (hs : tcpTunnelsStep t e = some t') : TunnelsMove t e t' := by
  obtain ⟨-, hs⟩ := Option.ite_none_left_eq_some.mp hs
  cases e with
  | addService id type address port listener =>
    cases hs
    cases address with
    | none => exact .addRefused
    | some address => exact .added
  | removeService id =>
    cases hs
    unfold removeTcpTunnelService serviceDestroyById
    cases t.findService id with
    | none => exact .removeRefused
    | some s => exact .removed
  | streamOffered object authorization =>
    obtain ⟨s, hfind, rfl⟩ := Option.map_eq_some_iff.mp hs
    exact .offered (List.mem_of_find?_eq_some hfind)
  | streamVerdict i allow env =>
    obtain ⟨r, hr, rfl⟩ := Option.map_eq_some_iff.mp hs
    exact .verdict hr (verdictMove_of_iamCallback _ r allow env)
  | coapRequest id authorization =>
    cases hs
    unfold getServiceAction
    dsimp only
    split
    · exact .coapRefused
    · rename_i s hfind
      split_ifs
      · exact .coapWaits hfind
      · exact .coapRefused
  | coapVerdict i allow buffer payload =>
    obtain ⟨r, hr, rfl⟩ := Option.map_eq_some_iff.mp hs
    obtain ⟨answer, hrespond, hanswer⟩ := getServiceIam_respond
      { t with coapRequests := t.coapRequests.eraseIdx i } r allow buffer payload
    rw [hrespond]
    exact .coapAnswered hr hanswer
  | connection i e =>
    obtain ⟨-, hs⟩ := Option.ite_none_left_eq_some.mp hs
    obtain ⟨c, hc, hs⟩ := Option.bind_eq_some_iff.mp hs
    obtain ⟨c', hmoved, rfl⟩ := Option.map_eq_some_iff.mp hs
    exact .connection hc hmoved

end NabtoDevice
