import NabtoDevice.Spec.MdnsServer
import NabtoDevice.Lib.Simulation

/-! The IPv4 and the IPv6 half of the mDNS server compared. `mirror` exchanges the two
halves of a server, of its actions and of its events: the halves correspond if the mirrored
events of a run lead to the mirrored server. -/

namespace NabtoDevice

def MdnsSocket.mirror : MdnsSocket → MdnsSocket
  | .socketv4 => .socketv6
  | .socketv6 => .socketv4

def mirrorEndpoint (ep : NpUdpEndpoint) : NpUdpEndpoint :=
  if ep = mdnsEndpointV4 then mdnsEndpointV6
  else if ep = mdnsEndpointV6 then mdnsEndpointV4
  else ep

@[simp] theorem mirrorEndpoint_v4 : mirrorEndpoint mdnsEndpointV4 = mdnsEndpointV6 := by decide

@[simp] theorem mirrorEndpoint_v6 : mirrorEndpoint mdnsEndpointV6 = mdnsEndpointV4 := by decide

def MdnsAction.mirror : MdnsAction → MdnsAction
  | .sendTo socket ep packet => .sendTo socket.mirror (mirrorEndpoint ep) packet
  | .recvWait socket => .recvWait socket.mirror

def MdnsEvent.mirror : MdnsEvent → MdnsEvent
  | .publishService port => .publishService port
  | .stop => .stop
  | .opened socket ec build => .opened socket.mirror ec build
  | .recvWaitCompleted socket ec received build =>
    .recvWaitCompleted socket.mirror ec received build
  | .sent socket ec => .sent socket.mirror ec

namespace NmMdnsServer

def mirror (mdns : NmMdnsServer) : NmMdnsServer :=
  { mdns with
    v4Done := mdns.v6Done, v6Done := mdns.v4Done
    sendBufferV4 := mdns.sendBufferV6, sendBufferV6 := mdns.sendBufferV4
    v4Opened := mdns.v6Opened, v6Opened := mdns.v4Opened
    v4RecvWait := mdns.v6RecvWait, v6RecvWait := mdns.v4RecvWait
    v4Send := mdns.v6Send, v6Send := mdns.v4Send
    actions := mdns.actions.map MdnsAction.mirror }

def recvWaits (mdns : NmMdnsServer) : MdnsSocket → ℕ
  | .socketv4 => mdns.v4RecvWait
  | .socketv6 => mdns.v6RecvWait

def done (mdns : NmMdnsServer) : MdnsSocket → Bool
  | .socketv4 => mdns.v4Done
  | .socketv6 => mdns.v6Done

end NmMdnsServer

def MdnsEvent.wakesSpuriously : MdnsEvent → Bool
  | .recvWaitCompleted _ ec received _ => decide (ec = .ok ∧ received.ec = .again)
  | _ => false

/-- The halves take corresponding steps, and both go on receiving after a spurious wake-up. -/
structure MdnsHalvesCorrespond (run : List MdnsEvent) : Prop where
  steps : ∀ pre mdns, pre <+: run → mdnsServer.Run pre mdns →
    mdnsServer.Run (pre.map MdnsEvent.mirror) mdns.mirror
  receiving : ∀ mdns mdns' socket received build,
    mdnsServer.Takes run mdns (.recvWaitCompleted socket .ok received build) →
    received.ec = .again →
    mdnsServer.step mdns (.recvWaitCompleted socket .ok received build) = some mdns' →
      mdns'.recvWaits socket = mdns.recvWaits socket ∧ mdns'.done socket = mdns.done socket

/-! ### Mirroring twice -/

theorem MdnsSocket.mirror_mirror (socket : MdnsSocket) : socket.mirror.mirror = socket := by
  cases socket <;> rfl

theorem mirrorEndpoint_mirrorEndpoint (ep : NpUdpEndpoint) :
    mirrorEndpoint (mirrorEndpoint ep) = ep := by
  by_cases h4 : ep = mdnsEndpointV4
  · rw [h4, mirrorEndpoint_v4, mirrorEndpoint_v6]
  · by_cases h6 : ep = mdnsEndpointV6
    · rw [h6, mirrorEndpoint_v6, mirrorEndpoint_v4]
    · have hsame : mirrorEndpoint ep = ep := by rw [mirrorEndpoint, if_neg h4, if_neg h6]
      rw [hsame, hsame]

theorem MdnsAction.mirror_mirror (action : MdnsAction) : action.mirror.mirror = action := by
  cases action with
  | sendTo socket ep packet =>
    simp only [MdnsAction.mirror, MdnsSocket.mirror_mirror, mirrorEndpoint_mirrorEndpoint]
  | recvWait socket => simp only [MdnsAction.mirror, MdnsSocket.mirror_mirror]

theorem MdnsEvent.mirror_mirror (e : MdnsEvent) : e.mirror.mirror = e := by
  cases e <;> simp [MdnsEvent.mirror, MdnsSocket.mirror_mirror]

theorem NmMdnsServer.mirror_mirror (mdns : NmMdnsServer) : mdns.mirror.mirror = mdns := by
  have hactions : mdns.mirror.mirror.actions = mdns.actions := by
    simp only [NmMdnsServer.mirror, List.map_map]
    exact List.map_id'' MdnsAction.mirror_mirror mdns.actions
  exact (congrArg (fun actions => { mdns with actions }) hactions :)

theorem map_mirror_map_mirror (mdns : Option NmMdnsServer) :
    (mdns.map NmMdnsServer.mirror).map NmMdnsServer.mirror = mdns := by
  cases mdns with
  | none => rfl
  | some mdns => exact congrArg some mdns.mirror_mirror

/-! ### Steps -/

section Functions

variable (mdns : NmMdnsServer) (ec : NpErrorCode) (received : MdnsReceived) (build : MdnsBuild)

theorem nmMdnsRecvPacketV6_mirror :
    nmMdnsRecvPacketV6 mdns.mirror = (nmMdnsRecvPacketV4 mdns).mirror := by
  simp [nmMdnsRecvPacketV6, nmMdnsRecvPacketV4, NmMdnsServer.mirror, MdnsAction.mirror,
    MdnsSocket.mirror]

theorem nmMdnsUpdateLocalIps_mirror (ips : List NpIpAddress) :
    nmMdnsUpdateLocalIps mdns.mirror ips = (nmMdnsUpdateLocalIps mdns ips).mirror := rfl

theorem nmMdnsSendPacketV6_mirror :
    nmMdnsSendPacketV6 mdns.mirror build = (nmMdnsSendPacketV4 mdns build).mirror := by
  unfold nmMdnsSendPacketV6 nmMdnsSendPacketV4
  simp only [nmMdnsUpdateLocalIps_mirror, nmMdnsRecvPacketV6_mirror]
  by_cases hport : 0 < (nmMdnsUpdateLocalIps mdns build.localIps).port
  · rw [if_pos hport,
      if_pos (show 0 < (nmMdnsUpdateLocalIps mdns build.localIps).mirror.port from hport)]
    cases build.packet with
    | some packet => simp [NmMdnsServer.mirror, MdnsAction.mirror, MdnsSocket.mirror]
    | none => rfl
  · rw [if_neg hport,
      if_neg (show ¬ 0 < (nmMdnsUpdateLocalIps mdns build.localIps).mirror.port from hport)]

theorem nmMdnsSocketOpenedV6_mirror :
    nmMdnsSocketOpenedV6 mdns.mirror ec build = (nmMdnsSocketOpenedV4 mdns ec build).mirror := by
  unfold nmMdnsSocketOpenedV6 nmMdnsSocketOpenedV4
  rw [nmMdnsSendPacketV6_mirror]
  simp only [apply_ite NmMdnsServer.mirror]
  rfl

theorem nmMdnsPacketSentV6_mirror :
    nmMdnsPacketSentV6 mdns.mirror ec = (nmMdnsPacketSentV4 mdns ec).mirror := by
  unfold nmMdnsPacketSentV6 nmMdnsPacketSentV4
  rw [nmMdnsRecvPacketV6_mirror, apply_ite NmMdnsServer.mirror]
  rfl

theorem nmMdnsPacketRecvWaitCompletedV6_mirror (h : ¬ (ec = .ok ∧ received.ec = .again)) :
    nmMdnsPacketRecvWaitCompletedV6 mdns.mirror ec received build =
      (nmMdnsPacketRecvWaitCompletedV4 mdns ec received build).mirror := by
  unfold nmMdnsPacketRecvWaitCompletedV6 nmMdnsPacketRecvWaitCompletedV4
  by_cases hec : ec = .ok
  · have hagain : received.ec ≠ .again := fun hagain => h ⟨hec, hagain⟩
    rw [if_pos hec, if_pos hec, if_neg hagain]
    by_cases hok : received.ec = .ok
    · rw [if_pos hok, if_pos hok, apply_ite NmMdnsServer.mirror, ← nmMdnsSendPacketV6_mirror,
        ← nmMdnsRecvPacketV6_mirror]
      rfl
    · rw [if_neg hok, if_neg hok]
      rfl
  · rw [if_neg hec, if_neg hec]
    rfl

end Functions

def MdnsEvent.Symmetric (e : MdnsEvent) : Prop :=
  ∀ mdns, mdnsServerStep mdns.mirror e.mirror = (mdnsServerStep mdns e).map NmMdnsServer.mirror

variable {e : MdnsEvent}

theorem MdnsEvent.Symmetric.mirror (h : e.Symmetric) : e.mirror.Symmetric := by
  intro mdns
  have hmirror := h mdns.mirror
  rw [mdns.mirror_mirror] at hmirror
  rw [hmirror, map_mirror_map_mirror, e.mirror_mirror]

theorem guard_mirror (n : ℕ) {a b : NmMdnsServer} (h : b = a.mirror) :
    (if 0 < n then some b else none) =
      (if 0 < n then some a else none).map NmMdnsServer.mirror := by
  by_cases hn : 0 < n
  · rw [if_pos hn, if_pos hn, h, Option.map_some]
  · rw [if_neg hn, if_neg hn, Option.map_none]

variable (ec : NpErrorCode)

theorem symmetric_opened (build : MdnsBuild) : (MdnsEvent.opened .socketv4 ec build).Symmetric := by
  intro mdns
  exact guard_mirror mdns.v4Opened
    (nmMdnsSocketOpenedV6_mirror { mdns with v4Opened := mdns.v4Opened - 1 } ec build)

theorem symmetric_sent : (MdnsEvent.sent .socketv4 ec).Symmetric := by
  intro mdns
  exact guard_mirror mdns.v4Send
    (nmMdnsPacketSentV6_mirror { mdns with v4Send := mdns.v4Send - 1 } ec)

theorem symmetric_recvWaitCompleted (received : MdnsReceived) (build : MdnsBuild)
    (h : ¬ (ec = .ok ∧ received.ec = .again)) :
    (MdnsEvent.recvWaitCompleted .socketv4 ec received build).Symmetric := by
  intro mdns
  exact guard_mirror mdns.v4RecvWait
    (nmMdnsPacketRecvWaitCompletedV6_mirror
      { mdns with v4RecvWait := mdns.v4RecvWait - 1 } ec received build h)

theorem symmetric_publishService (port : UInt16) : (MdnsEvent.publishService port).Symmetric := by
  intro mdns
  simp only [mdnsServerStep, MdnsEvent.mirror, Option.map_some, publishService,
    apply_ite NmMdnsServer.mirror]
  rfl

theorem symmetric_of_not_wakesSpuriously (h : e.wakesSpuriously = false) : e.Symmetric := by
  match e with
  | .publishService port => exact symmetric_publishService port
  | .stop => exact fun _ => rfl
  | .opened .socketv4 ec build => exact symmetric_opened ec build
  | .opened .socketv6 ec build => exact (symmetric_opened ec build).mirror
  | .recvWaitCompleted .socketv4 ec received build =>
    exact symmetric_recvWaitCompleted ec received build
      (by simpa [MdnsEvent.wakesSpuriously] using h)
  | .recvWaitCompleted .socketv6 ec received build =>
    have hv4 := symmetric_recvWaitCompleted ec received build
      (by simpa [MdnsEvent.wakesSpuriously] using h)
    exact hv4.mirror
  | .sent .socketv4 ec => exact symmetric_sent ec
  | .sent .socketv6 ec => exact (symmetric_sent ec).mirror

/-- After a spurious wake-up one half has ended where the other one waits again. -/
theorem not_mirrored_of_wakesSpuriously (h : e.wakesSpuriously = true) {mdns mdns' : NmMdnsServer}
    (hs : mdnsServerStep mdns e = some mdns') :
    mdnsServerStep mdns.mirror e.mirror ≠ some mdns'.mirror := by
  match e with
  | .recvWaitCompleted socket ec received build =>
    obtain ⟨rfl, hagain⟩ : ec = .ok ∧ received.ec = .again := by
      simpa [MdnsEvent.wakesSpuriously] using h
    intro hmirror
    cases socket with
    | socketv4 =>
      simp [mdnsServerStep, nmMdnsPacketRecvWaitCompletedV4, hagain] at hs
      simp [mdnsServerStep, nmMdnsPacketRecvWaitCompletedV6, nmMdnsRecvPacketV6, hagain,
        MdnsEvent.mirror, MdnsSocket.mirror, ← hs.2, NmMdnsServer.mirror] at hmirror
    | socketv6 =>
      simp [mdnsServerStep, nmMdnsPacketRecvWaitCompletedV6, nmMdnsRecvPacketV6, hagain] at hs
      simp [mdnsServerStep, nmMdnsPacketRecvWaitCompletedV4, hagain, MdnsEvent.mirror,
        MdnsSocket.mirror, ← hs.2, NmMdnsServer.mirror] at hmirror

theorem mirrored_iff {mdns mdns' : NmMdnsServer} (hs : mdnsServerStep mdns e = some mdns') :
    mdnsServerStep mdns.mirror e.mirror = some mdns'.mirror ↔ e.wakesSpuriously = false := by
  constructor
  · intro hmirror
    by_contra hwakes
    exact not_mirrored_of_wakesSpuriously (Bool.of_not_eq_false hwakes) hs hmirror
  · intro hwakes
    rw [symmetric_of_not_wakesSpuriously hwakes mdns, hs, Option.map_some]

/-! ### Whole runs -/

/-- The two halves correspond exactly in the runs in which every receive wait that ends
without an error finds a packet or a socket error. -/
theorem mdnsHalvesCorrespond_iff {run : List MdnsEvent} {mdns : NmMdnsServer}
    (hr : mdnsServer.Run run mdns) :
    MdnsHalvesCorrespond run ↔ ∀ t e, mdnsServer.Takes run t e → e.wakesSpuriously = false := by
  have hsteps := Machine.Run.map_iff_takes (N := mdnsServer) NmMdnsServer.mirror MdnsEvent.mirror
    (fun _ e => e.wakesSpuriously = false) rfl (fun _ _ _ hs => mirrored_iff hs) hr
  constructor
  · intro h
    exact hsteps.mp h.steps
  · intro hquiet
    refine ⟨hsteps.mpr hquiet, fun t t' socket received build ht hagain _ => ?_⟩
    have hwakes := hquiet t _ ht
    simp [MdnsEvent.wakesSpuriously, hagain] at hwakes

def mdnsAnnouncement : MdnsBuild := ⟨[.v4 [192, 168, 1, 2]], some [1, 2, 3]⟩

/-- Both sockets announce the device, the IPv4 one answers a query, the IPv6 one fails. -/
theorem mdnsHalvesCorrespond_query :
    let run : List MdnsEvent := [.publishService 5592, .opened .socketv4 .ok mdnsAnnouncement,
      .opened .socketv6 .ok mdnsAnnouncement, .sent .socketv4 .ok, .sent .socketv6 .udpSocketError,
      .recvWaitCompleted .socketv4 .ok ⟨.ok, [9], true⟩ mdnsAnnouncement,
      .recvWaitCompleted .socketv6 .ok ⟨.udpSocketError, [], false⟩ mdnsAnnouncement, .stop,
      .sent .socketv4 .ok]
    (∃ mdns, mdnsServer.Run run mdns ∧ mdns.v4Done = true ∧ mdns.v6Done = true) ∧
      MdnsHalvesCorrespond run := by
  intro run
  have hr : mdnsServer.Run run _ := Machine.run_of_exec rfl
  refine ⟨⟨_, hr, by decide +kernel⟩, (mdnsHalvesCorrespond_iff hr).mpr fun t e ht => ?_⟩
  have hall : mdnsServer.allTaken (fun _ e => !e.wakesSpuriously) mdnsServer.init run = true := by
    decide +kernel
  exact Machine.takes_eq_false_of_allTaken (g := fun _ e => e.wakesSpuriously) hall ht

/-- After a spurious wake-up the IPv4 half is done, the IPv6 half waits for packets. -/
theorem mdns_again_ends_v4 :
    ∃ run mdns, mdnsServer.Run run mdns ∧ mdns.v4Done = true ∧ mdns.v4RecvWait = 0 ∧
      mdns.v6Done = false ∧ mdns.v6RecvWait = 1 ∧ ¬ MdnsHalvesCorrespond run := by
  have hr : mdnsServer.Run [.publishService 5592, .opened .socketv4 .ok mdnsAnnouncement,
      .opened .socketv6 .ok mdnsAnnouncement, .sent .socketv4 .ok, .sent .socketv6 .ok,
      .recvWaitCompleted .socketv4 .ok ⟨.again, [], false⟩ mdnsAnnouncement,
      .recvWaitCompleted .socketv6 .ok ⟨.again, [], false⟩ mdnsAnnouncement] _ :=
    Machine.run_of_exec rfl
  refine ⟨_, _, hr, by decide +kernel, by decide +kernel, by decide +kernel, by decide +kernel,
    fun h => ?_⟩
  have hmirrored := (h.steps _ _ (List.prefix_refl _) hr).exec_eq
  revert hmirrored
  decide +kernel

end NabtoDevice
