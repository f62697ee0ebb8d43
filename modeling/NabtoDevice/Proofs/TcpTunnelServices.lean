import NabtoDevice.Lib.Registry
import NabtoDevice.Sanity.TcpTunnel

/-! Which service a verdict has an effect for. Services are listed in the order in which they were
created, and their `weakPtr`s are numbers that 2^64 services do not repeat, so a stream finds the
service it asked for or none. A CoAP request looks for its id again: it finds the service it
asked for while that is in the list, and afterwards any other one with this id. -/

namespace NabtoDevice

open Registry NmTcpTunnels

variable {t t' : NmTcpTunnels} {e : TcpTunnelEvent}

/-! ## Numbers and weak pointers -/

def weakPtrOf (object : ℕ) : UInt64 := UInt64.ofNat (object + 2)

theorem weakPtrOf_inj {a b : ℕ} (ha : a < 2 ^ 64) (hb : b < 2 ^ 64)
    (heq : weakPtrOf a = weakPtrOf b) : a = b := by
  have hmod := congrArg UInt64.toNat heq
  simp only [weakPtrOf, UInt64.toNat_ofNat'] at hmod
  omega

/-- The services are listed by number, and what waits for a verdict was asked for the service
that the `weakPtr` names, or that was the first one with the id. -/
structure TunnelsInv (t : NmTcpTunnels) : Prop where
  ordered : Ordered NmTcpTunnelService.object t.services
  counter : t.weakPtrCounter = UInt64.ofNat (t.created + 1)
  known : ∀ s ∈ t.services, s.object < t.created ∧ s.weakPtr = weakPtrOf s.object
  streams : ∀ r ∈ t.streamRequests, r.service < t.created ∧ r.serviceWeakPtr = weakPtrOf r.service
  coaps : ∀ r ∈ t.coapRequests, r.service < t.created ∧ ∀ s ∈ t.services,
    (s.object = r.service → some s.id = r.id) ∧ (some s.id = r.id → r.service ≤ s.object)

variable {id : Option String} {s : NmTcpTunnelService}

theorem findService_eq_some (h : t.findService id = some s) : s ∈ t.services ∧ id = some s.id := by
  obtain ⟨name, rfl, hfind⟩ := Option.bind_eq_some_iff.mp h
  have hid := List.find?_some hfind
  rw [beq_iff_eq] at hid
  exact ⟨List.mem_of_find?_eq_some hfind, by rw [hid]⟩

/-- The service found by an id has the smallest number. -/
theorem TunnelsInv.findService_le (h : TunnelsInv t) {x : NmTcpTunnelService}
    (hs : t.findService id = some s)
    (hx : x ∈ t.services) (hid : some x.id = id) : s.object ≤ x.object := by
  obtain ⟨name, rfl, hfind⟩ := Option.bind_eq_some_iff.mp hs
  exact h.ordered.le_of_find? hfind hx (by simpa using hid)

theorem TunnelsInv.findService_eq (h : TunnelsInv t) {r : TunnelCoapRequest}
    (hr : r ∈ t.coapRequests)
    (hs : s ∈ t.services) (hobject : s.object = r.service) : t.findService r.id = some s := by
  obtain ⟨-, hcoaps⟩ := h.coaps r hr
  rw [← (hcoaps s hs).1 hobject]
  refine h.ordered.find?_eq_some hs (by simp) fun x hx hp => ?_
  rw [hobject]
  exact (hcoaps x hx).2 (by rw [← (hcoaps s hs).1 hobject]; simpa using hp)

variable {r : TunnelStreamRequest}

/-- With at most 2^64 services created, a weak pointer finds the service it was taken from, or
none. -/
theorem TunnelsInv.findServiceByWeakPtr_iff (h : TunnelsInv t) (hfew : t.created ≤ 2 ^ 64)
    (hr : r ∈ t.streamRequests) (s : NmTcpTunnelService) :
    t.findServiceByWeakPtr r.serviceWeakPtr = some s ↔ s ∈ t.services ∧ s.object = r.service := by
  obtain ⟨hlt, hweak⟩ := h.streams r hr
  have hsame {x : NmTcpTunnelService} (hx : x ∈ t.services) :
      (x.weakPtr == r.serviceWeakPtr) = true ↔ x.object = r.service := by
    obtain ⟨hxlt, hxweak⟩ := h.known x hx
    rw [beq_iff_eq, hxweak, hweak]
    refine ⟨fun heq => weakPtrOf_inj (by omega) (by omega) heq, fun heq => ?_⟩
    rw [heq]
  constructor
  · intro hfind
    unfold findServiceByWeakPtr at hfind
    have hs := List.mem_of_find?_eq_some hfind
    have hp := List.find?_some hfind
    exact ⟨hs, (hsame hs).mp hp⟩
  · rintro ⟨hs, hobject⟩
    refine h.ordered.find?_eq_some hs ((hsame hs).mpr hobject) fun x hx hp => ?_
    rw [hobject, (hsame hx).mp hp]

/-! ## The steps -/

structure TunnelsTable where
  services : List NmTcpTunnelService
  weakPtrCounter : UInt64
  created : ℕ
  deriving DecidableEq, Repr

def NmTcpTunnels.table (t : NmTcpTunnels) : TunnelsTable :=
  ⟨t.services, t.weakPtrCounter, t.created⟩

theorem TunnelsInv.of_table (h : TunnelsInv t) (htable : t'.table = t.table)
    (hstreams : ∀ r ∈ t'.streamRequests, r ∈ t.streamRequests)
    (hcoaps : ∀ r ∈ t'.coapRequests, r ∈ t.coapRequests) : TunnelsInv t' := by
  obtain ⟨hservices, hcounter, hcreated⟩ := TunnelsTable.mk.inj htable
  refine ⟨hservices ▸ h.ordered, ?_, ?_, fun r hr => ?_, fun r hr => ?_⟩
  · rw [hcounter, hcreated]
    exact h.counter
  · rw [hservices, hcreated]
    exact h.known
  · rw [hcreated]
    exact h.streams r (hstreams r hr)
  · rw [hcreated, hservices]
    exact h.coaps r (hcoaps r hr)

theorem TunnelsInv.serviceInit (h : TunnelsInv t) (id type : String) (address : NpIpAddress)
    (port : UInt16)
    (listener : Option ℕ) : TunnelsInv (t.serviceInit id type address port listener) := by
  have hcounter : t.weakPtrCounter + 1 = UInt64.ofNat (t.created + 1 + 1) := by
    rw [h.counter]
    simp
  have hweak : t.weakPtrCounter + 1 = weakPtrOf t.created := hcounter
  unfold NmTcpTunnels.serviceInit
  dsimp only
  split_ifs with hlistener
  · refine ⟨h.ordered.append fun s hs => (h.known s hs).1, hcounter, fun s hs => ?_, fun r hr => ?_,
      fun r hr => ?_⟩
    · rcases List.mem_append.mp hs with hs | hs
      · exact ⟨Nat.lt_succ_of_lt (h.known s hs).1, (h.known s hs).2⟩
      · rw [List.mem_singleton.mp hs]
        exact ⟨Nat.lt_succ_self _, hweak⟩
    · exact ⟨Nat.lt_succ_of_lt (h.streams r hr).1, (h.streams r hr).2⟩
    · -- the new service comes after all that requests were made for
      obtain ⟨hlt, hcoaps⟩ := h.coaps r hr
      refine ⟨Nat.lt_succ_of_lt hlt, fun s hs => ?_⟩
      rcases List.mem_append.mp hs with hs | hs
      · exact hcoaps s hs
      · rw [List.mem_singleton.mp hs]
        exact ⟨fun heq => absurd heq.symm (Nat.ne_of_lt hlt), fun _ => Nat.le_of_lt hlt⟩
  · refine ⟨h.ordered, hcounter, fun s hs => ?_, fun r hr => ?_, fun r hr => ?_⟩
    · exact ⟨Nat.lt_succ_of_lt (h.known s hs).1, (h.known s hs).2⟩
    · exact ⟨Nat.lt_succ_of_lt (h.streams r hr).1, (h.streams r hr).2⟩
    · exact ⟨Nat.lt_succ_of_lt (h.coaps r hr).1, (h.coaps r hr).2⟩

theorem TunnelsInv.removed (h : TunnelsInv t) (service : NmTcpTunnelService) :
    TunnelsInv { t.serviceDeinit service with
      services := t.services.filter fun other => other.object != service.object } := by
  have hsub {s : NmTcpTunnelService}
      (hs : s ∈ t.services.filter fun other => other.object != service.object) : s ∈ t.services :=
    (List.mem_filter.mp hs).1
  refine ⟨h.ordered.filter _, h.counter, fun s hs => h.known s (hsub hs), h.streams, fun r hr => ?_⟩
  exact ⟨(h.coaps r hr).1, fun s hs => (h.coaps r hr).2 s (hsub hs)⟩

theorem TunnelsInv.streamListenerCallback (h : TunnelsInv t) {service : NmTcpTunnelService}
    (hservice : service ∈ t.services) (authorization : Bool) :
    TunnelsInv (t.serviceStreamListenerCallback service authorization) := by
  unfold serviceStreamListenerCallback
  dsimp only
  split_ifs
  · refine ⟨h.ordered, h.counter, h.known, fun r hr => ?_, h.coaps⟩
    rcases List.mem_append.mp hr with hr | hr
    · exact h.streams r hr
    · rw [List.mem_singleton.mp hr]
      exact h.known service hservice
  · exact h.of_table rfl (fun _ hr => hr) (fun _ hr => hr)

theorem TunnelsInv.coapWaits (h : TunnelsInv t) {service : NmTcpTunnelService}
    (hfind : t.findService id = some service) : TunnelsInv { t with
      coapReceived := t.coapReceived + 1
      coapRequests := t.coapRequests ++ [⟨t.coapReceived, id, service.object⟩] } := by
  obtain ⟨hservice, hid⟩ := findService_eq_some hfind
  refine ⟨h.ordered, h.counter, h.known, h.streams, fun r hr => ?_⟩
  rcases List.mem_append.mp hr with hr | hr
  · exact h.coaps r hr
  · rw [List.mem_singleton.mp hr]
    refine ⟨(h.known service hservice).1, fun s hs => ⟨fun heq => ?_, fun heq => ?_⟩⟩
    · rw [h.ordered.eq_of_number_eq hs hservice heq, hid]
    · exact h.findService_le hfind hs heq

theorem VerdictMove.table {allow : Bool} {env : ConnectionInitEnv}
    (hm : VerdictMove t r allow env t') :
    t'.table = t.table ∧ t'.streamRequests = t.streamRequests ∧
      t'.coapRequests = t.coapRequests := by
  cases hm <;> exact ⟨rfl, rfl, rfl⟩

theorem tunnelsInv_step (h : TunnelsInv t) (hm : TunnelsMove t e t') : TunnelsInv t' := by
  cases hm with
  | addRefused | removeRefused => exact h
  | added => exact h.serviceInit _ _ _ _ _
  | removed => exact h.removed _
  | offered hs => exact h.streamListenerCallback hs _
  | verdict hr hm =>
    obtain ⟨htable, hstreams, hcoaps⟩ := hm.table
    refine h.of_table htable (fun r hr => ?_) (fun r hr => hcoaps ▸ hr)
    rw [hstreams] at hr
    exact List.mem_of_mem_eraseIdx hr
  | coapRefused | connection => exact h.of_table rfl (fun _ hr => hr) (fun _ hr => hr)
  | coapWaits hfind => exact h.coapWaits hfind
  | coapAnswered => exact h.of_table rfl (fun _ hr => hr) (fun _ hr => List.mem_of_mem_eraseIdx hr)

def isAddService : TcpTunnelEvent → Bool
  | .addService _ _ _ _ _ => true
  | _ => false

theorem created_step (hm : TunnelsMove t e t') :
    t'.created ≤ t.created + (isAddService e).toNat := by
  cases hm with
  | addRefused => exact Nat.le_succ _
  | offered hs =>
    unfold serviceStreamListenerCallback
    dsimp only
    split_ifs <;> exact Nat.le_refl _
  | verdict hr hm => exact Nat.le_of_eq (congrArg TunnelsTable.created hm.table.1)
  | added | removeRefused | removed | coapRefused | coapWaits | coapAnswered | connection =>
    exact Nat.le_refl _

theorem created_le {evs : List TcpTunnelEvent} (h : tcpTunnels.Run evs t) :
    t.created ≤ evs.countP isAddService := by
  induction h with
  | nil => exact Nat.le_refl _
  | @snoc evs t e t' hr hs ih =>
    have hstep := created_step (tunnelsMove_of_step hs)
    rw [List.countP_append, List.countP_singleton]
    cases hadd : isAddService e with
    | false =>
      rw [hadd, Bool.toNat_false] at hstep
      simp only [Bool.false_eq_true, if_false]
      omega
    | true =>
      rw [hadd, Bool.toNat_true] at hstep
      simp only [if_true]
      omega

/-! ## The verdicts -/

/-- A positive verdict for the stream of `r`, which was asked for the service `r.service`: while
that is listed the stream is connected to its address and port, and nothing else is; afterwards
the stream is released. -/
structure StreamVerdictFor (t t' : NmTcpTunnels) (r : TunnelStreamRequest)
    (env : ConnectionInitEnv) : Prop where
  connects : ∀ s ∈ t.services, s.object = r.service → env = {} →
    t'.connections = t.connections ++
      [(initialisedConnection s.object r.stream s.address s.port).start]
  only : ∀ s ∈ t.services, s.object = r.service → ∀ c ∈ t'.connections.drop t.connections.length,
    c.connects ≠ [] → c.stream = some r.stream ∧ c.address = s.address ∧ c.port = s.port
  refused : (∀ s ∈ t.services, s.object ≠ r.service) →
    t'.connections = t.connections ∧ t'.released = t.released ++ [r.stream]

/-- A positive verdict for the CoAP request `r`: the answer describes the service it was asked for,
and once that is not listed the request is refused. -/
structure CoapVerdictFor (t t' : NmTcpTunnels) (r : TunnelCoapRequest) (buffer payload : Bool) :
    Prop where
  describes : ∀ s ∈ t.services, s.object = r.service → t'.responses = t.responses ++
    [(r.request, if buffer && payload then .content (encodeService s) else .error 500)]
  refused : (∀ s ∈ t.services, s.object ≠ r.service) →
    t'.responses = t.responses ++ [(r.request, .error 404)]

def VerdictFor (t : NmTcpTunnels) (e : TcpTunnelEvent) (t' : NmTcpTunnels) : Prop :=
  match e with
  | .streamVerdict i true env => ∀ r, t.streamRequests[i]? = some r → StreamVerdictFor t t' r env
  | .coapVerdict i true buffer payload =>
    ∀ r, t.coapRequests[i]? = some r → CoapVerdictFor t t' r buffer payload
  | _ => True

/-- A CoAP request is allowed whose service is no longer listed, and another one has its id. -/
def coapSupplanted (t : NmTcpTunnels) (e : TcpTunnelEvent) : Bool :=
  match e with
  | .coapVerdict i true _ _ => t.coapRequests[i]?.any fun r =>
      (t.services.all fun s => s.object != r.service) && (t.findService r.id).isSome
  | _ => false

theorem streamVerdict_for (h : TunnelsInv t) (hfew : t.created ≤ 2 ^ 64) {i : ℕ}
    (hr : t.streamRequests[i]? = some r) {env : ConnectionInitEnv}
    (hm : VerdictMove { t with streamRequests := t.streamRequests.eraseIdx i } r true env t') :
    StreamVerdictFor t t' r env := by
  have hfound := h.findServiceByWeakPtr_iff hfew (List.mem_of_getElem? hr)
  cases hm with
  | released hwhy =>
    refine ⟨fun s hs hobject henv => ?_, fun s hs hobject c hc => ?_, fun _ => ⟨rfl, rfl⟩⟩
    · rcases hwhy with hnone | hallow | hnew
      · exact absurd (((hfound s).mpr ⟨hs, hobject⟩).symm.trans hnone) (Option.some_ne_none _)
      · cases hallow
      · rw [henv] at hnew
        cases hnew
    · have hnil := List.drop_length ▸ hc
      exact absurd hnil List.not_mem_nil
  | @connected s hfind =>
    obtain ⟨hs, hobject⟩ := (hfound s).mp hfind
    have hsame {s' : NmTcpTunnelService} (hs' : s' ∈ t.services)
        (hobject' : s'.object = r.service) : s' = s :=
      h.ordered.eq_of_number_eq hs' hs (hobject'.trans hobject.symm)
    refine ⟨fun s' hs' hobject' _ => ?_, fun s' hs' hobject' c hc _ => ?_,
      fun hnone => absurd hobject (hnone s hs)⟩
    · rw [hsame hs' hobject']
    · have hnew := List.mem_singleton.mp (List.drop_left ▸ hc)
      rw [hnew, hsame hs' hobject']
      exact ⟨rfl, rfl, rfl⟩
  | @failed s c hfind hallow hfails hhalf =>
    obtain ⟨hs, hobject⟩ := (hfound s).mp hfind
    refine ⟨fun s' _ _ henv => ?_, fun s' _ _ d hd hconnects => ?_,
      fun hnone => absurd hobject (hnone s hs)⟩
    · rw [henv] at hfails
      cases hfails
    · have hnew := List.mem_singleton.mp (List.drop_left ▸ hd)
      rw [hnew] at hconnects
      exact absurd hhalf.unconnected hconnects

theorem coapVerdict_for_iff (h : TunnelsInv t) {r : TunnelCoapRequest} (hr : r ∈ t.coapRequests)
    {buffer payload : Bool}
    (hresponses : t'.responses = t.responses ++
      [(r.request, allowedAnswer (t.findService r.id) buffer payload)]) :
    CoapVerdictFor t t' r buffer payload ↔
      ((t.services.all fun s => s.object != r.service) && (t.findService r.id).isSome) = false := by
  by_cases hall : ∀ s ∈ t.services, s.object ≠ r.service
  · -- the service has been removed: the request is refused exactly if no other has its id
    have hall' : (t.services.all fun s => s.object != r.service) = true := by simpa using hall
    rw [hall', Bool.true_and]
    cases hfind : t.findService r.id with
    | none =>
      rw [hfind] at hresponses
      refine ⟨fun _ => rfl,
        fun _ => ⟨fun s hs hobject => absurd hobject (hall s hs), fun _ => hresponses⟩⟩
    | some s =>
      rw [hfind] at hresponses
      refine ⟨fun hfor => ?_, nofun⟩
      have hrefused := hresponses.symm.trans (hfor.refused hall)
      simp only [allowedAnswer, List.append_cancel_left_eq, List.cons.injEq, Prod.mk.injEq,
        true_and, and_true] at hrefused
      split_ifs at hrefused
      simp at hrefused
  · obtain ⟨s, hs, hobject⟩ : ∃ s ∈ t.services, s.object = r.service := by simpa using hall
    have hfind := h.findService_eq hr hs hobject
    rw [hfind] at hresponses
    have hall' : (t.services.all fun s => s.object != r.service) = false := by
      simpa using ⟨s, hs, hobject⟩
    rw [hall', Bool.false_and]
    refine ⟨fun _ => rfl,
      fun _ => ⟨fun s' hs' hobject' => ?_, fun hnone => absurd hobject (hnone s hs)⟩⟩
    rw [h.ordered.eq_of_number_eq hs' hs (hobject'.trans hobject.symm)]
    exact hresponses

theorem verdictFor_iff (h : TunnelsInv t) (hfew : t.created ≤ 2 ^ 64) (hm : TunnelsMove t e t') :
    VerdictFor t e t' ↔ coapSupplanted t e = false := by
  cases hm with
  | addRefused | added | removeRefused | removed | offered | coapRefused | coapWaits | connection =>
    exact ⟨fun _ => rfl, fun _ => trivial⟩
  | @verdict i allow env r _ hr hm =>
    cases allow with
    | false => exact ⟨fun _ => rfl, fun _ => trivial⟩
    | true =>
      refine ⟨fun _ => rfl, fun _ r' hr' => ?_⟩
      obtain rfl := Option.some.inj (hr.symm.trans hr')
      exact streamVerdict_for h hfew hr hm
  | @coapAnswered i allow buffer payload r answer hr hanswer =>
    cases allow with
    | false => exact ⟨fun _ => rfl, fun _ => trivial⟩
    | true =>
      simp only [VerdictFor, coapSupplanted, hr, Option.some.injEq, forall_eq', Option.any_some]
      apply coapVerdict_for_iff h (List.mem_of_getElem? hr)
      rw [← hanswer rfl]
      rfl

/-- With at most 2^64 services added, positive verdicts have an effect only for the service they
were asked for, exactly if no CoAP request is allowed after its service was removed and another
one has the id. -/
theorem verdicts_for_requested_iff {evs : List TcpTunnelEvent} (h : tcpTunnels.Run evs t)
    (hfew : evs.countP isAddService ≤ 2 ^ 64) :
    (∀ a e b, tcpTunnels.Takes evs a e → tcpTunnelsStep a e = some b → VerdictFor a e b) ↔
      ∀ a e, tcpTunnels.Takes evs a e → coapSupplanted a e = false := by
  have hknown (a : NmTcpTunnels) (e : TcpTunnelEvent) (ht : tcpTunnels.Takes evs a e) :
      TunnelsInv a ∧ a.created ≤ 2 ^ 64 := by
    obtain ⟨pre, hpre, hr⟩ := ht
    have hprefix : pre <+: evs := (List.prefix_append _ _).trans hpre
    refine ⟨hr.invariant TunnelsInv ?_ fun a e b ha hs =>
      tunnelsInv_step ha (tunnelsMove_of_step hs), ?_⟩
    · exact ⟨List.Pairwise.nil, rfl, nofun, nofun, nofun⟩
    · exact ((created_le hr).trans hprefix.sublist.countP_le).trans hfew
  constructor
  · intro hgood a e ht
    obtain ⟨b, hs⟩ := h.step_of_takes ht
    obtain ⟨hinv, hcreated⟩ := hknown a e ht
    exact (verdictFor_iff hinv hcreated (tunnelsMove_of_step hs)).mp (hgood a e b ht hs)
  · intro hall a e b ht hs
    obtain ⟨hinv, hcreated⟩ := hknown a e ht
    exact (verdictFor_iff hinv hcreated (tunnelsMove_of_step hs)).mpr (hall a e ht)

def replacedService : List TcpTunnelEvent :=
  [.addService "ssh" "ssh" (some (.v4 [127, 0, 0, 1])) 22 (some 4000), .streamOffered 0 true,
    .coapRequest (some "ssh") true, .removeService (some "ssh"),
    .addService "ssh" "rdp" (some (.v4 [10, 0, 0, 7])) 3389 (some 4001)]

theorem stream_of_replaced_service :
    ∃ a b, tcpTunnels.Run replacedService a ∧ tcpTunnelsStep a (.streamVerdict 0 true {}) = some b ∧
      b.connections = [] ∧ b.released = [0] := by
  obtain ⟨b, hb, -⟩ := Machine.exists_run_of_exec (M := tcpTunnels) (p := fun _ => true)
    (replacedService ++ [.streamVerdict 0 true {}]) (by decide +kernel)
  obtain ⟨a, ha, hp⟩ := Machine.exists_run_of_exec (M := tcpTunnels)
    (p := fun a : NmTcpTunnels => decide (
      a.streamRequests[0]? = some (⟨0, 2, 0⟩ : TunnelStreamRequest) ∧ a.connections = [] ∧
        a.released = [] ∧ ∀ s ∈ a.services, s.object ≠ 0)) replacedService (by decide +kernel)
  obtain ⟨hr, hconnections, hreleased, hgone⟩ := of_decide_eq_true hp
  have htakes := ha.takes_last (.streamVerdict 0 true {})
  obtain ⟨b, hs⟩ := hb.step_of_takes htakes
  have hfor := (verdicts_for_requested_iff hb (by decide +kernel)).mpr
    (fun a e ht => Machine.takes_eq_false_of_allTaken (by decide +kernel) ht) a _ b htakes hs _ hr
  obtain ⟨hsame, hrelease⟩ := hfor.refused hgone
  exact ⟨a, b, ha, hs, hsame.trans hconnections, by rw [hrelease, hreleased]; rfl⟩

/-- The CoAP request asked with the type of the removed service, and the answer describes the new
one. -/
theorem coap_of_replaced_service :
    ∃ a b, tcpTunnels.Run replacedService a ∧
      tcpTunnelsStep a (.coapVerdict 0 true true true) = some b ∧
      a.coapRequests = [⟨0, some "ssh", 0⟩] ∧ (∀ s ∈ a.services, s.object ≠ 0) ∧
      b.responses = [(0, .content ⟨"ssh", "rdp", .v4 [10, 0, 0, 7], 3389, 4001⟩)] :=
  ⟨_, _, Machine.run_of_exec rfl, rfl, by decide +kernel, by decide +kernel, by decide +kernel⟩

end NabtoDevice
