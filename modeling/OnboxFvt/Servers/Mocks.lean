import OnboxFvt.Servers.Lifecycle

/-!
# The mock servers, threads and all

What `MockDhcpServer`, `MockRadiusServer` and the collectors have recorded and sent whenever the
thread of theirs is between two datagrams, in terms of the log of `ThreadServer`.
-/

namespace OnboxFvt.Servers

open Library Library.Wire Python

variable {Addr : Type}

/-! ## DHCP -/

/-- A request that can be read to the end. -/
def Answerable (data : Dhcp.Octets) : Prop :=
  Dhcp.Request data ∧ ((Dhcp.parseOptions (data.drop 240)).bind Dhcp.messageType).isSome

instance (data : Dhcp.Octets) : Decidable (Answerable data) :=
  inferInstanceAs (Decidable (_ ∧ _))

theorem answerable_iff (data : Dhcp.Octets) :
    Answerable data ↔ Dhcp.Request data ∧ Dhcp.Sound (data.drop 240) := by
  rw [Answerable, Dhcp.sound_iff, Option.isSome_iff_exists]

/-- What is to be recorded of a datagram. -/
def info? (data : Dhcp.Octets) : Option Dhcp.Relayed :=
  if Dhcp.Request data then
    (Dhcp.parseOptions (data.drop 240)).bind fun opts =>
      (Dhcp.messageType opts).map fun msgtype =>
        { giaddr := Dhcp.dotted (slice 24 28 data)
          msgtype
          option82 := (opts.lookup 82).bind fun opt82 =>
            if opt82 = [] then none else some (Dhcp.hex opt82)
          clientMac := Dhcp.hex (slice 28 34 data) }
  else none

theorem isSome_info? (data : Dhcp.Octets) : (info? data).isSome ↔ Answerable data := by
  rw [info?, Answerable]
  split
  next request =>
    cases Dhcp.parseOptions (data.drop 240) with
    | none => simp
    | some opts => simp [request]
  next other => simp [other]

theorem relayed_onDatagram (dhcp : Dhcp.Server) (data : Dhcp.Octets) :
    (Dhcp.onDatagram dhcp data).1.relayed = dhcp.relayed ++ (info? data).toList := by
  by_cases request : Dhcp.Request data
  · obtain ⟨long, cookie, op⟩ := request
    rw [Dhcp.onDatagram, if_neg (by simp [long, cookie]), if_neg (by simp [op]), info?,
      if_pos ⟨long, cookie, op⟩]
    dsimp only
    cases Dhcp.parseOptions (data.drop 240) with
    | none => exact (List.append_nil _).symm
    | some opts =>
        dsimp only [Option.bind_some]
        cases Dhcp.messageType opts with
        | none => exact (List.append_nil _).symm
        | some msgtype => rfl
  · rw [Dhcp.onDatagram_of_not_request dhcp request, info?, if_neg request]
    exact (List.append_nil _).symm

/-- The reply goes to who asked. -/
def Replies (dhcp : Dhcp.Server) (d : Datagram Dhcp.Octets Addr) (sent : Dhcp.Octets × Addr) :
    Prop :=
  sent.2 = d.addr ∧ Dhcp.Reply dhcp d.data sent.1

/-- What the server has recorded and sent after some datagrams. -/
structure Relays (dhcp server : Dhcp.Server)
    (seen : List (Datagram Dhcp.Octets Addr)) (sent : List (Dhcp.Octets × Addr)) : Prop where
  address : server.serverIp = dhcp.serverIp
  relayed : server.relayed = dhcp.relayed ++ seen.filterMap (info? ·.data)
  replies : List.Forall₂ (Replies dhcp) (seen.filter (Answerable ·.data)) sent

theorem answer_dhcpServer (self : Dhcp.Server) (d : Datagram Dhcp.Octets Addr) :
    ((dhcpServer Addr).answer self d).1 = (Dhcp.onDatagram self d.data).1 ∧
      if Answerable d.data then
        ∃ reply, ((dhcpServer Addr).answer self d).2 = some reply ∧
          Dhcp.Reply self d.data reply
      else ((dhcpServer Addr).answer self d).2 = none := by
  refine ⟨rfl, ?_⟩
  change if Answerable d.data then
      ∃ reply, (Dhcp.onDatagram self d.data).2.join.filter (fun reply => !reply.isEmpty) =
        some reply ∧ _
    else (Dhcp.onDatagram self d.data).2.join.filter (fun reply => !reply.isEmpty) = none
  split
  next answerable =>
    obtain ⟨request, read⟩ := answerable
    obtain ⟨msgtype, typed⟩ := Option.isSome_iff_exists.mp read
    obtain ⟨reply, returned, good⟩ := Dhcp.reply_of_request self request typed
    refine ⟨reply, ?_, good⟩
    have nonempty : reply ≠ [] := by
      rintro rfl
      cases good.op
    rw [returned]
    simp [nonempty]
  next other =>
    by_cases request : Dhcp.Request d.data
    · have unread : (Dhcp.parseOptions (d.data.drop 240)).bind Dhcp.messageType = none :=
        Option.not_isSome_iff_eq_none.mp fun read => other ⟨request, read⟩
      rw [Dhcp.onDatagram_of_request self request, unread]
      rfl
    · rw [Dhcp.onDatagram_of_not_request self request]
      rfl

theorem Relays.answer {dhcp self : Dhcp.Server} {seen : List (Datagram Dhcp.Octets Addr)}
    {sent : List (Dhcp.Octets × Addr)} (d : Datagram Dhcp.Octets Addr)
    (relays : Relays dhcp self seen sent) :
    Relays dhcp ((dhcpServer Addr).answer self d).1 (seen ++ [d])
      (sent ++ (((dhcpServer Addr).answer self d).2.map fun reply => (reply, d.addr)).toList) := by
  obtain ⟨after, answered⟩ := answer_dhcpServer self d
  refine ⟨?_, ?_, ?_⟩
  · rw [after, Dhcp.serverIp_onDatagram, relays.address]
  · rw [after, relayed_onDatagram, relays.relayed, List.append_assoc, List.filterMap_append]
    cases shape : info? d.data <;> simp [shape]
  · rw [List.filter_append]
    split at answered
    next answerable =>
      obtain ⟨reply, went, good⟩ := answered
      rw [went, List.filter_cons_of_pos (by simpa using answerable)]
      exact List.rel_append relays.replies
        (.cons ⟨rfl, good.of_address relays.address⟩ .nil)
    next other =>
      rw [answered, List.filter_cons_of_neg (by simpa using other)]
      simpa using relays.replies

/-- Whenever the only thread of the DHCP server is between two datagrams, every request that can
be read has been recorded and answered, in the order of the log: the answer has gone to who
asked, with the transaction, the relay and the client of the request. -/
theorem threaded_dhcp_server (dhcp : Dhcp.Server) (actions : List (Action Dhcp.Octets Addr))
    (last : System Dhcp.Server Dhcp.Octets Addr)
    (reached : (server (dhcpServer Addr)).run (.fresh dhcp) actions = some last)
    (one : last.threads.length ≤ 1) (calm : ∀ pc ∈ last.threads, pc.Calm) :
    last.self.relayed = dhcp.relayed ++ last.requests.filterMap (info? ·.data) ∧
      List.Forall₂ (Replies dhcp) (last.requests.filter (Answerable ·.data))
        (last.sends.map Sent.pair) := by
  have relays : Relays dhcp _ last.requests _ :=
    (dhcpServer Addr).serve_invariant (Relays dhcp) (fun d relays => Relays.answer d relays) dhcp
      ⟨rfl, (List.append_nil _).symm, .nil⟩ last.requests
  rw [(alone_run reached).serves one calm] at relays
  exact ⟨relays.relayed, relays.replies⟩

def discover : Datagram Dhcp.Octets Nat :=
  ⟨1 :: List.replicate 235 0 ++ Dhcp.magic ++ [53, 1, 1, 255], 67⟩

def discovered : List (Action Dhcp.Octets Nat) :=
  [.start true, .arrive 0 discover, .thread 0 .check, .thread 0 .receive, .thread 0 .log,
    .thread 0 .handle, .thread 0 (.reply true)]

theorem discover_offered :
    ∃ last : System Dhcp.Server Dhcp.Octets Nat,
      (server (dhcpServer Nat)).run (.fresh ⟨⟨10, 0, 0, 1⟩, ⟨10, 99, 1, 100⟩, []⟩) discovered =
          some last ∧
        last.self.relayed = last.requests.filterMap (info? ·.data) ∧
          List.Forall₂ (Replies ⟨⟨10, 0, 0, 1⟩, ⟨10, 99, 1, 100⟩, []⟩)
            (last.requests.filter (Answerable ·.data)) (last.sends.map Sent.pair) := by
  have runs : ((server (dhcpServer Nat)).run (.fresh ⟨⟨10, 0, 0, 1⟩, ⟨10, 99, 1, 100⟩, []⟩)
      discovered).map System.threads = some [.checking] := by decide +kernel
  obtain ⟨last, reached, threads⟩ := Option.map_eq_some_iff.mp runs
  refine ⟨last, reached, threaded_dhcp_server _ _ last reached (by rw [threads]; exact le_rfl)
    fun pc member => ?_⟩
  rw [threads] at member
  rw [List.mem_singleton.mp member]
  trivial

/-! ## RADIUS -/

theorem threaded_radius_server (radius : RadiusServer) (actions : List (Action Dhcp.Octets Addr))
    (last : System RadiusServer Dhcp.Octets Addr)
    (reached : (server (radiusServer Addr)).run (.fresh radius) actions = some last)
    (one : last.threads.length ≤ 1) (calm : ∀ pc ∈ last.threads, pc.Calm) :
    last.self.accessRequests =
        radius.accessRequests ++ (last.requests.map Datagram.data).filter (Access ·) ∧
      last.sends.map Sent.pair =
        (last.requests.filter (Access ·.data)).map fun d => (accept d.data, d.addr) := by
  have served := (alone_run reached).serves one calm
  rw [serve_radiusServer] at served
  obtain ⟨kept, sent⟩ := Prod.mk.inj served
  exact ⟨congrArg RadiusServer.accessRequests kept.symm, sent.symm⟩

/-! ## Collectors -/

/-- A text has been logged whenever some datagram of the log holds it. -/
theorem has_iff (decode : Dhcp.Octets → Text) (actions : List (Action Dhcp.Octets Addr))
    (last : System (List Text) Dhcp.Octets Addr)
    (reached : (server (syslogServer Addr decode)).run (.fresh []) actions = some last)
    (one : last.threads.length ≤ 1) (calm : ∀ pc ∈ last.threads, pc.Calm) (substr : Text) :
    has last.self substr ↔ ∃ d ∈ last.requests, contains substr (decode d.data) := by
  have served := (alone_run reached).serves one calm
  rw [serve_syslogServer] at served
  rw [← (Prod.mk.inj served).1, has, List.any_eq_true]
  simp only [List.mem_map, exists_exists_and_eq_and]

theorem threaded_snmpTrapServer (actions : List (Action Dhcp.Octets Addr))
    (last : System (List (Datagram Dhcp.Octets Addr)) Dhcp.Octets Addr)
    (reached : (server snmpTrapServer).run (.fresh []) actions = some last)
    (one : last.threads.length ≤ 1) (calm : ∀ pc ∈ last.threads, pc.Calm) :
    last.self = last.requests ∧ last.sends = [] := by
  have served := (alone_run reached).serves one calm
  rw [serve_snmpTrapServer] at served
  obtain ⟨kept, sent⟩ := Prod.mk.inj served
  exact ⟨kept.symm, List.map_eq_nil_iff.mp sent.symm⟩

end OnboxFvt.Servers
