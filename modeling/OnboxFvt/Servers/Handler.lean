import OnboxFvt.Dhcp.Replies

/-!
# What a server does with its datagrams

`on_datagram` of the subclasses of `ThreadServer`, in `servers/dhcp_server.py`,
`servers/mock_aaa.py` and `servers/collectors.py`, and what the loop of `servers/base.py` makes
of it when the datagrams come one after the other.
-/

namespace OnboxFvt.Servers

open Library Library.Wire Python

structure Datagram (Data Addr : Type) where
  data : Data
  addr : Addr
  deriving DecidableEq

/-- A subclass: `on_datagram` with the attributes it reads and writes.  `none` is an exception. -/
structure Handler (Self Data Addr : Type) where
  onDatagram : Self → Data → Addr → Self × Option (Option Data)
  isEmpty : Data → Bool

variable {Self Data Addr : Type}

namespace Handler

variable (handler : Handler Self Data Addr)

/-- An exception is logged and forgotten; an empty reply is not sent. -/
def answer (self : Self) (d : Datagram Data Addr) : Self × Option Data :=
  let (self, returned) := handler.onDatagram self d.data d.addr
  (self, returned.join.filter fun reply => !handler.isEmpty reply)

def serve : Self → List (Datagram Data Addr) → Self × List (Data × Addr)
  | self, [] => (self, [])
  | self, d :: rest =>
      let (self, reply) := handler.answer self d
      let (self, later) := serve self rest
      (self, (reply.map fun reply => (reply, d.addr)).toList ++ later)

theorem serve_concat (self : Self) (requests : List (Datagram Data Addr))
    (d : Datagram Data Addr) : handler.serve self (requests ++ [d]) =
      ((handler.answer (handler.serve self requests).1 d).1,
        (handler.serve self requests).2 ++
          ((handler.answer (handler.serve self requests).1 d).2.map
            fun reply => (reply, d.addr)).toList) := by
  induction requests generalizing self with
  | nil => simp [serve]
  | cons first rest inductionHypothesis =>
      rw [List.cons_append, serve, serve]
      dsimp only
      rw [inductionHypothesis]
      simp only [List.append_assoc]

/-- The attributes and the replies, each followed through the datagrams by itself. -/
theorem serve_invariant (Seen : Self → List (Datagram Data Addr) → List (Data × Addr) → Prop)
    (preserved : ∀ {self seen sent} d, Seen self seen sent →
      Seen (handler.answer self d).1 (seen ++ [d])
        (sent ++ ((handler.answer self d).2.map fun reply => (reply, d.addr)).toList))
    (self : Self) (initially : Seen self [] []) (requests : List (Datagram Data Addr)) :
    Seen (handler.serve self requests).1 requests (handler.serve self requests).2 := by
  induction requests using List.reverseRecOn with
  | nil => exact initially
  | append_singleton requests d inductionHypothesis =>
      rw [serve_concat]
      exact preserved d inductionHypothesis

end Handler

/-! ## The subclasses -/

variable (Addr) in
/-- `MockDhcpServer`. -/
def dhcpServer : Handler Dhcp.Server Dhcp.Octets Addr where
  onDatagram server data _ := Dhcp.onDatagram server data
  isEmpty := List.isEmpty

/-- The `access_requests` of `MockRadiusServer`. -/
structure RadiusServer where
  accessRequests : List Dhcp.Octets

def RadiusServer.onDatagram (server : RadiusServer) (data : Dhcp.Octets) :
    RadiusServer × Option (Option Dhcp.Octets) :=
  if data.length < 20 then (server, some none)
  else
    match data with
    | code :: ident :: _ =>
        if code ≠ 1 then (server, some none)
        else
          ({ server with accessRequests := server.accessRequests ++ [data] },
            some (some ([2, ident, 0, 20] ++ slice 4 20 data)))
    | _ => (server, none)

variable (Addr) in
/-- `MockRadiusServer`. -/
def radiusServer : Handler RadiusServer Dhcp.Octets Addr where
  onDatagram server data _ := server.onDatagram data
  isEmpty := List.isEmpty

/-- `SnmpTrapServer`, with its `traps`. -/
def snmpTrapServer : Handler (List (Datagram Dhcp.Octets Addr)) Dhcp.Octets Addr where
  onDatagram traps data addr := (traps ++ [⟨data, addr⟩], some none)
  isEmpty := List.isEmpty

variable (Addr) in
/-- `SyslogServer`, with its `messages`; `decode` is `data.decode(errors="replace")`. -/
def syslogServer (decode : Dhcp.Octets → Text) : Handler (List Text) Dhcp.Octets Addr where
  onDatagram messages data _ := (messages ++ [decode data], some none)
  isEmpty := List.isEmpty

/-- `SyslogServer.has`. -/
def has (messages : List Text) (substr : Text) : Bool :=
  messages.any (contains substr)

/-! ## What they record and reply -/

/-- The collectors record what they are sent, and are silent. -/
theorem serve_snmpTrapServer (requests : List (Datagram Dhcp.Octets Addr)) :
    snmpTrapServer.serve [] requests = (requests, []) := by
  have seen := snmpTrapServer.serve_invariant
    (fun traps seen sent => traps = seen ∧ sent = [])
    (fun d seen => by
      obtain ⟨rfl, rfl⟩ := seen
      exact ⟨rfl, rfl⟩) [] ⟨rfl, rfl⟩ requests
  exact Prod.ext seen.1 seen.2

theorem serve_syslogServer (decode : Dhcp.Octets → Text)
    (requests : List (Datagram Dhcp.Octets Addr)) :
    (syslogServer Addr decode).serve [] requests =
      (requests.map fun d => decode d.data, []) := by
  have seen := (syslogServer Addr decode).serve_invariant
    (fun messages seen sent => messages = seen.map (fun d => decode d.data) ∧ sent = [])
    (fun d seen => by
      obtain ⟨rfl, rfl⟩ := seen
      exact ⟨by rw [List.map_append]; rfl, rfl⟩) [] ⟨rfl, rfl⟩ requests
  exact Prod.ext seen.1 seen.2

/-- An Access-Request. -/
def Access (data : Dhcp.Octets) : Prop :=
  20 ≤ data.length ∧ data[0]? = some 1

instance (data : Dhcp.Octets) : Decidable (Access data) :=
  inferInstanceAs (Decidable (_ ∧ _))

/-- The Access-Accept for it, with its identifier and its authenticator. -/
def accept (data : Dhcp.Octets) : Dhcp.Octets :=
  [2, data.getD 1 0, 0, 20] ++ slice 4 20 data

theorem RadiusServer.onDatagram_eq (server : RadiusServer) (data : Dhcp.Octets) :
    server.onDatagram data =
      if Access data then (⟨server.accessRequests ++ [data]⟩, some (some (accept data)))
      else (server, some none) := by
  unfold RadiusServer.onDatagram
  by_cases short : data.length < 20
  · rw [if_pos short, if_neg fun access => absurd access.1 (by omega)]
  · rw [if_neg short]
    rcases data with _ | ⟨code, _ | ⟨ident, rest⟩⟩
    · simp at short
    · simp at short
    · dsimp only
      by_cases request : code = 1
      · rw [if_neg (not_not_intro request), if_pos ⟨by omega, congrArg some request⟩]
        rfl
      · rw [if_pos request, if_neg fun access => request (Option.some.inj access.2)]

theorem answer_radiusServer (server : RadiusServer) (d : Datagram Dhcp.Octets Addr) :
    (radiusServer Addr).answer server d =
      if Access d.data then (⟨server.accessRequests ++ [d.data]⟩, some (accept d.data))
      else (server, none) := by
  have returned := server.onDatagram_eq d.data
  rw [Handler.answer]
  change ((server.onDatagram d.data).1, (server.onDatagram d.data).2.join.filter _) = _
  rw [returned]
  split <;> rfl

/-- A RADIUS server keeps the Access-Requests, and accepts each once. -/
theorem serve_radiusServer (server : RadiusServer)
    (requests : List (Datagram Dhcp.Octets Addr)) :
    (radiusServer Addr).serve server requests =
      (⟨server.accessRequests ++ (requests.map Datagram.data).filter (Access ·)⟩,
        (requests.filter (Access ·.data)).map fun d => (accept d.data, d.addr)) := by
  have seen := (radiusServer Addr).serve_invariant
    (fun self seen sent =>
      self = ⟨server.accessRequests ++ (seen.map Datagram.data).filter (Access ·)⟩ ∧
        sent = (seen.filter (Access ·.data)).map fun d => (accept d.data, d.addr))
    (fun d seen => by
      obtain ⟨rfl, rfl⟩ := seen
      rw [answer_radiusServer]
      by_cases access : Access d.data <;> simp [access])
    server ⟨by simp, rfl⟩ requests
  exact Prod.ext seen.1 seen.2

end OnboxFvt.Servers
