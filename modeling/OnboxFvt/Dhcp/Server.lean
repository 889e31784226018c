import OnboxFvt.Bgp.Prefix
import OnboxFvt.Library.Collect
import OnboxFvt.Library.Dict
import OnboxFvt.Library.Slice
import OnboxFvt.Library.Wire
import OnboxFvt.Python.Decimal

/-!
# The mock DHCP server

`servers/dhcp_server.py`, and the round of `ThreadServer._serve` in `servers/base.py` that
calls it.  `none` is an exception: the `IndexError` of the option walk and of an empty
message type, or the `ValueError` of an address that is not one.
-/

namespace OnboxFvt.Dhcp

open Bgp (Ipv4)
open Library Library.Wire Python

abbrev Octets := List Octet

abbrev Options := Dict Octet Octets

def magic : Octets :=
  [0x63, 0x82, 0x53, 0x63]

/-- The walk of `_parse_options` from an option on. -/
def parseOptionsFrom (opts : Options) : Octets → Option Options
  | [] => some opts
  | code :: rest =>
      if code = 255 then some opts
      else if code = 0 then parseOptionsFrom opts rest
      else
        match rest with
        | [] => none
        | ln :: rest =>
            parseOptionsFrom (opts.set code (rest.take ln.val)) (rest.drop ln.val)
  termination_by data => data.length
  decreasing_by
    all_goals simp
    omega

def parseOptions (data : Octets) : Option Options :=
  parseOptionsFrom [] data

/-- `".".join(str(b) for b in octets)`. -/
def dotted (octets : Octets) : Text :=
  ['.'].intercalate (octets.map fun b => decimal b.val)

/-- A number `bytes` takes. -/
def octet? (value : Int) : Option Octet :=
  if 0 ≤ value ∧ value < 256 then some (Fin.ofNat 256 value.toNat) else none

/-- `bytes(int(x) for x in address.split("."))`. -/
def addressOctets? (address : Text) : Option Octets :=
  collect? (fun x => (int? x).bind octet?) (splitOn '.' address)

/-- `bytes.hex()`. -/
def hex (octets : Octets) : Text :=
  octets.flatMap fun b => [Nat.digitChar (b.val / 16), Nat.digitChar (b.val % 16)]

/-- What is recorded of a relayed packet. -/
structure Relayed where
  giaddr : Text
  msgtype : Octet
  option82 : Option Text
  clientMac : Text
  deriving DecidableEq

structure Server where
  serverIp : Ipv4
  offeredIp : Ipv4
  relayed : List Relayed

def buildReply (server : Server) (xid chaddr : Octets) (giaddr : Text) (msgtype : Octet) :
    Option Octets :=
  (addressOctets? (dotted server.offeredIp.bytes)).bind fun yiaddr =>
    (addressOctets? giaddr).bind fun giaddr =>
      (addressOctets? (dotted server.serverIp.bytes)).map fun serverIp =>
        let pkt := (((List.replicate 240 (0 : Octet)).set 0 2).set 1 1).set 2 6
        let pkt := splice 4 8 xid pkt
        let pkt := splice 16 20 yiaddr pkt
        let pkt := splice 24 28 giaddr pkt
        let pkt := splice 28 34 chaddr pkt
        let pkt := splice 236 240 magic pkt
        pkt ++ [53, 1, msgtype] ++ ([54, 4] ++ serverIp) ++ [0xff]

/-- `opts.get(53, b"\x00")[0]`. -/
def messageType (opts : Options) : Option Octet :=
  ((opts.lookup 53).getD [0])[0]?

/-- The server afterwards, and what is returned unless an exception is raised. -/
def onDatagram (server : Server) (data : Octets) : Server × Option (Option Octets) :=
  if data.length < 240 ∨ slice 236 240 data ≠ magic then (server, some none)
  else if data[0]? ≠ some 1 then (server, some none)
  else
    let xid := slice 4 8 data
    let giaddr := dotted (slice 24 28 data)
    let chaddr := slice 28 34 data
    match parseOptions (data.drop 240) with
    | none => (server, none)
    | some opts =>
        match messageType opts with
        | none => (server, none)
        | some msgtype =>
            let info :=
              { giaddr
                msgtype
                option82 :=
                  (opts.lookup 82).bind fun opt82 => if opt82 = [] then none else some (hex opt82)
                clientMac := hex chaddr }
            ({ server with relayed := server.relayed ++ [info] },
              (buildReply server xid chaddr giaddr (if msgtype = 1 then 2 else 5)).map some)

/-- What the server loop sends back for a datagram; an exception is logged and forgotten. -/
def serveDatagram (server : Server) (data : Octets) : Server × Option Octets :=
  let (server, returned) := onDatagram server data
  (server, returned.join)

def serve : Server → List Octets → Server × List (Option Octets)
  | server, [] => (server, [])
  | server, data :: rest =>
      let (server, sent) := serveDatagram server data
      let (server, later) := serve server rest
      (server, sent :: later)

/-! ## Reading options -/

@[simp]
theorem parseOptionsFrom_nil (opts : Options) : parseOptionsFrom opts [] = some opts := by
  rw [parseOptionsFrom]

@[simp]
theorem parseOptionsFrom_end (opts : Options) (rest : Octets) :
    parseOptionsFrom opts (255 :: rest) = some opts := by
  unfold parseOptionsFrom
  exact if_pos rfl

@[simp]
theorem parseOptionsFrom_pad (opts : Options) (rest : Octets) :
    parseOptionsFrom opts (0 :: rest) = parseOptionsFrom opts rest := by
  conv_lhs => unfold parseOptionsFrom
  rw [if_neg (by decide), if_pos rfl]

theorem parseOptionsFrom_lone (opts : Options) {code : Octet} (notEnd : code ≠ 255)
    (notPad : code ≠ 0) : parseOptionsFrom opts [code] = none := by
  rw [parseOptionsFrom, if_neg notEnd, if_neg notPad]

theorem parseOptionsFrom_option (opts : Options) {code : Octet} (ln : Octet) (rest : Octets)
    (notEnd : code ≠ 255) (notPad : code ≠ 0) :
    parseOptionsFrom opts (code :: ln :: rest) =
      parseOptionsFrom (opts.set code (rest.take ln.val)) (rest.drop ln.val) := by
  rw [parseOptionsFrom, if_neg notEnd, if_neg notPad]

/-- The options an octet string holds, in order: pads between them are skipped, the end
marker ends them, and the value of the last one may be cut short. -/
inductive Holds : Octets → Options → Prop
  | finished : Holds [] []
  | marked (rest : Octets) : Holds (255 :: rest) []
  | pad {rest : Octets} {options : Options} : Holds rest options → Holds (0 :: rest) options
  | option {code ln : Octet} {rest : Octets} {options : Options} :
      code ≠ 255 → code ≠ 0 → Holds (rest.drop ln.val) options →
      Holds (code :: ln :: rest) ((code, rest.take ln.val) :: options)

theorem parseOptionsFrom_of_holds {data : Octets} {options : Options}
    (holds : Holds data options) (opts : Options) :
    parseOptionsFrom opts data = some (opts.setAll options) := by
  induction holds generalizing opts with
  | finished => exact parseOptionsFrom_nil opts
  | marked rest => exact parseOptionsFrom_end opts rest
  | pad _ inductionHypothesis => rw [parseOptionsFrom_pad, inductionHypothesis]
  | option notEnd notPad _ inductionHypothesis =>
      rw [parseOptionsFrom_option _ _ _ notEnd notPad, inductionHypothesis]
      rfl

/-- The walk gets to the end of what holds options, and of nothing else. -/
theorem holds_of_parseOptionsFrom {data : Octets} {opts result : Options}
    (parsed : parseOptionsFrom opts data = some result) : ∃ options, Holds data options := by
  fun_induction parseOptionsFrom opts data with
  | case1 => exact ⟨[], .finished⟩
  | case2 _ rest => exact ⟨[], .marked rest⟩
  | case3 _ rest _ inductionHypothesis =>
      obtain ⟨options, holds⟩ := inductionHypothesis parsed
      exact ⟨options, .pad holds⟩
  | case4 => cases parsed
  | case5 opts code notEnd notPad ln rest inductionHypothesis =>
      obtain ⟨options, holds⟩ := inductionHypothesis parsed
      exact ⟨_, .option notEnd notPad holds⟩

theorem holds_functional {data : Octets} {first second : Options} (holds : Holds data first)
    (holds' : Holds data second) : first = second := by
  induction holds generalizing second with
  | finished => cases holds'; rfl
  | marked rest =>
      cases holds' with
      | marked => rfl
      | option notEnd => exact absurd rfl notEnd
  | pad _ inductionHypothesis =>
      cases holds' with
      | pad later => exact inductionHypothesis later
      | option _ notPad => exact absurd rfl notPad
  | option notEnd notPad _ inductionHypothesis =>
      cases holds' with
      | marked => exact absurd rfl notEnd
      | pad => exact absurd rfl notPad
      | option _ _ later => rw [inductionHypothesis later]

/-! ## Addresses as text -/

theorem octet?_val (b : Octet) : octet? (b.val : Int) = some b := by
  rw [octet?, if_pos (by omega), Int.toNat_natCast]
  exact congrArg some (Fin.ext (Nat.mod_eq_of_lt b.isLt))

theorem addressOctets?_dotted {octets : Octets} (nonempty : octets ≠ []) :
    addressOctets? (dotted octets) = some octets := by
  have parts : splitOn '.' (dotted octets) = octets.map fun b => decimal b.val := by
    apply List.splitOn_intercalate
    · intro part member
      obtain ⟨b, _, rfl⟩ := List.mem_map.mp member
      exact notMem_decimal (by decide) b.val
    · simpa using nonempty
  rw [addressOctets?, parts]
  clear nonempty parts
  induction octets with
  | nil => rfl
  | cons b rest inductionHypothesis =>
      rw [List.map_cons, collect?, int?_decimal, Option.bind_some, octet?_val, Option.bind_some,
        inductionHypothesis]
      rfl

end OnboxFvt.Dhcp
