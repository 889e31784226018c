import OnboxFvt.Bgp.Prefix
import OnboxFvt.Library.Wire

/-!
# The messages of the speaker

`_msg`, `_open_msg`, `_update_announce` and `_update_withdraw` of
`servers/bgp_speaker.py`, and what a receiver that follows the protocol reads in them.
The receiver takes every length field at its word and refuses a message in which
octets are missing or left over.
-/

namespace OnboxFvt.Bgp

open Library Wire

/-! ## Encoding -/

def marker : List Byte :=
  List.replicate 16 255

def openType : Byte := 1

def updateType : Byte := 2

def keepaliveType : Byte := 4

/-- An unsigned number of `struct.pack("!..")`, or an element of `bytes([..])`; `none` where
it does not fit. -/
def pack (width number : Nat) : Option (List Byte) :=
  if number < 256 ^ width then some (bigEndian width number) else none

structure Speaker where
  localIp : Ipv4
  routerId : Option Ipv4
  myAs : Nat
  holdTime : Nat

def msg (mtype : Byte) (body : List Byte) : Option (List Byte) := do
  let length ← pack 2 (19 + body.length)
  return marker ++ length ++ [mtype] ++ body

namespace Speaker

/-- `self.router_id`. -/
def bgpId (speaker : Speaker) : Ipv4 :=
  speaker.routerId.getD speaker.localIp

def as2 (speaker : Speaker) : Nat :=
  if speaker.myAs ≤ 0xFFFF then speaker.myAs else 23456

def openMsg (speaker : Speaker) : Option (List Byte) := do
  let capMp : List Byte := [1, 4, 0, 1, 0, 1]
  let capAs4 := [65, 4] ++ (← pack 4 speaker.myAs)
  let opt := [2] ++ (← pack 1 capMp.length) ++ capMp ++
    ([2] ++ (← pack 1 capAs4.length) ++ capAs4)
  let body := (← pack 1 4) ++ (← pack 2 speaker.as2) ++ (← pack 2 speaker.holdTime) ++
    speaker.bgpId.bytes ++ (← pack 1 opt.length) ++ opt
  msg openType body

def keepaliveMsg : Option (List Byte) :=
  msg keepaliveType []

def updateAnnounce (speaker : Speaker) (pfx : Prefix) (nexthop : Ipv4) :
    Option (List Byte) := do
  let origin : List Byte := [0x40, 1, 1, 0]
  let asPath := [0x40, 2, 6, 2, 1] ++ (← pack 4 speaker.myAs)
  let nextHop := [0x40, 3, 4] ++ nexthop.bytes
  let attrs := origin ++ asPath ++ nextHop
  let nlri := prefix2nlri pfx
  let body := (← pack 2 0) ++ (← pack 2 attrs.length) ++ attrs ++ nlri
  msg updateType body

def updateWithdraw (pfx : Prefix) : Option (List Byte) := do
  let withdrawn := prefix2nlri pfx
  let body := (← pack 2 withdrawn.length) ++ withdrawn ++ (← pack 2 0)
  msg updateType body

end Speaker

/-! ## Decoding -/

/-- A destination: the prefix length and the network bits. -/
structure Route where
  plen : Nat
  bits : Nat
  deriving DecidableEq

def Prefix.route (pfx : Prefix) : Route :=
  ⟨pfx.plen.val, pfx.net.toNat / 2 ^ (32 - pfx.plen.val)⟩

/-- A segment of an AS path: 1 is a set, 2 a sequence. -/
structure Segment where
  kind : Nat
  asns : List Nat
  deriving DecidableEq

inductive Attribute where
  | origin (code : Nat)
  | asPath (segments : List Segment)
  | nextHop (ip : Ipv4)
  deriving DecidableEq

inductive Capability where
  | multiprotocol (afi safi : Nat)
  | fourOctetAs (as : Nat)
  deriving DecidableEq

inductive Decoded where
  | opened (version as holdTime : Nat) (bgpId : Ipv4) (parameters : List (List Capability))
  | update (withdrawn : List Route) (attributes : List Attribute) (nlri : List Route)
  | keepalive
  deriving DecidableEq

def address? : List Byte → Option Ipv4
  | [a, b, c, d] => some ⟨a, b, c, d⟩
  | _ => none

def readRoute : Reader Route :=
  andThen (numberOf 1) fun plen =>
    accept (fun octets =>
      if plen ≤ 32 then some ⟨plen, number octets / 2 ^ (8 * octets.length - plen)⟩ else none)
      (take ((plen + 7) / 8))

/-- AS numbers have four octets on a session that negotiated them. -/
def readSegment : Reader Segment :=
  andThen (numberOf 1) fun kind => andThen (numberOf 1) fun count =>
    accept (fun octets =>
      if kind = 1 ∨ kind = 2 then (many (numberOf 4) octets).map (Segment.mk kind) else none)
      (take (4 * count))

/-- The well-known mandatory attributes, which are transitive and neither optional nor partial. -/
def attribute? (flags kind : Nat) (value : List Byte) : Option Attribute :=
  if flags / 32 = 2 then
    match kind with
    | 1 => match value with
      | [code] => if code ≤ 2 then some (.origin code.val) else none
      | _ => none
    | 2 => (many readSegment value).map .asPath
    | 3 => (address? value).map .nextHop
    | _ => none
  else none

/-- The fourth highest flag bit says that the length has two octets. -/
def readAttribute : Reader Attribute :=
  andThen (numberOf 1) fun flags => andThen (numberOf 1) fun kind =>
    accept (attribute? flags kind) (sized (if flags / 16 % 2 = 1 then 2 else 1))

def capability? (code : Nat) (value : List Byte) : Option Capability :=
  match code, value with
  | 1, [high, low, _, safi] => some (.multiprotocol (number [high, low]) safi.val)
  | 65, [a, b, c, d] => some (.fourOctetAs (number [a, b, c, d]))
  | _, _ => none

def readCapability : Reader Capability :=
  andThen (numberOf 1) fun code => accept (capability? code) (sized 1)

/-- An optional parameter of kind 2 holds capabilities. -/
def readParameter : Reader (List Capability) :=
  andThen (numberOf 1) fun kind =>
    accept (fun value => if kind = 2 then many readCapability value else none) (sized 1)

def readOpen : Reader Decoded :=
  andThen (numberOf 1) fun version => andThen (numberOf 2) fun as =>
    andThen (numberOf 2) fun holdTime => andThen (accept address? (take 4)) fun bgpId =>
      accept (fun value => (many readParameter value).map (.opened version as holdTime bgpId))
        (sized 1)

def decodeUpdate (body : List Byte) : Option Decoded := do
  let (withdrawn, rest) ← sized 2 body
  let (attributes, nlri) ← sized 2 rest
  return .update (← many readRoute withdrawn) (← many readAttribute attributes)
    (← many readRoute nlri)

def decodeBody (mtype : Nat) (body : List Byte) : Option Decoded :=
  match mtype with
  | 1 => whole readOpen body
  | 2 => decodeUpdate body
  | 4 => if body.isEmpty then some .keepalive else none
  | _ => none

def decode (bytes : List Byte) : Option Decoded := do
  let (mark, rest) ← take 16 bytes
  let (length, rest) ← numberOf 2 rest
  let (mtype, body) ← numberOf 1 rest
  if mark = marker ∧ length = bytes.length ∧ length ≤ 4096 then decodeBody mtype body else none

/-! ## Where the length fields stand -/

/-- A field of `width` octets whose value is the number of octets of `content`. -/
structure Governs (width : Nat) (field content : List Byte) : Prop where
  length : field.length = width
  value : number field = content.length

/-- A message whose body is `body`. -/
def Framed (mtype : Byte) (bytes body : List Byte) : Prop :=
  ∃ length, bytes = marker ++ length ++ [mtype] ++ body ∧ Governs 2 length bytes

/-- Items of one kind octet or more, a length octet and a value, one after another. -/
def Tagged (heads : List (List Byte)) (content : List Byte) : Prop :=
  ∃ items : List (List Byte × List Byte × List Byte),
    items.map Prod.fst = heads ∧
      content = items.flatMap (fun item => item.1 ++ item.2.1 ++ item.2.2) ∧
      ∀ item ∈ items, Governs 1 item.2.1 item.2.2

/-- The fields of an UPDATE: withdrawn routes, path attributes with the flags and codes
`heads`, reachable routes. -/
def UpdateLayout (heads : List (List Byte)) (bytes withdrawn attributes nlri : List Byte) : Prop :=
  ∃ withdrawnLength attributesLength,
    Framed updateType bytes
      (withdrawnLength ++ withdrawn ++ attributesLength ++ attributes ++ nlri) ∧
    Governs 2 withdrawnLength withdrawn ∧ Governs 2 attributesLength attributes ∧
    Tagged heads attributes

/-- The fields of an OPEN; every optional parameter holds one capability. -/
def OpenLayout (codes : List Byte) (bytes : List Byte) : Prop :=
  ∃ fixed parametersLength parameters,
    Framed openType bytes (fixed ++ parametersLength ++ parameters) ∧ fixed.length = 9 ∧
    Governs 1 parametersLength parameters ∧
    ∃ items : List (List Byte × List Byte),
      parameters = items.flatMap (fun item => [2] ++ item.1 ++ item.2) ∧
      (∀ item ∈ items, Governs 1 item.1 item.2) ∧
      items.length = codes.length ∧
      ∀ pair ∈ items.zip codes, Tagged [[pair.2]] pair.1.2

end OnboxFvt.Bgp
