import OnboxFvt.Dhcp.Server

/-!
# What the server answers

The walk over the options looks one octet ahead of what it has checked, and the message type
is the first octet of a value that may be empty.  A request is answered exactly when neither
of the two goes wrong.
-/

namespace OnboxFvt.Dhcp

open Bgp (Ipv4)
open Library Library.Wire Python

/-! ## Encoded options -/

/-- An option with a code that is neither the pad nor the end marker. -/
structure Opt where
  code : Octet
  value : Octets
  notPad : code ≠ 0
  notEnd : code ≠ 255
  fits : value.length < 256

inductive Item
  | pad
  | option (opt : Opt)

namespace Item

def encode : Item → Octets
  | pad => [0]
  | option opt => opt.code :: ⟨opt.value.length, opt.fits⟩ :: opt.value

def entry? : Item → Option (Octet × Octets)
  | pad => none
  | option opt => some (opt.code, opt.value)

end Item

/-- Options with codes of their own, pads between them, and whatever follows the end marker. -/
structure Encoding where
  items : List Item
  trailing : Octets
  distinct : Dict.keys (items.filterMap Item.entry?) |>.Nodup

namespace Encoding

def options (encoding : Encoding) : Options :=
  encoding.items.filterMap Item.entry?

def encode (encoding : Encoding) : Octets :=
  encoding.items.flatMap Item.encode ++ 255 :: encoding.trailing

end Encoding

theorem holds_encode (items : List Item) (trailing : Octets) :
    Holds (items.flatMap Item.encode ++ 255 :: trailing) (items.filterMap Item.entry?) := by
  induction items with
  | nil => exact .marked trailing
  | cons item rest inductionHypothesis =>
      rw [List.flatMap_cons, List.append_assoc]
      cases item with
      | pad => exact .pad inductionHypothesis
      | option opt =>
          have taken := @Holds.option opt.code ⟨opt.value.length, opt.fits⟩
            (opt.value ++ (rest.flatMap Item.encode ++ 255 :: trailing))
            (rest.filterMap Item.entry?) opt.notEnd opt.notPad
          rw [List.drop_left, List.take_left] at taken
          exact taken inductionHypothesis

theorem parseOptions_encode (encoding : Encoding) :
    parseOptions encoding.encode = some encoding.options := by
  rw [parseOptions, Encoding.encode,
    parseOptionsFrom_of_holds (holds_encode encoding.items encoding.trailing)]
  exact congrArg some (Dict.setAll_of_nodup encoding.distinct)

/-! ## Replies -/

/-- A BOOTREQUEST of at least 240 octets with the magic cookie. -/
def Request (data : Octets) : Prop :=
  240 ≤ data.length ∧ slice 236 240 data = magic ∧ data[0]? = some 1

instance (data : Octets) : Decidable (Request data) :=
  inferInstanceAs (Decidable (_ ∧ _ ∧ _))

def Discover (data : Octets) : Prop :=
  ((parseOptions (data.drop 240)).bind messageType) = some 1

instance (data : Octets) : Decidable (Discover data) :=
  inferInstanceAs (Decidable (_ = _))

structure Reply (server : Server) (data reply : Octets) : Prop where
  op : reply[0]? = some 2
  xid : slice 4 8 reply = slice 4 8 data
  giaddr : slice 24 28 reply = slice 24 28 data
  chaddr : slice 28 34 reply = slice 28 34 data
  options : ∃ opts, parseOptions (reply.drop 240) = some opts ∧
    opts.lookup 53 = some [if Discover data then 2 else 5] ∧
    opts.lookup 54 = some server.serverIp.bytes

structure Answers (server : Server) (data : Octets) : Prop where
  returns : ∃ returned, (onDatagram server data).2 = some returned
  answered : ∀ returned, (onDatagram server data).2 = some returned →
    (returned.isSome ↔ Request data)
  replies : ∀ reply, (onDatagram server data).2 = some (some reply) → Reply server data reply

/-- Options up to the end marker or the end of the data, no code left over, and a message type
that is not empty if there is one. -/
def Sound (field : Octets) : Prop :=
  ∃ options, Holds field options ∧ lastEntry options 53 ≠ some []

theorem messageType_eq_none {opts : Options} :
    messageType opts = none ↔ opts.lookup 53 = some [] := by
  rw [messageType]
  cases List.lookup (53 : Octet) opts with
  | none => simp
  | some value => cases value <;> simp

theorem sound_iff (field : Octets) :
    Sound field ↔ ∃ msgtype, (parseOptions field).bind messageType = some msgtype := by
  constructor
  · rintro ⟨options, holds, nonempty⟩
    have parsed := parseOptionsFrom_of_holds holds []
    have found := Dict.lookup_setAll [] options 53
    rw [List.lookup_nil, Option.or_none] at found
    rw [← found, ne_eq, ← messageType_eq_none, ← ne_eq, Option.ne_none_iff_exists'] at nonempty
    obtain ⟨msgtype, read⟩ := nonempty
    exact ⟨msgtype, by rw [parseOptions, parsed]; exact read⟩
  · rintro ⟨msgtype, read⟩
    obtain ⟨opts, parsed, typed⟩ := Option.bind_eq_some_iff.mp read
    obtain ⟨options, holds⟩ := holds_of_parseOptionsFrom parsed
    have same : Dict.setAll [] options = opts :=
      Option.some.inj ((parseOptionsFrom_of_holds holds []).symm.trans parsed)
    have found := Dict.lookup_setAll [] options 53
    rw [List.lookup_nil, Option.or_none, same] at found
    refine ⟨options, holds, ?_⟩
    rw [← found, ne_eq, ← messageType_eq_none, typed]
    exact Option.some_ne_none msgtype

/-- The fixed part of a reply. -/
def header (xid yiaddr giaddr chaddr : Octets) : Octets :=
  let pkt := (((List.replicate 240 (0 : Octet)).set 0 2).set 1 1).set 2 6
  splice 236 240 magic (splice 28 34 chaddr (splice 24 28 giaddr (splice 16 20 yiaddr
    (splice 4 8 xid pkt))))

theorem buildReply_eq (server : Server) (xid chaddr : Octets) {giaddr : Octets}
    (nonempty : giaddr ≠ []) (msgtype : Octet) :
    buildReply server xid chaddr (dotted giaddr) msgtype =
      some (header xid server.offeredIp.bytes giaddr chaddr ++
        [53, 1, msgtype] ++ ([54, 4] ++ server.serverIp.bytes) ++ [0xff]) := by
  have offered : server.offeredIp.bytes ≠ [] := List.cons_ne_nil _ _
  have served : server.serverIp.bytes ≠ [] := List.cons_ne_nil _ _
  rw [buildReply, addressOctets?_dotted offered, Option.bind_some,
    addressOctets?_dotted nonempty, Option.bind_some, addressOctets?_dotted served]
  rfl

/-- What an assignment to a slice does. -/
structure Spliced (start stop : Nat) (fresh before after : Octets) : Prop where
  length : after.length = before.length
  here : slice start stop after = fresh
  others : ∀ {first last : Nat}, last ≤ start ∨ stop ≤ first →
    slice first last after = slice first last before
  first : 0 < start → after[0]? = before[0]?

theorem spliced {start stop : Nat} {fresh before : Octets} (length : fresh.length = stop - start)
    (order : start ≤ stop) (fits : stop ≤ before.length) :
    Spliced start stop fresh before (splice start stop fresh before) where
  length := length_splice length order fits
  here := slice_splice length order fits
  others := slice_splice_of_disjoint length order fits
  first := fun later => by rw [getElem?_splice length order fits, if_pos later]

section Header

variable {xid yiaddr giaddr chaddr : Octets} (fourXid : xid.length = 4)
  (fourYiaddr : yiaddr.length = 4) (fourGiaddr : giaddr.length = 4) (sixChaddr : chaddr.length = 6)
include fourXid fourYiaddr fourGiaddr sixChaddr

/-- Each assignment leaves the slices written before it alone. -/
theorem header_spec : (header xid yiaddr giaddr chaddr).length = 240 ∧
    (header xid yiaddr giaddr chaddr)[0]? = some 2 ∧
    slice 4 8 (header xid yiaddr giaddr chaddr) = xid ∧
    slice 24 28 (header xid yiaddr giaddr chaddr) = giaddr ∧
    slice 28 34 (header xid yiaddr giaddr chaddr) = chaddr := by
  rw [header]
  generalize blank :
    (((List.replicate 240 (0 : Octet)).set 0 2).set 1 1).set 2 6 = pkt₀
  have length₀ : pkt₀.length = 240 := by rw [← blank]; rfl
  have op₀ : pkt₀[0]? = some 2 := by rw [← blank]; rfl
  have written₁ := @spliced 4 8 xid pkt₀ fourXid (by decide) (by omega)
  generalize splice 4 8 xid pkt₀ = pkt₁ at written₁ ⊢
  have length₁ := written₁.length
  have written₂ := @spliced 16 20 yiaddr pkt₁ fourYiaddr (by decide) (by omega)
  generalize splice 16 20 yiaddr pkt₁ = pkt₂ at written₂ ⊢
  have length₂ := written₂.length
  have written₃ := @spliced 24 28 giaddr pkt₂ fourGiaddr (by decide) (by omega)
  generalize splice 24 28 giaddr pkt₂ = pkt₃ at written₃ ⊢
  have length₃ := written₃.length
  have written₄ := @spliced 28 34 chaddr pkt₃ sixChaddr (by decide) (by omega)
  generalize splice 28 34 chaddr pkt₃ = pkt₄ at written₄ ⊢
  have length₄ := written₄.length
  have written₅ := @spliced 236 240 magic pkt₄ rfl (by decide) (by omega)
  generalize splice 236 240 magic pkt₄ = pkt₅ at written₅ ⊢
  have length₅ := written₅.length
  refine ⟨by omega, ?_, ?_, ?_, ?_⟩
  · rw [written₅.first, written₄.first, written₃.first, written₂.first, written₁.first, op₀] <;>
      decide
  · rw [written₅.others, written₄.others, written₃.others, written₂.others, written₁.here] <;>
      decide
  · rw [written₅.others, written₄.others, written₃.here] <;> decide
  · rw [written₅.others, written₄.here]
    decide

end Header

/-! ## Answering -/

variable (server : Server) {data : Octets}

theorem onDatagram_of_not_request (other : ¬ Request data) :
    onDatagram server data = (server, some none) := by
  rw [onDatagram]
  split
  next => rfl
  next whole =>
      rw [not_or, not_lt, not_not] at whole
      rw [if_pos fun op => other ⟨whole.1, whole.2, op⟩]

theorem onDatagram_of_request (request : Request data) :
    (onDatagram server data).2 =
      ((parseOptions (data.drop 240)).bind messageType).bind fun msgtype =>
        (buildReply server (slice 4 8 data) (slice 28 34 data) (dotted (slice 24 28 data))
          (if msgtype = 1 then 2 else 5)).map some := by
  obtain ⟨long, cookie, op⟩ := request
  rw [onDatagram, if_neg (by simp [long, cookie]), if_neg (by simp [op])]
  dsimp only
  cases parseOptions (data.drop 240) with
  | none => rfl
  | some opts =>
      dsimp only [Option.bind_some]
      cases messageType opts <;> rfl

theorem parseOptions_reply (msgtype : Octet) (ip : Ipv4) :
    parseOptions ([53, 1, msgtype] ++ ([54, 4] ++ ip.bytes) ++ [0xff]) =
      some [(53, [msgtype]), (54, ip.bytes)] := by
  have holds : Holds ([53, 1, msgtype] ++ ([54, 4] ++ ip.bytes) ++ [0xff])
      [(53, [msgtype]), (54, ip.bytes)] :=
    .option (by decide) (by decide) (.option (by decide) (by decide) (.marked []))
  rw [parseOptions, parseOptionsFrom_of_holds holds]
  rfl

/-- A request with a message type gets a reply. -/
theorem reply_of_request (request : Request data) {msgtype : Octet}
    (typed : (parseOptions (data.drop 240)).bind messageType = some msgtype) :
    ∃ reply, (onDatagram server data).2 = some (some reply) ∧ Reply server data reply := by
  have long := request.1
  have fourXid : (slice 4 8 data).length = 4 := length_slice (by omega)
  have fourGiaddr : (slice 24 28 data).length = 4 := length_slice (by omega)
  have sixChaddr : (slice 28 34 data).length = 6 := length_slice (by omega)
  have nonempty : slice 24 28 data ≠ [] := List.ne_nil_of_length_pos (by omega)
  have fixed := header_spec fourXid (rfl : server.offeredIp.bytes.length = 4) fourGiaddr sixChaddr
  rw [onDatagram_of_request server request, typed, Option.bind_some, buildReply_eq _ _ _ nonempty]
  refine ⟨_, rfl, ?_⟩
  generalize header (slice 4 8 data) server.offeredIp.bytes (slice 24 28 data) (slice 28 34 data) =
    fields at fixed ⊢
  obtain ⟨length, op, xid, giaddr, chaddr⟩ := fixed
  rw [List.append_assoc, List.append_assoc, ← List.append_assoc [53, 1, _]]
  have kept (start stop : Nat) (inside : stop ≤ 240) (rest : Octets) :
      slice start stop (fields ++ rest) = slice start stop fields := by
    rw [slice, slice, List.drop_append, List.take_append_of_le_length]
    rw [List.length_drop]
    omega
  exact {
    op := by rw [List.getElem?_append_left (by omega), op]
    xid := by rw [kept _ _ (by decide), xid]
    giaddr := by rw [kept _ _ (by decide), giaddr]
    chaddr := by rw [kept _ _ (by decide), chaddr]
    options := by
      refine ⟨[(53, [if msgtype = 1 then 2 else 5]), (54, server.serverIp.bytes)], ?_, ?_, rfl⟩
      · rw [← length, List.drop_left, parseOptions_reply]
      · have same : Discover data ↔ msgtype = 1 := by rw [Discover, typed, Option.some_inj]
        simp only [same]
        rfl }

theorem answers_iff : Answers server data ↔ (Request data → Sound (data.drop 240)) := by
  constructor
  · intro answers request
    obtain ⟨returned, went⟩ := answers.returns
    rw [onDatagram_of_request server request] at went
    obtain ⟨msgtype, typed, _⟩ := Option.bind_eq_some_iff.mp went
    exact (sound_iff _).mpr ⟨msgtype, typed⟩
  · intro sound
    by_cases request : Request data
    · obtain ⟨msgtype, typed⟩ := (sound_iff _).mp (sound request)
      obtain ⟨reply, went, good⟩ := reply_of_request server request typed
      refine ⟨⟨_, went⟩, ?_, ?_⟩
      · intro returned same
        cases went.symm.trans same
        exact iff_of_true rfl request
      · intro other same
        cases went.symm.trans same
        exact good
    · have went : (onDatagram server data).2 = some none :=
        congrArg Prod.snd (onDatagram_of_not_request server request)
      refine ⟨⟨_, went⟩, ?_, ?_⟩
      · intro returned same
        cases went.symm.trans same
        exact iff_of_false Bool.false_ne_true request
      · intro reply same
        cases went.symm.trans same

theorem serverIp_onDatagram (data : Octets) :
    (onDatagram server data).1.serverIp = server.serverIp := by
  unfold onDatagram
  split
  next => rfl
  next =>
      split
      next => rfl
      next =>
          dsimp only
          cases parseOptions (data.drop 240) with
          | none => rfl
          | some opts =>
              dsimp only
              cases messageType opts <;> rfl

/-- What is sent back for one datagram. -/
structure Sends (address : Ipv4) (data : Octets) (sent : Option Octets) : Prop where
  answered : sent.isSome ↔ Request data ∧ Sound (data.drop 240)
  replies : ∀ server : Server, server.serverIp = address → ∀ reply, sent = some reply →
    Reply server data reply

theorem Reply.of_address {server other : Server} (same : server.serverIp = other.serverIp)
    {data reply : Octets} (replies : Reply server data reply) : Reply other data reply where
  op := replies.op
  xid := replies.xid
  giaddr := replies.giaddr
  chaddr := replies.chaddr
  options := same ▸ replies.options

theorem sends_serveDatagram (data : Octets) :
    Sends server.serverIp data (serveDatagram server data).2 := by
  change Sends server.serverIp data (onDatagram server data).2.join
  by_cases request : Request data
  · by_cases sound : Sound (data.drop 240)
    · obtain ⟨msgtype, typed⟩ := (sound_iff _).mp sound
      obtain ⟨reply, went, good⟩ := reply_of_request server request typed
      rw [went]
      refine ⟨iff_of_true rfl ⟨request, sound⟩, ?_⟩
      intro other same _ sent
      cases sent
      exact good.of_address same.symm
    · have raised : (onDatagram server data).2 = none := by
        rw [onDatagram_of_request server request]
        cases typed : (parseOptions (data.drop 240)).bind messageType with
        | none => rfl
        | some msgtype => exact absurd ((sound_iff _).mpr ⟨msgtype, typed⟩) sound
      rw [raised]
      refine ⟨iff_of_false Bool.false_ne_true fun both => sound both.2, ?_⟩
      intro _ _ reply sent
      cases sent
  · rw [onDatagram_of_not_request server request]
    refine ⟨iff_of_false Bool.false_ne_true fun both => request both.1, ?_⟩
    intro _ _ reply sent
    cases sent

/-- Whatever came before, a datagram is answered when it is a request with sound options. -/
theorem sends_serve (datagrams : List Octets) :
    List.Forall₂ (Sends server.serverIp) datagrams (serve server datagrams).2 := by
  induction datagrams generalizing server with
  | nil => exact .nil
  | cons data rest inductionHypothesis =>
      have later := inductionHypothesis (serveDatagram server data).1
      have same : (serveDatagram server data).1.serverIp = server.serverIp :=
        serverIp_onDatagram server data
      rw [same] at later
      exact .cons (sends_serveDatagram server data) later

/-- A request of 240 octets and the code of an option. -/
def cutRequest : Octets :=
  1 :: List.replicate 235 0 ++ magic ++ [53]

end OnboxFvt.Dhcp
