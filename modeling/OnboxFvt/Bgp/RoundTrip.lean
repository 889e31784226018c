import OnboxFvt.Bgp.Messages

/-!
# The messages read back

Every part of a message is read where it was written; a message is read part by part.
-/

namespace OnboxFvt.Bgp

open Library Wire

/-! ## Parts -/

theorem number_octet (octet : Byte) : number [octet] = octet.val := by
  simp [number]

theorem reads_octet (octet : Byte) : Reads (numberOf 1) [octet] octet.val := by
  have length : [octet].length = 1 := rfl
  apply reads_accept (reads_take length)
  rw [number_octet]

theorem pack_eq_some {width value : Nat} (fits : value < 256 ^ width) :
    pack width value = some (bigEndian width value) :=
  if_pos fits

theorem governs_bigEndian {width : Nat} {content : List Byte}
    (fits : content.length < 256 ^ width) :
    Governs width (bigEndian width content.length) content where
  length := length_bigEndian width content.length
  value := number_bigEndian fits

theorem Ipv4.number_take (ip : Ipv4) {count : Nat} (bound : count ≤ 4) :
    number (ip.bytes.take count) = ip.toNat / 256 ^ (4 - count) := by
  obtain ⟨a, b, c, d⟩ := ip
  simp only [Ipv4.bytes, Ipv4.toNat]
  interval_cases count <;> simp [number] <;> omega

/-- Host bits do not reach the receiver. -/
theorem reads_route (pfx : Prefix) : Reads readRoute (prefix2nlri pfx) pfx.route := by
  obtain ⟨net, plen⟩ := pfx
  have count : (net.bytes.take ((plen.val + 7) / 8)).length = (plen.val + 7) / 8 := by
    have length : net.bytes.length = 4 := rfl
    rw [List.length_take, length]
    omega
  apply reads_andThen (reads_octet ⟨plen.val, by omega⟩)
  apply reads_accept (reads_take count)
  have network : net.toNat / 256 ^ (4 - (plen.val + 7) / 8) /
      2 ^ (8 * ((plen.val + 7) / 8) - plen.val) = net.toNat / 2 ^ (32 - plen.val) := by
    have power : (256 : Nat) = 2 ^ 8 := rfl
    rw [Nat.div_div_eq_div_mul, power, ← Nat.pow_mul, ← Nat.pow_add]
    congr 2
    omega
  have valid : plen.val ≤ 32 := by omega
  rw [if_pos valid, count, net.number_take (by omega), network]
  rfl

theorem many_route (pfx : Prefix) : many readRoute (prefix2nlri pfx) = some [pfx.route] :=
  many_single (reads_route pfx) (by simp [prefix2nlri])

theorem length_nlri (pfx : Prefix) : (prefix2nlri pfx).length ≤ 5 := by
  unfold prefix2nlri
  rw [List.length_cons, List.length_take]
  omega

theorem reads_attribute {kind : Byte} {value : List Byte} {found : Attribute}
    (short : value.length < 256) (accepted : attribute? 64 kind.val value = some found) :
    Reads readAttribute ([64, kind] ++ bigEndian 1 value.length ++ value) found := by
  have head : ([64, kind] ++ bigEndian 1 value.length ++ value : List Byte) =
      [64] ++ ([kind] ++ (bigEndian 1 value.length ++ value)) := by
    simp
  rw [head]
  apply reads_andThen (reads_octet 64)
  apply reads_andThen (reads_octet kind)
  exact reads_accept (reads_sized short) accepted

theorem many_segment {as : Nat} (fits : as < 2 ^ 32) :
    many readSegment ([2, 1] ++ bigEndian 4 as) = some [⟨2, [as]⟩] := by
  apply many_single _ (by simp)
  have split : ([2, 1] ++ bigEndian 4 as : List Byte) = [2] ++ ([1] ++ bigEndian 4 as) := rfl
  rw [split]
  apply reads_andThen (reads_octet 2)
  apply reads_andThen (reads_octet 1)
  apply reads_accept (reads_take (length_bigEndian 4 as))
  have something : bigEndian 4 as ≠ [] := by
    apply List.ne_nil_of_length_pos
    rw [length_bigEndian]
    exact Nat.succ_pos 3
  have asns : many (numberOf 4) (bigEndian 4 as) = some [as] :=
    many_single (reads_numberOf fits) something
  have sequence : (2 : Byte).val = 1 ∨ (2 : Byte).val = 2 := Or.inr rfl
  rw [if_pos sequence, asns]
  rfl

/-! ## Frames -/

def frame (mtype : Byte) (body : List Byte) : List Byte :=
  marker ++ bigEndian 2 (19 + body.length) ++ [mtype] ++ body

theorem msg_eq {mtype : Byte} {body : List Byte} (short : 19 + body.length ≤ 4096) :
    msg mtype body = some (frame mtype body) := by
  unfold msg
  rw [pack_eq_some (by omega)]
  rfl

theorem length_frame (mtype : Byte) (body : List Byte) :
    (frame mtype body).length = 19 + body.length := by
  simp [frame, marker]
  omega

theorem framed {mtype : Byte} {body : List Byte} (short : 19 + body.length ≤ 4096) :
    Framed mtype (frame mtype body) body := by
  refine ⟨_, rfl, length_bigEndian _ _, ?_⟩
  rw [number_bigEndian (by omega), length_frame]

theorem decode_frame {mtype : Byte} {body : List Byte} (short : 19 + body.length ≤ 4096) :
    decode (frame mtype body) = decodeBody mtype.val body := by
  have total := length_frame mtype body
  have fits : 19 + body.length < 256 ^ 2 := by omega
  unfold decode
  rw [total]
  unfold frame
  rw [List.append_assoc, List.append_assoc, reads_take (by rfl : marker.length = 16)]
  simp only [Option.bind_eq_bind, Option.bind_some]
  rw [reads_numberOf fits, Option.bind_some, reads_octet mtype, Option.bind_some]
  exact if_pos ⟨trivial, rfl, short⟩

/-! ## UPDATE -/

theorem decodeUpdate_eq {withdrawn attributes nlri : List Byte} {routes reachable : List Route}
    {values : List Attribute} (shortWithdrawn : withdrawn.length < 65536)
    (shortAttributes : attributes.length < 65536)
    (readWithdrawn : many readRoute withdrawn = some routes)
    (readAttributes : many readAttribute attributes = some values)
    (readNlri : many readRoute nlri = some reachable) :
    decodeUpdate (bigEndian 2 withdrawn.length ++ withdrawn ++
        bigEndian 2 attributes.length ++ attributes ++ nlri) =
      some (.update routes values reachable) := by
  have split : bigEndian 2 withdrawn.length ++ withdrawn ++
      bigEndian 2 attributes.length ++ attributes ++ nlri =
        (bigEndian 2 withdrawn.length ++ withdrawn) ++
          ((bigEndian 2 attributes.length ++ attributes) ++ nlri) := by
    simp
  rw [split]
  unfold decodeUpdate
  rw [reads_sized shortWithdrawn]
  simp only [Option.bind_eq_bind, Option.bind_some]
  rw [reads_sized shortAttributes]
  simp only [Option.bind_some, readWithdrawn, readAttributes, readNlri]
  rfl

/-- The path attributes of an announcement. -/
def attributesOf (as : Nat) (nexthop : Ipv4) : List Byte :=
  [0x40, 1, 1, 0] ++ ([0x40, 2, 6, 2, 1] ++ bigEndian 4 as) ++ ([0x40, 3, 4] ++ nexthop.bytes)

theorem length_attributesOf (as : Nat) (nexthop : Ipv4) :
    (attributesOf as nexthop).length = 20 := by
  simp [attributesOf, Ipv4.bytes]

theorem address_bytes (ip : Ipv4) : address? ip.bytes = some ip :=
  rfl

theorem many_attributesOf {as : Nat} (nexthop : Ipv4) (fits : as < 2 ^ 32) :
    many readAttribute (attributesOf as nexthop) =
      some [.origin 0, .asPath [⟨2, [as]⟩], .nextHop nexthop] := by
  have pathLength : ([2, 1] ++ bigEndian 4 as : List Byte).length = 6 := by simp
  have origin : Reads readAttribute [0x40, 1, 1, 0] (.origin 0) :=
    @reads_attribute 1 [0] (.origin 0) (by decide) rfl
  have path : Reads readAttribute ([0x40, 2, 6, 2, 1] ++ bigEndian 4 as)
      (.asPath [⟨2, [as]⟩]) := by
    have read := @reads_attribute 2 ([2, 1] ++ bigEndian 4 as) (.asPath [⟨2, [as]⟩])
      (by rw [pathLength]; decide) (by
        have segments := many_segment fits
        unfold attribute?
        simp only
        rw [segments]
        rfl)
    rw [pathLength] at read
    exact read
  have hop : Reads readAttribute ([0x40, 3, 4] ++ nexthop.bytes) (.nextHop nexthop) :=
    @reads_attribute 3 nexthop.bytes (.nextHop nexthop) (show 4 < 256 by decide) rfl
  unfold attributesOf
  rw [List.append_assoc]
  apply many_append origin (by simp)
  apply many_append path (by simp)
  exact many_single hop (by simp)

theorem tagged_attributesOf (as : Nat) (nexthop : Ipv4) :
    Tagged [[0x40, 1], [0x40, 2], [0x40, 3]] (attributesOf as nexthop) := by
  refine ⟨[([0x40, 1], [1], [0]), ([0x40, 2], [6], [2, 1] ++ bigEndian 4 as),
    ([0x40, 3], [4], nexthop.bytes)], rfl, ?_, ?_⟩
  · simp [attributesOf]
  · intro item member
    simp only [List.mem_cons, List.not_mem_nil, or_false] at member
    rcases member with rfl | rfl | rfl
    · exact ⟨rfl, rfl⟩
    · refine ⟨rfl, ?_⟩
      rw [List.length_append, length_bigEndian]
      rfl
    · exact ⟨rfl, rfl⟩

namespace Speaker

variable {speaker : Speaker}

/-- What the announcement is and how it reads back. -/
theorem updateAnnounce_spec (pfx : Prefix) (nexthop : Ipv4) (as : speaker.myAs < 2 ^ 32) :
    ∃ bytes, speaker.updateAnnounce pfx nexthop = some bytes ∧
      decode bytes = some (.update [] [.origin 0, .asPath [⟨2, [speaker.myAs]⟩],
        .nextHop nexthop] [pfx.route]) ∧
      UpdateLayout [[0x40, 1], [0x40, 2], [0x40, 3]] bytes []
        (attributesOf speaker.myAs nexthop) (prefix2nlri pfx) := by
  have attributesLength := length_attributesOf speaker.myAs nexthop
  have nlriLength := length_nlri pfx
  have fits : (attributesOf speaker.myAs nexthop).length < 65536 := by omega
  have short : 19 + (bigEndian 2 0 ++ [] ++ bigEndian 2 (attributesOf speaker.myAs nexthop).length
      ++ attributesOf speaker.myAs nexthop ++ prefix2nlri pfx).length ≤ 4096 := by
    simp only [List.length_append, List.length_nil, length_bigEndian, attributesLength]
    omega
  refine ⟨frame updateType _, ?_, ?_, _, _, framed short, ⟨rfl, rfl⟩, governs_bigEndian fits,
    tagged_attributesOf speaker.myAs nexthop⟩
  · have attrs : pack 2 (attributesOf speaker.myAs nexthop).length =
        some (bigEndian 2 (attributesOf speaker.myAs nexthop).length) :=
      pack_eq_some fits
    have zero : pack 2 0 = some (bigEndian 2 0 ++ []) := rfl
    unfold updateAnnounce
    unfold attributesOf at attrs
    rw [pack_eq_some as]
    simp only [Option.bind_eq_bind, Option.bind_some, zero, attrs]
    exact msg_eq short
  · rw [decode_frame short]
    exact @decodeUpdate_eq [] (attributesOf speaker.myAs nexthop) (prefix2nlri pfx) _ _ _
      (by decide) fits (many_nil _) (many_attributesOf nexthop as) (many_route pfx)

theorem updateWithdraw_spec (pfx : Prefix) :
    ∃ bytes, updateWithdraw pfx = some bytes ∧
      decode bytes = some (.update [pfx.route] [] []) ∧
      UpdateLayout [] bytes (prefix2nlri pfx) [] [] := by
  have nlriLength := length_nlri pfx
  have fits : (prefix2nlri pfx).length < 65536 := by omega
  have short : 19 + (bigEndian 2 (prefix2nlri pfx).length ++ prefix2nlri pfx ++
      bigEndian 2 0).length ≤ 4096 := by
    simp only [List.length_append, length_bigEndian]
    omega
  have padded : bigEndian 2 (prefix2nlri pfx).length ++ prefix2nlri pfx ++ bigEndian 2 0 ++ [] ++
      [] = bigEndian 2 (prefix2nlri pfx).length ++ prefix2nlri pfx ++ bigEndian 2 0 := by
    rw [List.append_nil, List.append_nil]
  refine ⟨frame updateType (bigEndian 2 (prefix2nlri pfx).length ++ prefix2nlri pfx ++
    bigEndian 2 0), ?_, ?_, ?_⟩
  · have withdrawn : pack 2 (prefix2nlri pfx).length =
        some (bigEndian 2 (prefix2nlri pfx).length) :=
      pack_eq_some fits
    have zero : pack 2 0 = some (bigEndian 2 0) := rfl
    unfold updateWithdraw
    simp only [Option.bind_eq_bind, Option.bind_some, zero, withdrawn]
    exact msg_eq short
  · rw [decode_frame short, ← padded]
    exact @decodeUpdate_eq (prefix2nlri pfx) [] [] _ _ _ fits (by decide) (many_route pfx)
      (many_nil _) (many_nil _)
  · refine ⟨bigEndian 2 (prefix2nlri pfx).length, bigEndian 2 0, ?_, governs_bigEndian fits,
      ⟨rfl, rfl⟩, [], rfl, rfl, ?_⟩
    · rw [padded]
      exact framed short
    · intro item member
      cases member

end Speaker

/-! ## OPEN -/

/-- The optional parameters: one for each capability. -/
def parametersOf (as : Nat) : List Byte :=
  [2] ++ bigEndian 1 6 ++ [1, 4, 0, 1, 0, 1] ++
    ([2] ++ bigEndian 1 6 ++ ([65, 4] ++ bigEndian 4 as))

theorem length_parametersOf (as : Nat) : (parametersOf as).length = 16 := by
  simp [parametersOf]

theorem reads_parameter {content : List Byte} {capabilities : List Capability}
    (short : content.length < 256) (accepted : many readCapability content = some capabilities) :
    Reads readParameter ([2] ++ (bigEndian 1 content.length ++ content)) capabilities := by
  apply reads_andThen (reads_octet 2)
  exact reads_accept (reads_sized short) accepted

theorem reads_capability {code : Byte} {value : List Byte} {capability : Capability}
    (short : value.length < 256) (accepted : capability? code.val value = some capability) :
    Reads readCapability ([code] ++ (bigEndian 1 value.length ++ value)) capability := by
  apply reads_andThen (reads_octet code)
  exact reads_accept (reads_sized short) accepted

theorem tagged_capability (code : Byte) (value : List Byte) (short : value.length < 256) :
    Tagged [[code]] ([code] ++ bigEndian 1 value.length ++ value) := by
  refine ⟨[([code], bigEndian 1 value.length, value)], rfl, by simp, ?_⟩
  intro item member
  cases List.mem_singleton.mp member
  exact governs_bigEndian short

theorem capability_fourOctetAs {as : Nat} (fits : as < 2 ^ 32) :
    capability? 65 (bigEndian 4 as) = some (.fourOctetAs as) := by
  have value := @number_bigEndian 4 as fits
  have octets : ∃ a b c d, bigEndian 4 as = [a, b, c, d] := ⟨_, _, _, _, rfl⟩
  obtain ⟨a, b, c, d, equal⟩ := octets
  rw [equal] at value ⊢
  exact congrArg (fun as => some (Capability.fourOctetAs as)) value

theorem many_parametersOf {as : Nat} (fits : as < 2 ^ 32) :
    many readParameter (parametersOf as) = some [[.multiprotocol 1 1], [.fourOctetAs as]] := by
  have multiprotocol : many readCapability [1, 4, 0, 1, 0, 1] = some [.multiprotocol 1 1] :=
    many_single (@reads_capability 1 [0, 1, 0, 1] (.multiprotocol 1 1) (by decide) rfl)
      (by simp)
  have fourOctets : Reads readCapability ([65, 4] ++ bigEndian 4 as) (.fourOctetAs as) :=
    @reads_capability 65 (bigEndian 4 as) (.fourOctetAs as)
      (by rw [length_bigEndian]; decide) (capability_fourOctetAs fits)
  have first : Reads readParameter ([2] ++ bigEndian 1 6 ++ [1, 4, 0, 1, 0, 1])
      [.multiprotocol 1 1] :=
    reads_parameter (by decide) multiprotocol
  have length : ([65, 4] ++ bigEndian 4 as : List Byte).length = 6 := by simp
  have second := reads_parameter (by rw [length]; decide) (many_single fourOctets (by simp))
  rw [length] at second
  unfold parametersOf
  apply many_append first (by simp)
  rw [List.append_assoc]
  exact many_single second (by simp)

namespace Speaker

variable {speaker : Speaker}

theorem as2_lt (speaker : Speaker) : speaker.as2 < 65536 := by
  unfold as2
  split <;> omega

/-- The body of the OPEN message. -/
def openBody (speaker : Speaker) : List Byte :=
  bigEndian 1 4 ++ bigEndian 2 speaker.as2 ++ bigEndian 2 speaker.holdTime ++
    speaker.bgpId.bytes ++ bigEndian 1 (parametersOf speaker.myAs).length ++
      parametersOf speaker.myAs

theorem short_openBody (speaker : Speaker) : 19 + speaker.openBody.length ≤ 4096 := by
  simp only [openBody, List.length_append, length_bigEndian, length_parametersOf, Ipv4.bytes,
    List.length_cons, List.length_nil]
  decide

theorem short_parametersOf (as : Nat) : (parametersOf as).length < 256 := by
  rw [length_parametersOf]
  decide

theorem openMsg_eq (as : speaker.myAs < 2 ^ 32) (hold : speaker.holdTime < 2 ^ 16) :
    speaker.openMsg = some (frame openType speaker.openBody) := by
  have opt : pack 1 (parametersOf speaker.myAs).length =
      some (bigEndian 1 (parametersOf speaker.myAs).length) :=
    pack_eq_some (short_parametersOf speaker.myAs)
  have four : pack 1 4 = some (bigEndian 1 4) := rfl
  have six : pack 1 6 = some (bigEndian 1 6) := rfl
  have capAs4 : ([65, 4] ++ bigEndian 4 speaker.myAs : List Byte).length = 6 := by simp
  have capMp : ([1, 4, 0, 1, 0, 1] : List Byte).length = 6 := rfl
  have as2 : pack 2 speaker.as2 = some (bigEndian 2 speaker.as2) :=
    pack_eq_some speaker.as2_lt
  have holdTime : pack 2 speaker.holdTime = some (bigEndian 2 speaker.holdTime) :=
    pack_eq_some hold
  unfold openMsg
  unfold parametersOf at opt
  rw [pack_eq_some as]
  simp only [Option.bind_eq_bind, Option.bind_some, capMp, capAs4, six, four, as2, holdTime, opt]
  exact msg_eq speaker.short_openBody

theorem decode_openBody (as : speaker.myAs < 2 ^ 32) (hold : speaker.holdTime < 2 ^ 16) :
    decode (frame openType speaker.openBody) =
      some (.opened 4 speaker.as2 speaker.holdTime speaker.bgpId
        [[.multiprotocol 1 1], [.fourOctetAs speaker.myAs]]) := by
  rw [decode_frame speaker.short_openBody]
  apply whole_of_reads
  simp only [openBody, List.append_assoc]
  apply reads_andThen (reads_numberOf (by decide))
  apply reads_andThen (reads_numberOf speaker.as2_lt)
  apply reads_andThen (reads_numberOf hold)
  apply reads_andThen (reads_accept (reads_take rfl) (address_bytes _))
  apply reads_accept (reads_sized (short_parametersOf speaker.myAs))
  rw [many_parametersOf as]
  rfl

theorem openLayout_openBody (speaker : Speaker) :
    OpenLayout [1, 65] (frame openType speaker.openBody) := by
  refine ⟨_, _, _, framed speaker.short_openBody, rfl,
    governs_bigEndian (short_parametersOf speaker.myAs),
    [([6], [1, 4, 0, 1, 0, 1]), ([6], [65, 4] ++ bigEndian 4 speaker.myAs)], ?_, ?_, rfl, ?_⟩
  · have six : bigEndian 1 6 = [6] := rfl
    simp [parametersOf, six]
  · intro item member
    simp only [List.mem_cons, List.not_mem_nil, or_false] at member
    rcases member with rfl | rfl
    · exact ⟨rfl, rfl⟩
    · refine ⟨rfl, ?_⟩
      rw [List.length_append, length_bigEndian]
      rfl
  · intro pair member
    simp only [List.zip_cons_cons, List.zip_nil_right, List.mem_cons, List.not_mem_nil,
      or_false] at member
    rcases member with rfl | rfl
    · exact tagged_capability 1 [0, 1, 0, 1] (by decide)
    · exact tagged_capability 65 (bigEndian 4 speaker.myAs) (by rw [length_bigEndian]; decide)

theorem openMsg_spec (as : speaker.myAs < 2 ^ 32) (hold : speaker.holdTime < 2 ^ 16) :
    ∃ bytes, speaker.openMsg = some bytes ∧
      decode bytes = some (.opened 4 speaker.as2 speaker.holdTime speaker.bgpId
        [[.multiprotocol 1 1], [.fourOctetAs speaker.myAs]]) ∧
      OpenLayout [1, 65] bytes :=
  ⟨_, openMsg_eq as hold, decode_openBody as hold, speaker.openLayout_openBody⟩

/-- The three messages, their contents and their length fields. -/
theorem messages_round_trip (speaker : Speaker) (pfx : Prefix) (nexthop : Ipv4)
    (as : speaker.myAs < 2 ^ 32) (hold : speaker.holdTime < 2 ^ 16) :
    (∃ bytes, speaker.updateAnnounce pfx nexthop = some bytes ∧
      decode bytes = some (.update [] [.origin 0, .asPath [⟨2, [speaker.myAs]⟩],
        .nextHop nexthop] [pfx.route]) ∧
      UpdateLayout [[0x40, 1], [0x40, 2], [0x40, 3]] bytes []
        (attributesOf speaker.myAs nexthop) (prefix2nlri pfx)) ∧
    (∃ bytes, updateWithdraw pfx = some bytes ∧
      decode bytes = some (.update [pfx.route] [] []) ∧
      UpdateLayout [] bytes (prefix2nlri pfx) [] []) ∧
    ∃ bytes, speaker.openMsg = some bytes ∧
      decode bytes = some (.opened 4 speaker.as2 speaker.holdTime speaker.bgpId
        [[.multiprotocol 1 1], [.fourOctetAs speaker.myAs]]) ∧
      OpenLayout [1, 65] bytes :=
  ⟨updateAnnounce_spec pfx nexthop as, updateWithdraw_spec pfx, openMsg_spec as hold⟩

/-- 10.0.0.129/25 from AS 4200000000, with a host bit set. -/
theorem messages_round_trip_host_bits :
    (∃ bytes, (Speaker.mk ⟨10, 0, 0, 1⟩ none 4200000000 90).updateAnnounce
        ⟨⟨10, 0, 0, 129⟩, 25⟩ ⟨10, 0, 0, 2⟩ = some bytes ∧
      decode bytes = some (.update [] [.origin 0, .asPath [⟨2, [4200000000]⟩],
        .nextHop ⟨10, 0, 0, 2⟩] [(Prefix.mk ⟨10, 0, 0, 129⟩ 25).route]) ∧
      UpdateLayout [[0x40, 1], [0x40, 2], [0x40, 3]] bytes []
        (attributesOf 4200000000 ⟨10, 0, 0, 2⟩) (prefix2nlri ⟨⟨10, 0, 0, 129⟩, 25⟩)) ∧
    (∃ bytes, updateWithdraw ⟨⟨10, 0, 0, 129⟩, 25⟩ = some bytes ∧
      decode bytes = some (.update [(Prefix.mk ⟨10, 0, 0, 129⟩ 25).route] [] []) ∧
      UpdateLayout [] bytes (prefix2nlri ⟨⟨10, 0, 0, 129⟩, 25⟩) [] []) ∧
    ∃ bytes, (Speaker.mk ⟨10, 0, 0, 1⟩ none 4200000000 90).openMsg = some bytes ∧
      decode bytes = some (.opened 4 23456 90 ⟨10, 0, 0, 1⟩
        [[.multiprotocol 1 1], [.fourOctetAs 4200000000]]) ∧
      OpenLayout [1, 65] bytes :=
  messages_round_trip ⟨⟨10, 0, 0, 1⟩, none, 4200000000, 90⟩ ⟨⟨10, 0, 0, 129⟩, 25⟩ ⟨10, 0, 0, 2⟩
    (by decide) (by decide)

end Speaker

end OnboxFvt.Bgp
