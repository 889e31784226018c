import OnboxFvt.Worker.AddressSpace
import OnboxFvt.Worker.Vlans

/-!
# The addresses of the worker view

`Topology.__init__` remaps the addresses of the profile one by one, so what holds of
`remap_cidr` on the addresses of the shipped profile holds of the worker view.
-/

namespace OnboxFvt.Worker

open Python
open Library (collect?)

/-! ## The addresses of the worker view -/

theorem collect?_viewItem {Value : Type} {view : Value → Option Value}
    {addresses : Value → List Text} {w : Int}
    (agrees : ∀ value, (view value).map addresses = collect? (remapCidr w) (addresses value))
    (items : List (Text × Value)) :
    (collect? (viewItem view) items).map (·.flatMap fun item => addresses item.2) =
      collect? (remapCidr w) (items.flatMap fun item => addresses item.2) := by
  induction items with
  | nil => rfl
  | cons item rest inductionHypothesis =>
      rw [List.flatMap_cons, Library.collect?_append, ← agrees item.2, ← inductionHypothesis,
        collect?, viewItem]
      cases view item.2 with
      | none => rfl
      | some value => cases collect? (viewItem view) rest <;> rfl

theorem remapOptional_toList (w : Int) (field : Option Text) :
    (remapOptional w field).map Option.toList = collect? (remapCidr w) field.toList := by
  cases field with
  | none => rfl
  | some cidr =>
      change ((remapCidr w cidr).map some).map Option.toList = _
      cases found : remapCidr w cidr <;> simp [collect?, found]

theorem Subnet.view_addresses (w : Int) (subnet : Subnet) :
    (subnet.view w).map Subnet.addresses = collect? (remapCidr w) subnet.addresses := by
  unfold Subnet.view Subnet.addresses
  rw [collect?, collect?, ← remapOptional_toList]
  cases remapCidr w subnet.dut with
  | none => rfl
  | some dut =>
      cases remapCidr w subnet.peer with
      | none => rfl
      | some peer => cases remapOptional w subnet.peer2 <;> rfl

theorem collect?_viewItem_text (w : Int) (items : List (Text × Text)) :
    (collect? (viewItem (remapCidr w)) items).map (·.map Prod.snd) =
      collect? (remapCidr w) (items.map Prod.snd) := by
  have agrees : ∀ cidr : Text, (remapCidr w cidr).map (fun image => [image]) =
      collect? (remapCidr w) [cidr] := by
    intro cidr
    cases found : remapCidr w cidr <;> simp [collect?, found]
  have whole := collect?_viewItem agrees items
  simpa only [← List.map_eq_flatMap] using whole

/-- Topology remaps the addresses of the profile one by one. -/
theorem AddressPlan.view_addresses (w : Int) (plan : AddressPlan) :
    (plan.view w).map AddressPlan.addresses = collect? (remapCidr w) plan.addresses := by
  unfold AddressPlan.view AddressPlan.addresses
  simp only [Library.collect?_append]
  rw [← collect?_viewItem (Subnet.view_addresses w), ← collect?_viewItem_text,
    ← collect?_viewItem_text, ← collect?_viewItem_text, ← remapOptional_toList]
  cases collect? (viewItem (Subnet.view w)) plan.subnets with
  | none => rfl
  | some subnets =>
      cases collect? (viewItem (remapCidr w)) plan.routes with
      | none => rfl
      | some routes =>
          cases collect? (viewItem (remapCidr w)) plan.servers with
          | none => rfl
          | some servers =>
              cases collect? (viewItem (remapCidr w)) plan.loopbacks with
              | none => rfl
              | some loopbacks => cases remapOptional w plan.svi <;> rfl

theorem Address.remapIp4_eq_remapCidr {address : Address} (plain : address.plen = none) (w : Int) :
    remapIp4 w address.text = remapCidr w address.text := by
  have bare : address.bare = address := by rw [Address.bare, ← plain]
  have slashless : '/' ∉ address.bare.text :=
    Address.notMem_bare rfl (by decide) (by decide) address _
  have colonless : ':' ∉ address.bare.text :=
    Address.notMem_bare rfl (by decide) (by decide) address _
  have nonempty := address.bare_text_ne_nil
  rw [bare] at slashless colonless nonempty
  by_cases serial : w ≤ 1
  · rw [remapCidr_of_le_one serial, remapIp4, if_pos (.inl serial)]
  · rw [remapCidr, if_neg (not_or.mpr ⟨serial, nonempty⟩), cutLast?_of_notMem slashless]
    exact (if_neg colonless).symm

/-! ## The shipped profiles -/

/-- The addresses of the `defaults` section, which no device section overrides. -/
def shippedPlan : AddressPlan where
  subnets :=
    [("a".toList, ⟨"10.80.1.1".toList, "10.80.1.2".toList, none, 24, none, none⟩),
      ("b".toList, ⟨"10.80.2.1".toList, "10.80.2.2".toList, none, 24, none, none⟩),
      ("c".toList, ⟨"10.80.3.1".toList, "10.80.3.2".toList, none, 24, none, none⟩),
      ("d".toList, ⟨"10.80.4.1".toList, "10.80.4.2".toList, none, 24, none, none⟩),
      ("e".toList, ⟨"10.80.5.1".toList, "10.80.5.2".toList, none, 24, none, none⟩),
      ("bgp".toList, ⟨"10.99.1.1".toList, "10.99.1.2".toList, some "10.99.1.3".toList, 24,
        some 65001, some 65002⟩),
      ("erspan".toList, ⟨"10.99.4.1".toList, "10.99.4.2".toList, none, 24, none, none⟩),
      ("coppl3".toList, ⟨"10.96.0.1".toList, "10.96.0.2".toList, none, 24, none, none⟩),
      ("dhcp".toList, ⟨"10.99.1.1".toList, "10.99.1.2".toList, none, 24, none, none⟩),
      ("v6a".toList, ⟨"2001:db8:83::1".toList, "2001:db8:83::2".toList, none, 64, none, none⟩),
      ("v6b".toList, ⟨"2001:db8:84::1".toList, "2001:db8:84::2".toList, none, 64, none, none⟩)]
  routes :=
    [("a".toList, "10.251.0.0/24".toList), ("b".toList, "10.252.0.0/24".toList),
      ("c".toList, "10.253.0.0/24".toList), ("d".toList, "10.250.0.0/24".toList),
      ("default4".toList, "0.0.0.0/0".toList), ("v6a".toList, "2001:db8:251::/64".toList)]
  servers :=
    [("sflow_collector".toList, "10.99.3.2".toList), ("dhcp_server".toList, "10.99.2.2".toList),
      ("syslog_collector".toList, "127.0.0.1".toList)]
  loopbacks := [("a".toList, "10.10.10.10/32".toList)]
  svi := some "10.120.0.1/24".toList

/-- Second octets of the 10.x addresses in the profile, the tests and the framework. -/
def testOctets : List (Fin 256) :=
  [0, 1, 5, 7, 8, 9, 10, 66, 71, 80, 86, 90, 91, 96, 99, 120, 199, 231, 232, 249, 250, 251, 252,
    253]

def Address.UsedByTests (address : Address) : Prop :=
  address.InTen ∧ address.quad.second ∈ testOctets

/-- An address `remap_ip4` gets: one without a prefix length. -/
abbrev TestIp4 : Type :=
  { address : Address // address.UsedByTests ∧ address.plen = none }

abbrev TestCidr : Type :=
  { address : Address // address.UsedByTests }

/-- A place of the plan that holds a 10.x address, with the address. -/
abbrev Place (plan : AddressPlan) : Type :=
  { place : Nat × Address // plan.addresses[place.1]? = some place.2.text ∧ place.2.InTen }

/-- What the worker view has at a place. -/
def viewAt (w : Int) (plan : AddressPlan) (place : Place plan) : Option Text :=
  (plan.view w).bind fun view => view.addresses[place.val.1]?

/-- What the workers make of the addresses in `source`: another address of 10.0.0.0/8 of the same
prefix length, another one for each address and for each worker. -/
structure Separating {Use : Type} (Admits : Int → Prop) (source : Use → Address)
    (image : Int → Use → Option Text) : Prop where
  valid : ∀ w, 2 ≤ w → Admits w → ∀ use, ∃ address : Address, address.InTen ∧
    address.plen = (source use).plen ∧ address ≠ source use ∧ image w use = some address.text
  injective : ∀ w, 2 ≤ w → Admits w → ∀ use other, image w use = image w other →
    source use = source other
  distinct : ∀ w w', Admits w → Admits w' → w ≠ w' → ∀ use, image w use ≠ image w' use

theorem notMem_testOctets_of_apart : ∀ octet ∈ testOctets, ∀ other ∈ testOctets,
    (other : Nat) ≠ octet + 200 := by
  have low : ∀ octet ∈ testOctets, (octet : Nat) ≤ 55 → (octet : Nat) ≤ 10 := by
    decide +kernel
  have high : ∀ octet ∈ testOctets, (octet : Nat) ≤ 210 → (octet : Nat) ≤ 199 := by
    decide +kernel
  intro octet used other used' apart
  have small := low octet used (by omega)
  have large := high other used' (by omega)
  omega

theorem Admitted.eq_two {profile : Profile} (shipped : profile ∈ shippedProfiles)
    {ports : List Text} {w : Int} (admitted : Admitted profile ports w) (remapped : 2 ≤ w) :
    w = 2 := by
  have bounds := admitted.le_two shipped
  omega

/-- Any map that works on the addresses tests use as `remap_cidr` does separates them. -/
theorem separating_of_remapCidr {profile : Profile} (shipped : profile ∈ shippedProfiles)
    (ports : List Text) {Use : Type} {source : Use → Address} {image : Int → Use → Option Text}
    (used : ∀ use, (source use).UsedByTests)
    (remaps : ∀ w, Admitted profile ports w → ∀ use,
      image w use = remapCidr w (source use).text) :
    Separating (Admitted profile ports) source image := by
  constructor
  · intro w remapped admitted use
    have second : w = 2 := admitted.eq_two shipped remapped
    have fits : ((source use).quad.second : Int) + 100 * (w - 1) ≤ 255 ∨
        100 * (w - 1) ≤ ((source use).quad.second : Int) := by omega
    obtain ⟨address, ten, plen, equal⟩ :=
      (Address.remapCidr_octet_iff (used use).1 remapped).mpr fits
    refine ⟨address, ten, plen, ?_, (remaps w admitted use).trans equal⟩
    intro same
    rw [same] at equal
    exact Address.remapCidr_ne (used use).1 remapped equal
  · intro w remapped admitted use other equal
    have second : w = 2 := admitted.eq_two shipped remapped
    rw [remaps w admitted, remaps w admitted] at equal
    obtain ⟨⟨thirds, fourths, lengths⟩, seconds⟩ :=
      (Address.remapCidr_eq_iff (used use).1 (used other).1 remapped).mp equal
    have same : ((source use).quad.second : Int) = (source other).quad.second := by
      rcases seconds with same | apart | apart
      · exact same
      · have never := notMem_testOctets_of_apart _ (used use).2 _ (used other).2
        omega
      · have never := notMem_testOctets_of_apart _ (used other).2 _ (used use).2
        omega
    apply Address.text_injective
    unfold Address.text Address.withSecond Address.tail
    rw [same, thirds, fourths, lengths, show (source use).quad.first = 10 from (used use).1,
      show (source other).quad.first = 10 from (used other).1]
  · intro w w' admitted admitted' different use
    rw [remaps w admitted, remaps w' admitted']
    exact Address.remapCidr_workers_ne (used use).1 (admitted.le_two shipped).1
      (admitted'.le_two shipped).1 different

theorem used_of_mem_shippedPlan {address : Address} (member : address.text ∈ shippedPlan.addresses)
    (ten : address.InTen) : address.UsedByTests := by
  refine ⟨ten, ?_⟩
  have octets : ∀ text ∈ shippedPlan.addresses, (splitOn '.' text).head? = some "10".toList →
      (splitOn '.' text)[1]?.bind readNat? ∈ testOctets.map fun octet => some octet.val := by
    decide +kernel
  have parts : splitOn '.' address.text = _ := address.splitOn_withSecond address.quad.second
  have first : decimal address.quad.first = "10".toList := by
    rw [show address.quad.first = 10 from ten]
    rfl
  have read := octets address.text member (by
    rw [parts, first]
    rfl)
  rw [parts] at read
  change readNat? (decimal address.quad.second) ∈ _ at read
  rw [readNat?_decimal, List.mem_map] at read
  obtain ⟨octet, used, equal⟩ := read
  rw [← Fin.ext (Option.some.inj equal)]
  exact used

/-- Building the view raises no `ValueError` for the workers a shipped profile admits. -/
theorem view_of_admitted {profile : Profile} (shipped : profile ∈ shippedProfiles)
    {ports : List Text} {w : Int} (admitted : Admitted profile ports w) :
    ∃ view, shippedPlan.view w = some view := by
  have numbers : ∀ cidr ∈ shippedPlan.addresses, remapCidr w cidr ≠ none := by
    by_cases serial : w ≤ 1
    · intro cidr _
      rw [remapCidr_of_le_one serial]
      exact Option.some_ne_none cidr
    · have second : w = 2 := admitted.eq_two shipped (by omega)
      have every : (shippedPlan.addresses.all fun cidr => (remapCidr 2 cidr).isSome) = true := by
        decide +kernel
      intro cidr member
      rw [second]
      exact Option.isSome_iff_ne_none.mp (List.all_eq_true.mp every cidr member)
  have collected : collect? (remapCidr w) shippedPlan.addresses ≠ none := by
    intro failed
    obtain ⟨cidr, member, raised⟩ := Library.collect?_eq_none.mp failed
    exact numbers cidr member raised
  rw [← AddressPlan.view_addresses] at collected
  cases built : shippedPlan.view w with
  | none => exact absurd (by rw [built]; rfl) collected
  | some view => exact ⟨view, rfl⟩

theorem viewAt_eq_remapCidr {plan : AddressPlan} {w : Int} {view : AddressPlan}
    (built : plan.view w = some view) (place : Place plan) :
    viewAt w plan place = remapCidr w place.val.2.text := by
  have addresses := AddressPlan.view_addresses w plan
  rw [built] at addresses
  rw [viewAt, built, Option.bind_some, Library.getElem?_collect? addresses.symm,
    place.property.1, Option.bind_some]

def workerTwoPorts : List Text :=
  ["Ethernet9".toList, "Ethernet10".toList, "Ethernet11".toList, "Ethernet12".toList,
    "Ethernet13".toList, "Ethernet14".toList, "Ethernet15".toList, "Ethernet16".toList]

end OnboxFvt.Worker
