import Mathlib.Tactic.IntervalCases
import OnboxFvt.Library.Wire

/-!
# IPv4 prefixes and their NLRI

`_prefix2nlri` of `servers/bgp_speaker.py` sends the prefix length and as many
octets of the network as the length needs.  Host bits beyond the last octet sent
are lost, so two prefixes in canonical form have different NLRI and others may not.
-/

namespace OnboxFvt.Bgp

abbrev Byte := Fin 256

structure Ipv4 where
  a : Byte
  b : Byte
  c : Byte
  d : Byte
  deriving DecidableEq

/-- `inet_aton`. -/
def Ipv4.bytes (ip : Ipv4) : List Byte :=
  [ip.a, ip.b, ip.c, ip.d]

def Ipv4.toNat (ip : Ipv4) : Nat :=
  ((ip.a.val * 256 + ip.b.val) * 256 + ip.c.val) * 256 + ip.d.val

structure Prefix where
  net : Ipv4
  plen : Fin 33
  deriving DecidableEq

/-- The host bits are zero. -/
def Prefix.Canonical (pfx : Prefix) : Prop :=
  2 ^ (32 - pfx.plen.val) ∣ pfx.net.toNat

instance (pfx : Prefix) : Decidable pfx.Canonical :=
  inferInstanceAs (Decidable (_ ∣ _))

abbrev CanonicalPrefix :=
  { pfx : Prefix // pfx.Canonical }

def prefix2nlri (pfx : Prefix) : List Byte :=
  ⟨pfx.plen.val, by omega⟩ :: pfx.net.bytes.take ((pfx.plen.val + 7) / 8)

/-- The octets that are not sent are zero. -/
theorem Prefix.Canonical.unsent {pfx : Prefix} (canonical : pfx.Canonical) :
    2 ^ (8 * (4 - (pfx.plen.val + 7) / 8)) ∣ pfx.net.toNat :=
  (Nat.pow_dvd_pow 2 (by omega)).trans canonical

theorem Ipv4.ext_of_bytes {first second : Ipv4} {count : Nat} (bound : count ≤ 4)
    (firstRest : 2 ^ (8 * (4 - count)) ∣ first.toNat)
    (secondRest : 2 ^ (8 * (4 - count)) ∣ second.toNat)
    (same : first.bytes.take count = second.bytes.take count) : first = second := by
  obtain ⟨a, b, c, d⟩ := first
  obtain ⟨a', b', c', d'⟩ := second
  simp only [Ipv4.mk.injEq, Fin.ext_iff]
  simp only [Ipv4.toNat, Ipv4.bytes] at firstRest secondRest same
  interval_cases count <;>
    simp only [List.take_succ_cons, List.take_zero, List.cons.injEq, Fin.ext_iff] at same <;>
    omega

theorem prefix2nlri_injective :
    Function.Injective fun pfx : CanonicalPrefix => prefix2nlri pfx.val := by
  rintro ⟨⟨net, plen⟩, canonical⟩ ⟨⟨net', plen'⟩, canonical'⟩ equal
  obtain ⟨length, sent⟩ := List.cons.inj equal
  have same : plen = plen' := Fin.ext (Fin.mk.inj length)
  subst same
  have nets : net = net' :=
    Ipv4.ext_of_bytes (by omega) canonical.unsent canonical'.unsent sent
  subst nets
  rfl

end OnboxFvt.Bgp
