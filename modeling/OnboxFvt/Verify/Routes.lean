import OnboxFvt.Library.Dict
import OnboxFvt.Library.Poll
import OnboxFvt.Python.Hexadecimal
import OnboxFvt.Python.TextFacts

/-!
# Looking for a route

`AsicDb.has_route` and `route_is_forwarding` of `framework/verify.py`.  A route entry is
known by its key, a JSON text, and the prefix is looked for anywhere in it.
-/

namespace OnboxFvt.Verify

open Library Python

/-- The characters of an address, IPv4 or IPv6, as the database writes it. -/
def addressCharacters : Text :=
  "0123456789abcdef.:".toList

structure Destination where
  address : Text
  length : Nat
  plain : ∀ c ∈ address, c ∈ addressCharacters
  deriving DecidableEq

def Destination.text (dest : Destination) : Text :=
  dest.address ++ '/' :: decimal dest.length

def oidStart : Text :=
  "oid:0x".toList

def oid (number : Nat) : Text :=
  oidStart ++ Nat.toDigits 16 number

/-- An entry of ASIC_DB, with the attributes read for its key. -/
structure RouteEntry where
  dest : Destination
  switchId : Nat
  vr : Nat
  attrs : Dict Text Text

/-- `ASIC_STATE:SAI_OBJECT_TYPE_ROUTE_ENTRY:` and a JSON object, up to the destination. -/
def keyStart : Text :=
  "ASIC_STATE:SAI_OBJECT_TYPE_ROUTE_ENTRY:\x7b\"dest\":".toList

def switchField : Text :=
  ",\"switch_id\":\"".toList

def vrField : Text :=
  "\",\"vr\":\"".toList

/-- The object from the destination on. -/
def RouteEntry.keyRest (entry : RouteEntry) : Text :=
  switchField ++ oid entry.switchId ++ vrField ++ oid entry.vr ++ ['"', '\x7d']

def RouteEntry.key (entry : RouteEntry) : Text :=
  keyStart ++ '"' :: (entry.dest.text ++ '"' :: entry.keyRest)

/-- The route entries one poll gets to see. -/
abbrev Snapshot := List RouteEntry

def packetAction (attrs : Dict Text Text) : Text :=
  (attrs.lookup "SAI_ROUTE_ENTRY_ATTR_PACKET_ACTION".toList).getD []

def nextHop (attrs : Dict Text Text) : Text :=
  (attrs.lookup "SAI_ROUTE_ENTRY_ATTR_NEXT_HOP_ID".toList).getD "oid:0x0".toList

/-- An action that does not drop, and a next hop. -/
def forwards (attrs : Dict Text Text) : Bool :=
  !contains "DROP".toList (packetAction attrs) &&
    !(nextHop attrs).isEmpty && nextHop attrs != "oid:0x0".toList

/-- The answer, and the snapshots it was given after. -/
def hasRoute (pfx : Text) (polls : List Snapshot) : Bool × List Snapshot :=
  poll (fun objects => objects.any fun k => contains pfx k.key) polls

def routeIsForwarding (pfx : Text) (polls : List Snapshot) : Bool × List Snapshot :=
  poll (fun objects => objects.any fun k => contains pfx k.key && forwards k.attrs) polls

/-! ## What a prefix occurs in -/

theorem notMem_oid (number : Nat) : '/' ∉ oid number := by
  rw [oid, List.mem_append]
  rintro (named | digit)
  · revert named
    decide
  · have plain := isHexDigit_of_mem_toDigits digit
    revert plain
    decide

theorem Destination.notMem_address (dest : Destination) {c : Char}
    (other : c ∉ addressCharacters) : c ∉ dest.address :=
  fun member => other (dest.plain c member)

theorem RouteEntry.notMem_keyRest (entry : RouteEntry) : '/' ∉ entry.keyRest := by
  have switch : '/' ∉ switchField := by decide
  have router : '/' ∉ vrField := by decide
  have closing : '/' ∉ ['"', '\x7d'] := by decide
  simp only [keyRest, List.mem_append, switch, router, closing, notMem_oid, or_self,
    not_false_eq_true]

/-- The key around the slash of the destination. -/
theorem RouteEntry.key_eq (entry : RouteEntry) :
    entry.key = (keyStart ++ '"' :: entry.dest.address) ++ '/' ::
      (decimal entry.dest.length ++ '"' :: entry.keyRest) := by
  simp only [key, Destination.text, List.append_assoc, List.cons_append]

/-- One text of a prefix lies in the other: the address at the end, the length in front. -/
def Resembles (pfx dest : Destination) : Prop :=
  pfx.address <:+ dest.address ∧ decimal pfx.length <+: decimal dest.length

instance (pfx dest : Destination) : Decidable (Resembles pfx dest) :=
  inferInstanceAs (Decidable (_ ∧ _))

theorem slash_notMem_decimal (number : Nat) : '/' ∉ decimal number :=
  notMem_decimal (by decide) number

/-- A prefix occurs in a key where the destination is, if its text is part of that one's. -/
theorem contains_key_iff (pfx : Destination) (entry : RouteEntry) :
    contains pfx.text entry.key = true ↔ Resembles pfx entry.dest := by
  have quote : '"' ∉ pfx.address := pfx.notMem_address (by decide)
  have before : '/' ∉ keyStart ++ '"' :: entry.dest.address := by
    have slash := entry.dest.notMem_address (by decide : '/' ∉ addressCharacters)
    rw [List.mem_append, List.mem_cons, not_or, not_or]
    exact ⟨by decide, by decide, slash⟩
  have after : '/' ∉ decimal entry.dest.length ++ '"' :: entry.keyRest := by
    rw [List.mem_append, List.mem_cons, not_or, not_or]
    exact ⟨slash_notMem_decimal _, by decide, entry.notMem_keyRest⟩
  rw [contains_iff, entry.key_eq, Destination.text, infix_separated_iff
    (pfx.notMem_address (by decide)) (slash_notMem_decimal _) before after,
    suffix_separated_iff quote, prefix_separated_iff (notMem_decimal (by decide) _), Resembles]

/-! ## What the answers mean -/

/-- The snapshot has a route for the prefix. -/
def Present (pfx : Destination) (snapshot : Snapshot) : Prop :=
  ∃ entry ∈ snapshot, entry.dest = pfx

/-- It has one that forwards. -/
def Forwarding (pfx : Destination) (snapshot : Snapshot) : Prop :=
  ∃ entry ∈ snapshot, entry.dest = pfx ∧ forwards entry.attrs = true

structure Exact (pfx : Destination) (polls : List Snapshot) : Prop where
  present : (hasRoute pfx.text polls).1 = true →
    ∃ snapshot ∈ (hasRoute pfx.text polls).2, Present pfx snapshot
  forwarding : (routeIsForwarding pfx.text polls).1 = true →
    ∃ snapshot ∈ (routeIsForwarding pfx.text polls).2, Forwarding pfx snapshot

/-- The first snapshot with a route whose text the prefix is part of has a route for the
prefix, and the first with such a route that forwards has one for the prefix that forwards. -/
structure Unambiguous (pfx : Destination) (polls : List Snapshot) : Prop where
  present : ∀ snapshot,
    polls.find? (fun objects => objects.any fun k => Resembles pfx k.dest) = some snapshot →
    Present pfx snapshot
  forwarding : ∀ snapshot,
    polls.find? (fun objects => objects.any fun k => Resembles pfx k.dest && forwards k.attrs) =
      some snapshot → Forwarding pfx snapshot

theorem resembles_refl (dest : Destination) : Resembles dest dest :=
  ⟨List.suffix_rfl, List.prefix_rfl⟩

theorem contains_key (pfx : Destination) (entry : RouteEntry) :
    contains pfx.text entry.key = decide (Resembles pfx entry.dest) := by
  rw [Bool.eq_iff_iff, contains_key_iff, decide_eq_true_iff]

/-- The answers are about the prefix exactly where no other route is taken for one of it
first. -/
theorem route_checks_exact_iff (pfx : Destination) (polls : List Snapshot) :
    Exact pfx polls ↔ Unambiguous pfx polls := by
  have present := @poll_sound_iff Snapshot
    (fun objects => objects.any fun k => contains pfx.text k.key) polls (Present pfx) (by
      rintro snapshot ⟨entry, member, rfl⟩
      exact List.any_eq_true.mpr ⟨entry, member, (contains_key_iff _ _).mpr (resembles_refl _)⟩)
  have forwarding := @poll_sound_iff Snapshot
    (fun objects => objects.any fun k => contains pfx.text k.key && forwards k.attrs) polls
    (Forwarding pfx) (by
      rintro snapshot ⟨entry, member, rfl, sends⟩
      refine List.any_eq_true.mpr ⟨entry, member, ?_⟩
      rw [(contains_key_iff _ _).mpr (resembles_refl _), sends]
      rfl)
  simp only [contains_key] at present forwarding
  constructor
  · intro exact
    have presentHere := exact.present
    have forwardingHere := exact.forwarding
    simp only [hasRoute, routeIsForwarding, contains_key] at presentHere forwardingHere
    exact ⟨present.mp presentHere, forwarding.mp forwardingHere⟩
  · intro unambiguous
    refine ⟨?_, ?_⟩
    · simp only [hasRoute, contains_key]
      exact present.mpr unambiguous.present
    · simp only [routeIsForwarding, contains_key]
      exact forwarding.mpr unambiguous.forwarding

/-- A route of the default virtual router. -/
def routeTo (dest : Destination) : RouteEntry where
  dest := dest
  switchId := 0x21000000000000
  vr := 0x3000000000022
  attrs := [("SAI_ROUTE_ENTRY_ATTR_NEXT_HOP_ID".toList, "oid:0x4000000000a3b".toList)]

def asked : Destination :=
  ⟨"1.1.1.0".toList, 24, forall_of_all (by decide)⟩

def other : Destination :=
  ⟨"11.1.1.0".toList, 24, forall_of_all (by decide)⟩

/-- Only `11.1.1.0/24` is there, and `1.1.1.0/24` is found. -/
theorem other_route_found :
    ¬ ∀ (pfx : Destination) (polls : List Snapshot), Exact pfx polls := by
  intro exact
  have found : (hasRoute asked.text [[routeTo other]]).1 = true := by decide +kernel
  obtain ⟨snapshot, member, entry, listed, same⟩ :=
    (exact asked [[routeTo other]]).present found
  rw [hasRoute, poll] at member
  split at member
  next =>
      rw [List.mem_singleton.mp member, List.mem_singleton] at listed
      rw [listed] at same
      revert same
      decide
  next missing => exact missing (by decide +kernel)

end OnboxFvt.Verify
