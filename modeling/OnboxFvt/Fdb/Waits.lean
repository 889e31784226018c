import OnboxFvt.Fdb.MacText
import OnboxFvt.Library.Poll

/-!
# Waiting for a static entry

`Cli.fdb_static_add` of `framework/cli.py` and `Hairpin.fdb_to_out` of `topo/hairpin.py`.  Both
look for the address in the keys of all entries, whatever their VLAN.
-/

namespace OnboxFvt.Fdb

open Library Python

/-- What one poll gets to see of ASIC_DB, and which VLAN each VLAN object stands for then. -/
structure AsicSnapshot where
  entries : List FdbEntry
  vlanOf : Nat → Option Nat

/-- `any(up in k.upper() for k in keys)`. -/
def listed (mac : Text) (snapshot : AsicSnapshot) : Bool :=
  snapshot.entries.any fun entry => contains (upper mac) (upper entry.key)

inductive Issued
  | configRaw (cmd : Text)
  | sh (cmd : Text)
  | swssconfig (json : Text)
  deriving DecidableEq

def tableKey (vlan : Nat) (mac : Text) : Text :=
  "FDB_TABLE:Vlan".toList ++ decimal vlan ++ ':' :: mac

/-- The entry to be set, for swssconfig. -/
def setJson (vlan : Nat) (mac port : Text) : Text :=
  "[\x7b\"".toList ++ tableKey vlan mac ++ "\": \x7b\"port\": \"".toList ++ port ++
    "\", \"type\": \"static\"\x7d, \"OP\": \"SET\"\x7d]".toList

structure Added where
  issued : List Issued
  /-- Whether the wait has ended before its deadline, and what was read. -/
  waited : Bool × List AsicSnapshot
  key : Text

/-- `fdb_static_add`; `addRc` is what the product command would return, `polls` is what is read
until the deadline. -/
def fdbStaticAdd (switchportOs : Bool) (addRc : Int) (vlan : Nat) (mac port : Text) (wait : Bool)
    (polls : List AsicSnapshot) : Added :=
  let asked := switchportOs && decide (vlan ≠ 1)
  let usedCli := asked && decide (addRc = 0)
  { issued :=
      (if asked then
        [.configRaw ("mac static add ".toList ++ mac ++ ' ' :: port ++ ' ' :: decimal vlan)]
      else []) ++
      (if usedCli then [] else [.swssconfig (setJson vlan mac port)])
    waited := if wait then poll (listed mac) polls else (false, [])
    key := tableKey vlan mac }

structure ToOut where
  added : Added
  waited : Bool × List AsicSnapshot
  undoFdb : Nat × Text

/-- `Hairpin.fdb_to_out`, which has a wait of twenty rounds of its own. -/
def fdbToOut (switchportOs : Bool) (addRc : Int) (a : Nat) (mac pOut : Text)
    (addPolls polls : List AsicSnapshot) : ToOut where
  added := fdbStaticAdd switchportOs addRc a mac pOut true addPolls
  waited := poll (listed mac) (polls.take 20)
  undoFdb := (a, mac)

/-! ## What the waits stand for -/

/-- There is an entry for the address in the VLAN. -/
def Programmed (vlan : Nat) (mac : MacText) (snapshot : AsicSnapshot) : Prop :=
  ∃ entry ∈ snapshot.entries, snapshot.vlanOf entry.bvid = some vlan ∧ mac.Same entry.mac

/-- A wait that ends early ends in a state that has the entry. -/
def Confirms (vlan : Nat) (mac : MacText) (waited : Bool × List AsicSnapshot) : Prop :=
  waited.1 = true → ∃ snapshot, waited.2.getLast? = some snapshot ∧ Programmed vlan mac snapshot

/-- The first state with an entry for the address in any VLAN has one in this VLAN. -/
def OwnFirst (vlan : Nat) (mac : MacText) (polls : List AsicSnapshot) : Prop :=
  ∀ snapshot, polls.find? (fun snapshot => snapshot.entries.any fun entry => mac.Same entry.mac) =
    some snapshot → Programmed vlan mac snapshot

theorem listed_eq (mac : MacText) : listed mac.text =
    fun snapshot => snapshot.entries.any fun entry => decide (mac.Same entry.mac) := by
  funext snapshot
  rw [listed]
  congr 1
  funext entry
  rw [Bool.eq_iff_iff, FdbEntry.contains_key_iff, decide_eq_true_iff]

theorem confirms_poll_iff (vlan : Nat) (mac : MacText) (polls : List AsicSnapshot) :
    Confirms vlan mac (poll (listed mac.text) polls) ↔ OwnFirst vlan mac polls := by
  rw [listed_eq]
  exact poll_last_iff

/-- The waits confirm the entry exactly where no other VLAN has the address before. -/
theorem static_waits_iff (switchportOs : Bool) (addRc : Int) (vlan : Nat) (mac : MacText)
    (port : Text) (addPolls polls : List AsicSnapshot) :
    (Confirms vlan mac (fdbStaticAdd switchportOs addRc vlan mac.text port true addPolls).waited ↔
      OwnFirst vlan mac addPolls) ∧
    (Confirms vlan mac (fdbToOut switchportOs addRc vlan mac.text port addPolls polls).added.waited ∧
        Confirms vlan mac (fdbToOut switchportOs addRc vlan mac.text port addPolls polls).waited ↔
      OwnFirst vlan mac addPolls ∧ OwnFirst vlan mac (polls.take 20)) :=
  ⟨confirms_poll_iff vlan mac addPolls,
    and_congr (confirms_poll_iff vlan mac addPolls) (confirms_poll_iff vlan mac (polls.take 20))⟩

/-- `00:aa:bb:cc:dd:01`. -/
def smokeDst : MacText where
  octets := [('0', '0'), ('a', 'a'), ('b', 'b'), ('c', 'c'), ('d', 'd'), ('0', '1')]
  six := rfl
  hex := by decide

/-- The address is there in VLAN 20 only. -/
def inOtherVlan : AsicSnapshot where
  entries := [⟨0x26000000000618, smokeDst, 0x21000000000000⟩]
  vlanOf bvid := if bvid = 0x26000000000618 then some 20 else none

/-- The wait for VLAN 10 ends at once. -/
theorem other_vlan_confirms :
    (fdbStaticAdd true 0 10 smokeDst.text "Ethernet8".toList true [inOtherVlan]).waited.1 = true ∧
    ¬ Confirms 10 smokeDst
      (fdbStaticAdd true 0 10 smokeDst.text "Ethernet8".toList true [inOtherVlan]).waited ∧
    ¬ Confirms 10 smokeDst
      (fdbToOut true 0 10 smokeDst.text "Ethernet8".toList [inOtherVlan] [inOtherVlan]).waited := by
  have found : (poll (listed smokeDst.text) [inOtherVlan]).1 = true := by
    rw [fst_poll, listed_eq]
    decide
  have unsound : ¬ Confirms 10 smokeDst (poll (listed smokeDst.text) [inOtherVlan]) := by
    rw [confirms_poll_iff]
    intro first
    obtain ⟨entry, member, vlan, -⟩ := first inOtherVlan rfl
    rw [List.mem_singleton.mp member] at vlan
    revert vlan
    decide
  exact ⟨found, unsound, unsound⟩

end OnboxFvt.Fdb
