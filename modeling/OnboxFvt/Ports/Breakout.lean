import OnboxFvt.Library.Collect
import OnboxFvt.Library.Slice
import OnboxFvt.Python.Decimal

/-!
# Subports of a breakout

`parse_mode` and `expect_subports` of `framework/breakout.py`.  Every subport gets as many
lanes as the division leaves it, so the lanes are shared out completely only where the
division is exact.
-/

namespace OnboxFvt.Ports

open Library Python

structure Subport where
  name : Text
  lanes : List Int
  speed : Text
  deriving DecidableEq

/-- The digits `^(\d+)x(\d+G)` matches at the front of `text`, and what follows them. -/
def leadingDigits? (text : Text) : Option (Text × Text) :=
  let digits := text.takeWhile isDecimal
  if digits.isEmpty then none else some (digits, text.dropWhile isDecimal)

/-- `none` is the `ValueError`. -/
def parseMode (mode : Text) : Option (Nat × Text) :=
  (leadingDigits? mode).bind fun (count, rest) =>
    match rest with
    | 'x' :: rest =>
        (leadingDigits? rest).bind fun (speed, rest) =>
          match rest with
          | 'G' :: _ => (readNat? count).map fun n => (n, speed ++ ['G'])
          | _ => none
    | _ => none

/-- What `(\d+)$` matches; the end may be in front of a last line feed. -/
def parentDigits (text : Text) : Text :=
  let line := if text.getLast? = some '\n' then text.dropLast else text
  (line.reverse.takeWhile isDecimal).reverse

def parseLanes (parentLanes : Text) : Option (List Int) :=
  collect? int? ((splitOn ',' parentLanes).filter fun x => !(strip x).isEmpty)

def subportName (index : Nat) : Text :=
  "Ethernet".toList ++ decimal index

/-- `none` is an exception: the mode or the lanes cannot be read, the parent has no number,
or the count is zero. -/
def expectSubports (parent parentLanes mode : Text) : Option (List Subport) :=
  (parseMode mode).bind fun (n, spd) =>
    (parseLanes parentLanes).bind fun lanes =>
      if n = 0 then none
      else
        let per := lanes.length / n
        (readNat? (parentDigits parent)).bind fun base =>
          (readNat? spd.dropLast).map fun speed =>
            (List.range n).map fun i =>
              { name := subportName (base + i * per)
                lanes := slice (i * per) ((i + 1) * per) lanes
                speed := decimal (speed * 1000) }

/-! ## Sharing out the lanes -/

/-- Each name is the number of the parent and the index its first lane has there. -/
def NamedFrom (base : Nat) : Nat → List Subport → Prop
  | _, [] => True
  | index, subport :: rest =>
      subport.name = subportName (base + index) ∧
        NamedFrom base (index + subport.lanes.length) rest

structure Partitions (base : Nat) (lanes : List Int) (subports : List Subport) : Prop where
  nonempty : ∀ subport ∈ subports, subport.lanes ≠ []
  concatenated : (subports.map Subport.lanes).flatten = lanes
  distinct : (subports.map Subport.name).Nodup
  named : NamedFrom base 0 subports

theorem subportName_injective : Function.Injective subportName := by
  intro first second equal
  exact decimal_injective (List.append_cancel_left equal)

section Shares

variable (base : Nat) (speed : Text) (lanes : List Int) (per : Nat)

/-- The round of the loop for one index. -/
def share (i : Nat) : Subport where
  name := subportName (base + i * per)
  lanes := slice (i * per) ((i + 1) * per) lanes
  speed := speed

variable {lanes per}

theorem length_share {i : Nat} (fits : (i + 1) * per ≤ lanes.length) :
    (share base speed lanes per i).lanes.length = per := by
  rw [share, length_slice fits, Nat.succ_mul, Nat.add_sub_cancel_left]

theorem namedFrom_shares {count first : Nat} (fits : (first + count) * per ≤ lanes.length) :
    NamedFrom base (first * per) ((List.range' first count).map (share base speed lanes per)) := by
  induction count generalizing first with
  | zero => trivial
  | succ count inductionHypothesis =>
      have here : (first + 1) * per ≤ lanes.length :=
        (Nat.mul_le_mul_right per (by omega)).trans fits
      have later : (first + 1 + count) * per ≤ lanes.length := by
        rwa [Nat.add_assoc, Nat.add_comm 1 count]
      refine ⟨rfl, ?_⟩
      rw [length_share base speed here, ← Nat.succ_mul]
      exact inductionHypothesis later

theorem partitions_shares {n : Nat} (some : 0 < lanes.length) (exact : n * per = lanes.length) :
    Partitions base lanes ((List.range n).map (share base speed lanes per)) where
  nonempty := by
    rintro _ member
    obtain ⟨i, inside, rfl⟩ := List.mem_map.mp member
    have fits : (i + 1) * per ≤ lanes.length := by
      rw [← exact]
      exact Nat.mul_le_mul_right per (List.mem_range.mp inside)
    have positive : per ≠ 0 := by
      rintro rfl
      omega
    intro empty
    have length := length_share base speed fits
    rw [empty] at length
    exact positive length.symm
  concatenated := by
    rw [List.map_map]
    exact (flatten_slices per lanes n).trans (List.take_of_length_le (Nat.le_of_eq exact.symm))
  distinct := by
    have positive : 0 < per := by
      apply Nat.pos_of_ne_zero
      rintro rfl
      omega
    rw [List.map_map]
    refine List.nodup_range.map ?_
    intro first second equal
    have offsets := Nat.add_left_cancel (subportName_injective equal)
    exact Nat.eq_of_mul_eq_mul_right positive offsets
  named := by
    have named := @namedFrom_shares base speed lanes per n 0 (by rw [Nat.zero_add, exact])
    rwa [Nat.zero_mul, ← List.range_eq_range'] at named

end Shares

/-- What the function returns when it returns. -/
theorem expectSubports_eq {parent parentLanes mode spd : Text} {n : Nat} {lanes : List Int}
    {subports : List Subport} (counted : parseMode mode = some (n, spd))
    (read : parseLanes parentLanes = some lanes)
    (accepted : expectSubports parent parentLanes mode = some subports) :
    ∃ base speed, readNat? (parentDigits parent) = some base ∧ n ≠ 0 ∧
      subports = (List.range n).map (share base speed lanes (lanes.length / n)) := by
  simp only [expectSubports, counted, read, Option.bind_some] at accepted
  split at accepted
  next => cases accepted
  next positive =>
      obtain ⟨base, numbered, accepted⟩ := Option.bind_eq_some_iff.mp accepted
      obtain ⟨speed, _, equal⟩ := Option.map_eq_some_iff.mp accepted
      exact ⟨base, _, numbered, positive, equal.symm⟩

/-- The subports share out the lanes exactly where their count divides that of the lanes. -/
theorem expect_subports_partition {parent parentLanes mode : Text} {lanes : List Int}
    {subports : List Subport} (read : parseLanes parentLanes = some lanes)
    (nonempty : lanes ≠ []) (accepted : expectSubports parent parentLanes mode = some subports) :
    (∃ base, readNat? (parentDigits parent) = some base ∧ Partitions base lanes subports) ↔
      ∃ n spd, parseMode mode = some (n, spd) ∧ n ∣ lanes.length := by
  have counted : ∃ n spd, parseMode mode = some (n, spd) := by
    obtain ⟨⟨n, spd⟩, counted, _⟩ := Option.bind_eq_some_iff.mp accepted
    exact ⟨n, spd, counted⟩
  obtain ⟨n, spd, counted⟩ := counted
  obtain ⟨base, speed, numbered, positive, rfl⟩ := expectSubports_eq counted read accepted
  constructor
  · rintro ⟨_, _, partitions⟩
    refine ⟨n, spd, counted, ?_⟩
    have taken : lanes.take (n * (lanes.length / n)) = lanes := by
      have concatenated := partitions.concatenated
      rw [List.map_map] at concatenated
      exact (flatten_slices (lanes.length / n) lanes n).symm.trans concatenated
    have covered : lanes.length ≤ n * (lanes.length / n) := by
      have length := congrArg List.length taken
      rw [List.length_take] at length
      omega
    have division := Nat.div_add_mod lanes.length n
    exact Nat.dvd_of_mod_eq_zero (by omega)
  · rintro ⟨m, spd', counted', divides⟩
    cases counted.symm.trans counted'
    exact ⟨base, numbered, partitions_shares base speed (List.length_pos_of_ne_nil nonempty)
      (Nat.mul_div_cancel' divides)⟩

/-- A cage of eight lanes. -/
def cage : Text :=
  "73,74,75,76,77,78,79,80".toList

theorem expect_subports_four_of_eight :
    ∃ base, readNat? (parentDigits "Ethernet88".toList) = some base ∧
      Partitions base [73, 74, 75, 76, 77, 78, 79, 80]
        [⟨"Ethernet88".toList, [73, 74], "200000".toList⟩,
          ⟨"Ethernet90".toList, [75, 76], "200000".toList⟩,
          ⟨"Ethernet92".toList, [77, 78], "200000".toList⟩,
          ⟨"Ethernet94".toList, [79, 80], "200000".toList⟩] :=
  (@expect_subports_partition "Ethernet88".toList cage "4x200G[100G]".toList _ _
    (by decide) (by decide) (by decide +kernel)).mpr ⟨4, "200G".toList, by decide, by decide⟩

/-- Three subports of eight lanes leave two lanes out. -/
theorem three_of_eight_lose_lanes :
    ¬ ∀ (parent parentLanes mode : Text) (lanes : List Int) (subports : List Subport),
      parseLanes parentLanes = some lanes → lanes ≠ [] →
      expectSubports parent parentLanes mode = some subports →
      ∃ base, readNat? (parentDigits parent) = some base ∧ Partitions base lanes subports := by
  intro partitions
  obtain ⟨base, _, shared⟩ := partitions "Ethernet88".toList cage "3x100G".toList
    [73, 74, 75, 76, 77, 78, 79, 80]
    [⟨"Ethernet88".toList, [73, 74], "100000".toList⟩,
      ⟨"Ethernet90".toList, [75, 76], "100000".toList⟩,
      ⟨"Ethernet92".toList, [77, 78], "100000".toList⟩]
    (by decide) (by decide) (by decide +kernel)
  have lost := shared.concatenated
  revert lost
  decide

end OnboxFvt.Ports
