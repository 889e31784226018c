import OnboxFvt.Library.Wire
import OnboxFvt.Python.TextFacts
import OnboxFvt.Worker.Addresses

/-!
# Separation of the worker addresses

The offset of `remap_ip4` folds back at the end of the octet: an octet that 100 a
worker would carry beyond 255 is moved down instead.  For worker 2 the result is
always an octet, and two octets meet only when they are 200 apart; from worker 3 on
the octets in the middle leave 0..255.
-/

namespace OnboxFvt.Worker

open Python
open Library (collect?)

/-! ## Addresses -/

structure Quad where
  first : Fin 256
  second : Fin 256
  third : Fin 256
  fourth : Fin 256
  deriving DecidableEq

/-- An IPv4 address, with a prefix length or without. -/
structure Address where
  quad : Quad
  plen : Option (Fin 33)
  deriving DecidableEq

def Address.tail (address : Address) : Text :=
  match address.plen with
  | none => []
  | some plen => '/' :: decimal plen

/-- The text of an address whose second octet is replaced. -/
def Address.withSecond (address : Address) (octet : Int) : Text :=
  ['.'].intercalate [decimal address.quad.first, integer octet, decimal address.quad.third,
    decimal address.quad.fourth] ++ address.tail

def Address.text (address : Address) : Text :=
  address.withSecond address.quad.second

/-- The address is in 10.0.0.0/8. -/
def Address.InTen (address : Address) : Prop :=
  address.quad.first = 10

/-! ## The folded offset -/

def fold (amount octet : Int) : Int :=
  if octet + amount > 255 then octet - amount else octet + amount

theorem fold_ne {amount : Int} (positive : 0 < amount) (octet : Int) :
    fold amount octet ≠ octet := by
  unfold fold
  split <;> omega

theorem fold_inRange_iff {amount octet : Int} (positive : 0 < amount) (low : 0 ≤ octet)
    (high : octet ≤ 255) :
    (0 ≤ fold amount octet ∧ fold amount octet ≤ 255) ↔
      octet + amount ≤ 255 ∨ amount ≤ octet := by
  unfold fold
  split <;> omega

/-- An offset of at least 86 folds no octet onto one that is not twice the offset away. -/
theorem fold_eq_iff {amount first second : Int} (large : 86 ≤ amount)
    (low : 0 ≤ first ∧ first ≤ 255) (high : 0 ≤ second ∧ second ≤ 255) :
    fold amount first = fold amount second ↔
      first = second ∨ second = first + 2 * amount ∨ first = second + 2 * amount := by
  unfold fold
  split <;> split <;> omega

theorem fold_ne_fold {amount amount' : Int} (least : 0 ≤ amount) (less : amount < amount')
    (octet : Int) : fold amount octet ≠ fold amount' octet := by
  unfold fold
  split <;> split <;> omega

/-! ## The text of an address -/

theorem Address.dot_notMem_tail (address : Address) : '.' ∉ address.tail := by
  unfold Address.tail
  split
  · exact List.not_mem_nil
  · apply List.not_mem_cons_of_ne_of_not_mem (by decide)
    exact notMem_integer rfl (by decide) (Int.ofNat _)

theorem Address.tail_takeWhile (address : Address) :
    address.tail.takeWhile Char.isDigit = [] := by
  unfold Address.tail
  split <;> rfl

theorem Address.splitOn_withSecond (address : Address) (octet : Int) :
    splitOn '.' (address.withSecond octet) =
      [decimal address.quad.first, integer octet, decimal address.quad.third,
        decimal address.quad.fourth ++ address.tail] := by
  have joined : address.withSecond octet =
      ['.'].intercalate [decimal address.quad.first, integer octet, decimal address.quad.third,
        decimal address.quad.fourth ++ address.tail] := by
    simp [Address.withSecond, List.intercalate]
  have dotless : ∀ number : Nat, '.' ∉ decimal number :=
    fun number => notMem_integer rfl (by decide) (Int.ofNat number)
  rw [joined]
  apply List.splitOn_intercalate
  · intro part member
    simp only [List.mem_cons, List.not_mem_nil, or_false] at member
    rcases member with rfl | rfl | rfl | rfl
    · exact dotless _
    · exact notMem_integer rfl (by decide) octet
    · exact dotless _
    · exact List.not_mem_append (dotless _) address.dot_notMem_tail
  · exact List.cons_ne_nil _ _

theorem Address.tail_injective {first second : Address} (equal : first.tail = second.tail) :
    first.plen = second.plen := by
  unfold Address.tail at equal
  split at equal
  · next absent =>
      split at equal
      · next absent' => rw [absent, absent']
      · cases equal
  · next plen present =>
      split at equal
      · cases equal
      · next plen' present' =>
          have lengths := decimal_injective (List.cons.inj equal).2
          rw [present, present', Fin.ext lengths]

theorem Address.withSecond_inj {first second : Address} {octet octet' : Int}
    (equal : first.withSecond octet = second.withSecond octet') :
    octet = octet' ∧ first.quad.first = second.quad.first ∧
      first.quad.third = second.quad.third ∧ first.quad.fourth = second.quad.fourth ∧
      first.plen = second.plen := by
  have parts := congrArg (splitOn '.') equal
  rw [first.splitOn_withSecond, second.splitOn_withSecond] at parts
  simp only [List.cons.injEq, and_true] at parts
  obtain ⟨firsts, octets, thirds, fourths⟩ := parts
  have last := decimal_append_inj first.tail_takeWhile second.tail_takeWhile fourths
  exact ⟨integer_injective octets, Fin.ext (decimal_injective firsts),
    Fin.ext (decimal_injective thirds), Fin.ext last.1, Address.tail_injective last.2⟩

theorem Address.text_injective : Function.Injective Address.text := by
  intro first second equal
  obtain ⟨seconds, firsts, thirds, fourths, lengths⟩ := Address.withSecond_inj equal
  have seconds' : first.quad.second = second.quad.second := by
    apply Fin.ext
    omega
  obtain ⟨⟨_, _, _, _⟩, _⟩ := first
  obtain ⟨⟨_, _, _, _⟩, _⟩ := second
  simp_all


/-! ## Remapping -/

/-- Whatever stands after the last slash is kept. -/
theorem remapCidr_append {w : Int} (remapped : 1 < w) (addr : Text) {plen : Text}
    (last : '/' ∉ plen) :
    remapCidr w (addr ++ '/' :: plen) = (remapAddress w addr).map (· ++ '/' :: plen) := by
  rw [remapCidr, if_neg, cutLast?_append addr last]
  simp [remapped]

theorem remapCidr_of_le_one {w : Int} (serial : w ≤ 1) (cidr : Text) :
    remapCidr w cidr = some cidr := by
  rw [remapCidr, if_pos (.inl serial)]

namespace Address

/-- An address with its prefix length left out. -/
def bare (address : Address) : Address :=
  { address with plen := none }

theorem notMem_bare {c : Char} (notDigit : c.isDigit = false) (notSign : c ≠ '-')
    (notDot : c ≠ '.') (address : Address) (octet : Int) : c ∉ address.bare.withSecond octet := by
  have numbers : ∀ number : Nat, c ∉ decimal number :=
    fun number => notMem_integer notDigit notSign (Int.ofNat number)
  have octets := notMem_integer notDigit notSign octet
  simp [withSecond, bare, tail, List.intercalate, numbers, octets, notDot]

theorem withSecond_eq_append (address : Address) (octet : Int) :
    address.withSecond octet = address.bare.withSecond octet ++ address.tail := by
  simp [withSecond, bare, tail]

theorem bare_text_ne_nil (address : Address) : address.bare.text ≠ [] := by
  intro empty
  have parts := splitOn_withSecond address.bare address.quad.second
  rw [show address.bare.withSecond address.quad.second = [] from empty] at parts
  exact absurd (congrArg List.length parts) (by simp [splitOn])

theorem remapIp4_bare {address : Address} (ten : address.InTen) {w : Int} (remapped : 1 < w) :
    remapIp4 w address.bare.text =
      some (address.bare.withSecond (fold (100 * (w - 1)) address.quad.second)) := by
  have colonless : ':' ∉ address.bare.text := notMem_bare rfl (by decide) (by decide) address _
  have nonempty := address.bare_text_ne_nil
  have first : decimal address.quad.first = "10".toList := by
    rw [show address.quad.first = 10 from ten]
    rfl
  rw [remapIp4, if_neg (by simp [colonless, nonempty, remapped])]
  have parts := splitOn_withSecond address.bare address.quad.second
  rw [show splitOn '.' address.bare.text = _ from parts]
  change (if decimal address.quad.first ≠ "10".toList then _ else
    (int? (decimal address.quad.second)).map _) = _
  rw [if_neg (not_not_intro first), int?_decimal, Option.map_some]
  simp [withSecond, fold, bare, tail]

/-- The offset of worker 1 is 0. -/
theorem remapCidr_text {address : Address} (ten : address.InTen) {w : Int} (worker : 1 ≤ w) :
    remapCidr w address.text =
      some (address.withSecond (fold (100 * (w - 1)) address.quad.second)) := by
  by_cases serial : w ≤ 1
  · have first : w = 1 := by omega
    have kept : fold (100 * (w - 1)) address.quad.second = address.quad.second := by
      unfold fold
      split <;> omega
    rw [remapCidr_of_le_one serial, kept, text]
  · have remapped : 1 < w := by omega
    have colonless : ':' ∉ address.bare.text := notMem_bare rfl (by decide) (by decide) address _
    have direct : remapAddress w address.bare.text =
        some (address.bare.withSecond (fold (100 * (w - 1)) address.quad.second)) := by
      rw [remapAddress, if_neg colonless, remapIp4_bare ten remapped]
    rw [withSecond_eq_append, text, withSecond_eq_append]
    cases present : address.plen with
    | none =>
        have slashless : '/' ∉ address.bare.text :=
          notMem_bare rfl (by decide) (by decide) address _
        have whole : address.tail = [] := by rw [tail, present]
        rw [whole, List.append_nil, List.append_nil]
        change remapCidr w address.bare.text = _
        rw [remapCidr, if_neg (not_or.mpr ⟨serial, address.bare_text_ne_nil⟩),
          cutLast?_of_notMem slashless]
        exact direct
    | some plen =>
        have whole : address.tail = '/' :: decimal plen := by rw [tail, present]
        have last : '/' ∉ decimal plen := notMem_integer rfl (by decide) (Int.ofNat plen)
        rw [whole, remapCidr_append remapped _ last]
        change (remapAddress w address.bare.text).map _ = _
        rw [direct, Option.map_some]

/-- What `remap_ip4` makes of an address is one exactly outside the middle of the octet. -/
theorem remapCidr_octet_iff {address : Address} (ten : address.InTen) {w : Int}
    (remapped : 2 ≤ w) :
    (∃ image : Address, image.InTen ∧ image.plen = address.plen ∧
        remapCidr w address.text = some image.text) ↔
      address.quad.second + 100 * (w - 1) ≤ 255 ∨
        100 * (w - 1) ≤ address.quad.second := by
  have positive : 0 < 100 * (w - 1) := by omega
  have high : (address.quad.second : Int) ≤ 255 := by omega
  rw [← fold_inRange_iff positive (Int.natCast_nonneg _) high,
    remapCidr_text ten (show 1 ≤ w by omega)]
  constructor
  · rintro ⟨image, _, _, equal⟩
    obtain ⟨octets, _⟩ := withSecond_inj (Option.some.inj equal)
    omega
  · rintro ⟨least, most⟩
    obtain ⟨octet, equal⟩ := Int.eq_ofNat_of_zero_le least
    refine ⟨⟨{ address.quad with second := ⟨octet, by omega⟩ }, address.plen⟩, ten, rfl, ?_⟩
    rw [equal]
    rfl

theorem remapCidr_ne {address : Address} (ten : address.InTen) {w : Int} (remapped : 2 ≤ w) :
    remapCidr w address.text ≠ some address.text := by
  intro same
  rw [remapCidr_text ten (show 1 ≤ w by omega)] at same
  obtain ⟨octets, _⟩ := withSecond_inj (Option.some.inj same)
  exact fold_ne (by omega) _ octets

/-- Two addresses meet exactly when they differ in the second octet only, by 200 a worker. -/
theorem remapCidr_eq_iff {first second : Address} (ten : first.InTen) (ten' : second.InTen)
    {w : Int} (remapped : 2 ≤ w) :
    remapCidr w first.text = remapCidr w second.text ↔
      (first.quad.third = second.quad.third ∧ first.quad.fourth = second.quad.fourth ∧
        first.plen = second.plen) ∧
      ((first.quad.second : Int) = second.quad.second ∨
        (second.quad.second : Int) = first.quad.second + 200 * (w - 1) ∨
        (first.quad.second : Int) = second.quad.second + 200 * (w - 1)) := by
  have large : 86 ≤ 100 * (w - 1) := by omega
  have meet := @fold_eq_iff (100 * (w - 1)) first.quad.second second.quad.second large
    (by omega) (by omega)
  rw [remapCidr_text ten (show 1 ≤ w by omega), remapCidr_text ten' (show 1 ≤ w by omega)]
  constructor
  · intro equal
    obtain ⟨octets, _, rest⟩ := withSecond_inj (Option.some.inj equal)
    refine ⟨rest, ?_⟩
    have apart := meet.mp octets
    omega
  · rintro ⟨⟨thirds, fourths, lengths⟩, seconds⟩
    have octets := meet.mpr (by omega)
    rw [octets]
    simp only [withSecond, tail, thirds, fourths, lengths, show first.quad.first = 10 from ten,
      show second.quad.first = 10 from ten']

theorem remapCidr_workers_ne {address : Address} (ten : address.InTen) {w w' : Int}
    (worker : 1 ≤ w) (worker' : 1 ≤ w') (distinct : w ≠ w') :
    remapCidr w address.text ≠ remapCidr w' address.text := by
  intro same
  rw [remapCidr_text ten worker, remapCidr_text ten worker'] at same
  obtain ⟨octets, _⟩ := withSecond_inj (Option.some.inj same)
  rcases Int.lt_or_gt_of_ne distinct with less | less
  · exact fold_ne_fold (by omega) (by omega) _ octets
  · exact fold_ne_fold (by omega) (by omega) _ octets.symm

end Address

end OnboxFvt.Worker
