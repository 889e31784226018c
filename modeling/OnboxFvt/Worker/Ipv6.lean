import OnboxFvt.Python.TextFacts
import OnboxFvt.Worker.Addresses

/-!
# Documentation addresses of the workers

`remap_ip6` edits the text of the third group of an address.  What the texts mean is read here
the way an address parser reads them: eight groups of up to four hexadecimals, of which one run
may be left out for `::`, the last two perhaps as a dotted quad.
-/

namespace OnboxFvt.Worker

open Python
open Library (collect?)

/-! ## The texts of an address -/

def hextet? (part : Text) : Option Nat :=
  if part ≠ [] ∧ part.length ≤ 4 ∧ part.all isHexDigit = true then some (hexNumber part) else none

def quadOctet? (part : Text) : Option Nat :=
  if part ≠ [] ∧ part.length ≤ 3 ∧ part.all Char.isDigit = true ∧
      (part.head? = some '0' → part.length = 1) ∧ Nat.ofDigitChars 10 part 0 ≤ 255 then
    some (Nat.ofDigitChars 10 part 0)
  else none

/-- The dotted quad, as two groups. -/
def quadGroups? (part : Text) : Option (List Nat) :=
  match collect? quadOctet? (splitOn '.' part) with
  | some [first, second, third, fourth] => some [256 * first + second, 256 * third + fourth]
  | _ => none

def lastGroups? (part : Text) : Option (List Nat) :=
  match hextet? part with
  | some group => some [group]
  | none => quadGroups? part

def lowGroups? : List Text → Option (List Nat)
  | [] => none
  | [part] => lastGroups? part
  | part :: rest => (hextet? part).bind fun group =>
      (lowGroups? rest).map fun groups => group :: groups

/-- The groups after `::`, of which there may be none. -/
def low? (back : List Text) : Option (List Nat) :=
  if back = [[]] then some [] else lowGroups? back

def spread (high low : List Nat) : Option (List Nat) :=
  if high.length + low.length ≤ 7 then
    some (high ++ List.replicate (8 - (high.length + low.length)) 0 ++ low)
  else none

/-- The groups up to the end or to `::`, `high` being those before. -/
def groupsFrom? (high : List Nat) : List Text → Option (List Nat)
  | [] => none
  | [] :: back => (low? back).bind (spread high)
  | [part] =>
      (lastGroups? part).bind fun last =>
        if high.length + last.length = 8 then some (high ++ last) else none
  | part :: rest => (hextet? part).bind fun group => groupsFrom? (high ++ [group]) rest

def groups? : List Text → Option (List Nat)
  | [] :: [] :: back => (low? back).bind (spread [])
  | [] :: _ => none
  | parts => groupsFrom? [] parts

/-- The eight groups of a text that is an IPv6 address. -/
def ipv6? (ip : Text) : Option (List Nat) :=
  groups? (splitOn ':' ip)

/-! ## Reading the groups -/

theorem hextet?_digits {part : Text} {group : Nat} (read : hextet? part = some group) :
    part ≠ [] ∧ (∀ c ∈ part, isHexDigit c = true) ∧ hexNumber part = group := by
  unfold hextet? at read
  split at read
  next digits =>
    cases read
    exact ⟨digits.1, List.all_eq_true.mp digits.2.2, rfl⟩
  next => cases read

@[simp]
theorem hextet?_nil : hextet? [] = none :=
  rfl

section Groups

variable {high : List Nat} {part : Text} {rest : List Text}

theorem groupsFrom?_gap (high : List Nat) (back : List Text) :
    groupsFrom? high ([] :: back) = (low? back).bind (spread high) := by
  rw [groupsFrom?]

theorem groupsFrom?_last (high : List Nat) (something : part ≠ []) :
    groupsFrom? high [part] = (lastGroups? part).bind fun last =>
      if high.length + last.length = 8 then some (high ++ last) else none := by
  rw [groupsFrom?]
  exact something

theorem groupsFrom?_cons (high : List Nat) (something : part ≠ []) (more : rest ≠ []) :
    groupsFrom? high (part :: rest) =
      (hextet? part).bind fun group => groupsFrom? (high ++ [group]) rest := by
  rw [groupsFrom?]
  · exact something
  · intro last
    exact absurd last more

theorem length_lastGroups? {last : List Nat} (read : lastGroups? part = some last) :
    last.length ≤ 2 := by
  unfold lastGroups? at read
  split at read
  · cases read
    exact Nat.le_succ 1
  · unfold quadGroups? at read
    split at read
    · cases read
      exact Nat.le_refl 2
    · cases read

/-- What comes after the first groups does not depend on their values. -/
theorem groupsFrom?_same_length {groups : List Nat} {parts : List Text}
    (read : groupsFrom? high parts = some groups) :
    ∃ low, groups = high ++ low ∧ ∀ other : List Nat, other.length = high.length →
      groupsFrom? other parts = some (other ++ low) := by
  induction parts generalizing high with
  | nil => cases read
  | cons part rest inductionHypothesis =>
      by_cases gap : part = []
      · subst gap
        rw [groupsFrom?_gap] at read
        obtain ⟨low, after, spreads⟩ := Option.bind_eq_some_iff.mp read
        unfold spread at spreads
        split at spreads
        next few =>
          cases spreads
          refine ⟨_, List.append_assoc _ _ _, fun other same => ?_⟩
          rw [groupsFrom?_gap, after, Option.bind_some, spread, same, if_pos few,
            List.append_assoc]
        next => cases spreads
      · by_cases final : rest = []
        · subst final
          rw [groupsFrom?_last high gap] at read
          obtain ⟨last, ends, whole⟩ := Option.bind_eq_some_iff.mp read
          split at whole
          next eight =>
            cases whole
            refine ⟨last, rfl, fun other same => ?_⟩
            rw [groupsFrom?_last other gap, ends, Option.bind_some, same, if_pos eight]
          next => cases whole
        · rw [groupsFrom?_cons high gap final] at read
          obtain ⟨group, here, continued⟩ := Option.bind_eq_some_iff.mp read
          obtain ⟨low, split, others⟩ := inductionHypothesis continued
          refine ⟨group :: low, by rw [split, List.append_assoc, List.singleton_append], ?_⟩
          intro other same
          rw [groupsFrom?_cons other gap final, here, Option.bind_some,
            others (other ++ [group]) (by rw [List.length_append, List.length_append, same]),
            List.append_assoc, List.singleton_append]

theorem groupsFrom?_short (something : part ≠ []) (few : high.length ≤ 5) :
    groupsFrom? high [part] = none := by
  rw [groupsFrom?_last high something, Option.bind_eq_none_iff]
  intro last read
  have short := length_lastGroups? read
  exact if_neg (by omega)

/-- With a gap after the first group or before it, the second group is zero. -/
theorem spread_second {low groups : List Nat} {first second : Nat}
    (spreads : spread high low = some (first :: second :: groups)) (few : high.length ≤ 1) :
    first = 0 ∨ second = 0 := by
  unfold spread at spreads
  split at spreads
  next small =>
    have equal := Option.some.inj spreads
    match high, few with
    | [], _ =>
        obtain ⟨count, zeros⟩ : ∃ count, 8 - (0 + low.length) = count + 1 :=
          ⟨7 - low.length, by simp only [List.length_nil] at small; omega⟩
        rw [List.length_nil, zeros, List.replicate_succ] at equal
        exact Or.inl (List.cons.inj equal).1.symm
    | [head], _ =>
        obtain ⟨count, zeros⟩ : ∃ count, 8 - (1 + low.length) = count + 1 :=
          ⟨6 - low.length, by simp only [List.length_singleton] at small; omega⟩
        rw [List.length_singleton, zeros, List.replicate_succ] at equal
        exact Or.inr (List.cons.inj (List.cons.inj equal).2).1.symm
  next => cases spreads

/-- A gap so early leaves no documentation address. -/
theorem not_docs_of_gap {back : List Text} {tail : List Nat} (few : high.length ≤ 1) :
    (low? back).bind (spread high) ≠ some (0x2001 :: 0xdb8 :: tail) := by
  intro read
  obtain ⟨low, _, spreads⟩ := Option.bind_eq_some_iff.mp read
  rcases spread_second spreads few with zero | zero <;> cases zero

/-- The texts of documentation addresses: two groups, a third part, and more; if the third part
is no gap, it can be replaced by any other group. -/
theorem groups?_docs {parts : List Text} {tail : List Nat}
    (read : groups? parts = some (0x2001 :: 0xdb8 :: tail)) :
    ∃ p0 p1 p2 rest, parts = p0 :: p1 :: p2 :: rest ∧
      (p2 ≠ [] → ∃ third low, hextet? p2 = some third ∧ tail = third :: low ∧
        ∀ part, part ≠ [] → groups? (p0 :: p1 :: part :: rest) =
          (hextet? part).map fun third => 0x2001 :: 0xdb8 :: third :: low) := by
  match parts with
  | [] => cases read
  | [] :: [] :: back => exact absurd read (not_docs_of_gap (by simp))
  | [[]] => cases read
  | [] :: (_ :: _) :: _ => cases read
  | (c :: p0) :: rest0 =>
      have first : c :: p0 ≠ [] := List.cons_ne_nil c p0
      have whole : ∀ rest, groups? ((c :: p0) :: rest) = groupsFrom? [] ((c :: p0) :: rest) :=
        fun rest => rfl
      rw [whole] at read
      match rest0 with
      | [] =>
          rw [@groupsFrom?_short [] _ first (by simp)] at read
          cases read
      | p1 :: rest1 =>
          rw [groupsFrom?_cons [] first (List.cons_ne_nil _ _)] at read
          obtain ⟨h0, here0, read⟩ := Option.bind_eq_some_iff.mp read
          by_cases gap : p1 = []
          · rw [gap, groupsFrom?_gap] at read
            exact absurd read (not_docs_of_gap (by simp))
          · match rest1 with
            | [] =>
                rw [groupsFrom?_short gap (by simp)] at read
                cases read
            | p2 :: rest =>
                rw [groupsFrom?_cons _ gap (List.cons_ne_nil _ _)] at read
                obtain ⟨h1, here1, read⟩ := Option.bind_eq_some_iff.mp read
                refine ⟨c :: p0, p1, p2, rest, rfl, fun something => ?_⟩
                by_cases final : rest = []
                · rw [final, groupsFrom?_short something (by simp)] at read
                  cases read
                · rw [groupsFrom?_cons _ something final] at read
                  obtain ⟨third, here2, read⟩ := Option.bind_eq_some_iff.mp read
                  obtain ⟨low, split, others⟩ := groupsFrom?_same_length read
                  simp only [List.nil_append, List.cons_append, List.cons.injEq] at split
                  obtain ⟨rfl, rfl, split⟩ := split
                  refine ⟨third, low, here2, split, fun part other => ?_⟩
                  rw [whole, groupsFrom?_cons [] first (List.cons_ne_nil _ _), here0,
                    Option.bind_some, groupsFrom?_cons _ gap (List.cons_ne_nil _ _), here1,
                    Option.bind_some, groupsFrom?_cons _ other final]
                  cases hextet? part with
                  | none => rfl
                  | some group => exact others _ rfl

end Groups

/-! ## The remapped text -/

/-- The group a number is written as, if it is one. -/
theorem hextet?_hexadecimal (number : Nat) :
    hextet? (hexadecimal number) = if number ≤ 0xffff then some number else none := by
  have digits : (hexadecimal number).all isHexDigit = true :=
    List.all_eq_true.mpr fun c => isHexDigit_of_mem_toDigits
  have short : (hexadecimal number).length ≤ 4 ↔ number < 16 ^ 4 :=
    Nat.length_toDigits_le_iff (by decide) (by decide)
  have value : hexNumber (hexadecimal number) = number := hexNumber_toDigits number
  unfold hextet?
  rw [value]
  by_cases small : number ≤ 0xffff
  · rw [if_pos ⟨Nat.toDigits_ne_nil, short.mpr (by omega), digits⟩, if_pos small]
  · rw [if_neg small, if_neg]
    rintro ⟨_, few, _⟩
    exact small (by have := short.mp few; omega)

def thirdPart (ip : Text) : Text :=
  (splitOn ':' ip).getD 2 []

/-- The first two groups are written without padding, and no gap follows. -/
def Spelled (ip : Text) : Prop :=
  startsWith "2001:db8:".toList (lower ip) = true ∧ thirdPart ip ≠ []

/-- What worker `w` adds to the third group. -/
def offset (w : Int) : Nat :=
  0x100 * (w - 1).toNat

/-- The text is one `remap_ip6` edits, and the sum is still a group. -/
def Shifts (w : Int) (ip : Text) : Prop :=
  Spelled ip ∧ hexNumber (thirdPart ip) + offset w ≤ 0xffff

theorem remapIp6_of_not_spelled {ip : Text} (other : ¬ Spelled ip) (w : Int) :
    remapIp6 w ip = ip := by
  unfold remapIp6
  split
  · rfl
  · split
    · rfl
    next begins =>
      have started : startsWith "2001:db8:".toList (lower ip) = true := by simpa using begins
      split
      next p0 p1 p2 rest parts =>
        have gap : p2 = [] := by
          by_contra something
          refine other ⟨started, ?_⟩
          rw [thirdPart, parts]
          exact something
        rw [if_pos gap]
      next => rfl

theorem remapIp6_of_spelled {w : Int} (two : 2 ≤ w) {ip p0 p1 p2 : Text} {rest : List Text}
    (parts : splitOn ':' ip = p0 :: p1 :: p2 :: rest) (spelled : Spelled ip) {third : Nat}
    (read : hextet? p2 = some third) :
    remapIp6 w ip = [':'].intercalate (p0 :: p1 :: hexadecimal ↑(third + offset w) :: rest) := by
  obtain ⟨something, digits, value⟩ := hextet?_digits read
  have joined : ip = [':'].intercalate (p0 :: p1 :: p2 :: rest) := by
    rw [← parts]
    exact (List.intercalate_splitOn ':').symm
  have colon : ':' ∈ ip := by
    rw [joined, List.intercalate_cons_cons]
    simp
  have sum : (hexNumber p2 : Int) + 0x100 * (w - 1) = ↑(third + offset w) := by
    unfold offset
    rw [value]
    omega
  unfold remapIp6
  rw [if_neg, if_neg, parts]
  · simp only
    rw [if_neg something, hexInt?_digits digits something]
    simp only
    rw [sum]
  · simpa using spelled.1
  · rintro (one | empty | colonless)
    · omega
    · rw [empty] at colon
      cases colon
    · exact colonless colon

/-- An address in 2001:db8::/32. -/
def InDocs (ip : Text) : Prop :=
  ∃ tail, ipv6? ip = some (0x2001 :: 0xdb8 :: tail)

theorem ipv6?_remapped {w : Int} (two : 2 ≤ w) {ip : Text} (docs : InDocs ip)
    (spelled : Spelled ip) :
    ∃ low, ipv6? ip = some (0x2001 :: 0xdb8 :: hexNumber (thirdPart ip) :: low) ∧
      ipv6? (remapIp6 w ip) =
        if hexNumber (thirdPart ip) + offset w ≤ 0xffff then
          some (0x2001 :: 0xdb8 :: (hexNumber (thirdPart ip) + offset w) :: low)
        else none := by
  obtain ⟨tail, read⟩ := docs
  obtain ⟨p0, p1, p2, rest, parts, replaced⟩ := groups?_docs read
  have third : thirdPart ip = p2 := by
    rw [thirdPart, parts]
    rfl
  have something : p2 ≠ [] := by
    rw [← third]
    exact spelled.2
  obtain ⟨group, low, here, split, others⟩ := replaced something
  have value : hexNumber p2 = group := (hextet?_digits here).2.2
  rw [third, value]
  refine ⟨low, by rw [read, split], ?_⟩
  have colonless : ∀ part ∈ p0 :: p1 :: hexadecimal ↑(group + offset w) :: rest, ':' ∉ part := by
    have before : ∀ part ∈ p0 :: p1 :: p2 :: rest, ':' ∉ part := by
      rw [← parts]
      exact fun part => notMem_of_mem_splitOn
    simp only [List.forall_mem_cons] at before ⊢
    refine ⟨before.1, before.2.1, fun member => ?_, before.2.2.2⟩
    exact (isHexDigit_plain (isHexDigit_of_mem_toDigits member)).2 (by decide)
  have written : hexadecimal ↑(group + offset w) ≠ [] := Nat.toDigits_ne_nil
  rw [remapIp6_of_spelled two parts spelled here, ipv6?]
  change groups? (List.splitOn ':' _) = _
  rw [List.splitOn_intercalate ':' colonless (List.cons_ne_nil _ _),
    others _ written, hextet?_hexadecimal]
  split <;> rfl

/-- The remapped text is an address, and another one. -/
def Remaps (w : Int) (ip : Text) : Prop :=
  ∃ before after, ipv6? ip = some before ∧ ipv6? (remapIp6 w ip) = some after ∧ after ≠ before

theorem offset_pos {w : Int} (two : 2 ≤ w) : 0 < offset w := by
  unfold offset
  omega

theorem offset_injective {w other : Int} (two : 2 ≤ w) (two' : 2 ≤ other)
    (same : offset w = offset other) : w = other := by
  unfold offset at same
  omega

theorem remaps_iff {w : Int} (two : 2 ≤ w) {ip : Text} (docs : InDocs ip) :
    Remaps w ip ↔ Shifts w ip := by
  constructor
  · rintro ⟨before, after, read, reread, different⟩
    by_cases spelled : Spelled ip
    · obtain ⟨low, _, remapped⟩ := ipv6?_remapped two docs spelled
      refine ⟨spelled, ?_⟩
      by_contra large
      rw [remapped, if_neg large] at reread
      cases reread
    · rw [remapIp6_of_not_spelled spelled, read] at reread
      exact absurd (Option.some.inj reread).symm different
  · rintro ⟨spelled, small⟩
    obtain ⟨low, read, remapped⟩ := ipv6?_remapped two docs spelled
    rw [if_pos small] at remapped
    refine ⟨_, _, read, remapped, fun same => ?_⟩
    have positive := offset_pos two
    simp only [List.cons.injEq, true_and, and_true] at same
    omega

/-- Another worker has another address. -/
theorem ipv6?_remapped_ne {w other : Int} (two : 2 ≤ w) (two' : 2 ≤ other) {ip : Text}
    (docs : InDocs ip) (shifts : Shifts w ip) (shifts' : Shifts other ip) (different : w ≠ other) :
    ipv6? (remapIp6 w ip) ≠ ipv6? (remapIp6 other ip) := by
  obtain ⟨low, read, remapped⟩ := ipv6?_remapped two docs shifts.1
  obtain ⟨low', read', remapped'⟩ := ipv6?_remapped two' docs shifts.1
  rw [if_pos shifts.2] at remapped
  rw [if_pos shifts'.2] at remapped'
  intro same
  rw [remapped, remapped'] at same
  simp only [Option.some.injEq, List.cons.injEq, true_and] at same
  exact different (offset_injective two two' (by omega))

/-- Another address stays another one. -/
theorem ipv6?_remapped_injective {w : Int} (two : 2 ≤ w) {ip other : Text} (docs : InDocs ip)
    (docs' : InDocs other) (shifts : Shifts w ip) (shifts' : Shifts w other)
    (same : ipv6? (remapIp6 w ip) = ipv6? (remapIp6 w other)) : ipv6? ip = ipv6? other := by
  obtain ⟨low, read, remapped⟩ := ipv6?_remapped two docs shifts.1
  obtain ⟨low', read', remapped'⟩ := ipv6?_remapped two docs' shifts'.1
  rw [remapped, remapped', if_pos shifts.2, if_pos shifts'.2] at same
  simp only [Option.some.injEq, List.cons.injEq, true_and] at same
  rw [read, read', same.2, show hexNumber (thirdPart ip) = hexNumber (thirdPart other) by omega]

/-- What remapping has to do for two workers and two addresses. -/
structure Separates (w w' : Int) (ip ip' : Text) : Prop where
  remaps : Remaps w ip
  otherWorker : Remaps w' ip
  otherAddress : Remaps w ip'
  workers : w ≠ w' → ipv6? (remapIp6 w ip) ≠ ipv6? (remapIp6 w' ip)
  addresses : ipv6? ip ≠ ipv6? ip' → ipv6? (remapIp6 w ip) ≠ ipv6? (remapIp6 w ip')

/-- Remapping separates where, and only where, it edits a group it can add the offset to. -/
theorem separates_iff (w w' : Int) (two : 2 ≤ w) (two' : 2 ≤ w') (ip ip' : Text)
    (docs : InDocs ip) (docs' : InDocs ip') :
    Separates w w' ip ip' ↔ Shifts w ip ∧ Shifts w' ip ∧ Shifts w ip' := by
  constructor
  · intro separates
    exact ⟨(remaps_iff two docs).mp separates.remaps,
      (remaps_iff two' docs).mp separates.otherWorker,
      (remaps_iff two docs').mp separates.otherAddress⟩
  · rintro ⟨here, worker, address⟩
    refine ⟨(remaps_iff two docs).mpr here, (remaps_iff two' docs).mpr worker,
      (remaps_iff two docs').mpr address, ?_, ?_⟩
    · exact ipv6?_remapped_ne two two' docs here worker
    · exact fun apart same => apart (ipv6?_remapped_injective two docs docs' here address same)

/-- Two workers and two addresses of the usual spelling. -/
theorem separates_iff_usual :
    Separates 2 3 "2001:db8:83::1".toList "2001:DB8:0084:0:0:0:0:1".toList ↔
      Shifts 2 "2001:db8:83::1".toList ∧ Shifts 3 "2001:db8:83::1".toList ∧
        Shifts 2 "2001:DB8:0084:0:0:0:0:1".toList :=
  separates_iff 2 3 (by decide) (by decide) _ _ ⟨[0x83, 0, 0, 0, 0, 1], by decide⟩
    ⟨[0x84, 0, 0, 0, 0, 1], by decide⟩

/-- A padded second group is not recognised, a gap in place of the third group is left as it is,
and the offset can leave the group; what is left as it is meets what is shifted. -/
theorem remapIp6_not_separating :
    ¬ (∀ w w' : Int, ∀ ip ip' : Text, 2 ≤ w → 2 ≤ w' → InDocs ip → InDocs ip' →
        Separates w w' ip ip') ∧
      ¬ Remaps 2 "2001:0db8:83::1".toList ∧ ¬ Remaps 2 "2001:db8::1".toList ∧
      ipv6? (remapIp6 2 "2001:db8:ff80::1".toList) = none ∧
      ipv6? (remapIp6 2 "2001:0db8:183::1".toList) =
        ipv6? (remapIp6 2 "2001:db8:83::1".toList) := by
  have padded : ¬ Remaps 2 "2001:0db8:83::1".toList := by
    rw [remaps_iff (by decide) ⟨[0x83, 0, 0, 0, 0, 1], by decide⟩]
    exact fun shifts => absurd shifts.1.1 (by decide)
  refine ⟨fun always => ?_, padded, ?_, by decide, by decide⟩
  · have docs : InDocs "2001:0db8:83::1".toList := ⟨[0x83, 0, 0, 0, 0, 1], by decide⟩
    exact padded (always 2 2 _ _ (by decide) (by decide) docs docs).remaps
  · rw [remaps_iff (by decide) ⟨[0, 0, 0, 0, 0, 1], by decide⟩]
    exact fun shifts => shifts.1.2 (by decide)

end OnboxFvt.Worker
