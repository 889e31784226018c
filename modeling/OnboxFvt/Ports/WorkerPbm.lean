import OnboxFvt.Ports.Expand
import OnboxFvt.Worker.Vlans

/-!
# What `worker_pbm` writes

For a contiguous block `worker_pbm` writes one range and takes the stem of its ports
to be the letters their names begin with, so that `d3c9` to `d3c16` become `d9-d16`.
-/

namespace OnboxFvt.Ports

open Python
open Library (collect?)

/-- A block of ports whose chip names consist of a stem and a number. -/
structure WorkerBlock (naming : Naming) where
  ports : List Port
  bcm : Port → PortName
  named : ∀ port ∈ ports, bcmOf naming port = (bcm port).text
  nonempty : ports ≠ []

namespace WorkerBlock

variable {naming : Naming} (block : WorkerBlock naming)

def number (port : Port) : Nat :=
  (block.bcm port).number

def bcmPorts : Finset Text :=
  (block.ports.map fun port => (block.bcm port).text).toFinset

/-- Different ports of the block have different numbers. -/
def Distinct : Prop :=
  ∀ port ∈ block.ports, ∀ other ∈ block.ports, block.number port = block.number other → port = other

/-- The numbers of the block are a range, in whatever order the block lists them. -/
def Contiguous : Prop :=
  ∃ first, (block.ports.map block.number).Perm (List.range' first block.ports.length)

/-- All ports of the block have one stem, which is made of letters. -/
def Lettered : Prop :=
  ∃ stem : Stem, stem.text.all Char.isAlpha = true ∧
    ∀ port ∈ block.ports, (block.bcm port).stem = stem

/-! ## Numbering and sorting -/

def pairs : List (Nat × Port) :=
  block.ports.map fun port => (block.number port, port)

theorem readNat?_trailingDigits (port : PortName) :
    readNat? (trailingDigits isDecimal port.text) = some port.number := by
  obtain ⟨before, last, shape, stops⟩ := port.stem.text_eq_concat
  have plain : last.isAlphanum = true := by
    apply port.stem.isAlphanum_of_mem
    rw [shape]
    exact List.mem_append_right _ (List.mem_singleton_self last)
  have digits : trailingDigits isDecimal port.text = decimal port.number := by
    rw [PortName.text, portText, shape]
    exact trailingDigits_append before
      (fun _ member => isDecimal_of_isDigit (isDigit_of_mem_decimal member))
      (isDecimal_of_isAlphanum plain stops)
  rw [digits, readNat?_decimal]

theorem numbered_eq : numbered naming block.ports = some block.pairs := by
  have items : ∀ ports : List Port, (∀ port ∈ ports, port ∈ block.ports) →
      numbered naming ports = some (ports.map fun port => (block.number port, port)) := by
    intro ports inBlock
    induction ports with
    | nil => rfl
    | cons port rest inductionHypothesis =>
        have others := inductionHypothesis fun other member =>
          inBlock other (List.mem_cons_of_mem _ member)
        unfold numbered at others ⊢
        rw [collect?, others, block.named port (inBlock port (List.mem_cons_self ..)),
          readNat?_trailingDigits]
        rfl
  exact items block.ports fun _ member => member

theorem sorted_eq_none_iff : sorted block.pairs = none ↔ ¬ block.Distinct := by
  unfold sorted pairs Distinct
  simp only [List.mem_map, forall_exists_index, and_imp, forall_apply_eq_imp_iff₂]
  split
  · next distinct => simpa using distinct
  · next shared => simpa using shared

/-- What `worker_pbm` sorts the pairs into. -/
structure Ordered (first : Nat × Port) (rest : List (Nat × Port)) : Prop where
  perm : (first :: rest).Perm block.pairs
  ascending : ((first :: rest).map Prod.fst).Pairwise (· ≤ ·)

theorem sorted_ordered (distinct : block.Distinct) :
    ∃ first rest, sorted block.pairs = some (first :: rest) ∧ block.Ordered first rest := by
  have defined : sorted block.pairs ≠ none := by
    rw [ne_eq, block.sorted_eq_none_iff, not_not]
    exact distinct
  cases result : sorted block.pairs with
  | none => exact absurd result defined
  | some pairs =>
      unfold sorted at result
      split at result
      · have merged := Option.some.inj result
        have perm : pairs.Perm block.pairs := merged ▸ List.mergeSort_perm _ _
        have ascending : pairs.Pairwise fun first second => first.1 ≤ second.1 := by
          have sorts := @List.pairwise_mergeSort _
            (fun first second : Nat × Port => decide (first.1 ≤ second.1))
            (by simp; omega) (by simp; omega) block.pairs
          rw [merged] at sorts
          simpa using sorts
        cases shape : pairs with
        | nil =>
            rw [shape] at perm
            have empty := List.map_eq_nil_iff.mp perm.nil_eq.symm
            exact absurd empty block.nonempty
        | cons first rest =>
            rw [shape] at perm ascending
            exact ⟨first, rest, rfl, perm, List.pairwise_map.mpr ascending⟩
      · cases result

variable {block} {first : Nat × Port} {rest : List (Nat × Port)}

theorem Ordered.mem_iff (ordered : block.Ordered first rest) (pair : Nat × Port) :
    pair ∈ first :: rest ↔ pair.2 ∈ block.ports ∧ pair.1 = block.number pair.2 := by
  rw [ordered.perm.mem_iff, pairs, List.mem_map]
  constructor
  · rintro ⟨port, member, equal⟩
    subst equal
    exact ⟨member, rfl⟩
  · rintro ⟨member, number⟩
    exact ⟨pair.2, member, by rw [← number]⟩

theorem Ordered.numbers_perm (ordered : block.Ordered first rest) :
    ((first :: rest).map Prod.fst).Perm (block.ports.map block.number) := by
  have numbers := ordered.perm.map Prod.fst
  rwa [pairs, List.map_map] at numbers

theorem Ordered.contiguous_iff (ordered : block.Ordered first rest) :
    (first :: rest).map Prod.fst = List.range' first.1 ((first :: rest).map Prod.fst).length ↔
      block.Contiguous := by
  have lengths := ordered.numbers_perm.length_eq
  rw [List.length_map (f := block.number)] at lengths
  constructor
  · intro range
    rw [lengths] at range
    exact ⟨first.1, ordered.numbers_perm.symm.trans (range ▸ .refl _)⟩
  · rintro ⟨start, perm⟩
    have same : (first :: rest).map Prod.fst = List.range' start block.ports.length := by
      apply @List.Perm.eq_of_pairwise _ (· ≤ ·) _ _ _ _ _ (ordered.numbers_perm.trans perm)
      · intro a b _ _ below above
        exact Nat.le_antisymm below above
      · exact ordered.ascending
      · exact (List.pairwise_lt_range' ..).imp Nat.le_of_lt
    have begins : first.1 = start := by
      have count : block.ports.length = rest.length + 1 := by
        rw [← lengths, List.length_map, List.length_cons]
      rw [count, List.range'_succ, List.map_cons] at same
      exact (List.cons.inj same).1
    rw [lengths, begins]
    exact same

/-! ## The written list -/

/-- The letters a name begins with are a stem of their own. -/
def letterStem (stem : Stem) : Stem where
  text := stem.text.takeWhile Char.isAlpha
  plain := by
    apply List.all_eq_true.mpr
    intro c member
    exact stem.isAlphanum_of_mem ((List.takeWhile_prefix _).subset member)
  begins := by
    obtain ⟨c, rest, shape, alpha⟩ := stem.text_eq_cons
    rw [shape, List.takeWhile_cons_of_pos alpha]
    exact alpha
  ends := by
    cases last : (stem.text.takeWhile Char.isAlpha).getLast? with
    | none => rfl
    | some c =>
        have alpha := List.mem_takeWhile_imp (List.mem_of_getLast? last)
        simp [isDigit_of_isAlpha alpha]

theorem letterStem_eq_iff (stem : Stem) :
    letterStem stem = stem ↔ stem.text.all Char.isAlpha = true := by
  constructor
  · intro same
    have whole : stem.text.takeWhile Char.isAlpha = stem.text := congrArg Stem.text same
    exact List.all_eq_true.mpr (List.takeWhile_eq_self_iff.mp whole)
  · intro letters
    exact Stem.text_injective (List.takeWhile_eq_self_iff.mpr (List.all_eq_true.mp letters))

theorem takeWhile_isAlpha_text (port : PortName) :
    port.text.takeWhile Char.isAlpha = (letterStem port.stem).text := by
  have notAlpha : ∀ c : Char, c.isDigit = true → c.isAlpha = false := by
    intro c digit
    cases alpha : c.isAlpha with
    | false => rfl
    | true =>
        rw [isDigit_of_isAlpha alpha] at digit
        cases digit
  have stops := takeWhile_decimal_append notAlpha port.number []
  rw [List.append_nil] at stops
  rw [PortName.text, portText, List.takeWhile_append]
  split
  · next whole =>
      have letters := List.takeWhile_prefix Char.isAlpha (l := port.stem.text)
      rw [stops, List.append_nil]
      exact (letters.eq_of_length whole).symm
  · rfl

/-- The range `worker_pbm` writes for a contiguous block. -/
def rangeOf (block : WorkerBlock naming) (first : Nat × Port) (rest : List (Nat × Port)) :
    PortList :=
  [.range (letterStem (block.bcm first.2).stem) first.1 true
    ((first :: rest).getLast nofun).1]

/-- The comma list `worker_pbm` writes for any other block. -/
def namesOf (block : WorkerBlock naming) (pairs : List (Nat × Port)) : PortList :=
  pairs.map fun pair => .name (block.bcm pair.2)

theorem Ordered.written_eq (ordered : block.Ordered first rest) [Decidable block.Contiguous] :
    written naming first rest =
      .ok (if block.Contiguous then (rangeOf block first rest).text
        else (namesOf block (first :: rest)).text) := by
  have names : ∀ pair ∈ first :: rest, bcmOf naming pair.2 = (block.bcm pair.2).text :=
    fun pair member => block.named pair.2 ((ordered.mem_iff pair).mp member).1
  have letters : (bcmOf naming first.2).takeWhile Char.isAlpha =
      (letterStem (block.bcm first.2).stem).text := by
    rw [names first (List.mem_cons_self ..), takeWhile_isAlpha_text]
  unfold written
  dsimp only
  rw [letters]
  split
  · next empty => exact absurd empty (letterStem _).text_ne_nil
  · split
    · next range =>
        rw [if_pos (ordered.contiguous_iff.mp range)]
        simp [rangeOf, PortList.text, Item.text, List.intercalate]
    · next gap =>
        have apart : ¬ block.Contiguous := fun contiguous =>
          gap (ordered.contiguous_iff.mpr contiguous)
        have texts : (first :: rest).map (fun pair => bcmOf naming pair.2) =
            (namesOf block (first :: rest)).map Item.text := by
          rw [namesOf, List.map_map]
          exact List.map_congr_left names
        rw [if_neg apart, texts]
        rfl

theorem Ordered.ports_namesOf (ordered : block.Ordered first rest) :
    (namesOf block (first :: rest)).ports = block.bcmPorts := by
  apply Finset.ext
  intro text
  rw [PortList.ports, bcmPorts, List.mem_toFinset, List.mem_toFinset, List.mem_flatMap,
    List.mem_map]
  constructor
  · rintro ⟨item, member, found⟩
    obtain ⟨pair, inPairs, equal⟩ := List.mem_map.mp member
    subst equal
    exact ⟨pair.2, ((ordered.mem_iff pair).mp inPairs).1, (List.mem_singleton.mp found).symm⟩
  · rintro ⟨port, inBlock, equal⟩
    subst equal
    refine ⟨.name (block.bcm port), ?_, List.mem_singleton_self _⟩
    exact List.mem_map.mpr ⟨(block.number port, port), (ordered.mem_iff _).mpr ⟨inBlock, rfl⟩, rfl⟩

theorem Ordered.mem_ports_rangeOf (ordered : block.Ordered first rest)
    (contiguous : block.Contiguous) (text : Text) :
    text ∈ (rangeOf block first rest).ports ↔ ∃ port ∈ block.ports,
      text = portText (letterStem (block.bcm first.2).stem).text (block.number port) := by
  have range := ordered.contiguous_iff.mpr contiguous
  have last : ((first :: rest).getLast (List.cons_ne_nil _ _)).1 = first.1 + rest.length := by
    rw [← List.getLast_map (f := Prod.fst) (by simp)]
    have ends := List.getLast_congr (by simp) (by simp) range
    rw [ends, List.getLast_range']
    simp
  have numbers : ∀ number, number ∈ List.range' first.1 (rest.length + 1) ↔
      ∃ port ∈ block.ports, number = block.number port := by
    intro number
    have length : ((first :: rest).map Prod.fst).length = rest.length + 1 := by simp
    rw [← length, ← range, ordered.numbers_perm.mem_iff, List.mem_map]
    simp only [eq_comm]
  have bound : first.1 + rest.length + 1 - first.1 = rest.length + 1 := by omega
  rw [PortList.ports, List.mem_toFinset, rangeOf, List.flatMap_singleton, Item.ports, last, bound,
    List.mem_map]
  constructor
  · rintro ⟨number, member, equal⟩
    obtain ⟨port, inBlock, same⟩ := (numbers number).mp member
    exact ⟨port, inBlock, by rw [← equal, same]⟩
  · rintro ⟨port, inBlock, equal⟩
    exact ⟨block.number port, (numbers _).mpr ⟨port, inBlock, rfl⟩, equal.symm⟩

theorem Ordered.ports_rangeOf_iff (ordered : block.Ordered first rest)
    (contiguous : block.Contiguous) :
    (rangeOf block first rest).ports = block.bcmPorts ↔ block.Lettered := by
  have inBlock := ((ordered.mem_iff first).mp (List.mem_cons_self ..)).1
  constructor
  · intro equal
    have stems : ∀ port ∈ block.ports,
        (block.bcm port).stem = letterStem (block.bcm first.2).stem := by
      intro port member
      have denoted : (block.bcm port).text ∈ block.bcmPorts :=
        List.mem_toFinset.mpr (List.mem_map_of_mem member)
      rw [← equal, ordered.mem_ports_rangeOf contiguous] at denoted
      obtain ⟨_, _, same⟩ := denoted
      exact (portText_injective same).1
    refine ⟨_, ?_, stems⟩
    have own := stems first.2 inBlock
    rw [← own]
    exact (letterStem_eq_iff _).mp own.symm
  · rintro ⟨stem, letters, stems⟩
    have own : letterStem (block.bcm first.2).stem = stem := by
      rw [stems first.2 inBlock]
      exact (letterStem_eq_iff stem).mpr letters
    apply Finset.ext
    intro text
    rw [ordered.mem_ports_rangeOf contiguous, own, bcmPorts, List.mem_toFinset, List.mem_map]
    constructor
    · rintro ⟨port, member, equal⟩
      refine ⟨port, member, ?_⟩
      rw [equal, PortName.text, stems port member]
      rfl
    · rintro ⟨port, member, equal⟩
      refine ⟨port, member, ?_⟩
      rw [← equal, PortName.text, stems port member]
      rfl

theorem workerPbm_denotes_iff (block : WorkerBlock naming) :
    (∃ text, workerPbm naming (some block.ports) = .ok (some text) ∧
        Denotes text block.bcmPorts) ↔
      block.Distinct ∧ (block.Contiguous → block.Lettered) := by
  classical
  by_cases distinct : block.Distinct
  · obtain ⟨first, rest, sorts, ordered⟩ := block.sorted_ordered distinct
    have result : workerPbm naming (some block.ports) =
        .ok (some (if block.Contiguous then (rangeOf block first rest).text
          else (namesOf block (first :: rest)).text)) := by
      simp only [workerPbm, block.numbered_eq, sorts, ordered.written_eq]
      rfl
    by_cases contiguous : block.Contiguous
    · rw [result, if_pos contiguous]
      simp only [Except.ok.injEq, Option.some.injEq, exists_eq_left',
        denotes_text_iff, ordered.ports_rangeOf_iff contiguous, distinct, contiguous, true_and,
        forall_const]
    · rw [result, if_neg contiguous]
      simp only [Except.ok.injEq, Option.some.injEq, exists_eq_left',
        denotes_text_iff, ordered.ports_namesOf, distinct, contiguous, true_and,
        false_implies]
  · have raised : workerPbm naming (some block.ports) = .error .unordered := by
      simp only [workerPbm, block.numbered_eq, block.sorted_eq_none_iff.mpr distinct]
    simp [raised, distinct]

end WorkerBlock

/-- `worker_pbm` denotes its block exactly when different ports have different numbers and a
contiguous block has one stem made of letters; `_expand` reads a list right exactly when the
stems of the items that denote ports are lower-case letters. -/
theorem port_lists_denoted_iff (naming : Naming) (block : WorkerBlock naming) (list : PortList) :
    ((∃ text, workerPbm naming (some block.ports) = .ok (some text) ∧
        Denotes text block.bcmPorts) ↔
      block.Distinct ∧ (block.Contiguous → block.Lettered)) ∧
    (expand list.text = list.ports ↔ ∀ item ∈ list, item.ports ≠ [] → item.stem.Lower) := by
  constructor
  · exact block.workerPbm_denotes_iff
  · exact expand_iff list

/-! ## The ports of a shipped profile -/

def d3c : Stem :=
  ⟨"d3c".toList, by decide, by decide, by decide⟩

def vendorCNaming : Naming :=
  ⟨"d3c".toList, 0, 8, by decide⟩

def vendorCNames : List Text :=
  ["Ethernet72".toList, "Ethernet80".toList, "Ethernet88".toList, "Ethernet96".toList,
    "Ethernet104".toList, "Ethernet112".toList, "Ethernet120".toList, "Ethernet128".toList]

def vendorCBlock : WorkerBlock vendorCNaming where
  ports := vendorCNames.map fun name => ⟨name, none⟩
  bcm port := ⟨d3c, (readNat? (trailingDigits isDecimal port.name)).getD 0 / 8⟩
  named := by decide
  nonempty := by decide

/-- `worker_pbm` names the block d3c9..d3c16 of the profile `d9-d16`, and `_expand` finds no
port in `d3c9-d3c16`. -/
theorem d3c_ports_lost :
    Worker.workerBlock 1 (Worker.load (some Worker.vendorC)) vendorCNames =
        .ok (some vendorCNames) ∧
      ¬ (∃ text, workerPbm vendorCNaming (some vendorCBlock.ports) = .ok (some text) ∧
          Denotes text vendorCBlock.bcmPorts) ∧
      expand (PortList.text [.range d3c 9 true 16]) ≠ PortList.ports [.range d3c 9 true 16] := by
  refine ⟨by decide, ?_, ?_⟩
  · rw [vendorCBlock.workerPbm_denotes_iff]
    rintro ⟨_, lettered⟩
    have numbers : vendorCBlock.ports.map vendorCBlock.number = List.range' 9 8 := by decide
    obtain ⟨stem, letters, stems⟩ := lettered ⟨9, .of_eq numbers⟩
    have own : d3c = stem := stems ⟨"Ethernet72".toList, none⟩ (by decide)
    rw [← own] at letters
    exact absurd letters (by decide)
  · rw [ne_eq, expand_iff]
    intro matched
    exact absurd (matched _ (List.mem_singleton_self _) (by decide)) (by decide)

end OnboxFvt.Ports
