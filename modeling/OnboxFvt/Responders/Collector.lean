import Mathlib.Algebra.BigOperators.Group.Finset.Basic
import Mathlib.Data.Finset.Dedup
import Mathlib.Data.List.Infix
import OnboxFvt.Library.Wire

/-!
# Counting the flow samples of sFlow datagrams

`SflowCollector._flow_samples` and `sample_count` of `responders/collector.py`.  The datagram
is walked by offsets, and each record says how far the next one is; here that walk is compared
with the list of records a datagram was built from.
-/

namespace OnboxFvt.Responders

open Library.Wire

abbrev Octets := List Octet

/-- `data[start:stop]`. -/
def slice (data : Octets) (start stop : Nat) : Octets :=
  (data.drop start).take (stop - start)

/-- `struct.unpack_from("!I", data, off)`; `none` is the `struct.error`. -/
def unpackFrom (data : Octets) (off : Nat) : Option Nat :=
  if off + 4 ≤ data.length then some (number (slice data off (off + 4))) else none

/-- Enterprise 0 and format 1 or 3, a flow sample or an expanded one. -/
def isFlowSample (stype : Nat) : Bool :=
  stype >>> 12 == 0 && (stype &&& 0xFFF == 1 || stype &&& 0xFFF == 3)

def containsAll (sig : List Octets) (body : Octets) : Bool :=
  sig.all fun s => decide (s <:+: body)

/-- The loop over the records, `n` being the samples counted so far. -/
def walk (sig : List Octets) (data : Octets) : Nat → Nat → Nat → Nat
  | 0, _, n => n
  | rounds + 1, off, n =>
      if off + 8 > data.length then n
      else
        let stype := number (slice data off (off + 4))
        let slen := number (slice data (off + 4) (off + 8))
        let off := off + 8
        let body := slice data off (off + slen)
        let off := off + slen
        walk sig data rounds off
          (if isFlowSample stype && containsAll sig body then n + 1 else n)

/-- `_flow_samples`; an exception of the `try` block makes it 0. -/
def flowSamples (sig : List Octets) (data : Octets) : Nat :=
  if data.length < 28 then 0
  else
    let counted := (unpackFrom data 0).bind fun version =>
      if version ≠ 5 then some 0
      else
        (unpackFrom data 4).bind fun atype =>
          let off := 4 + (4 + if atype = 2 then 16 else 4) + 12
          (unpackFrom data off).map fun nsamples =>
            walk sig data (min nsamples 4096) (off + 4) 0
    counted.getD 0

/-- The loop of `sample_count`; `payload` is `_udp_payload`, and `seen` the payloads before. -/
def sampleCountFrom {Packet : Type*} (payload : Packet → Option Octets) (sig : List Octets) :
    List Octets → List Packet → Nat
  | _, [] => 0
  | seen, p :: rest =>
      match payload p with
      | none => sampleCountFrom payload sig seen rest
      | some data =>
          if data = [] ∨ data ∈ seen then sampleCountFrom payload sig seen rest
          else flowSamples sig data + sampleCountFrom payload sig (data :: seen) rest

def sampleCount {Packet : Type*} (payload : Packet → Option Octets) (sig : List Octets)
    (packets : List Packet) : Nat :=
  sampleCountFrom payload sig [] packets

/-! ## Datagrams -/

/-- A record: its type is the enterprise and the format in one word. -/
structure Sample where
  enterprise : Fin (2 ^ 20)
  format : Fin (2 ^ 12)
  body : Octets
  fits : body.length < 2 ^ 32

inductive Agent where
  | ipv4 (address : Fin (2 ^ 32))
  | ipv6 (address : Fin (2 ^ 128))

structure Datagram where
  agent : Agent
  subAgent : Fin (2 ^ 32)
  sequence : Fin (2 ^ 32)
  uptime : Fin (2 ^ 32)
  samples : List Sample
  few : samples.length ≤ 4096

namespace Sample

def stype (sample : Sample) : Nat :=
  sample.enterprise.val * 2 ^ 12 + sample.format.val

def encode (sample : Sample) : Octets :=
  bigEndian 4 sample.stype ++ bigEndian 4 sample.body.length ++ sample.body

/-- The flow samples that have every signature in their body. -/
def Matches (sig : List Octets) (sample : Sample) : Prop :=
  sample.enterprise = 0 ∧ (sample.format = 1 ∨ sample.format = 3) ∧ ∀ s ∈ sig, s <:+: sample.body

instance (sig : List Octets) (sample : Sample) : Decidable (sample.Matches sig) := by
  unfold Matches
  infer_instance

end Sample

def Agent.encode : Agent → Octets
  | .ipv4 address => bigEndian 4 1 ++ bigEndian 4 address.val
  | .ipv6 address => bigEndian 4 2 ++ bigEndian 16 address.val

namespace Datagram

def header (datagram : Datagram) : Octets :=
  bigEndian 4 5 ++ datagram.agent.encode ++ bigEndian 4 datagram.subAgent.val ++
    bigEndian 4 datagram.sequence.val ++ bigEndian 4 datagram.uptime.val

def encode (datagram : Datagram) : Octets :=
  datagram.header ++ bigEndian 4 datagram.samples.length ++ datagram.samples.flatMap Sample.encode

end Datagram

/-! ## Reading a record at its offset -/

theorem slice_piece {data piece : Octets} {start stop : Nat} (front rest : Octets)
    (split : data = front ++ piece ++ rest) (starts : front.length = start)
    (stops : start + piece.length = stop) : slice data start stop = piece := by
  subst split starts stops
  unfold slice
  rw [List.append_assoc, List.drop_left, Nat.add_sub_cancel_left, List.take_left]

theorem unpackFrom_piece {data : Octets} {off value : Nat} (fits : value < 2 ^ 32)
    (front rest : Octets) (split : data = front ++ bigEndian 4 value ++ rest)
    (starts : front.length = off) :
    unpackFrom data off = some value := by
  have inside : off + 4 ≤ data.length := by
    rw [split, List.length_append, List.length_append, length_bigEndian, starts]
    exact Nat.le_add_right _ _
  have piece : slice data off (off + 4) = bigEndian 4 value :=
    slice_piece front rest split starts (by rw [length_bigEndian])
  unfold unpackFrom
  rw [if_pos inside, piece, number_bigEndian fits]

namespace Sample

theorem stype_fits (sample : Sample) : sample.stype < 256 ^ 4 := by
  have enterprise := sample.enterprise.isLt
  have format := sample.format.isLt
  unfold stype
  omega

theorem isFlowSample_stype (sample : Sample) :
    isFlowSample sample.stype = true ↔
      sample.enterprise = 0 ∧ (sample.format = 1 ∨ sample.format = 3) := by
  have format := sample.format.isLt
  have high : sample.stype >>> 12 = sample.enterprise.val := by
    unfold stype
    rw [Nat.shiftRight_eq_div_pow]
    omega
  have low : sample.stype &&& 0xFFF = sample.format.val := by
    have masked : sample.stype &&& 0xFFF = sample.stype % 2 ^ 12 :=
      Nat.and_two_pow_sub_one_eq_mod sample.stype 12
    unfold stype at masked ⊢
    omega
  unfold isFlowSample
  rw [high, low, Bool.and_eq_true, Bool.or_eq_true, beq_iff_eq, beq_iff_eq, beq_iff_eq,
    Fin.ext_iff, Fin.ext_iff, Fin.ext_iff]
  rfl

theorem containsAll_iff (sig : List Octets) (body : Octets) :
    containsAll sig body = true ↔ ∀ s ∈ sig, s <:+: body := by
  simp [containsAll]

theorem counted_iff (sig : List Octets) (sample : Sample) :
    (isFlowSample sample.stype && containsAll sig sample.body) = true ↔ sample.Matches sig := by
  rw [Bool.and_eq_true, isFlowSample_stype, containsAll_iff, Matches, and_assoc]

end Sample

/-- A round reads the record at the offset and steps over it, whatever comes after. -/
theorem walk_cons {sig : List Octets} {data front rest : Octets} {off : Nat} (sample : Sample)
    (split : data = front ++ sample.encode ++ rest) (starts : front.length = off)
    (rounds n : Nat) :
    walk sig data (rounds + 1) off n =
      walk sig data rounds (off + sample.encode.length)
        (if sample.Matches sig then n + 1 else n) := by
  have length : sample.encode.length = 8 + sample.body.length := by
    simp [Sample.encode, ← Nat.add_assoc]
  have inside : ¬ off + 8 > data.length := by
    rw [split, List.length_append, List.length_append, starts, length]
    omega
  have stype : slice data off (off + 4) = bigEndian 4 sample.stype := by
    apply slice_piece front (bigEndian 4 sample.body.length ++ sample.body ++ rest)
    · simp [split, Sample.encode]
    · exact starts
    · rw [length_bigEndian]
  have slen : slice data (off + 4) (off + 8) = bigEndian 4 sample.body.length := by
    apply slice_piece (front ++ bigEndian 4 sample.stype) (sample.body ++ rest)
    · simp [split, Sample.encode]
    · rw [List.length_append, starts, length_bigEndian]
    · rw [length_bigEndian]
  have body : slice data (off + 8) (off + 8 + sample.body.length) = sample.body := by
    apply slice_piece (front ++ bigEndian 4 sample.stype ++ bigEndian 4 sample.body.length) rest
    · simp [split, Sample.encode]
    · rw [List.length_append, List.length_append, starts, length_bigEndian, length_bigEndian]
    · rfl
  rw [walk, if_neg inside]
  simp only
  rw [stype, slen, number_bigEndian sample.stype_fits,
    number_bigEndian sample.fits, body, length, Nat.add_assoc]
  exact congrArg _ (if_congr (sample.counted_iff sig) rfl rfl)

theorem walk_encode {sig : List Octets} {data : Octets} (samples : List Sample) {front : Octets}
    {off : Nat} (split : data = front ++ samples.flatMap Sample.encode)
    (starts : front.length = off) (n : Nat) :
    walk sig data samples.length off n = n + samples.countP fun sample => sample.Matches sig := by
  induction samples generalizing front off n with
  | nil => rfl
  | cons sample rest inductionHypothesis =>
      rw [List.flatMap_cons, ← List.append_assoc] at split
      rw [List.length_cons, walk_cons sample split starts,
        inductionHypothesis split (by rw [List.length_append, starts]), List.countP_cons]
      simp only [decide_eq_true_eq]
      split <;> omega

/-! ## The whole datagram -/

namespace Datagram

/-- The address type, and where the number of records is. -/
def atype (datagram : Datagram) : Nat :=
  match datagram.agent with
  | .ipv4 _ => 1
  | .ipv6 _ => 2

def countOffset (datagram : Datagram) : Nat :=
  4 + (4 + if datagram.atype = 2 then 16 else 4) + 12

theorem length_header (datagram : Datagram) : datagram.header.length = datagram.countOffset := by
  unfold header countOffset atype
  cases datagram.agent <;> simp [Agent.encode]

theorem length_encode (datagram : Datagram) : 28 ≤ datagram.encode.length := by
  have counted : 24 ≤ datagram.countOffset := by
    unfold countOffset
    split <;> decide
  unfold encode
  rw [List.length_append, List.length_append, length_header, length_bigEndian]
  omega

theorem exists_encode (datagram : Datagram) :
    ∃ rest, datagram.encode = bigEndian 4 5 ++ bigEndian 4 datagram.atype ++ rest := by
  have agent : ∃ address, datagram.agent.encode = bigEndian 4 datagram.atype ++ address := by
    unfold atype
    cases datagram.agent with
    | ipv4 address => exact ⟨_, rfl⟩
    | ipv6 address => exact ⟨_, rfl⟩
  obtain ⟨address, begins⟩ := agent
  unfold encode header
  rw [begins]
  simp only [List.append_assoc]
  exact ⟨_, rfl⟩

theorem unpackFrom_version (datagram : Datagram) : unpackFrom datagram.encode 0 = some 5 := by
  obtain ⟨rest, begins⟩ := datagram.exists_encode
  rw [List.append_assoc] at begins
  exact unpackFrom_piece (by decide) [] _ begins rfl

theorem unpackFrom_atype (datagram : Datagram) :
    unpackFrom datagram.encode 4 = some datagram.atype := by
  have fits : datagram.atype < 2 ^ 32 := by
    unfold atype
    split <;> decide
  obtain ⟨rest, begins⟩ := datagram.exists_encode
  exact unpackFrom_piece fits (bigEndian 4 5) rest begins (length_bigEndian 4 5)

theorem unpackFrom_count (datagram : Datagram) :
    unpackFrom datagram.encode datagram.countOffset = some datagram.samples.length := by
  apply unpackFrom_piece _ datagram.header (datagram.samples.flatMap Sample.encode) rfl
  · exact datagram.length_header
  · exact lt_of_le_of_lt datagram.few (by decide)

/-- The walk counts the samples the datagram was built from. -/
theorem flowSamples_encode (sig : List Octets) (datagram : Datagram) :
    flowSamples sig datagram.encode =
      datagram.samples.countP fun sample => sample.Matches sig := by
  have walked : walk sig datagram.encode datagram.samples.length (datagram.countOffset + 4) 0 =
      0 + datagram.samples.countP fun sample => sample.Matches sig := by
    apply walk_encode datagram.samples rfl
    rw [List.length_append, length_header, length_bigEndian]
  unfold flowSamples
  rw [if_neg (Nat.not_lt.mpr datagram.length_encode), unpackFrom_version, Option.bind_some,
    if_neg (by decide), unpackFrom_atype, Option.bind_some]
  change ((unpackFrom datagram.encode datagram.countOffset).map _).getD 0 = _
  rw [unpackFrom_count, Option.map_some, Option.getD_some, Nat.min_eq_left datagram.few]
  exact walked.trans (Nat.zero_add _)

end Datagram

/-! ## Many packets -/

section Packets

variable {Packet : Type*} (payload : Packet → Option Octets) (sig : List Octets)

/-- The payloads that are counted: those not seen before, each once. -/
def distinctPayloads (packets : List Packet) : Finset Octets :=
  (packets.filterMap payload).toFinset

theorem flowSamples_nil : flowSamples sig [] = 0 :=
  rfl

theorem sampleCountFrom_eq (packets : List Packet) (seen : List Octets) :
    sampleCountFrom payload sig seen packets =
      ∑ data ∈ distinctPayloads payload packets \ seen.toFinset, flowSamples sig data := by
  induction packets generalizing seen with
  | nil => simp [sampleCountFrom, distinctPayloads]
  | cons p rest inductionHypothesis =>
      unfold sampleCountFrom distinctPayloads
      cases found : payload p with
      | none =>
          rw [List.filterMap_cons_none found]
          exact inductionHypothesis seen
      | some data =>
          rw [List.filterMap_cons_some found, List.toFinset_cons]
          simp only
          by_cases known : data ∈ seen
          · rw [if_pos (Or.inr known), inductionHypothesis,
              Finset.insert_sdiff_of_mem _ (List.mem_toFinset.mpr known)]
            rfl
          · have fresh : data ∉ seen.toFinset := fun member => known (List.mem_toFinset.mp member)
            rw [Finset.insert_sdiff_of_notMem _ fresh]
            by_cases empty : data = []
            · rw [if_pos (Or.inl empty), inductionHypothesis,
                Finset.sum_insert_of_eq_zero_if_notMem]
              · rfl
              · intro _
                rw [empty, flowSamples_nil]
            · let others := distinctPayloads payload rest \ seen.toFinset
              have apart := Finset.notMem_erase data others
              have again : insert data (others.erase data) = insert data others := by grind
              rw [if_neg (not_or.mpr ⟨empty, known⟩), inductionHypothesis, List.toFinset_cons,
                Finset.sdiff_insert, ← Finset.sum_insert apart, again]
              rfl

theorem sampleCount_eq (packets : List Packet) :
    sampleCount payload sig packets =
      ∑ data ∈ distinctPayloads payload packets, flowSamples sig data := by
  rw [sampleCount, sampleCountFrom_eq, List.toFinset_nil, Finset.sdiff_empty]

/-- A datagram counts its matching flow samples, and packets count by the set of their
payloads, in whatever order and however often each was captured. -/
theorem flow_sample_counts (datagram : Datagram) (packets : List Packet) :
    flowSamples sig datagram.encode =
        (datagram.samples.countP fun sample => sample.Matches sig) ∧
      sampleCount payload sig packets =
        ∑ data ∈ distinctPayloads payload packets, flowSamples sig data ∧
      ∀ others : List Packet, distinctPayloads payload others = distinctPayloads payload packets →
        sampleCount payload sig others = sampleCount payload sig packets := by
  refine ⟨datagram.flowSamples_encode sig, sampleCount_eq payload sig packets, ?_⟩
  intro others same
  rw [sampleCount_eq, sampleCount_eq, same]

end Packets

end OnboxFvt.Responders
