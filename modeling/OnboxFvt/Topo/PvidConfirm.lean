import Mathlib.Data.List.Basic
import OnboxFvt.Python.Decimal
import OnboxFvt.Python.TextFacts

/-!
# Confirming a PVID

The `traffic` fixture, `Hairpin._set_pvid` and `LoopbackManager.use_test_vlan` set the
PVID of a chip port and read it back until they find the id they asked for.  Between the
setting and the reading the OS may have written another PVID.  All three look for the
phrase with the id in the text of `pvlan show`, so they compare the beginnings of two
decimals.
-/

namespace OnboxFvt.Topo

open Python

def phrase : Text :=
  "default VLAN is ".toList

/-- The text around the PVID that `pvlan show` prints for a port. -/
structure Readback where
  header : Text
  trailer : Text
  stops : ∀ c ∈ trailer.head?, c.isDigit = false
  once : ∀ (pvid : Nat) (before after : Text),
    header ++ phrase ++ (decimal pvid ++ trailer) = before ++ phrase ++ after → before = header

def Readback.pvlanShow (readback : Readback) (pvid : Nat) : Text :=
  readback.header ++ phrase ++ (decimal pvid ++ readback.trailer)

/-- A poll, with what the OS has written since the setting before it. -/
structure Poll where
  rewrite : Option Nat
  readback : Readback

def Poll.shown (poll : Poll) (pvid : Nat) : Nat :=
  poll.rewrite.getD pvid

def want (vid : Nat) : Text :=
  phrase ++ decimal vid

/-- Set, wait and read back, at most once for every poll; gives the PVID of the poll that
confirmed the setting. -/
def setUntil (vid : Nat) : List Poll → Option Nat
  | [] => none
  | poll :: rest =>
      let shown := poll.shown vid
      if contains (want vid) (poll.readback.pvlanShow shown) then some shown
      else setUntil vid rest

/-- The polls a loop over `range(tries)` makes. -/
def polled (polls : Nat → Poll) (tries : Nat) : List Poll :=
  (List.range tries).map polls

/-- `Hairpin._set_pvid`; `none` is its RuntimeError. -/
def setPvid (tries vid : Nat) (polls : Nat → Poll) : Option Nat :=
  setUntil vid (polled polls tries)

/-- One port in `use_test_vlan`; `none` is the warning. -/
def useTestVlan (vid : Nat) (polls : Nat → Poll) : Option Nat :=
  setUntil vid (polled polls 10)

/-- One port in the `traffic` fixture, which looks before it sets; `none` goes unnoticed. -/
def trafficPvid (pvid dv : Nat) (first : Poll) (polls : Nat → Poll) : Option Nat :=
  let shown := first.shown pvid
  if contains (want dv) (first.readback.pvlanShow shown) then some shown
  else setUntil dv (polled polls 8)

/-! ## What the text test compares -/

theorem decimal_prefix_of_stops {vid pvid : Nat} {trailer : Text}
    (stops : ∀ c ∈ trailer.head?, c.isDigit = false)
    (begins : decimal vid <+: decimal pvid ++ trailer) : decimal vid <+: decimal pvid := by
  rcases List.prefix_or_prefix_of_prefix begins (List.prefix_append ..) with inside | longer
  · exact inside
  · obtain ⟨rest, whole⟩ := longer
    cases rest with
    | nil => rw [← whole, List.append_nil]
    | cons c others =>
        rw [← whole, List.prefix_append_right_inj] at begins
        obtain ⟨later, split⟩ := begins
        have digit : c.isDigit = true :=
          @isDigit_of_mem_decimal vid _ (whole ▸ by simp)
        have other : c.isDigit = false := stops c (by rw [← split]; rfl)
        rw [digit] at other
        cases other

theorem contains_want_iff (readback : Readback) (vid pvid : Nat) :
    contains (want vid) (readback.pvlanShow pvid) = true ↔ decimal vid <+: decimal pvid := by
  rw [contains_iff]
  constructor
  · rintro ⟨before, after, occurrence⟩
    have split : readback.header ++ phrase ++ (decimal pvid ++ readback.trailer) =
        before ++ phrase ++ (decimal vid ++ after) := by
      rw [Readback.pvlanShow, want] at occurrence
      rw [← occurrence]
      simp only [List.append_assoc]
    have start := readback.once pvid before _ split
    subst start
    apply decimal_prefix_of_stops readback.stops
    exact ⟨after, (List.append_cancel_left split).symm⟩
  · rintro ⟨rest, whole⟩
    refine ⟨readback.header, rest ++ readback.trailer, ?_⟩
    rw [Readback.pvlanShow, want, ← whole]
    simp only [List.append_assoc]

/-! ## When only the requested id confirms -/

/-- Another id that begins with the decimals of the requested one. -/
def FalseMatch (vid shown : Nat) : Prop :=
  shown ≠ vid ∧ decimal vid <+: decimal shown

instance (vid shown : Nat) : Decidable (FalseMatch vid shown) :=
  inferInstanceAs (Decidable (_ ∧ _))

/-- Some poll shows a false match, and none before it the requested id. -/
def Deceived (vid : Nat) (shows : List Nat) : Prop :=
  ∃ before shown after, shows = before ++ shown :: after ∧ vid ∉ before ∧ FalseMatch vid shown

theorem deceived_cons_iff {vid shown : Nat} {shows : List Nat} :
    Deceived vid (shown :: shows) ↔
      FalseMatch vid shown ∨ shown ≠ vid ∧ Deceived vid shows := by
  constructor
  · rintro ⟨before, other, after, split, unseen, wrong⟩
    cases before with
    | nil =>
        cases split
        exact Or.inl wrong
    | cons head tail =>
        cases split
        rw [List.mem_cons, not_or] at unseen
        exact Or.inr ⟨Ne.symm unseen.1, tail, other, after, rfl, unseen.2, wrong⟩
  · rintro (wrong | ⟨different, before, other, after, split, unseen, wrong⟩)
    · exact ⟨[], shown, shows, rfl, List.not_mem_nil, wrong⟩
    · refine ⟨shown :: before, other, after, by rw [split]; rfl, ?_, wrong⟩
      rw [List.mem_cons, not_or]
      exact ⟨Ne.symm different, unseen⟩

def Faithful (vid : Nat) (confirmed : Option Nat) : Prop :=
  ∀ shown, confirmed = some shown → shown = vid

/-- One poll of any of the loops. -/
theorem faithful_poll_iff (readback : Readback) {vid shown : Nat} {later : Option Nat}
    {shows : List Nat} (rest : Faithful vid later ↔ ¬ Deceived vid shows) :
    Faithful vid (if contains (want vid) (readback.pvlanShow shown) then some shown else later) ↔
      ¬ Deceived vid (shown :: shows) := by
  rw [deceived_cons_iff, not_or]
  by_cases same : shown = vid
  · subst same
    have found := (contains_want_iff readback shown shown).mpr (List.prefix_refl _)
    rw [if_pos found]
    simp [Faithful, FalseMatch]
  · by_cases found : contains (want vid) (readback.pvlanShow shown) = true
    · have wrong : FalseMatch vid shown := ⟨same, (contains_want_iff readback vid shown).mp found⟩
      rw [if_pos found]
      simp [Faithful, wrong, same]
    · have missed : ¬ FalseMatch vid shown := fun wrong =>
        found ((contains_want_iff readback vid shown).mpr wrong.2)
      rw [if_neg found, rest]
      simp [missed, same]

theorem faithful_setUntil_iff (vid : Nat) (polls : List Poll) :
    Faithful vid (setUntil vid polls) ↔
      ¬ Deceived vid (polls.map fun poll => poll.shown vid) := by
  induction polls with
  | nil => simp [Faithful, setUntil, Deceived]
  | cons poll rest inductionHypothesis =>
      exact faithful_poll_iff poll.readback inductionHypothesis

theorem confirmations_faithful_iff (pvid vid tries : Nat) (first : Poll) (polls : Nat → Poll) :
    (Faithful vid (trafficPvid pvid vid first polls) ↔
      ¬ Deceived vid (first.shown pvid :: (polled polls 8).map fun poll => poll.shown vid)) ∧
    (Faithful vid (setPvid tries vid polls) ↔
      ¬ Deceived vid ((polled polls tries).map fun poll => poll.shown vid)) ∧
    (Faithful vid (useTestVlan vid polls) ↔
      ¬ Deceived vid ((polled polls 10).map fun poll => poll.shown vid)) := by
  refine ⟨?_, faithful_setUntil_iff vid _, faithful_setUntil_iff vid _⟩
  exact faithful_poll_iff first.readback (faithful_setUntil_iff vid _)

/-- Among the valid VLAN ids, those of 410 and more are never mistaken. -/
theorem not_deceived_of_large {vid : Nat} {shows : List Nat} (large : 410 ≤ vid)
    (valid : ∀ shown ∈ shows, shown ≤ 4094) : ¬ Deceived vid shows := by
  rintro ⟨before, shown, after, split, _, different, begins⟩
  have bound := valid shown (by rw [split]; simp)
  have grown := le_of_decimal_prefix begins (Ne.symm different)
  omega

/-! ## A read-back -/

theorem once_of_plain {header trailer : Text} (headerPlain : 'V' ∉ header)
    (trailerPlain : 'V' ∉ trailer) (pvid : Nat) (before after : Text)
    (split : header ++ phrase ++ (decimal pvid ++ trailer) = before ++ phrase ++ after) :
    before = header := by
  have phraseParts : phrase = "default ".toList ++ 'V' :: "LAN is ".toList := rfl
  have plain : 'V' ∉ "LAN is ".toList ++ (decimal pvid ++ trailer) := by
    intro member
    rcases List.mem_append.mp member with inPhrase | inRest
    · revert inPhrase
      decide
    · rcases List.mem_append.mp inRest with inDecimal | inTrailer
      · cases isDigit_of_mem_decimal inDecimal
      · exact trailerPlain inTrailer
  have front : 'V' ∉ header ++ "default ".toList := by
    intro member
    rcases List.mem_append.mp member with inHeader | inPhrase
    · exact headerPlain inHeader
    · revert inPhrase
      decide
  rw [phraseParts] at split
  have aligned : (header ++ "default ".toList) ++ 'V' ::
      ("LAN is ".toList ++ (decimal pvid ++ trailer)) =
        (before ++ "default ".toList) ++ 'V' :: ("LAN is ".toList ++ after) := by
    simpa only [List.append_assoc, List.cons_append] using split
  have same := ((List.append_cons_inj_of_notMem front plain).mp aligned).1
  exact (List.append_cancel_right same).symm

/-- `Port cd8 default VLAN is 1000`. -/
def portCd8 : Readback where
  header := "Port cd8 ".toList
  trailer := []
  stops := by simp
  once := once_of_plain (by decide) (by decide)

/-- Nothing is rewritten; the port still has the PVID of a VLAN 110 used before. -/
theorem vlan_110_confirms_1 :
    ¬ Faithful 1 (trafficPvid 110 1 ⟨none, portCd8⟩ fun _ => ⟨none, portCd8⟩) := by
  intro faithful
  have confirmed : trafficPvid 110 1 ⟨none, portCd8⟩ (fun _ => ⟨none, portCd8⟩) = some 110 := by
    decide
  cases faithful 110 confirmed

end OnboxFvt.Topo
