import Mathlib.Tactic.IntervalCases
import OnboxFvt.Worker.View

/-!
# Disjointness of the worker VLAN views

The offsets of `remap_vid` keep the views of two workers apart as long as the
regular range (+430 a worker) stays below 4095 and the isolation range of one
worker (-10 a worker) does not slide onto the CoPP VLAN of another.  Worker 4 is
the first to meet worker 1 there, on id 3960; from worker 5 on the `l2fwd` VLAN
leaves the id space.
-/

namespace OnboxFvt.Worker

open Python

/-! ## The shipped profiles -/

/-- The `defaults` section of `topology/profiles.yaml`. -/
def defaults : Profile where
  vlans :=
    [("a".toList, 320), ("b".toList, 321), ("c".toList, 322), ("d".toList, 323),
      ("e".toList, 324), ("f".toList, 325), ("mcast".toList, 360), ("erspan".toList, 361),
      ("coppl3".toList, 3960), ("l2fwd".toList, 2510)]
  hairpin := some { vlanA := some 110, vlanB := some 120 }
  defaultVlan := some 1000
  workers := []

/-- What a device section overrides of it. -/
structure DeviceSection where
  defaultVlan : Option Int
  workers : Option (List (WorkerKey × List Text))

/-- `profile.load`: the defaults, overridden by the matching device section. -/
def load (device : Option DeviceSection) : Profile :=
  match device with
  | none => defaults
  | some section_ =>
      { defaults with
        defaultVlan := section_.defaultVlan <|> defaults.defaultVlan
        workers := section_.workers.getD defaults.workers }

def swA128Q : DeviceSection where
  defaultVlan := none
  workers := some
    [(.number 1, ["Ethernet1".toList, "Ethernet2".toList, "Ethernet3".toList,
        "Ethernet4".toList, "Ethernet5".toList, "Ethernet6".toList, "Ethernet7".toList,
        "Ethernet8".toList]),
      (.number 2, ["Ethernet9".toList, "Ethernet10".toList, "Ethernet11".toList,
        "Ethernet12".toList, "Ethernet13".toList, "Ethernet14".toList, "Ethernet15".toList,
        "Ethernet16".toList])]

def swB : DeviceSection where
  defaultVlan := some 1
  workers := none

def vendorC : DeviceSection where
  defaultVlan := some 1
  workers := some
    [(.number 1, ["Ethernet72".toList, "Ethernet80".toList, "Ethernet88".toList,
        "Ethernet96".toList, "Ethernet104".toList, "Ethernet112".toList,
        "Ethernet120".toList, "Ethernet128".toList])]

def vendorD : DeviceSection where
  defaultVlan := some 1000
  workers := none

/-- A profile `load` can return: the defaults alone or merged with a device. -/
def shippedProfiles : List Profile :=
  load none :: [swA128Q, swB, vendorC, vendorD].map fun device => load (some device)

/-! ## Separation -/

/-- Two views share no id, and every id of both is one a test VLAN may have. -/
def Separate (profile : Profile) (w w' : Int) : Prop :=
  (∀ v ∈ vlanView w profile, v ∉ vlanView w' profile) ∧
    (∀ v ∈ vlanView w profile, 2 ≤ v ∧ v ≤ 4094) ∧
    ∀ v ∈ vlanView w' profile, 2 ≤ v ∧ v ≤ 4094

instance (profile : Profile) (w w' : Int) : Decidable (Separate profile w w') := by
  unfold Separate
  infer_instance

theorem Separate.symm {profile : Profile} {w w' : Int} (apart : Separate profile w w') :
    Separate profile w' w := by
  obtain ⟨disjoint, leftRange, rightRange⟩ := apart
  exact ⟨fun v inRight inLeft => disjoint v inLeft inRight, rightRange, leftRange⟩

theorem defaults_vlans_of_shipped {profile : Profile} (shipped : profile ∈ shippedProfiles) :
    profile.vlans = defaults.vlans := by
  simp only [shippedProfiles, List.map_cons, List.map_nil, List.mem_cons,
    List.not_mem_nil, or_false] at shipped
  rcases shipped with rfl | rfl | rfl | rfl | rfl <;> rfl

theorem remapped_mem_vlanView {w : Int} {profile : Profile} {role : Text} {v : Int}
    (declared : (role, v) ∈ profile.vlans) : remapVid w v ∈ vlanView w profile := by
  simp only [vlanView, Topology.ofProfile, List.map_map, List.mem_append, List.mem_map]
  exact .inl (.inl (.inl (.inl (.inl ⟨(role, v), declared, rfl⟩))))

/-- From worker 5 on, `l2fwd` (2510 for worker 1) is not a VLAN id any more. -/
theorem le_four_of_inRange {profile : Profile} (shipped : profile ∈ shippedProfiles) {w : Int}
    (inRange : ∀ v ∈ vlanView w profile, 2 ≤ v ∧ v ≤ 4094) : w ≤ 4 := by
  have declared : ("l2fwd".toList, (2510 : Int)) ∈ profile.vlans := by
    rw [defaults_vlans_of_shipped shipped]
    decide
  have bound := (inRange _ (remapped_mem_vlanView (w := w) declared)).2
  unfold remapVid at bound
  split at bound
  · omega
  · simp only [ge_iff_le, show ¬ (3900 : Int) ≤ 2510 by omega, if_false] at bound
    omega

/-- The views of a shipped profile depend on its default VLAN only, of which there are two. -/
theorem vlanView_of_shipped {profile : Profile} (shipped : profile ∈ shippedProfiles) :
    (∀ w, vlanView w profile = vlanView w (load none)) ∨
      ∀ w, vlanView w profile = vlanView w (load (some swB)) := by
  simp only [shippedProfiles, List.map_cons, List.map_nil, List.mem_cons,
    List.not_mem_nil, or_false] at shipped
  rcases shipped with rfl | rfl | rfl | rfl | rfl
  · exact .inl fun _ => rfl
  · exact .inl fun _ => rfl
  · exact .inr fun _ => rfl
  · exact .inr fun _ => rfl
  · exact .inl fun _ => rfl

theorem separate_iff_of_lt {profile : Profile} (shipped : profile ∈ shippedProfiles)
    {w w' : Int} (positive : 1 ≤ w) (less : w < w') (atMost : w' ≤ 4) :
    Separate profile w w' ↔ ¬ (w = 1 ∧ w' = 4) := by
  have below : w ≤ 3 := by omega
  have above : 2 ≤ w' := by omega
  unfold Separate
  rcases vlanView_of_shipped shipped with views | views <;> simp only [views] <;> clear views <;>
    interval_cases w <;> interval_cases w' <;>
    first
      | exact absurd less (by decide)
      | decide

/-- Among the first four workers only the pair of 1 and 4 collides. -/
theorem separate_iff_of_le_four {profile : Profile} (shipped : profile ∈ shippedProfiles)
    {w w' : Int} (positive : 1 ≤ w) (positive' : 1 ≤ w') (distinct : w ≠ w')
    (atMost : w ≤ 4) (atMost' : w' ≤ 4) :
    Separate profile w w' ↔ ¬ (w = 1 ∧ w' = 4) ∧ ¬ (w = 4 ∧ w' = 1) := by
  rcases Int.lt_or_gt_of_ne distinct with less | less
  · rw [separate_iff_of_lt shipped positive less atMost']
    omega
  · have turned : Separate profile w w' ↔ Separate profile w' w := ⟨.symm, .symm⟩
    rw [turned, separate_iff_of_lt shipped positive' less atMost]
    omega

/-! ## The worker numbers a profile admits -/

/-- `worker_block` hands worker `w` a block of the device's `ports`. -/
def Admitted (profile : Profile) (ports : List Text) (w : Int) : Prop :=
  ∃ block, workerBlock w profile ports = .ok (some block)

theorem Admitted.lookupBlock_isSome {profile : Profile} {ports : List Text} {w : Int}
    (admitted : Admitted profile ports w) :
    ∃ block, lookupBlock w profile.workers = some block := by
  obtain ⟨block, granted⟩ := admitted
  unfold workerBlock at granted
  split at granted
  · split at granted
    · cases granted
    · exact ⟨_, ‹_›⟩
  · cases granted

theorem declared_of_lookupBlock {w : Int} {blocks : List (WorkerKey × List Text)}
    {block : List Text} (found : lookupBlock w blocks = some block) :
    ∃ key ∈ blocks.map Prod.fst, key = .number w ∨ ∃ text, key = .text text := by
  simp only [lookupBlock, Option.filter_eq_some_iff, Option.orElse_eq_orElse,
    Option.orElse_eq_or, Option.or_eq_some_iff, List.lookup_eq_some_iff] at found
  rcases found.1 with ⟨before, after, split, -⟩ | ⟨-, before, after, split, -⟩
  · exact ⟨.number w, by simp [split], .inl rfl⟩
  · exact ⟨.text (toString w).toList, by simp [split], .inr ⟨_, rfl⟩⟩

/-- The shipped profiles declare blocks for workers 1 and 2 at most. -/
theorem Admitted.le_two {profile : Profile} (shipped : profile ∈ shippedProfiles)
    {ports : List Text} {w : Int} (admitted : Admitted profile ports w) : 1 ≤ w ∧ w ≤ 2 := by
  obtain ⟨block, found⟩ := admitted.lookupBlock_isSome
  obtain ⟨key, declared, names⟩ := declared_of_lookupBlock found
  have keys : ∀ key ∈ profile.workers.map Prod.fst, key = .number 1 ∨ key = .number 2 := by
    simp only [shippedProfiles, List.map_cons, List.map_nil, List.mem_cons,
      List.not_mem_nil, or_false] at shipped
    rcases shipped with rfl | rfl | rfl | rfl | rfl <;> decide
  rcases names with rfl | ⟨text, rfl⟩
  · have number := keys _ declared
    simp only [WorkerKey.number.injEq] at number
    omega
  · simpa using keys _ declared

/-- The VLAN views of two workers are disjoint and within 2..4094 exactly when
neither number exceeds 4 and the pair is not 1 and 4; so they are for every two
numbers `worker_block` admits. -/
theorem vlanViews_separate_iff (profile : Profile) (shipped : profile ∈ shippedProfiles) :
    (∀ w w' : Int, 1 ≤ w → 1 ≤ w' → w ≠ w' →
      (Separate profile w w' ↔
        w ≤ 4 ∧ w' ≤ 4 ∧ ¬ (w = 1 ∧ w' = 4) ∧ ¬ (w = 4 ∧ w' = 1))) ∧
    ∀ (ports : List Text) (w w' : Int), Admitted profile ports w → Admitted profile ports w' →
      w ≠ w' → Separate profile w w' := by
  have characterization : ∀ w w' : Int, 1 ≤ w → 1 ≤ w' → w ≠ w' →
      (Separate profile w w' ↔
        w ≤ 4 ∧ w' ≤ 4 ∧ ¬ (w = 1 ∧ w' = 4) ∧ ¬ (w = 4 ∧ w' = 1)) := by
    intro w w' positive positive' distinct
    constructor
    · intro apart
      have atMost := le_four_of_inRange shipped apart.2.1
      have atMost' := le_four_of_inRange shipped apart.2.2
      exact ⟨atMost, atMost',
        (separate_iff_of_le_four shipped positive positive' distinct atMost atMost').mp apart⟩
    · rintro ⟨atMost, atMost', pair⟩
      exact (separate_iff_of_le_four shipped positive positive' distinct atMost atMost').mpr pair
  refine ⟨characterization, ?_⟩
  intro ports w w' admitted admitted' distinct
  have bounds := admitted.le_two shipped
  have bounds' := admitted'.le_two shipped
  exact (characterization w w' bounds.1 bounds'.1 distinct).mpr
    ⟨by omega, by omega, by omega, by omega⟩

/-- Worker 4's isolation VLAN 3990 is remapped to 3960, worker 1's CoPP VLAN. -/
theorem vlanViews_collide :
    ¬ ∀ profile ∈ shippedProfiles, ∀ w w' : Int, 1 ≤ w → 1 ≤ w' → w ≠ w' →
      Separate profile w w' := by
  intro always
  have apart := always (load none) (by simp [shippedProfiles]) 1 4 (by decide) (by decide)
    (by decide)
  exact apart.1 3960 (by decide) (by decide)

theorem vlanViews_separate_workers_one_two :
    load (some swA128Q) ∈ shippedProfiles ∧ Separate (load (some swA128Q)) 1 2 :=
  have shipped : load (some swA128Q) ∈ shippedProfiles := by simp [shippedProfiles]
  ⟨shipped, ((vlanViews_separate_iff _ shipped).1 1 2 (by decide) (by decide) (by decide)).mpr
    (by decide)⟩

end OnboxFvt.Worker
