import OnboxFvt.Hygiene.OrphanRows
import OnboxFvt.Sentinel.Fingerprint

/-!
# The guard of the role ports

`_port_l2_baseline_guard` of `conftest.py`: after every test the role ports that have become
routed during it are reset, other than those that a fixture of a module holds.
-/

namespace OnboxFvt.Hygiene

open Library Python

/-- The ports of the roles, in the order of the dictionary. -/
def roleNames (port? : Char → Option PortName) : List Text :=
  (("abcdefgh".toList.filterMap port?).map PortName.text).eraseDups

/-- The row of a port, or one of its addresses. -/
def IsRowOf (name key : Text) : Prop :=
  key = interfaceKey name ∨ interfaceKey name ++ ['|'] <+: key

instance (name key : Text) : Decidable (IsRowOf name key) :=
  inferInstanceAs (Decidable (_ ∨ _))

def ethernetKey : Text :=
  interfaceKey "Ethernet".toList

/-- `_routed_role_ports`. -/
def routedRolePorts (glob : Glob) (roles keys : List Text) : List Text :=
  let iface := keys.filter (glob.isMatch (ethernetKey ++ ['*']))
  roles.filter fun name => iface.any fun key => decide (IsRowOf name key)

/-- A test, as the guard sees it: whether the keys of CONFIG_DB can be listed before and after
it, the keys it leaves and the ports that are held then, and which rows of its port a reset
leaves. -/
structure GuardedTest where
  nodeid : Text
  listedBefore : Bool
  listedAfter : Bool
  keys : List Text
  held : List Text
  remains : Text → Bool

structure Guarded where
  keys : List Text
  sentinel : Sentinel.Session

/-- `reset_port_to_l2`, as to the rows of the port. -/
def resetPort (remains : Text → Bool) (keys : List Text) (name : Text) : List Text :=
  keys.filter fun key => !decide (IsRowOf name key) || remains key

section Guard

variable (glob : Glob) (port? : Char → Option PortName)

def drifted (keys : List Text) (test : GuardedTest) : List Text :=
  let pre := if test.listedBefore then routedRolePorts glob (roleNames port?) keys else []
  (routedRolePorts glob (roleNames port?) test.keys).filter fun name =>
    decide (name ∉ pre ∧ name ∉ test.held)

/-- A test between the two halves of the guard; `switchport` is `_sw`. -/
def guardTest (switchport : Bool) (state : Guarded) (test : GuardedTest) : Guarded :=
  if switchport && test.listedAfter then
    match drifted glob port? state.keys test with
    | [] => { state with keys := test.keys }
    | name :: rest =>
        { keys := (name :: rest).foldl (resetPort test.remains) test.keys
          sentinel := state.sentinel.recordHeal test.nodeid (name :: rest) }
  else { state with keys := test.keys }

/-- Fixtures of modules are set up and torn down between tests, outside the guard. -/
inductive GuardEvent
  | fixtures (keys : List Text)
  | test (test : GuardedTest)

def guardStep (switchport : Bool) (state : Guarded) : GuardEvent → Guarded
  | .fixtures keys => { state with keys := keys }
  | .test test => guardTest glob port? switchport state test

end Guard

/-! ## What is left routed -/

/-- The port has a row that the scan of the guard sees. -/
def Routed (keys : List Text) (name : Text) : Prop :=
  ∃ key ∈ keys, ethernetKey <+: key ∧ IsRowOf name key

namespace GuardEvent

def keys : GuardEvent → List Text
  | .fixtures keys => keys
  | .test guarded => guarded.keys

/-- The port is left routed whatever it was before. -/
def Excuses (port? : Char → Option PortName) (switchport : Bool) (name : Text) :
    GuardEvent → Prop
  | .fixtures _ => True
  | .test guarded => switchport = false ∨ guarded.listedAfter = false ∨
      name ∉ roleNames port? ∨ name ∈ guarded.held ∨
      ∃ key ∈ guarded.keys, (ethernetKey <+: key ∧ IsRowOf name key) ∧
        guarded.remains key = true

/-- The port is left routed if it was so before. -/
def Adopts : GuardEvent → Prop
  | .fixtures _ => True
  | .test guarded => guarded.listedBefore = true

end GuardEvent

/-! ## Rows -/

theorem IsRowOf.shape {name key : Text} (row : IsRowOf name key) :
    ∃ rest : Text, key = interfaceKey name ++ rest ∧ rest.takeWhile (· ≠ '|') = [] := by
  rcases row with rfl | ⟨rest, rfl⟩
  · exact ⟨[], (List.append_nil _).symm, rfl⟩
  · exact ⟨'|' :: rest, by simp, rfl⟩

/-- A row belongs to one port. -/
theorem IsRowOf.unique {first second : PortName} {key : Text} (row : IsRowOf first.text key)
    (row' : IsRowOf second.text key) : first.text = second.text := by
  obtain ⟨rest, rfl, stops⟩ := row.shape
  obtain ⟨rest', same, stops'⟩ := row'.shape
  have name : ∀ (port : PortName) (tail : Text), tail.takeWhile (· ≠ '|') = [] →
      (port.text ++ tail).takeWhile (· ≠ '|') = port.text := by
    intro port tail stop
    rw [List.takeWhile_append_of_pos fun c member => by
      simpa using fun bar : c = '|' => port.barless (bar ▸ member), stop, List.append_nil]
  have texts : first.text ++ rest = second.text ++ rest' := by
    simpa [interfaceKey] using same
  rw [← name first rest stops, texts, name second rest' stops']

theorem mem_roleNames {port? : Char → Option PortName} {name : Text}
    (member : name ∈ roleNames port?) : ∃ port : PortName, port.text = name := by
  rw [roleNames, List.mem_eraseDups] at member
  obtain ⟨port, -, same⟩ := List.mem_map.mp member
  exact ⟨port, same⟩

theorem mem_routedRolePorts {glob : Glob} {roles keys : List Text} {name : Text} :
    name ∈ routedRolePorts glob roles keys ↔ name ∈ roles ∧ Routed keys name := by
  have literal : Literal ethernetKey := literal_of_all (by decide)
  rw [routedRolePorts, List.mem_filter, List.any_eq_true]
  constructor
  · rintro ⟨role, key, member, row⟩
    obtain ⟨listed, passed⟩ := List.mem_filter.mp member
    exact ⟨role, key, listed, (glob.star literal key).mp passed, of_decide_eq_true row⟩
  · rintro ⟨role, key, listed, begins, row⟩
    exact ⟨role, key, List.mem_filter.mpr ⟨listed, (glob.star literal key).mpr begins⟩,
      decide_eq_true row⟩

theorem mem_drifted {glob : Glob} {port? : Char → Option PortName} {keys : List Text}
    {test : GuardedTest} {name : Text} :
    name ∈ drifted glob port? keys test ↔ (name ∈ roleNames port? ∧ Routed test.keys name) ∧
      ¬(test.listedBefore = true ∧ Routed keys name) ∧ name ∉ test.held := by
  rw [drifted, List.mem_filter, mem_routedRolePorts, decide_eq_true_eq]
  refine and_congr_right fun ⟨role, _⟩ => and_congr_left fun _ => ?_
  split
  next listed => rw [mem_routedRolePorts]; simp [listed, role]
  next unlisted => simp [unlisted]

/-! ## Resets -/

theorem mem_resetPorts {remains : Text → Bool} {names keys : List Text} {key : Text} :
    key ∈ names.foldl (resetPort remains) keys ↔
      key ∈ keys ∧ ∀ name ∈ names, IsRowOf name key → remains key = true := by
  induction names generalizing keys with
  | nil => simp
  | cons name rest inductionHypothesis =>
      rw [List.foldl_cons, inductionHypothesis, resetPort, List.mem_filter, List.forall_mem_cons,
        and_assoc]
      refine and_congr_right fun _ => and_congr_left fun _ => ?_
      rw [Bool.or_eq_true, Bool.not_eq_true', decide_eq_false_iff_not, ← imp_iff_not_or]

/-- A reset port is routed if a row of its own remains, another one if it was. -/
theorem routed_resetPorts {remains : Text → Bool} {names keys : List Text}
    (ports : ∀ name ∈ names, ∃ port : PortName, port.text = name) (port : PortName) :
    Routed (names.foldl (resetPort remains) keys) port.text ↔
      ∃ key ∈ keys, (ethernetKey <+: key ∧ IsRowOf port.text key) ∧
        (port.text ∈ names → remains key = true) := by
  constructor
  · rintro ⟨key, member, seen⟩
    obtain ⟨listed, kept⟩ := mem_resetPorts.mp member
    exact ⟨key, listed, seen, fun reset => kept port.text reset seen.2⟩
  · rintro ⟨key, listed, seen, kept⟩
    refine ⟨key, mem_resetPorts.mpr ⟨listed, fun name reset row => ?_⟩, seen⟩
    obtain ⟨other, rfl⟩ := ports name reset
    exact kept (row.unique seen.2 ▸ reset)

/-! ## One test -/

variable (glob : Glob) (port? : Char → Option PortName) (switchport : Bool)

theorem keys_guardTest {state : Guarded} {test : GuardedTest}
    (active : (switchport && test.listedAfter) = true) :
    (guardTest glob port? switchport state test).keys =
      (drifted glob port? state.keys test).foldl (resetPort test.remains) test.keys := by
  rw [guardTest, if_pos active]
  cases drifted glob port? state.keys test <;> rfl

theorem routed_guardStep (state : Guarded) (event : GuardEvent) (port : PortName) :
    Routed (guardStep glob port? switchport state event).keys port.text ↔
      Routed event.keys port.text ∧ (event.Excuses port? switchport port.text ∨
        event.Adopts ∧ Routed state.keys port.text) := by
  cases event with
  | fixtures keys => exact (and_iff_left (Or.inl trivial)).symm
  | test test =>
      rw [guardStep, GuardEvent.keys, GuardEvent.Excuses, GuardEvent.Adopts]
      by_cases active : (switchport && test.listedAfter) = true
      · rw [keys_guardTest glob port? switchport active, routed_resetPorts
          (fun name member => mem_roleNames (mem_drifted.mp member).1.1) port, mem_drifted]
        obtain ⟨on, listed⟩ := Bool.and_eq_true_iff.mp active
        constructor
        · rintro ⟨key, member, seen, kept⟩
          have routed : Routed test.keys port.text := ⟨key, member, seen⟩
          refine ⟨routed, ?_⟩
          by_cases role : port.text ∈ roleNames port?
          · by_cases held : port.text ∈ test.held
            · exact Or.inl (Or.inr (Or.inr (Or.inr (Or.inl held))))
            · by_cases adopted : test.listedBefore = true ∧ Routed state.keys port.text
              · exact Or.inr adopted
              · have left := kept ⟨⟨role, routed⟩, adopted, held⟩
                exact Or.inl (Or.inr (Or.inr (Or.inr (Or.inr ⟨key, member, seen, left⟩))))
          · exact Or.inl (Or.inr (Or.inr (Or.inl role)))
        · rintro ⟨⟨key, member, seen⟩, excuse⟩
          rcases excuse with (off | unlisted | other | held | ⟨own, inside, row, left⟩) | adopted
          · rw [on] at off
            cases off
          · rw [listed] at unlisted
            cases unlisted
          · exact ⟨key, member, seen, fun reset => absurd reset.1.1 other⟩
          · exact ⟨key, member, seen, fun reset => absurd held reset.2.2⟩
          · exact ⟨own, inside, row, fun _ => left⟩
          · exact ⟨key, member, seen, fun reset => absurd adopted reset.2.1⟩
      · rw [guardTest, if_neg active]
        have idle : switchport = false ∨ test.listedAfter = false :=
          Bool.and_eq_false_iff.mp (Bool.eq_false_iff.mpr active)
        exact (and_iff_left (Or.inl (idle.imp_right Or.inl))).symm

theorem heals_guardTest (state : Guarded) (test : GuardedTest) :
    (guardTest glob port? switchport state test).sentinel.heals =
      state.sentinel.heals ++
        if (switchport && test.listedAfter) = true ∧ drifted glob port? state.keys test ≠ [] then
          [(test.nodeid, drifted glob port? state.keys test)]
        else [] := by
  rw [guardTest]
  by_cases active : (switchport && test.listedAfter) = true
  · rw [if_pos active]
    cases found : drifted glob port? state.keys test with
    | nil => simp
    | cons name rest => simp [active, Sentinel.Session.recordHeal]
  · rw [if_neg active, if_neg fun both => active both.1, List.append_nil]

/-! ## A run of tests -/

/-- A port is left routed exactly if every test since has adopted it: since the beginning, where
it was routed, or since an event that left it routed with an excuse. -/
theorem left_routed_iff (state : Guarded) (events : List GuardEvent) (port : PortName) :
    Routed (events.foldl (guardStep glob port? switchport) state).keys port.text ↔
      ∃ before after, events = before ++ after ∧
        (∀ event ∈ after, event.Adopts ∧ Routed event.keys port.text) ∧
        (before = [] ∧ Routed state.keys port.text ∨
          ∃ earlier event, before = earlier ++ [event] ∧ Routed event.keys port.text ∧
            event.Excuses port? switchport port.text) := by
  induction events using List.reverseRecOn with
  | nil =>
      constructor
      · intro routed
        exact ⟨[], [], rfl, by simp, Or.inl ⟨rfl, routed⟩⟩
      · rintro ⟨before, after, split, -, first | ⟨earlier, event, rfl, -⟩⟩
        · exact first.2
        · simp at split
  | append_singleton events event inductionHypothesis =>
      rw [List.foldl_concat, routed_guardStep, inductionHypothesis]
      constructor
      · rintro ⟨routed, excused | ⟨adopts, before, after, rfl, adopted, since⟩⟩
        · exact ⟨events ++ [event], [], (List.append_nil _).symm, by simp,
            Or.inr ⟨events, event, rfl, routed, excused⟩⟩
        · refine ⟨before, after ++ [event], List.append_assoc .., ?_, since⟩
          intro other member
          rcases List.mem_append.mp member with old | new
          · exact adopted other old
          · rw [List.mem_singleton.mp new]
            exact ⟨adopts, routed⟩
      · rintro ⟨before, after, split, adopted, since⟩
        rcases List.eq_nil_or_concat after with rfl | ⟨middle, last, rfl⟩
        · rw [List.append_nil] at split
          rcases since with ⟨rfl, -⟩ | ⟨earlier, other, rfl, routed, excused⟩
          · simp at split
          · obtain ⟨-, same⟩ := List.append_inj' split rfl
            cases same
            exact ⟨routed, Or.inl excused⟩
        · rw [List.concat_eq_append, ← List.append_assoc] at split
          obtain ⟨rfl, same⟩ := List.append_inj' split rfl
          cases same
          rw [List.concat_eq_append] at adopted
          obtain ⟨adopts, routed⟩ := adopted event (by simp)
          exact ⟨routed, Or.inr ⟨adopts, before, middle, rfl,
            fun other member => adopted other (by simp [member]), since⟩⟩

/-- What is healed is recorded, with the test that left it. -/
theorem healed_iff (state : Guarded) (events : List GuardEvent) (heal : Text × List Text) :
    heal ∈ (events.foldl (guardStep glob port? switchport) state).sentinel.heals ↔
      heal ∈ state.sentinel.heals ∨ ∃ (earlier : List GuardEvent) (test : GuardedTest)
        (later : List GuardEvent), events = earlier ++ .test test :: later ∧
          (switchport && test.listedAfter) = true ∧ heal.1 = test.nodeid ∧ heal.2 ≠ [] ∧
            heal.2 = drifted glob port?
              (earlier.foldl (guardStep glob port? switchport) state).keys test := by
  induction events using List.reverseRecOn with
  | nil => simp
  | append_singleton events event inductionHypothesis =>
      have whole : heal ∈ ((events ++ [event]).foldl (guardStep glob port? switchport)
          state).sentinel.heals ↔
          heal ∈ (events.foldl (guardStep glob port? switchport) state).sentinel.heals ∨
            ∃ test : GuardedTest, event = .test test ∧
              (switchport && test.listedAfter) = true ∧ heal.1 = test.nodeid ∧ heal.2 ≠ [] ∧
              heal.2 = drifted glob port?
                (events.foldl (guardStep glob port? switchport) state).keys test := by
        rw [List.foldl_concat]
        cases event with
        | fixtures keys => simp [guardStep]
        | test test =>
            rw [guardStep, heals_guardTest, List.mem_append]
            refine or_congr_right ?_
            split
            next both =>
              rw [List.mem_singleton]
              constructor
              · rintro rfl
                exact ⟨test, rfl, both.1, rfl, both.2, rfl⟩
              · rintro ⟨other, same, -, name, -, ports⟩
                cases same
                exact Prod.ext name ports
            next idle =>
              refine ⟨fun member => absurd member List.not_mem_nil, ?_⟩
              rintro ⟨other, same, active, -, some, ports⟩
              cases same
              exact absurd ⟨active, ports ▸ some⟩ idle
      rw [whole, inductionHypothesis, or_assoc]
      refine or_congr_right ?_
      constructor
      · rintro (⟨earlier, test, later, rfl, healed⟩ | ⟨test, rfl, healed⟩)
        · exact ⟨earlier, test, later ++ [event], by simp, healed⟩
        · exact ⟨events, test, [], rfl, healed⟩
      · rintro ⟨earlier, test, later, split, healed⟩
        rcases List.eq_nil_or_concat later with rfl | ⟨middle, last, rfl⟩
        · obtain ⟨rfl, same⟩ := List.append_inj' split rfl
          cases same
          exact Or.inr ⟨test, rfl, healed⟩
        · rw [List.concat_eq_append, ← List.cons_append, ← List.append_assoc] at split
          obtain ⟨rfl, same⟩ := List.append_inj' split rfl
          exact Or.inl ⟨earlier, test, middle, rfl, healed⟩

end OnboxFvt.Hygiene
