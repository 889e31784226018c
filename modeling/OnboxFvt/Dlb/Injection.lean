import Mathlib.Tactic.SplitIfs
import OnboxFvt.Library.Run

/-!
# Raw injection next to orchagent and syncd

`Dlb._push` of `framework/dlb.py` polls two redis queues, pushes a request and
reaps the response, while orchagent and syncd use the same queues.  Every redis
command is an action of its own.  Both queues are consumed from the tail: a list
here has its oldest entry first.
-/

namespace OnboxFvt.Dlb

open Library

inductive Origin where
  | test
  | orchagent
  deriving DecidableEq

/-- `serial` tells the requests of a run apart. -/
structure Request where
  origin : Origin
  serial : Nat
  deriving DecidableEq

/-- One of the three list elements of a response. -/
structure Element where
  request : Request
  index : Fin 3
  deriving DecidableEq

def Request.response (request : Request) : List Element :=
  [⟨request, 0⟩, ⟨request, 1⟩, ⟨request, 2⟩]

/-- Where the test is: in `quiesce` between two `LLEN`, in `_push` or in
`_reap_response`.  `seen` counts the quiet rounds so far. -/
inductive TestPc where
  | idle
  | readOps (seen : Nat)
  | readResps (seen : Nat)
  | pushing
  | waiting (own : Request)
  | popping (own : Request) (left : Nat)
  deriving DecidableEq

/-- orchagent is synchronous: it waits for a response after each request. -/
inductive OrchagentPc where
  | idle
  | waiting
  deriving DecidableEq

/-- `reaped` logs the elements `_reap_response` removes, with the request it pushed. -/
structure World where
  ops : List Request
  resps : List Element
  syncd : Option Request
  orchagent : OrchagentPc
  test : TestPc
  issued : Nat
  reaped : List (Request × Element)
  deriving DecidableEq

inductive TestAction where
  | begin
  | readOps
  | readResps
  | giveUp
  | push
  | poll
  | timeout
  | pop
  deriving DecidableEq

inductive Action where
  | test (action : TestAction)
  | orchagentPush
  | orchagentPop
  | syncdTake
  | syncdRespond
  deriving DecidableEq

namespace World

/-- `stable` of `quiesce`. -/
def stable : Nat :=
  3

def testStep (world : World) : TestAction → Option World
  | .begin =>
      match world.test with
      | .idle => some { world with test := .readOps 0 }
      | _ => none
  | .readOps =>
      match world.test with
      | .readOps seen =>
          some { world with test := if world.ops = [] then .readResps seen else .readOps 0 }
      | _ => none
  | .readResps =>
      match world.test with
      | .readResps seen =>
          some { world with
            test :=
              if world.resps ≠ [] then .readOps 0
              else if seen + 1 ≥ stable then .pushing
              else .readOps (seen + 1) }
      | _ => none
  | .giveUp =>
      match world.test with
      | .readOps _ => some { world with test := .idle }
      | _ => none
  | .push =>
      match world.test with
      | .pushing =>
          let own : Request := { origin := .test, serial := world.issued }
          some { world with
            ops := world.ops ++ [own], issued := world.issued + 1, test := .waiting own }
      | _ => none
  | .poll =>
      match world.test with
      | .waiting own =>
          some { world with
            test := if world.resps.length ≥ 3 then .popping own 3 else .waiting own }
      | _ => none
  | .timeout =>
      match world.test with
      | .waiting _ => some { world with test := .idle }
      | _ => none
  | .pop =>
      match world.test with
      | .popping own (left + 1) =>
          let test := if left = 0 then .idle else .popping own left
          match world.resps with
          | [] => some { world with test := test }
          | element :: rest =>
              some { world with
                resps := rest, reaped := world.reaped ++ [(own, element)], test := test }
      | _ => none

/-- The consumers of orchagent and syncd take a whole record in one script, and syncd
pushes a response in one command. -/
def step (world : World) : Action → Option World
  | .test action => world.testStep action
  | .orchagentPush =>
      match world.orchagent with
      | .idle =>
          let own : Request := { origin := .orchagent, serial := world.issued }
          some { world with
            ops := world.ops ++ [own], issued := world.issued + 1, orchagent := .waiting }
      | .waiting => none
  | .orchagentPop =>
      match world.orchagent, world.resps with
      | .waiting, _ :: _ :: _ :: rest => some { world with resps := rest, orchagent := .idle }
      | _, _ => none
  | .syncdTake =>
      match world.syncd, world.ops with
      | none, request :: rest => some { world with ops := rest, syncd := some request }
      | _, _ => none
  | .syncdRespond =>
      match world.syncd with
      | some request =>
          some { world with resps := world.resps ++ request.response, syncd := none }
      | none => none

/-! ## What each step needs and does -/

variable {world next : World}

theorem testStep_begin :
    world.testStep .begin = some next ↔
      world.test = .idle ∧ { world with test := .readOps 0 } = next := by
  rw [testStep]
  split <;> simp_all

theorem testStep_readOps :
    world.testStep .readOps = some next ↔
      ∃ seen, world.test = .readOps seen ∧
        { world with test := if world.ops = [] then .readResps seen else .readOps 0 } = next := by
  rw [testStep]
  split <;> simp_all

theorem testStep_readResps :
    world.testStep .readResps = some next ↔
      ∃ seen, world.test = .readResps seen ∧
        { world with
          test :=
            if world.resps ≠ [] then .readOps 0
            else if seen + 1 ≥ stable then .pushing
            else .readOps (seen + 1) } = next := by
  rw [testStep]
  split <;> simp_all

theorem testStep_giveUp :
    world.testStep .giveUp = some next ↔
      ∃ seen, world.test = .readOps seen ∧ { world with test := .idle } = next := by
  rw [testStep]
  split <;> simp_all

theorem testStep_push :
    world.testStep .push = some next ↔
      world.test = .pushing ∧
        { world with
          ops := world.ops ++ [⟨.test, world.issued⟩]
          issued := world.issued + 1
          test := .waiting ⟨.test, world.issued⟩ } = next := by
  rw [testStep]
  split <;> simp_all

theorem testStep_poll :
    world.testStep .poll = some next ↔
      ∃ own, world.test = .waiting own ∧
        { world with
          test := if world.resps.length ≥ 3 then .popping own 3 else .waiting own } = next := by
  rw [testStep]
  split <;> simp_all

theorem testStep_timeout :
    world.testStep .timeout = some next ↔
      ∃ own, world.test = .waiting own ∧ { world with test := .idle } = next := by
  rw [testStep]
  split <;> simp_all

/-- A pop from an empty queue takes nothing. -/
theorem testStep_pop (stepped : world.testStep .pop = some next) :
    ∃ own left, world.test = .popping own (left + 1) ∧
      (world.resps = [] ∨
        ∃ element rest, world.resps = element :: rest ∧
          { world with
            resps := rest
            reaped := world.reaped ++ [(own, element)]
            test := if left = 0 then .idle else .popping own left } = next) := by
  rw [testStep] at stepped
  split at stepped
  next own left here =>
    refine ⟨own, left, here, ?_⟩
    cases resps : world.resps with
    | nil => exact Or.inl rfl
    | cons element rest =>
        simp only [resps] at stepped
        exact Or.inr ⟨element, rest, rfl, Option.some.inj stepped⟩
  next => cases stepped

theorem step_orchagentPush :
    world.step .orchagentPush = some next ↔
      world.orchagent = .idle ∧
        { world with
          ops := world.ops ++ [⟨.orchagent, world.issued⟩]
          issued := world.issued + 1
          orchagent := .waiting } = next := by
  rw [step]
  split <;> simp_all

theorem step_orchagentPop (stepped : world.step .orchagentPop = some next) :
    ∃ first second third rest, world.resps = first :: second :: third :: rest ∧
      { world with resps := rest, orchagent := .idle } = next := by
  rw [step] at stepped
  split at stepped
  next first second third rest _ resps =>
    exact ⟨first, second, third, rest, resps, Option.some.inj stepped⟩
  next => cases stepped

theorem step_syncdTake (stepped : world.step .syncdTake = some next) :
    ∃ request rest, world.syncd = none ∧ world.ops = request :: rest ∧
      { world with ops := rest, syncd := some request } = next := by
  rw [step] at stepped
  split at stepped
  next request rest idle ops => exact ⟨request, rest, idle, ops, Option.some.inj stepped⟩
  next => cases stepped

theorem step_syncdRespond :
    world.step .syncdRespond = some next ↔
      ∃ request, world.syncd = some request ∧
        { world with resps := world.resps ++ request.response, syncd := none } = next := by
  rw [step]
  split <;> simp_all

end World

def machine : Machine World Action where
  step := World.step

/-! ## What is outstanding -/

/-- What the test has yet to reap of its own response. -/
def TestPc.due : TestPc → List Element
  | .waiting own => own.response
  | .popping own left => own.response.drop (3 - left)
  | _ => []

/-- The responses that are in the queue or will be, oldest first. -/
def World.outstanding (world : World) : List Element :=
  world.resps ++ world.syncd.toList.flatMap Request.response ++
    world.ops.flatMap Request.response

/-- Nothing is outstanding when the test pushes, and orchagent takes no response while an
injection is under way. -/
def Undisturbed (world : World) : Action → Prop
  | .test .push => world.outstanding = []
  | .orchagentPop => world.test.due = []
  | _ => True

structure Quiescent (world : World) : Prop where
  test : world.test = .idle
  orchagent : world.orchagent = .idle
  syncd : world.syncd = none
  ops : world.ops = []

/-- A world in which the test has not injected anything yet. -/
structure Start (world : World) : Prop where
  test : world.test = .idle
  reaped : world.reaped = []
  aligned : 3 ∣ world.resps.length

/-- The response due to the test is the oldest one outstanding, and all others in the
queue are whole. -/
structure Exact (world : World) : Prop where
  reaped : ∀ entry ∈ world.reaped, entry.2.request = entry.1 ∧ entry.1.origin = .test
  due : world.test.due <+: world.outstanding
  aligned : 3 ∣ world.resps.length + (3 - world.test.due.length)
  waiting : ∀ own, world.test = .waiting own → own.origin = .test
  popping : ∀ own left, world.test = .popping own left →
    own.origin = .test ∧ 1 ≤ left ∧ left ≤ 3 ∧ left ≤ world.resps.length

/-! ## Steps of the test -/

variable {world next : World}

theorem Exact.aligned_of_no_due (exact : Exact world) (none : world.test.due = []) :
    3 ∣ world.resps.length := by
  have aligned := exact.aligned
  rw [none, List.length_nil] at aligned
  omega

/-- The test goes where nothing is due to it. -/
theorem Exact.leave (exact : Exact world) (aligned : 3 ∣ world.resps.length) {test : TestPc}
    (none : test.due = []) (waiting : ∀ own, test ≠ .waiting own)
    (popping : ∀ own left, test ≠ .popping own left) : Exact { world with test := test } := by
  refine ⟨exact.reaped, ?_, ?_, fun own here => absurd here (waiting own),
    fun own left here => absurd here (popping own left)⟩
  · rw [none]
    exact List.nil_prefix
  · rw [none]
    change 3 ∣ world.resps.length + (3 - 0)
    omega

theorem Exact.push (exact : Exact world) (here : world.test = .pushing)
    (undisturbed : world.outstanding = []) (own : Request) (origin : own.origin = .test)
    (issued : Nat) :
    Exact { world with ops := world.ops ++ [own], issued := issued, test := .waiting own } := by
  have aligned := exact.aligned_of_no_due (by rw [here]; rfl)
  refine ⟨exact.reaped, ?_, by simpa [TestPc.due, Request.response] using aligned, ?_, ?_⟩
  · have responses : ({ world with
          ops := world.ops ++ [own], issued := issued, test := .waiting own } :
          World).outstanding = world.outstanding ++ own.response := by
      simp [World.outstanding, List.append_assoc]
    rw [responses, undisturbed, List.nil_append]
    exact List.prefix_rfl
  · rintro other ⟨⟩
    exact origin
  · rintro other left ⟨⟩

theorem due_popping_succ (own : Request) {left : Nat} (bound : left + 1 ≤ 3) :
    ∃ element : Element, element.request = own ∧
      (TestPc.popping own (left + 1)).due = element :: (TestPc.popping own left).due := by
  match left, bound with
  | 0, _ => exact ⟨⟨own, 2⟩, rfl, rfl⟩
  | 1, _ => exact ⟨⟨own, 1⟩, rfl, rfl⟩
  | 2, _ => exact ⟨⟨own, 0⟩, rfl, rfl⟩

theorem length_due_popping (own : Request) {left : Nat} (bound : left ≤ 3) :
    (TestPc.popping own left).due.length = left := by
  rw [TestPc.due, List.length_drop, Request.response]
  simp only [List.length_cons, List.length_nil]
  omega

theorem Exact.pop (exact : Exact world) {own : Request} {left : Nat}
    (here : world.test = .popping own (left + 1)) {element : Element} {rest : List Element}
    (resps : world.resps = element :: rest) :
    Exact { world with
      resps := rest
      reaped := world.reaped ++ [(own, element)]
      test := if left = 0 then .idle else .popping own left } := by
  obtain ⟨origin, _, bound, enough⟩ := exact.popping own (left + 1) here
  have due := exact.due
  have aligned := exact.aligned
  have after : (if left = 0 then TestPc.idle else .popping own left).due =
      (TestPc.popping own left).due := by
    split
    next last => subst last; rfl
    next => rfl
  obtain ⟨first, owned, popped⟩ := due_popping_succ own bound
  rw [here, popped, World.outstanding, resps, List.append_assoc, List.cons_append,
    List.cons_prefix_cons] at due
  rw [here, length_due_popping own bound, resps, List.length_cons] at aligned
  rw [resps, List.length_cons] at enough
  refine ⟨?_, ?_, ?_, ?_, ?_⟩
  · intro entry member
    rcases List.mem_append.mp member with old | new
    · exact exact.reaped entry old
    · cases List.mem_singleton.mp new
      exact ⟨due.1 ▸ owned, origin⟩
  · rw [after, World.outstanding, List.append_assoc]
    exact due.2
  · rw [after, length_due_popping own (by omega)]
    change 3 ∣ rest.length + (3 - left)
    omega
  · intro other waiting
    split at waiting <;> cases waiting
  · intro other more popping
    split at popping
    next => cases popping
    next going =>
      cases popping
      have remaining : left ≤ rest.length := by omega
      exact ⟨origin, by omega, by omega, remaining⟩

theorem Exact.poll (exact : Exact world) {own : Request} (here : world.test = .waiting own) :
    Exact { world with
      test := if world.resps.length ≥ 3 then .popping own 3 else .waiting own } := by
  have origin := exact.waiting own here
  have due : (if world.resps.length ≥ 3 then TestPc.popping own 3 else .waiting own).due =
      world.test.due := by
    rw [here]
    split <;> rfl
  refine ⟨exact.reaped, ?_, ?_, ?_, ?_⟩
  · rw [due]
    exact exact.due
  · rw [due]
    exact exact.aligned
  · intro other waiting
    split at waiting
    next => cases waiting
    next => cases waiting; exact origin
  · intro other left popping
    split at popping
    next enough => cases popping; exact ⟨origin, by decide, by decide, enough⟩
    next => cases popping

theorem Exact.test (exact : Exact world) {action : TestAction}
    (stepped : world.testStep action = some next) (undisturbed : Undisturbed world (.test action)) :
    Exact next := by
  cases action with
  | begin =>
      obtain ⟨here, rfl⟩ := World.testStep_begin.mp stepped
      exact exact.leave (exact.aligned_of_no_due (by rw [here]; rfl)) rfl (by simp) (by simp)
  | readOps =>
      obtain ⟨seen, here, rfl⟩ := World.testStep_readOps.mp stepped
      refine exact.leave (exact.aligned_of_no_due (by rw [here]; rfl)) ?_ ?_ ?_ <;>
        split <;> simp [TestPc.due]
  | readResps =>
      obtain ⟨seen, here, rfl⟩ := World.testStep_readResps.mp stepped
      refine exact.leave (exact.aligned_of_no_due (by rw [here]; rfl)) ?_ ?_ ?_ <;>
        split_ifs <;> simp [TestPc.due]
  | giveUp =>
      obtain ⟨seen, here, rfl⟩ := World.testStep_giveUp.mp stepped
      exact exact.leave (exact.aligned_of_no_due (by rw [here]; rfl)) rfl (by simp) (by simp)
  | push =>
      obtain ⟨here, rfl⟩ := World.testStep_push.mp stepped
      exact exact.push here undisturbed _ rfl _
  | poll =>
      obtain ⟨own, here, rfl⟩ := World.testStep_poll.mp stepped
      exact exact.poll here
  | timeout =>
      obtain ⟨own, here, rfl⟩ := World.testStep_timeout.mp stepped
      have aligned := exact.aligned
      rw [here] at aligned
      exact exact.leave aligned rfl (by simp) (by simp)
  | pop =>
      obtain ⟨own, left, here, empty | ⟨element, rest, resps, rfl⟩⟩ := World.testStep_pop stepped
      · have enough := (exact.popping own (left + 1) here).2.2.2
        rw [empty] at enough
        exact absurd enough (by simp)
      · exact exact.pop here resps

/-! ## Steps of orchagent and syncd -/

/-- A step that leaves the test alone and only appends to what is outstanding. -/
theorem Exact.append (exact : Exact world) (test : next.test = world.test)
    (reaped : next.reaped = world.reaped) (outstanding : world.outstanding <+: next.outstanding)
    (aligned : 3 ∣ world.resps.length + (3 - world.test.due.length) →
      3 ∣ next.resps.length + (3 - world.test.due.length))
    (longer : world.resps.length ≤ next.resps.length) : Exact next := by
  refine ⟨?_, ?_, ?_, ?_, ?_⟩
  · rw [reaped]
    exact exact.reaped
  · rw [test]
    exact exact.due.trans outstanding
  · rw [test]
    exact aligned exact.aligned
  · rw [test]
    exact exact.waiting
  · rw [test]
    intro own left here
    obtain ⟨origin, positive, bound, enough⟩ := exact.popping own left here
    exact ⟨origin, positive, bound, Nat.le_trans enough longer⟩

/-- orchagent takes a whole response, while none is due to the test. -/
theorem Exact.orchagentPop (exact : Exact world) (none : world.test.due = [])
    {first second third : Element} {rest : List Element}
    (resps : world.resps = first :: second :: third :: rest) :
    Exact { world with resps := rest, orchagent := .idle } := by
  have aligned := exact.aligned_of_no_due none
  rw [resps, List.length_cons, List.length_cons, List.length_cons] at aligned
  refine ⟨exact.reaped, ?_, ?_, exact.waiting, ?_⟩
  · rw [none]
    exact List.nil_prefix
  · rw [none]
    change 3 ∣ rest.length + (3 - 0)
    omega
  · intro own left here
    obtain ⟨_, positive, bound, _⟩ := exact.popping own left here
    have length := length_due_popping own bound
    rw [← here, none, List.length_nil] at length
    omega

theorem Exact.step (exact : Exact world) {action : Action}
    (undisturbed : Undisturbed world action) (stepped : machine.step world action = some next) :
    Exact next := by
  simp only [machine] at stepped
  cases action with
  | test action => exact exact.test stepped undisturbed
  | orchagentPush =>
      obtain ⟨_, rfl⟩ := World.step_orchagentPush.mp stepped
      refine exact.append rfl rfl ?_ id (Nat.le_refl _)
      simp [World.outstanding, ← List.append_assoc]
  | orchagentPop =>
      obtain ⟨first, second, third, rest, resps, rfl⟩ := World.step_orchagentPop stepped
      exact exact.orchagentPop undisturbed resps
  | syncdTake =>
      obtain ⟨request, rest, idle, ops, rfl⟩ := World.step_syncdTake stepped
      refine exact.append rfl rfl ?_ id (Nat.le_refl _)
      simp [World.outstanding, idle, ops]
  | syncdRespond =>
      obtain ⟨request, busy, rfl⟩ := World.step_syncdRespond.mp stepped
      refine exact.append rfl rfl ?_ ?_ ?_
      · simp [World.outstanding, busy]
      · intro aligned
        simp only [List.length_append, Request.response, List.length_cons, List.length_nil]
        omega
      · simp

/-! ## Runs -/

theorem Exact.start {world : World} (start : Start world) : Exact world := by
  refine ⟨?_, ?_, ?_, ?_, ?_⟩
  · simp [start.reaped]
  · rw [start.test]
    exact List.nil_prefix
  · have aligned := start.aligned
    rw [start.test]
    change 3 ∣ world.resps.length + (3 - 0)
    omega
  · simp [start.test]
  · simp [start.test]

/-- In every run in which nothing is outstanding at an injection and orchagent takes no
response during one, each reap removes its own response, and only whole ones are left. -/
theorem injections_reap_their_own (start : World) (started : Start start) (actions : List Action)
    (world : World) (undisturbed : machine.Along Undisturbed start actions)
    (reached : machine.run start actions = some world) :
    (∀ entry ∈ world.reaped, entry.2.request = entry.1 ∧ entry.1.origin = .test) ∧
      (Quiescent world → 3 ∣ world.resps.length) := by
  have exact : Exact world :=
    machine.invariant_of_run (fun exact undisturbed stepped => exact.step undisturbed stepped)
      (Exact.start started) undisturbed reached
  refine ⟨exact.reaped, fun quiescent => exact.aligned_of_no_due ?_⟩
  rw [quiescent.test]
  rfl

def empty : World where
  ops := []
  resps := []
  syncd := none
  orchagent := .idle
  test := .idle
  issued := 0
  reaped := []

theorem start_empty : Start empty :=
  ⟨rfl, rfl, by decide⟩

/-- `quiesce` on queues that stay empty. -/
def quiesced : List Action :=
  [.test .begin, .test .readOps, .test .readResps, .test .readOps, .test .readResps,
    .test .readOps, .test .readResps]

/-- syncd answers, and the test reaps the three elements it finds. -/
def answeredAndReaped : List Action :=
  [.syncdTake, .syncdRespond, .test .poll, .test .pop, .test .pop, .test .pop]

theorem injection_reaps_its_own :
    ∃ world, machine.run empty (quiesced ++ .test .push :: answeredAndReaped) = some world ∧
      (∀ entry ∈ world.reaped, entry.2.request = entry.1 ∧ entry.1.origin = .test) ∧
      (Quiescent world → 3 ∣ world.resps.length) := by
  refine ⟨_, rfl, injections_reap_their_own empty start_empty
    (quiesced ++ .test .push :: answeredAndReaped) _ ?_ rfl⟩
  refine machine.along_append (machine.along_of_forall (by simp [quiesced, Undisturbed]) _) ?_
  intro world reached
  cases reached
  refine ⟨rfl, fun next _ => machine.along_of_forall ?_ next⟩
  simp [answeredAndReaped, Undisturbed]

/-- orchagent pushes between the last quiet poll and the push: the test reaps its response. -/
theorem injection_reaps_response_of_orchagent :
    ¬ ∀ (actions : List Action) (world : World), machine.run empty actions = some world →
      (∀ entry ∈ world.reaped, entry.2.request = entry.1 ∧ entry.1.origin = .test) ∧
        (Quiescent world → 3 ∣ world.resps.length) := by
  intro always
  have reaped := (always (quiesced ++ .orchagentPush :: .test .push :: answeredAndReaped) _
    rfl).1
  revert reaped
  decide

end OnboxFvt.Dlb
