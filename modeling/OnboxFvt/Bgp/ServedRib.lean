import OnboxFvt.Bgp.Lockstep

/-!
# The routes a test asks for

What the calls of a test intend for a prefix is what its last call says of it, or the
`advertise` list it started the speaker with.  The RIB of the other side comes to that.
-/

namespace OnboxFvt.Bgp

open Library Python

section Intent

variable {Pfx Hop : Type} [DecidableEq Pfx]

/-- What a test that starts with `advertise` and makes the calls wants of a prefix. -/
def intended (advertise : List (Pfx × Hop)) (calls : List (Call Pfx Hop)) (pfx : Pfx) :
    Option Hop :=
  match calls.reverse.find? fun call => call.pfx = pfx with
  | some call => call.nexthop?
  | none => lastEntry advertise pfx

theorem intended_concat (advertise : List (Pfx × Hop)) (calls : List (Call Pfx Hop))
    (call : Call Pfx Hop) (pfx : Pfx) :
    intended advertise (calls ++ [call]) pfx =
      if pfx = call.pfx then call.nexthop? else intended advertise calls pfx := by
  rw [intended, List.reverse_concat]
  by_cases own : pfx = call.pfx
  · rw [List.find?_cons_of_pos (by simpa using own.symm), if_pos own]
  · rw [List.find?_cons_of_neg (by simpa using Ne.symm own), if_neg own, intended]

variable {Key : Type} [DecidableEq Key] {nlri : Pfx → Key}

theorem lastEntry_table (injective : Function.Injective nlri) (entries : List (Pfx × Hop))
    (pfx : Pfx) : lastEntry (table nlri entries) (nlri pfx) = lastEntry entries pfx := by
  induction entries using List.reverseRecOn with
  | nil => rfl
  | append_singleton rest entry inductionHypothesis =>
      have step : table nlri (rest ++ [entry]) = table nlri rest ++ [(nlri entry.1, entry.2)] :=
        List.map_append
      rw [step, lastEntry_concat, lastEntry_concat, inductionHypothesis]
      simp only [injective.eq_iff]

/-- The `advertise` list of the peer says of a prefix what the calls intend. -/
theorem lastEntry_executed (injective : Function.Injective nlri) (advertise : List (Pfx × Hop))
    (calls : List (Call Pfx Hop)) (pfx : Pfx) :
    lastEntry (table nlri (executed advertise calls)) (nlri pfx) =
      intended advertise calls pfx := by
  induction calls using List.reverseRecOn with
  | nil => exact lastEntry_table injective advertise pfx
  | append_singleton rest call inductionHypothesis =>
      have step : executed advertise (rest ++ [call]) = call.update (executed advertise rest) :=
        List.foldl_concat ..
      rw [step, table_update injective, intended_concat, inductionHypothesis]
      simp only [injective.eq_iff]

end Intent

/-! ## Runs -/

section Runs

variable {Pfx Hop Key : Type} [DecidableEq Key] {nlri : Pfx → Key}
  {served next : Served Pfx Hop}

/-- No send or connect of the process fails. -/
def ServedAction.Succeeds : ServedAction Pfx Hop → Prop
  | .thread action => (Action.thread action : Action Pfx Hop).Succeeds
  | .serve (.send ok) => ok = true
  | _ => True

/-- `InOrder` for the sends of the process. -/
def ServedInOrder (nlri : Pfx → Key) (served : Served Pfx Hop) : ServedAction Pfx Hop → Prop
  | .serve (.send ok) => InOrder nlri served.session (.caller (.send ok))
  | _ => True

variable [DecidableEq Pfx] [DecidableEq Hop] {prefixes : Spelling Pfx} {hops : Spelling Hop}

omit [DecidableEq Hop] in
theorem obey_converging (injective : Function.Injective nlri) {rest : Text}
    {command : Command Pfx Hop} (converging : Converging nlri served.session)
    (obeyed : served.obey rest command = some next) : Converging nlri next.session := by
  cases command with
  | call call =>
      obtain ⟨session, moved, rfl⟩ := Option.map_eq_some_iff.mp obeyed
      exact converging.caller injective moved trivial trivial
  | skip => cases obeyed; exact converging
  | quit => cases obeyed; exact converging
  | unknown => cases obeyed; exact converging

theorem serve_converging (injective : Function.Injective nlri) {action : ServeAction}
    (converging : Converging nlri served.session)
    (stepped : served.serveStep prefixes hops action = some next)
    (succeeds : (ServedAction.serve action : ServedAction Pfx Hop).Succeeds)
    (ordered : ServedInOrder nlri served (.serve action)) : Converging nlri next.session := by
  cases action with
  | status error =>
      rw [Served.serveStep] at stepped
      split at stepped
      next => cases stepped; exact converging
      next => cases stepped
  | read =>
      rw [Served.serveStep] at stepped
      split at stepped
      next =>
        obtain ⟨parts, _, taken⟩ := Option.bind_eq_some_iff.mp stepped
        obtain ⟨command, _, obeyed⟩ := Option.bind_eq_some_iff.mp taken
        exact obey_converging injective converging obeyed
      next => cases stepped
  | check =>
      rw [Served.serveStep] at stepped
      split at stepped
      next =>
        obtain ⟨session, moved, rfl⟩ := Option.map_eq_some_iff.mp stepped
        exact converging.caller injective moved trivial trivial
      next => cases stepped
  | send ok =>
      rw [Served.serveStep] at stepped
      split at stepped
      next =>
        obtain ⟨session, moved, rfl⟩ := Option.map_eq_some_iff.mp stepped
        exact converging.caller injective moved succeeds ordered
      next => cases stepped
  | reply =>
      rw [Served.serveStep] at stepped
      split at stepped
      next => cases stepped; exact converging
      next => cases stepped
  | stop =>
      rw [Served.serveStep] at stepped
      split at stepped
      next =>
        obtain ⟨session, moved, rfl⟩ := Option.map_eq_some_iff.mp stepped
        exact converging.caller injective moved trivial trivial
      next => cases stepped

omit [DecidableEq Pfx] [DecidableEq Hop] in
theorem parent_session {action : ParentAction Pfx Hop}
    (stepped : served.parentStep prefixes hops action = some next) :
    next.session = served.session := by
  cases action <;> rw [Served.parentStep] at stepped
  case start =>
    split at stepped
    next => obtain ⟨_, _, rfl⟩ := Option.map_eq_some_iff.mp stepped; rfl
    next => cases stepped
  case answer =>
    split at stepped
    next => obtain ⟨_, _, rfl⟩ := Option.map_eq_some_iff.mp stepped; rfl
    next => cases stepped
  case call =>
    split at stepped
    next => cases stepped; rfl
    next =>
      split at stepped
      next => split at stepped <;> cases stepped <;> rfl
      next => cases stepped
  all_goals
    split at stepped
    next => cases stepped; rfl
    next => cases stepped

/-- What the session of the process promises the other side is kept by every step. -/
theorem step_converging (injective : Function.Injective nlri) {action : ServedAction Pfx Hop}
    (converging : Converging nlri served.session)
    (stepped : (serving prefixes hops).step served action = some next)
    (succeeds : action.Succeeds) (ordered : ServedInOrder nlri served action) :
    Converging nlri next.session := by
  cases action with
  | thread action =>
      change served.threadStep action = some next at stepped
      rw [Served.threadStep] at stepped
      split at stepped
      next => cases stepped
      next =>
        obtain ⟨session, moved, rfl⟩ := Option.map_eq_some_iff.mp stepped
        exact converging.thread moved succeeds
  | serve action => exact serve_converging injective converging stepped succeeds ordered
  | parent action => rwa [parent_session stepped]

end Runs

/-- When the test has started the speaker and no call of it is under way, the RIB of a settled
session has for every prefix what the calls of the test intend, if nothing failed to be sent
and no call overtook an older entry of its prefix in the initial burst. -/
theorem served_rib_intended (advertise : List (CanonicalPrefix × Ipv4))
    (first served : TestSystem) (actions : List TestAction)
    (launched : launch? prefixSpelling addressSpelling advertise = some first)
    (delivered : ∀ action ∈ actions, action.Succeeds)
    (ordered : testing.Along (ServedInOrder nlriOf) first actions)
    (reached : testing.run first actions = some served)
    (started : served.started = some true) (idle : served.parent = .idle)
    (established : served.session.established = true)
    (calm : ¬ served.session.pc.Bursting) (pfx : CanonicalPrefix) :
    served.session.rib nlriOf (nlriOf pfx) = intended advertise served.issued pfx := by
  have stage := Stage.reached launched reached
  have initially : Converging nlriOf first.session := by
    rw [launch?_eq] at launched
    cases launched
    exact Converging.initial advertise
  have kept : ∀ {before : TestSystem} {action : TestAction} {after : TestSystem},
      Converging nlriOf before.session →
      action.Succeeds ∧ ServedInOrder nlriOf before action →
      testing.step before action = some after → Converging nlriOf after.session :=
    fun converging allowed stepped =>
      step_converging prefix2nlri_injective converging stepped allowed.1 allowed.2
  have converging : Converging nlriOf served.session :=
    testing.invariant_of_run kept initially (testing.along_and delivered ordered) reached
  cases stage with
  | idle parent serve stdin stdout done =>
      rw [converging.settled ⟨established, done.idle, calm⟩, Session.view, done.all]
      exact lastEntry_executed prefix2nlri_injective advertise served.issued pfx
  | failed serve unread failure =>
      have begun : served.parent ≠ .starting := by rw [idle]; decide
      rw [failure begun] at started
      cases started
  | _ => simp_all

theorem served_rib_intended_withdrawn :
    ∃ served, testing.run (Served.spawned [(lanPrefix, lanHop)]) (calledUp ++ answeredUp) =
        some served ∧
      served.session.rib nlriOf (nlriOf lanPrefix) =
        intended [(lanPrefix, lanHop)] served.issued lanPrefix := by
  have summary : (testing.run (Served.spawned [(lanPrefix, lanHop)])
      (calledUp ++ answeredUp)).map (fun served =>
        (served.started, served.parent, served.session.established, served.session.pc)) =
      some (some true, .idle, true, .loop) := by
    decide +kernel
  obtain ⟨served, reached, facts⟩ := Option.map_eq_some_iff.mp summary
  simp only [Prod.mk.injEq] at facts
  obtain ⟨started, idle, established, pc⟩ := facts
  refine ⟨served, reached, served_rib_intended [(lanPrefix, lanHop)] _ served
    (calledUp ++ answeredUp) (launch?_eq _) ?_ ?_ reached started idle established ?_ lanPrefix⟩
  · simp [calledUp, answeredUp, ServedAction.Succeeds, Action.Succeeds]
  · refine testing.along_append (testing.along_of_forall ?_ _) ?_
    · simp [calledUp, ServedInOrder]
    · intro middle called
      have before : (testing.run (Served.spawned [(lanPrefix, lanHop)]) calledUp).map
          (fun served => (served.session.established, served.session.pc)) =
          some (true, .loop) := by
        decide +kernel
      rw [called] at before
      have places := Option.some_inj.mp before
      simp only [Prod.mk.injEq] at places
      have unsent : middle.session.unsent = [] := by
        rw [unsent_of_calm (by simp [places.2, Pc.Bursting]), places.1]
        rfl
      refine ⟨fun _ _ => Or.inl ?_, fun _ _ => ⟨trivial, fun _ _ => ⟨trivial, fun _ _ => trivial⟩⟩⟩
      rw [unsent]
      rfl
  · simp [pc, Pc.Bursting]

end OnboxFvt.Bgp
