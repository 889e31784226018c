import OnboxFvt.Bgp.Serving

/-!
# One line at a time

Where the test and its speaker stand tells what is in the pipes and which calls the peer
has carried out.
-/

namespace OnboxFvt.Bgp

open Library Python

variable {Pfx Hop : Type} {prefixes : Spelling Pfx} {hops : Spelling Hop}

/-! ## Lines -/

theorem cut?_line {text : Text} (whole : '\n' ∉ text) :
    cut? ['\n'] (Served.line text) = some (text, []) :=
  cut?_separator whole []

/-- The first line of a failure is never the one of a session that is up. -/
theorem strip_failed {error line rest : Text}
    (cut : cut? ['\n'] (Served.line (statusLine (some error))) = some (line, rest)) :
    strip line ≠ "ESTABLISHED".toList := by
  intro same
  have written : line ++ ['\n'] ++ rest = 'F' :: ("AILED ".toList ++ error ++ ['\n']) :=
    (cut?_eq_some cut).symm
  obtain ⟨front, back, whole, blank, -⟩ := strip_split line
  rw [same] at whole
  cases front with
  | nil =>
      rw [whole] at written
      have first : some 'E' = some 'F' := congrArg List.head? written
      exact absurd first (by decide)
  | cons c others =>
      rw [whole] at written
      have first : c = 'F' := (List.cons.inj written).1
      have space := blank c (List.mem_cons_self ..)
      rw [first] at space
      exact absurd space (by decide)

section Stages

variable [DecidableEq Pfx] [DecidableEq Hop]

theorem thread_keeps {session next : Session Pfx Hop} {action : ThreadAction}
    (stepped : session.thread action = some next) :
    next.advertise = session.advertise ∧ next.client = session.client := by
  cases thread_cases stepped with
  | quiet quiet => exact ⟨quiet.advertise, quiet.client⟩
  | receive msg here same =>
      obtain ⟨_, _, client, advertise, _, _⟩ := session.handle_phase msg
      rw [same]
      exact ⟨advertise, client⟩
  | burst ok entry rest here same =>
      rw [same]
      exact ⟨session.write_advertise ok _, session.write_client ok _⟩
  | connect here same => rw [same]; exact ⟨rfl, rfl⟩
  | establish here same => rw [same]; exact ⟨rfl, rfl⟩
  | snapshot here same => rw [same]; exact ⟨rfl, rfl⟩
  | burstDone here same => rw [same]; exact ⟨rfl, rfl⟩
  | clear here same => rw [same]; exact ⟨rfl, rfl⟩

/-- The `advertise` list once the calls have been carried out in order. -/
def executed (advertise : List (Pfx × Hop)) (calls : List (Call Pfx Hop)) : List (Pfx × Hop) :=
  calls.foldl Call.update advertise

/-- The peer has carried out every call issued. -/
structure Done (advertise : List (Pfx × Hop)) (served : Served Pfx Hop) : Prop where
  idle : served.session.client = .idle
  all : served.session.advertise = executed advertise served.issued

/-- Where the two sides can be together. -/
inductive Stage (prefixes : Spelling Pfx) (hops : Spelling Hop) (advertise : List (Pfx × Hop))
    (served : Served Pfx Hop) : Prop where
  | waiting (parent : served.parent = .starting) (serve : served.serve = .waiting)
      (stdin : served.stdin = []) (stdout : served.stdout = []) (done : Done advertise served)
  | announced (parent : served.parent = .starting) (serve : served.serve = .reading)
      (stdin : served.stdin = []) (stdout : served.stdout = Served.line (statusLine none))
      (done : Done advertise served)
  | idle (parent : served.parent = .idle) (serve : served.serve = .reading)
      (stdin : served.stdin = []) (stdout : served.stdout = []) (done : Done advertise served)
  | asked (call : Call Pfx Hop) (before : List (Call Pfx Hop))
      (parent : served.parent = .awaiting) (serve : served.serve = .reading)
      (stdin : served.stdin = Served.line (callLine prefixes hops call))
      (stdout : served.stdout = []) (issued : served.issued = before ++ [call])
      (client : served.session.client = .idle)
      (earlier : served.session.advertise = executed advertise before)
  | calling (parent : served.parent = .awaiting) (serve : served.serve = .calling)
      (stdin : served.stdin = []) (stdout : served.stdout = [])
      (all : served.session.advertise = executed advertise served.issued)
  | answered (parent : served.parent = .awaiting) (serve : served.serve = .reading)
      (stdin : served.stdin = []) (stdout : served.stdout = Served.line "OK".toList)
      (done : Done advertise served)
  | leaving (parent : served.parent = .joining ∨ served.parent = .gone)
  | failed (serve : served.serve = .stopping ∨ served.serve = .exited)
      (unread : served.parent = .starting →
        ∃ error, served.stdout = Served.line (statusLine (some error)))
      (started : served.parent ≠ .starting → served.started = some false)

variable {advertise : List (Pfx × Hop)} {served next : Served Pfx Hop}

omit [DecidableEq Hop] in
theorem Stage.spawned (advertise : List (Pfx × Hop)) :
    Stage prefixes hops advertise (Served.spawned advertise) :=
  .waiting rfl rfl rfl rfl ⟨rfl, rfl⟩

theorem Stage.thread (stage : Stage prefixes hops advertise served) {action : ThreadAction}
    (stepped : served.threadStep action = some next) : Stage prefixes hops advertise next := by
  rw [Served.threadStep] at stepped
  split at stepped
  next => cases stepped
  next =>
    obtain ⟨session, moved, rfl⟩ := Option.map_eq_some_iff.mp stepped
    obtain ⟨kept, client⟩ := thread_keeps moved
    have same : Done advertise served → Done advertise { served with session := session } :=
      fun done => ⟨client.trans done.idle, kept.trans done.all⟩
    cases stage with
    | waiting parent serve stdin stdout done =>
        exact .waiting parent serve stdin stdout (same done)
    | announced parent serve stdin stdout done =>
        exact .announced parent serve stdin stdout (same done)
    | idle parent serve stdin stdout done => exact .idle parent serve stdin stdout (same done)
    | asked call before parent serve stdin stdout issued idle earlier =>
        exact .asked call before parent serve stdin stdout issued (client.trans idle)
          (kept.trans earlier)
    | calling parent serve stdin stdout all =>
        exact .calling parent serve stdin stdout (kept.trans all)
    | answered parent serve stdin stdout done =>
        exact .answered parent serve stdin stdout (same done)
    | leaving parent => exact .leaving parent
    | failed serve unread started => exact .failed serve unread started

/-! ## The process -/

omit [DecidableEq Hop] in
theorem obey_parent {rest : Text} {command : Command Pfx Hop}
    (obeyed : served.obey rest command = some next) : next.parent = served.parent := by
  cases command with
  | call call =>
      obtain ⟨session, _, rfl⟩ := Option.map_eq_some_iff.mp obeyed
      rfl
  | skip => cases obeyed; rfl
  | quit => cases obeyed; rfl
  | unknown => cases obeyed; rfl

/-- The one line there can be when the loop reads one is the line of the call under way. -/
theorem Stage.read (stage : Stage prefixes hops advertise served)
    (stepped : served.serveStep prefixes hops .read = some next) :
    Stage prefixes hops advertise next := by
  rw [Served.serveStep] at stepped
  split at stepped
  next here =>
    obtain ⟨⟨line, rest⟩, cut, taken⟩ := Option.bind_eq_some_iff.mp stepped
    obtain ⟨command, meant, obeyed⟩ := Option.bind_eq_some_iff.mp taken
    have empty : served.stdin ≠ [] := by
      intro empty
      rw [empty] at cut
      cases cut
    cases stage with
    | asked call before parent serve stdin stdout issued client earlier =>
        rw [stdin, cut?_line (newline_notMem_callLine call)] at cut
        cases cut
        rw [command?_callLine] at meant
        cases meant
        obtain ⟨session, moved, rfl⟩ := Option.map_eq_some_iff.mp obeyed
        obtain ⟨_, rfl⟩ := Session.caller_call.mp moved
        refine .calling parent rfl rfl stdout ?_
        change call.update served.session.advertise = executed advertise served.issued
        rw [issued, earlier, executed, executed, List.foldl_append]
        rfl
    | leaving parent => exact .leaving (by rwa [obey_parent obeyed])
    | announced _ _ stdin => exact absurd stdin empty
    | idle _ _ stdin => exact absurd stdin empty
    | answered _ _ stdin => exact absurd stdin empty
    | _ => simp_all
  next => cases stepped

theorem Stage.serve (stage : Stage prefixes hops advertise served) {action : ServeAction}
    (stepped : served.serveStep prefixes hops action = some next) :
    Stage prefixes hops advertise next := by
  cases action with
  | read => exact stage.read stepped
  | status error =>
      rw [Served.serveStep] at stepped
      split at stepped
      next here =>
        cases stepped
        cases stage with
        | waiting parent serve stdin stdout done =>
            cases error with
            | none => exact .announced parent rfl stdin (by rw [stdout]; rfl) ⟨done.idle, done.all⟩
            | some error =>
                refine .failed (Or.inl rfl) (fun _ => ⟨error, by rw [stdout]; rfl⟩) ?_
                exact fun started => absurd parent started
        | leaving parent => exact .leaving parent
        | _ => simp_all
      next => cases stepped
  | check =>
      rw [Served.serveStep] at stepped
      split at stepped
      next here =>
        obtain ⟨session, moved, rfl⟩ := Option.map_eq_some_iff.mp stepped
        obtain ⟨call, _, rfl⟩ := Session.caller_check.mp moved
        cases stage with
        | calling parent serve stdin stdout all => exact .calling parent serve stdin stdout all
        | leaving parent => exact .leaving parent
        | _ => simp_all
      next => cases stepped
  | send ok =>
      rw [Served.serveStep] at stepped
      split at stepped
      next here =>
        obtain ⟨session, moved, rfl⟩ := Option.map_eq_some_iff.mp stepped
        obtain ⟨call, _, rfl⟩ := Session.caller_send.mp moved
        cases stage with
        | calling parent serve stdin stdout all =>
            exact .calling parent serve stdin stdout
              ((served.session.write_advertise ok call.sent).trans all)
        | leaving parent => exact .leaving parent
        | _ => simp_all
      next => cases stepped
  | reply =>
      rw [Served.serveStep] at stepped
      split at stepped
      next here =>
        cases stepped
        cases stage with
        | calling parent serve stdin stdout all =>
            exact .answered parent rfl stdin (by rw [stdout]; rfl) ⟨here.2, all⟩
        | leaving parent => exact .leaving parent
        | _ => simp_all
      next => cases stepped
  | stop =>
      rw [Served.serveStep] at stepped
      split at stepped
      next here =>
        obtain ⟨session, _, rfl⟩ := Option.map_eq_some_iff.mp stepped
        cases stage with
        | failed serve unread started => exact .failed (Or.inr rfl) unread started
        | leaving parent => exact .leaving parent
        | _ => simp_all
      next => cases stepped

/-! ## The test -/

omit [DecidableEq Pfx] [DecidableEq Hop] in
/-- The first line of a process that fails to come up reads as a failure. -/
theorem Served.readline?_failed {error : Text} {parts : Text × Text}
    (stdout : served.stdout = Served.line (statusLine (some error)))
    (read : served.readline? = some parts) : strip parts.1 ≠ "ESTABLISHED".toList := by
  rw [Served.readline?] at read
  cases cut : cut? ['\n'] served.stdout with
  | some found =>
      rw [cut] at read
      cases read
      rw [stdout] at cut
      exact strip_failed cut
  | none =>
      have absent := contains_of_uncut cut
      have present : contains ['\n'] served.stdout = true := by
        rw [contains_iff, stdout, Served.line]
        exact (List.suffix_append _ _).isInfix
      rw [present] at absent
      cases absent

omit [DecidableEq Pfx] [DecidableEq Hop] in
theorem Served.readline?_nil (stdout : served.stdout = []) (alive : served.serve ≠ .exited) :
    served.readline? = none := by
  rw [Served.readline?, stdout]
  exact if_neg alive

omit [DecidableEq Pfx] [DecidableEq Hop] in
theorem Served.readline?_line {text : Text} (whole : '\n' ∉ text)
    (stdout : served.stdout = Served.line text) : served.readline? = some (text, []) := by
  rw [Served.readline?, stdout, cut?_line whole]

omit [DecidableEq Hop] in
theorem Stage.start (stage : Stage prefixes hops advertise served)
    (stepped : served.parentStep prefixes hops .start = some next) :
    Stage prefixes hops advertise next := by
  rw [Served.parentStep] at stepped
  split at stepped
  next here =>
    obtain ⟨parts, read, rfl⟩ := Option.map_eq_some_iff.mp stepped
    cases stage with
    | waiting parent serve stdin stdout done =>
        rw [Served.readline?_nil stdout (by rw [serve]; decide)] at read
        cases read
    | announced parent serve stdin stdout done =>
        have whole : '\n' ∉ statusLine none := by decide
        rw [Served.readline?_line whole stdout] at read
        cases read
        exact .idle rfl serve stdin rfl ⟨done.idle, done.all⟩
    | failed serve unread started =>
        obtain ⟨error, stdout⟩ := unread here
        have other := Served.readline?_failed stdout read
        exact .failed serve Parent.noConfusion fun _ => congrArg some (beq_false_of_ne other)
    | _ => simp_all
  next => cases stepped

omit [DecidableEq Hop] in
theorem Stage.answer (stage : Stage prefixes hops advertise served)
    (stepped : served.parentStep prefixes hops .answer = some next) :
    Stage prefixes hops advertise next := by
  rw [Served.parentStep] at stepped
  split at stepped
  next here =>
    obtain ⟨parts, read, rfl⟩ := Option.map_eq_some_iff.mp stepped
    cases stage with
    | asked call before parent serve stdin stdout issued client earlier =>
        rw [Served.readline?_nil stdout (by rw [serve]; decide)] at read
        cases read
    | calling parent serve stdin stdout all =>
        rw [Served.readline?_nil stdout (by rw [serve]; decide)] at read
        cases read
    | answered parent serve stdin stdout done =>
        have whole : '\n' ∉ "OK".toList := by decide
        rw [Served.readline?_line whole stdout] at read
        cases read
        exact .idle rfl serve stdin rfl ⟨done.idle, done.all⟩
    | failed serve unread started =>
        have begun : served.parent ≠ .starting := by rw [here]; decide
        exact .failed serve Parent.noConfusion fun _ => started begun
    | _ => simp_all
  next => cases stepped

omit [DecidableEq Hop] in
theorem Stage.call (stage : Stage prefixes hops advertise served) {call : Call Pfx Hop}
    (stepped : served.parentStep prefixes hops (.call call) = some next) :
    Stage prefixes hops advertise next := by
  rw [Served.parentStep] at stepped
  split at stepped
  next gone =>
    cases stepped
    exact stage
  next =>
    split at stepped
    next here =>
      split at stepped
      next exited =>
        cases stepped
        exact stage
      next alive =>
        cases stepped
        cases stage with
        | idle parent serve stdin stdout done =>
            exact .asked call served.issued rfl serve (by rw [stdin]; rfl) stdout rfl done.idle
              done.all
        | failed serve unread started =>
            have begun : served.parent ≠ .starting := by rw [here]; decide
            exact .failed serve Parent.noConfusion fun _ => started begun
        | _ => simp_all
    next => cases stepped

omit [DecidableEq Hop] in
theorem Stage.parent (stage : Stage prefixes hops advertise served)
    {action : ParentAction Pfx Hop}
    (stepped : served.parentStep prefixes hops action = some next) :
    Stage prefixes hops advertise next := by
  cases action with
  | start => exact stage.start stepped
  | call call => exact stage.call stepped
  | answer => exact stage.answer stepped
  | quit =>
      rw [Served.parentStep] at stepped
      split at stepped
      next =>
        cases stepped
        exact .leaving (Or.inl rfl)
      next => cases stepped
  | reap =>
      rw [Served.parentStep] at stepped
      split at stepped
      next =>
        cases stepped
        exact .leaving (Or.inr rfl)
      next => cases stepped
  | kill =>
      rw [Served.parentStep] at stepped
      split at stepped
      next =>
        cases stepped
        exact .leaving (Or.inr rfl)
      next => cases stepped

theorem Stage.step (stage : Stage prefixes hops advertise served)
    {action : ServedAction Pfx Hop}
    (stepped : (serving prefixes hops).step served action = some next) :
    Stage prefixes hops advertise next := by
  cases action with
  | thread action => exact stage.thread stepped
  | serve action => exact stage.serve stepped
  | parent action => exact stage.parent stepped

theorem Stage.reached {first : Served Pfx Hop} {actions : List (ServedAction Pfx Hop)}
    (launched : launch? prefixes hops advertise = some first)
    (reached : (serving prefixes hops).run first actions = some served) :
    Stage prefixes hops advertise served := by
  rw [launch?_eq] at launched
  cases launched
  exact (serving prefixes hops).preserved_of_run (fun stage stepped => stage.step stepped)
    (Stage.spawned advertise) reached

/-! ## Calls return -/

/-- Within so many steps of the process and the reading of the answer, no call is under way. -/
def Returns (prefixes : Spelling Pfx) (hops : Spelling Hop) (count : Nat)
    (served : Served Pfx Hop) : Prop :=
  ∃ actions next, actions.length ≤ count ∧
    (∀ action ∈ actions, action = .parent .answer ∨ ∃ own, action = .serve own) ∧
    (serving prefixes hops).run served actions = some next ∧ next.parent = .idle

theorem Returns.answer {parts : Text × Text} (parent : served.parent = .awaiting)
    (read : served.readline? = some parts) : Returns prefixes hops 1 served := by
  refine ⟨[.parent .answer], { served with stdout := parts.2, parent := .idle }, Nat.le_refl 1,
    fun action only => Or.inl (List.mem_singleton.mp only), ?_, rfl⟩
  have stepped : (serving prefixes hops).step served (.parent .answer) =
      some { served with stdout := parts.2, parent := .idle } := by
    change served.parentStep prefixes hops .answer = _
    rw [Served.parentStep, if_pos parent, read]
    rfl
  exact (serving prefixes hops).run_cons.mpr ⟨_, stepped, rfl⟩

theorem Returns.cons {count : Nat} {action : ServeAction}
    (stepped : served.serveStep prefixes hops action = some next)
    (returns : Returns prefixes hops count next) : Returns prefixes hops (count + 1) served := by
  obtain ⟨actions, last, short, own, reached, idle⟩ := returns
  refine ⟨.serve action :: actions, last, Nat.succ_le_succ short, ?_,
    (serving prefixes hops).run_cons.mpr ⟨next, stepped, reached⟩, idle⟩
  rw [List.forall_mem_cons]
  exact ⟨Or.inr ⟨action, rfl⟩, own⟩

theorem Returns.mono {count bound : Nat} (returns : Returns prefixes hops count served)
    (le : count ≤ bound) : Returns prefixes hops bound served := by
  obtain ⟨actions, last, short, rest⟩ := returns
  exact ⟨actions, last, short.trans le, rest⟩

theorem returns_idle (parent : served.parent = .awaiting) (serve : served.serve = .calling)
    (stdout : served.stdout = []) (idle : served.session.client = .idle) :
    Returns prefixes hops 2 served := by
  have replied : served.serveStep prefixes hops .reply =
      some { served with
        stdout := served.stdout ++ Served.line "OK".toList, serve := .reading } := by
    rw [Served.serveStep]
    exact if_pos ⟨serve, idle⟩
  have whole : '\n' ∉ "OK".toList := by decide
  have written : served.stdout ++ Served.line "OK".toList = Served.line "OK".toList := by
    rw [stdout]
    rfl
  exact .cons replied (.answer parent (Served.readline?_line whole written))

theorem returns_sending {call : Call Pfx Hop} (parent : served.parent = .awaiting)
    (serve : served.serve = .calling) (stdout : served.stdout = [])
    (sending : served.session.client = .sending call) : Returns prefixes hops 3 served := by
  have sent : served.serveStep prefixes hops (.send true) = some { served with
      session := { served.session.write true call.sent with client := .idle } } := by
    rw [Served.serveStep, if_pos serve, Session.caller_send.mpr ⟨call, sending, rfl⟩]
    rfl
  exact .cons sent (returns_idle parent serve stdout rfl)

theorem returns_updated {call : Call Pfx Hop} (parent : served.parent = .awaiting)
    (serve : served.serve = .calling) (stdout : served.stdout = [])
    (updated : served.session.client = .updated call) : Returns prefixes hops 4 served := by
  have checked : served.serveStep prefixes hops .check = some { served with
      session := { served.session with
        client := if served.session.connected && served.session.established then .sending call
          else .idle } } := by
    rw [Served.serveStep, if_pos serve, Session.caller_check.mpr ⟨call, updated, rfl⟩]
    rfl
  refine .cons checked ?_
  by_cases up : (served.session.connected && served.session.established) = true
  · exact returns_sending parent serve stdout (if_pos up)
  · refine Returns.mono ?_ (Nat.le_succ 2)
    exact returns_idle parent serve stdout (if_neg up)

/-- Whatever the process is at, it answers. -/
theorem Stage.returns (stage : Stage prefixes hops advertise served)
    (awaiting : served.parent = .awaiting) : Returns prefixes hops 5 served := by
  cases stage with
  | asked call before parent serve stdin stdout issued client earlier =>
      have taken : served.serveStep prefixes hops .read = some { served with
          session := { served.session with
            advertise := call.update served.session.advertise, client := .updated call }
          stdin := [], serve := .calling } := by
        rw [Served.serveStep, if_pos serve, stdin, cut?_line (newline_notMem_callLine call),
          Option.bind_some, command?_callLine, Option.bind_some, Served.obey,
          Session.caller_call.mpr ⟨client, rfl⟩]
        rfl
      exact .cons taken (returns_updated parent rfl stdout rfl)
  | calling parent serve stdin stdout all =>
      cases client : served.session.client with
      | idle => exact (returns_idle parent serve stdout client).mono (by omega)
      | updated call => exact (returns_updated parent serve stdout client).mono (by omega)
      | sending call => exact (returns_sending parent serve stdout client).mono (by omega)
  | answered parent serve stdin stdout done =>
      have whole : '\n' ∉ "OK".toList := by decide
      exact (Returns.answer parent (Served.readline?_line whole stdout)).mono (by omega)
  | failed serve unread started =>
      have ended : ∀ last : Served Pfx Hop, last.serve = .exited →
          ∃ parts, last.readline? = some parts := by
        intro last exited
        rw [Served.readline?]
        split
        next parts _ => exact ⟨parts, rfl⟩
        next => exact ⟨_, if_pos exited⟩
      rcases serve with stopping | exited
      · have stopped : served.serveStep prefixes hops .stop = some { served with
            session := { served.session with stopped := true }, serve := .exited } := by
          rw [Served.serveStep, if_pos stopping]
          rfl
        obtain ⟨parts, read⟩ := ended { served with
          session := { served.session with stopped := true }, serve := .exited } rfl
        exact (Returns.cons stopped (.answer awaiting read)).mono (by omega)
      · obtain ⟨parts, read⟩ := ended served exited
        exact (Returns.answer awaiting read).mono (by omega)
  | _ => simp_all

end Stages

abbrev TestSystem :=
  Served CanonicalPrefix Ipv4

abbrev TestAction :=
  ServedAction CanonicalPrefix Ipv4

/-- A test and its speaker, with prefixes and next hops as the texts the test writes. -/
abbrev testing : Machine TestSystem TestAction :=
  serving prefixSpelling addressSpelling

/-- The speaker comes up, announces the prefix it was started with and reads a call. -/
def calledUp : List TestAction :=
  [.thread .start, .thread (.connect true), .thread (.sendOpen true), .thread (.test true),
    .thread (.sendKeepalive true), .thread (.receive (some .openMsg)), .thread (.reply true),
    .thread (.test false), .thread (.receive (some .keepalive)), .thread .establish,
    .serve (.status none), .parent .start, .thread .snapshot, .thread (.sendBurst true),
    .thread .burstDone, .parent (.call (.withdraw lanPrefix)), .serve .read, .serve .check]

/-- The call is carried out and returns. -/
def answeredUp : List TestAction :=
  [.serve (.send true), .serve .reply, .parent .answer]

end OnboxFvt.Bgp
