import OnboxFvt.Bgp.Prefix
import OnboxFvt.Bgp.Phases
import OnboxFvt.Library.Table

/-!
# The peer's RIB and the `advertise` list

The table the peer will have once the initial burst is through is the overlay of
the entries not sent yet on its RIB.  Every step of the session thread keeps this
table, and a call changes it as it changes the view of `advertise`, unless the
burst still has an older entry of the prefix to send when the call has sent its own.
-/

namespace OnboxFvt.Bgp

open Library

variable {Pfx Hop Key : Type}

/-- The route update a message carries; the peer knows the prefix by its NLRI. -/
def Sent.route? (nlri : Pfx → Key) : Sent Pfx Hop → Option (Update Key Hop)
  | .announce pfx nexthop => some { key := nlri pfx, value := some nexthop }
  | .withdraw pfx => some { key := nlri pfx, value := none }
  | _ => none

def table (nlri : Pfx → Key) (entries : List (Pfx × Hop)) : List (Key × Hop) :=
  entries.map fun entry => (nlri entry.1, entry.2)

namespace Session

variable [DecidableEq Key] (nlri : Pfx → Key) (session : Session Pfx Hop)

def rib : Key → Option Hop :=
  replay (session.wire.filterMap (Sent.route? nlri))

/-- The last-entry-wins view of `advertise`. -/
def view : Key → Option Hop :=
  lastEntry (table nlri session.advertise)

/-- What the initial burst has yet to send. -/
def unsent : List (Pfx × Hop) :=
  match session.pc with
  | .announcing pending => pending
  | .snapshotting => session.advertise
  | _ => if session.established then [] else session.advertise

/-- The RIB once the burst is through. -/
def promised : Key → Option Hop :=
  overlay (table nlri session.unsent) (session.rib nlri)

/-- The prefix of the call that has updated `advertise` and not sent yet. -/
def calling : Option (Call Pfx Hop) :=
  match session.client with
  | .idle => none
  | .updated call => some call
  | .sending call => some call

end Session

variable {nlri : Pfx → Key} {session next : Session Pfx Hop}

/-- Quiescent: the session is established, no call is under way and the burst is through. -/
structure Settled (session : Session Pfx Hop) : Prop where
  established : session.established = true
  idle : session.client = .idle
  calm : ¬ session.pc.Bursting

theorem unsent_of_calm (calm : ¬ session.pc.Bursting) :
    session.unsent = if session.established then [] else session.advertise := by
  rw [Session.unsent]
  split <;> simp_all [Pc.Bursting]

variable [DecidableEq Key]

/-- When a call sends its route, the burst has no older one for the prefix to send. -/
def InOrder (nlri : Pfx → Key) (session : Session Pfx Hop) : Action Pfx Hop → Prop
  | .caller (.send _) =>
      ∀ call, session.client = .sending call →
        lastEntry (table nlri session.unsent) (nlri call.pfx) = none ∨
          lastEntry (table nlri session.unsent) (nlri call.pfx) =
            session.view nlri (nlri call.pfx)
  | _ => True

/-! ## The session thread keeps the promised table -/

/-- What a step of the session thread does to routes, when no send fails. -/
inductive ThreadEffect (nlri : Pfx → Key) (session next : Session Pfx Hop) : Prop where
  | quiet (advertise : next.advertise = session.advertise)
      (established : next.established = session.established)
      (client : next.client = session.client)
      (routes : next.wire.filterMap (Sent.route? nlri) =
        session.wire.filterMap (Sent.route? nlri))
      (ended : next.pc.Over ↔ session.pc.Over)
      (calm : ¬ session.pc.Bursting) (calm' : ¬ next.pc.Bursting)
  | establish (here : session.pc = .establishing)
      (stepped : next = { session with established := true, pc := .snapshotting })
  | snapshot (here : session.pc = .snapshotting)
      (stepped : next = { session with pc := .announcing session.advertise })
  | burst (entry : Pfx × Hop) (rest : List (Pfx × Hop))
      (here : session.pc = .announcing (entry :: rest))
      (stepped : next = { session with
        wire := session.wire ++ [.announce entry.1 entry.2], pc := .announcing rest })
  | burstDone (here : session.pc = .announcing [])
      (stepped : next = { session with pc := .loop })
  | clear (stepped : next = { session with established := false, pc := .closing })

omit [DecidableEq Key] in
theorem thread_effect [DecidableEq Pfx] [DecidableEq Hop] (nlri : Pfx → Key)
    {action : ThreadAction} (stepped : session.thread action = some next)
    (succeeds : (Action.thread action : Action Pfx Hop).Succeeds) :
    ThreadEffect nlri session next := by
  cases thread_cases stepped with
  | quiet quiet =>
      refine .quiet quiet.advertise quiet.established quiet.client ?_ quiet.isOver quiet.calm
        quiet.calm'
      rcases quiet.wire with same | ⟨sent, plain, written⟩
      · rw [same]
      · have none : sent.route? nlri = none := by
          rcases plain with rfl | rfl <;> rfl
        rw [written, List.filterMap_append, List.filterMap_cons, none, List.filterMap_nil,
          List.append_nil]
  | connect here same =>
      subst same
      exact .quiet rfl rfl rfl rfl (by simp [here, Pc.Over]) (by simp [here, Pc.Bursting])
        (by simp [Pc.Bursting])
  | receive msg here same =>
      subst same
      obtain ⟨_, established, client, advertise, wire, pc⟩ := session.handle_phase msg
      refine .quiet advertise established client (by rw [wire]) ?_
        (by simp [here, Pc.Bursting]) ?_ <;>
        rcases pc with pc | pc | ⟨pc, _⟩ | pc <;> simp [pc, here, Pc.Over, Pc.Bursting]
  | establish here same => exact .establish here same
  | snapshot here same => exact .snapshot here same
  | burst ok entry rest here same =>
      cases succeeds
      exact .burst entry rest here same
  | burstDone here same => exact .burstDone here same
  | clear _ same => exact .clear same

theorem ThreadEffect.promised (effect : ThreadEffect nlri session next) (phases : Phases session) :
    next.promised nlri = session.promised nlri ∨ next.pc.Over := by
  cases effect with
  | quiet advertise established client routes ended calm calm' =>
      left
      rw [Session.promised, Session.promised, unsent_of_calm calm, unsent_of_calm calm',
        established, advertise, Session.rib, Session.rib, routes]
  | establish here stepped =>
      left
      subst stepped
      have before : session.unsent = session.advertise := by
        rw [unsent_of_calm (by simp [here, Pc.Bursting]), phases.establishing here]
        rfl
      rw [Session.promised, Session.promised, before]
      rfl
  | snapshot here stepped =>
      left
      subst stepped
      simp [Session.promised, Session.unsent, here, Session.rib]
  | burst entry rest here stepped =>
      left
      subst stepped
      have put := overlay_put (nlri entry.1, entry.2) (table nlri rest)
        (session.wire.filterMap (Sent.route? nlri))
      simpa [Session.promised, Session.unsent, here, Session.rib, table, Sent.route?] using put
  | burstDone here stepped =>
      left
      subst stepped
      have established := phases.bursting (by simp [here, Pc.Bursting])
      simp [Session.promised, Session.unsent, here, established, Session.rib]
  | clear stepped =>
      right
      subst stepped
      trivial

/-! ## What a call changes -/

theorem table_update [DecidableEq Pfx] (injective : Function.Injective nlri) (call : Call Pfx Hop)
    (entries : List (Pfx × Hop)) (key : Key) :
    lastEntry (table nlri (call.update entries)) key =
      if key = nlri call.pfx then call.nexthop? else lastEntry (table nlri entries) key := by
  cases call with
  | announce pfx nexthop =>
      rw [Call.update, table, List.map_append, List.map_singleton, lastEntry_concat]
      by_cases same : key = nlri pfx
      · simp [same, Call.pfx, Call.nexthop?]
      · simp [same, Ne.symm same, Call.pfx, table]
  | withdraw pfx =>
      have dropped : table nlri (Call.update entries (.withdraw pfx)) =
          (table nlri entries).filter fun entry => entry.1 ≠ nlri pfx := by
        rw [Call.update, table, table, List.filter_map]
        congr 1
        refine List.filter_congr fun entry _ => ?_
        simp [injective.eq_iff]
      rw [dropped, lastEntry_drop]
      rfl

/-- The routes of a run: what they promise agrees with `advertise`, the prefix of a call
under way apart. -/
structure Converging (nlri : Pfx → Key) (session : Session Pfx Hop) : Prop where
  phases : Phases session
  early : session.established = false → ¬ session.pc.Over →
    session.wire.filterMap (Sent.route? nlri) = []
  calling : ∀ call, session.calling = some call →
    session.view nlri (nlri call.pfx) = call.nexthop?
  agrees : ¬ session.pc.Over → ∀ key,
    (∀ call, session.calling = some call → nlri call.pfx ≠ key) →
      session.promised nlri key = session.view nlri key

omit [DecidableEq Key] in
theorem ThreadEffect.kept (effect : ThreadEffect nlri session next) :
    next.advertise = session.advertise ∧ next.client = session.client ∧
      (session.pc.Over → next.pc.Over) := by
  cases effect with
  | quiet advertise _ client _ ended _ _ => exact ⟨advertise, client, ended.mpr⟩
  | establish here stepped => subst stepped; exact ⟨rfl, rfl, by simp [here, Pc.Over]⟩
  | snapshot here stepped => subst stepped; exact ⟨rfl, rfl, by simp [here, Pc.Over]⟩
  | burst entry rest here stepped => subst stepped; exact ⟨rfl, rfl, by simp [here, Pc.Over]⟩
  | burstDone here stepped => subst stepped; exact ⟨rfl, rfl, by simp [here, Pc.Over]⟩
  | clear stepped => subst stepped; exact ⟨rfl, rfl, fun _ => trivial⟩

theorem unsent_call [DecidableEq Pfx] (session : Session Pfx Hop) (call : Call Pfx Hop) :
    let next := { session with
      advertise := call.update session.advertise, client := .updated call }
    next.unsent = session.unsent ∨
      session.unsent = session.advertise ∧ next.unsent = call.update session.advertise := by
  cases here : session.pc <;> cases established : session.established <;>
    simp [Session.unsent, here, established]

/-- While no route is written, the burst promises what `advertise` says. -/
theorem Converging.promised_early (converging : Converging nlri session)
    (unset : session.established = false) (going : ¬ session.pc.Over) :
    session.promised nlri = session.view nlri := by
  have calm : ¬ session.pc.Bursting := fun bursting => by
    rw [converging.phases.bursting bursting] at unset
    cases unset
  funext key
  rw [Session.promised, Session.rib, converging.early unset going, unsent_of_calm calm, unset]
  exact Option.or_none

/-! ## The invariant -/

theorem Converging.thread [DecidableEq Pfx] [DecidableEq Hop]
    (converging : Converging nlri session) {action : ThreadAction}
    (stepped : session.thread action = some next)
    (succeeds : (Action.thread action : Action Pfx Hop).Succeeds) : Converging nlri next := by
  have effect := thread_effect nlri stepped succeeds
  obtain ⟨advertise, client, lasting⟩ := effect.kept
  have calls : next.calling = session.calling := by
    rw [Session.calling, Session.calling, client]
  have views : next.view nlri = session.view nlri := by
    rw [Session.view, Session.view, advertise]
  refine ⟨converging.phases.thread stepped, ?_, ?_, ?_⟩
  · intro unset going
    cases effect with
    | quiet _ established _ routes ended _ _ =>
        rw [routes]
        exact converging.early (established ▸ unset) (ended.not.mp going)
    | establish here stepped => subst stepped; cases unset
    | snapshot here stepped =>
        subst stepped
        exact converging.early unset (by simp [here, Pc.Over])
    | burst entry rest here stepped =>
        subst stepped
        have established := converging.phases.bursting (by simp [here, Pc.Bursting])
        rw [established] at unset
        cases unset
    | burstDone here stepped =>
        subst stepped
        exact converging.early unset (by simp [here, Pc.Over])
    | clear stepped => subst stepped; exact absurd trivial going
  · rw [calls, views]
    exact converging.calling
  · intro going key
    rw [calls, views, (effect.promised converging.phases).resolve_right going]
    exact converging.agrees (going ∘ lasting) key

/-- A call that begins writes `advertise` for its own prefix, and may reach the burst. -/
theorem Converging.call [DecidableEq Pfx] (injective : Function.Injective nlri)
    (converging : Converging nlri session) {call : Call Pfx Hop} (idle : session.client = .idle)
    (stepped : { session with
      advertise := call.update session.advertise, client := .updated call } = next)
    (phases : Phases next) : Converging nlri next := by
  subst stepped
  refine ⟨phases, converging.early, ?_, ?_⟩
  · intro other under
    cases under
    exact (table_update injective call session.advertise _).trans (if_pos rfl)
  · intro going key elsewhere
    have different : key ≠ nlri call.pfx := fun equal => elsewhere call rfl equal.symm
    have before := converging.agrees going key fun other under => by
      simp [Session.calling, idle] at under
    rw [Session.promised, overlay] at before ⊢
    refine Eq.trans ?_ (before.trans ?_)
    · rcases unsent_call session call with same | ⟨whole, updated⟩
      · rw [same]
        rfl
      · rw [updated, table_update injective, if_neg different, whole]
        rfl
    · exact ((table_update injective call session.advertise key).trans (if_neg different)).symm

/-- A call goes on to write only where the session is established; else the burst has its
prefix still to come. -/
theorem Converging.check (converging : Converging nlri session) {call : Call Pfx Hop}
    (updated : session.client = .updated call)
    (stepped : { session with
      client := if session.connected && session.established then .sending call else .idle } = next)
    (phases : Phases next) : Converging nlri next := by
  subst stepped
  have under : session.calling = some call := by rw [Session.calling, updated]
  by_cases set : session.established = true
  · have connected := converging.phases.connected set
    refine ⟨phases, converging.early, ?_, ?_⟩
    · intro other calling
      simp only [connected, set, Session.calling, Bool.and_self, if_true] at calling
      exact converging.calling other (under.trans calling)
    · intro going key elsewhere
      refine converging.agrees going key fun other calling => elsewhere other ?_
      simpa [connected, set, Session.calling] using under.symm.trans calling
  · have unset : session.established = false := Bool.eq_false_iff.mpr set
    refine ⟨phases, converging.early, ?_, ?_⟩
    · intro other calling
      simp [unset, Session.calling] at calling
    · intro going key _
      exact congrFun (converging.promised_early unset going) key

/-- What a call writes is in force from then on, unless the burst still has something else. -/
theorem Converging.send (converging : Converging nlri session) {call : Call Pfx Hop}
    (sending : session.client = .sending call)
    (stepped : { session.write true call.sent with client := .idle } = next)
    (ordered : InOrder nlri session (.caller (.send true))) (phases : Phases next) :
    Converging nlri next := by
  subst stepped
  have under : session.calling = some call := by rw [Session.calling, sending]
  have routes : (session.wire ++ [call.sent]).filterMap (Sent.route? nlri) =
      session.wire.filterMap (Sent.route? nlri) ++
        [{ key := nlri call.pfx, value := call.nexthop? }] := by
    cases call <;> simp [Call.sent, Sent.route?, Call.pfx, Call.nexthop?]
  refine ⟨phases, ?_, fun other calling => (by cases calling), ?_⟩
  · intro unset going
    rcases converging.phases.sending call sending with set | ended
    · exact absurd (unset.symm.trans set) (by decide)
    · exact absurd ended going
  · intro going key _
    change overlay (table nlri session.unsent)
      (replay ((session.wire ++ [call.sent]).filterMap (Sent.route? nlri))) key =
        session.view nlri key
    rw [routes, overlay, replay_concat]
    by_cases own : key = nlri call.pfx
    · subst own
      have own := converging.calling call under
      rw [if_pos rfl]
      rcases ordered call sending with none | same
      · rw [none, own]
        rfl
      · rw [same, own]
        exact Option.or_self
    · rw [if_neg own]
      refine converging.agrees going key fun other calling equal => own ?_
      rw [under] at calling
      cases calling
      exact equal.symm

theorem Converging.caller [DecidableEq Pfx] (injective : Function.Injective nlri)
    (converging : Converging nlri session) {action : CallerAction Pfx Hop}
    (stepped : session.caller action = some next) (succeeds : (Action.caller action).Succeeds)
    (ordered : InOrder nlri session (.caller action)) : Converging nlri next := by
  have phases := converging.phases.caller stepped
  cases action with
  | call call =>
      obtain ⟨idle, moved⟩ := Session.caller_call.mp stepped
      exact converging.call injective idle moved phases
  | check =>
      obtain ⟨call, updated, moved⟩ := Session.caller_check.mp stepped
      exact converging.check updated moved phases
  | send ok =>
      cases succeeds
      obtain ⟨call, sending, moved⟩ := Session.caller_send.mp stepped
      exact converging.send sending moved ordered phases
  | stop =>
      cases stepped
      exact ⟨phases, converging.early, converging.calling, converging.agrees⟩

theorem Converging.initial (advertise : List (Pfx × Hop)) :
    Converging nlri (Session.initial advertise) := by
  refine ⟨Phases.initial advertise, fun _ _ => rfl, fun _ calling => (by cases calling), ?_⟩
  intro _ key _
  exact Option.or_none

theorem Converging.settled (converging : Converging nlri session) (settled : Settled session) :
    session.rib nlri = session.view nlri := by
  have going : ¬ session.pc.Over := fun ended => by
    have unset := converging.phases.ended ended
    rw [settled.established] at unset
    cases unset
  funext key
  have agrees := converging.agrees going key fun call calling => by
    simp [Session.calling, settled.idle] at calling
  rw [Session.promised, unsent_of_calm settled.calm, settled.established] at agrees
  simpa [table] using agrees

/-! ## Runs of a peer -/

/-- The key the other side files a prefix under. -/
def nlriOf (pfx : CanonicalPrefix) : List Byte :=
  prefix2nlri pfx.val

/-- In every run without failing sends in which no call overtakes an older burst entry of its
prefix, the peer's RIB agrees with `advertise` whenever the session is settled. -/
theorem rib_converges (advertise : List (CanonicalPrefix × Ipv4))
    (actions : List (Action CanonicalPrefix Ipv4)) (session : Session CanonicalPrefix Ipv4)
    (delivered : ∀ action ∈ actions, action.Succeeds)
    (ordered : machine.Along (InOrder nlriOf) (Session.initial advertise) actions)
    (reached : machine.run (Session.initial advertise) actions = some session)
    (settled : Settled session) : session.rib nlriOf = session.view nlriOf := by
  refine Converging.settled ?_ settled
  refine machine.invariant_of_run ?_ (Converging.initial advertise)
    (machine.along_and delivered ordered) reached
  intro before action after converging allowed stepped
  cases action with
  | thread action => exact converging.thread stepped allowed.1
  | caller action => exact converging.caller prefix2nlri_injective stepped allowed.1 allowed.2

def lanPrefix : CanonicalPrefix :=
  ⟨{ net := ⟨10, 251, 0, 0⟩, plen := 24 }, by decide⟩

def lanHop : Ipv4 :=
  ⟨10, 8, 0, 2⟩

/-- The handshake, up to the snapshot of the burst. -/
def handshake : List (Action CanonicalPrefix Ipv4) :=
  [.thread .start, .thread (.connect true), .thread (.sendOpen true), .thread (.test true),
    .thread (.sendKeepalive true), .thread (.receive (some .openMsg)), .thread (.reply true),
    .thread (.test false), .thread (.receive (some .keepalive)), .thread .establish,
    .thread .snapshot]

/-- A withdrawal up to its send. -/
def withdrawal : List (Action CanonicalPrefix Ipv4) :=
  [.caller (.call (.withdraw lanPrefix)), .caller .check]

def burst : List (Action CanonicalPrefix Ipv4) :=
  [.thread (.sendBurst true), .thread .burstDone]

/-- A withdrawal between the snapshot and the burst leaves its prefix announced. -/
theorem rib_keeps_withdrawn_prefix :
    ¬ ∀ (advertise : List (CanonicalPrefix × Ipv4))
      (actions : List (Action CanonicalPrefix Ipv4)) (session : Session CanonicalPrefix Ipv4),
      (∀ action ∈ actions, action.Succeeds) →
      machine.run (Session.initial advertise) actions = some session → Settled session →
      session.rib nlriOf = session.view nlriOf := by
  intro always
  have agrees := always [(lanPrefix, lanHop)] 
    (handshake ++ withdrawal ++ [.caller (.send true)] ++ burst) _ ?_ rfl ?_
  · have here := congrFun agrees (nlriOf lanPrefix)
    revert here
    decide
  · simp [handshake, withdrawal, burst, Action.Succeeds]
  · exact ⟨rfl, rfl, id⟩

theorem rib_converges_after_burst :
    ∃ session, machine.run (Session.initial [(lanPrefix, lanHop)])
        (handshake ++ burst ++ withdrawal ++ [.caller (.send true)]) = some session ∧
      session.rib nlriOf = session.view nlriOf := by
  refine ⟨_, rfl, rib_converges [(lanPrefix, lanHop)]
    (handshake ++ burst ++ withdrawal ++ [.caller (.send true)]) _ ?_ ?_ rfl ?_⟩
  · simp [handshake, withdrawal, burst, Action.Succeeds]
  · refine machine.along_append (machine.along_of_forall ?_ _) ?_
    · simp [handshake, withdrawal, burst, InOrder]
    · intro middle reached
      cases reached
      refine ⟨fun call sending => ?_, fun _ _ => trivial⟩
      exact Or.inl rfl
  · exact ⟨rfl, rfl, id⟩

end OnboxFvt.Bgp
