import OnboxFvt.Bgp.Phases

/-!
# No UPDATE before the handshake, none after the end

The session thread may also leave its `try` block by an exception, at every place of it.
A call that raises sends nothing, as a failing send does.
-/

namespace OnboxFvt.Bgp

open Library

variable {Pfx Hop : Type}

/-- A step of a run, or an exception in the `try` block of `_run`. -/
inductive Event (Pfx Hop : Type) where
  | action (action : Action Pfx Hop)
  | raises

/-- The places inside the `try` block. -/
def Pc.trying : Pc Pfx Hop → Bool
  | .unstarted | .clearing | .closing | .ended => false
  | _ => true

def raisingMachine [DecidableEq Pfx] [DecidableEq Hop] :
    Machine (Session Pfx Hop) (Event Pfx Hop) where
  step session
    | .action action => machine.step session action
    | .raises => if session.pc.trying then some { session with pc := .clearing } else none

namespace Event

def receives (msg : Received) : Event Pfx Hop :=
  .action (.thread (.receive (some msg)))

/-- The steps that send an UPDATE, or try to. -/
def SendsUpdate : Event Pfx Hop → Prop
  | .action (.thread (.sendBurst _)) | .action (.caller (.send _)) => True
  | _ => False

/-- The peer's OPEN and, after it, a KEEPALIVE. -/
def greeting : List (Event Pfx Hop) :=
  [receives .openMsg, receives .keepalive]

end Event

def Sent.IsUpdate : Sent Pfx Hop → Prop
  | .announce _ _ | .withdraw _ => True
  | _ => False

/-! ## The handshake -/

/-- An UPDATE is sent from here, or may be soon. -/
def Session.Advertising (session : Session Pfx Hop) : Prop :=
  session.established = true ∨ session.pc = .establishing ∨ session.pc.Bursting ∨
    ∃ call, session.client = .sending call

/-- What has been sent and received, as far as the state goes. -/
structure Handshake (history : List (Event Pfx Hop)) (session : Session Pfx Hop) : Prop where
  opened : session.pc.Opened → .openMsg ∈ session.wire
  gotOpen : session.gotOpen = true → List.Sublist [Event.receives .openMsg] history
  greeted : session.Advertising →
    .openMsg ∈ session.wire ∧ List.Sublist Event.greeting history

variable {history : List (Event Pfx Hop)} {session next : Session Pfx Hop}

theorem Handshake.initial (advertise : List (Pfx × Hop)) :
    Handshake [] (Session.initial advertise) := by
  refine ⟨?_, ?_, ?_⟩ <;>
    simp [Session.initial, Pc.Opened, Session.Advertising, Pc.Bursting]

/-- A step that takes no message in. -/
theorem Handshake.move (handshake : Handshake history session) (event : Event Pfx Hop)
    (wire : session.wire <+: next.wire) (gotOpen : next.gotOpen = session.gotOpen)
    (opened : next.pc.Opened → session.pc.Opened ∨ .openMsg ∈ next.wire)
    (advertising : next.Advertising → session.Advertising) :
    Handshake (history ++ [event]) next := by
  have longer : history.Sublist (history ++ [event]) := List.sublist_append_left _ _
  refine ⟨?_, ?_, ?_⟩
  · intro here
    cases opened here with
    | inl before => exact wire.subset (handshake.opened before)
    | inr written => exact written
  · rw [gotOpen]
    exact fun got => (handshake.gotOpen got).trans longer
  · intro here
    obtain ⟨written, heard⟩ := handshake.greeted (advertising here)
    exact ⟨wire.subset written, heard.trans longer⟩

theorem Session.wire_write (session : Session Pfx Hop) (ok : Bool) (sent : Sent Pfx Hop) :
    session.wire <+: (session.write ok sent).wire := by
  cases ok with
  | false => exact List.prefix_rfl
  | true => exact List.prefix_append _ _

theorem Session.gotOpen_write (session : Session Pfx Hop) (ok : Bool) (sent : Sent Pfx Hop) :
    (session.write ok sent).gotOpen = session.gotOpen := by
  cases ok <;> rfl

/-- A message is read between sends: the OPEN is remembered, and a KEEPALIVE establishes the
session only if an OPEN is. -/
theorem Handshake.receive (handshake : Handshake history session)
    (here : session.pc = .receiving) (msg : Option Received) :
    Handshake (history ++ [.action (.thread (.receive msg))]) (session.handle msg) := by
  have written : .openMsg ∈ session.wire := handshake.opened (by rw [here]; trivial)
  have elsewhere : ∀ {pc : Pc Pfx Hop}, pc ≠ .establishing → ¬ pc.Bursting →
      ({ session with pc := pc } : Session Pfx Hop).Advertising → session.Advertising := by
    rintro pc apart quiet (established | establishing | bursting | sending)
    · exact Or.inl established
    · exact absurd establishing apart
    · exact absurd bursting quiet
    · exact Or.inr (Or.inr (Or.inr sending))
  rcases msg with _ | _ | _ | _ | _
  case none =>
    exact handshake.move _ List.prefix_rfl rfl (fun _ => Or.inr written)
      (elsewhere (by simp) (by simp [Pc.Bursting]))
  case some.openMsg =>
    have moved : Handshake (history ++ [.action (.thread (.receive (some .openMsg)))])
        { session with pc := .replying } :=
      handshake.move _ List.prefix_rfl rfl (fun _ => Or.inr written)
        (elsewhere (by simp) (by simp [Pc.Bursting]))
    exact ⟨moved.opened, fun _ => List.sublist_append_right _ _, moved.greeted⟩
  case some.update =>
    exact handshake.move _ List.prefix_rfl rfl (fun _ => Or.inr written)
      (elsewhere (by simp) (by simp [Pc.Bursting]))
  case some.notification =>
    exact handshake.move _ List.prefix_rfl rfl (fun _ => Or.inr written)
      (elsewhere (by simp) (by simp [Pc.Bursting]))
  case some.keepalive =>
    rw [Session.handle]
    split
    next accepted =>
      have got : session.gotOpen = true := (Bool.and_eq_true _ _ ▸ accepted).1
      have heard : List.Sublist Event.greeting
          (history ++ [.action (.thread (.receive (some .keepalive)))]) :=
        (handshake.gotOpen got).append (List.Sublist.refl _)
      exact ⟨fun _ => written, fun _ => (handshake.gotOpen got).trans
        (List.sublist_append_left _ _), fun _ => ⟨written, heard⟩⟩
    next =>
      exact handshake.move _ List.prefix_rfl rfl (fun _ => Or.inr written)
        (elsewhere (by simp) (by simp [Pc.Bursting]))

variable [DecidableEq Pfx] [DecidableEq Hop]

theorem Handshake.thread (handshake : Handshake history session) {action : ThreadAction}
    (stepped : session.thread action = some next) :
    Handshake (history ++ [.action (.thread action)]) next := by
  cases thread_cases stepped with
  | quiet quiet =>
      have longer : session.wire <+: next.wire := by
        rcases quiet.wire with same | ⟨sent, -, written⟩
        · exact ⟨[], by rw [List.append_nil, same]⟩
        · rw [written]
          exact List.prefix_append _ _
      refine handshake.move _ longer quiet.gotOpen quiet.opened ?_
      rintro (established | establishing | bursting | sending)
      · exact Or.inl (quiet.established.symm.trans established)
      · exact absurd establishing quiet.apart
      · exact absurd bursting quiet.calm'
      · rw [quiet.client] at sending
        exact Or.inr (Or.inr (Or.inr sending))
  | connect here same =>
      subst same
      exact handshake.move _ List.prefix_rfl rfl (by simp [Pc.Opened])
        (by simp [Session.Advertising, here, Pc.Bursting])
  | receive msg here same =>
      subst same
      exact handshake.receive here msg
  | establish here same =>
      subst same
      exact handshake.move _ List.prefix_rfl rfl (fun _ => Or.inl (by rw [here]; trivial))
        fun _ => Or.inr (Or.inl here)
  | snapshot here same =>
      subst same
      exact handshake.move _ List.prefix_rfl rfl (fun _ => Or.inl (by rw [here]; trivial))
        fun _ => Or.inr (Or.inr (Or.inl (by rw [here]; trivial)))
  | burst ok entry rest here same =>
      subst same
      exact handshake.move _ (session.wire_write _ _) (session.gotOpen_write _ _)
        (fun _ => Or.inl (by rw [here]; trivial))
        fun _ => Or.inr (Or.inr (Or.inl (by rw [here]; trivial)))
  | burstDone here same =>
      subst same
      exact handshake.move _ List.prefix_rfl rfl (fun _ => Or.inl (by rw [here]; trivial))
        fun _ => Or.inr (Or.inr (Or.inl (by rw [here]; trivial)))
  | clear here same =>
      subst same
      exact handshake.move _ List.prefix_rfl rfl (by simp [Pc.Opened])
        (by simp +contextual [Session.Advertising, here, Pc.Bursting])

omit [DecidableEq Hop] in
theorem Handshake.caller (handshake : Handshake history session) {action : CallerAction Pfx Hop}
    (stepped : session.caller action = some next) :
    Handshake (history ++ [.action (.caller action)]) next := by
  cases action with
  | call call =>
      obtain ⟨idle, rfl⟩ := Session.caller_call.mp stepped
      exact handshake.move _ List.prefix_rfl rfl Or.inl (by simp [Session.Advertising, idle])
  | check =>
      obtain ⟨call, updated, rfl⟩ := Session.caller_check.mp stepped
      refine handshake.move _ List.prefix_rfl rfl Or.inl ?_
      rintro (established | establishing | bursting | ⟨other, sending⟩)
      · exact Or.inl established
      · exact Or.inr (Or.inl establishing)
      · exact Or.inr (Or.inr (Or.inl bursting))
      · left
        by_contra unset
        simp [unset] at sending
  | send ok =>
      obtain ⟨call, sending, rfl⟩ := Session.caller_send.mp stepped
      exact handshake.move _ (session.wire_write _ _) (session.gotOpen_write _ _)
        (fun here => Or.inl (by simpa using here))
        fun _ => Or.inr (Or.inr (Or.inr ⟨call, sending⟩))
  | stop =>
      cases stepped
      exact handshake.move _ List.prefix_rfl rfl Or.inl id

/-! ## Exceptions -/

omit [DecidableEq Pfx] [DecidableEq Hop] in
theorem Pc.not_over_of_trying {pc : Pc Pfx Hop} (trying : pc.trying = true) : ¬ pc.Over := by
  cases pc <;> simp_all [Pc.trying, Pc.Over]

theorem raisingMachine_raises :
    raisingMachine.step session .raises = some next ↔
      session.pc.trying = true ∧ { session with pc := .clearing } = next := by
  simp [raisingMachine]

theorem Phases.event (phases : Phases session) {event : Event Pfx Hop}
    (stepped : raisingMachine.step session event = some next) : Phases next := by
  cases event with
  | action action =>
      cases action with
      | thread action => exact phases.thread stepped
      | caller action => exact phases.caller stepped
  | raises =>
      obtain ⟨trying, rfl⟩ := raisingMachine_raises.mp stepped
      exact phases.move rfl rfl rfl (by simp [Pc.Live]) (by simp) (by simp [Pc.Bursting])
        ⟨fun done => absurd done id, fun done => absurd done (Pc.not_over_of_trying trying)⟩

theorem Handshake.event (handshake : Handshake history session) {event : Event Pfx Hop}
    (stepped : raisingMachine.step session event = some next) :
    Handshake (history ++ [event]) next := by
  cases event with
  | action action =>
      cases action with
      | thread action => exact handshake.thread stepped
      | caller action => exact handshake.caller stepped
  | raises =>
      obtain ⟨_, rfl⟩ := raisingMachine_raises.mp stepped
      refine handshake.move _ List.prefix_rfl rfl (by simp [Pc.Opened]) ?_
      rintro (established | establishing | bursting | sending)
      · exact Or.inl established
      · cases establishing
      · exact absurd bursting id
      · exact Or.inr (Or.inr (Or.inr sending))

/-! ## Where UPDATEs come from -/

instance (sent : Sent Pfx Hop) : Decidable sent.IsUpdate := by
  unfold Sent.IsUpdate
  split <;> infer_instance

def Session.updates (session : Session Pfx Hop) : List (Sent Pfx Hop) :=
  session.wire.filter fun sent => sent.IsUpdate

omit [DecidableEq Pfx] [DecidableEq Hop] in
theorem Session.updates_write (session : Session Pfx Hop) (ok : Bool) {sent : Sent Pfx Hop}
    (other : ¬ sent.IsUpdate) : (session.write ok sent).updates = session.updates := by
  cases ok with
  | false => rfl
  | true =>
      unfold updates
      change (session.wire ++ [sent]).filter _ = _
      rw [List.filter_append]
      simp [other]

/-- All other steps write no UPDATE. -/
theorem updates_of_other {event : Event Pfx Hop}
    (stepped : raisingMachine.step session event = some next) (other : ¬ event.SendsUpdate) :
    next.updates = session.updates := by
  cases event with
  | raises =>
      obtain ⟨_, rfl⟩ := raisingMachine_raises.mp stepped
      rfl
  | action action =>
      cases action with
      | caller action =>
          cases action with
          | call call =>
              obtain ⟨_, rfl⟩ := Session.caller_call.mp stepped
              rfl
          | check =>
              obtain ⟨_, _, rfl⟩ := Session.caller_check.mp stepped
              rfl
          | send ok => exact absurd trivial other
          | stop =>
              cases stepped
              rfl
      | thread action =>
          cases action with
          | connect ok =>
              cases ok <;>
                · obtain ⟨_, rfl⟩ := Session.moveIf_eq_some.mp stepped
                  rfl
          | sendBurst ok => exact absurd trivial other
          | sendOpen ok | sendKeepalive ok | reply ok =>
              obtain ⟨_, rfl⟩ := Session.moveIf_eq_some.mp stepped
              exact session.updates_write ok id
          | receive msg =>
              obtain ⟨_, rfl⟩ := Session.moveIf_eq_some.mp stepped
              unfold Session.updates
              rw [(session.handle_phase msg).2.2.2.2.1]
          | start | test | establish | snapshot | burstDone | clear | close =>
              obtain ⟨_, rfl⟩ := Session.moveIf_eq_some.mp stepped
              rfl

theorem advertising_of_sends {event : Event Pfx Hop}
    (stepped : raisingMachine.step session event = some next) (sends : event.SendsUpdate) :
    session.Advertising := by
  cases event with
  | raises => exact absurd sends id
  | action action =>
      cases action with
      | thread action =>
          cases action with
          | sendBurst ok =>
              obtain ⟨entry, rest, here, _⟩ := Session.thread_sendBurst.mp stepped
              exact Or.inr (Or.inr (Or.inl (by rw [here]; trivial)))
          | _ => exact absurd sends id
      | caller action =>
          cases action with
          | send ok =>
              obtain ⟨call, sending, _⟩ := Session.caller_send.mp stepped
              exact Or.inr (Or.inr (Or.inr ⟨call, sending⟩))
          | _ => exact absurd sends id

/-! ## After the end -/

theorem thread_of_ended (ended : session.pc = .ended) (action : ThreadAction) :
    session.thread action = none := by
  cases action with
  | connect ok => cases ok <;> simp [Session.thread, Session.moveIf, ended]
  | sendBurst ok => simp [Session.thread, ended]
  | _ => simp [Session.thread, Session.moveIf, ended]

omit [DecidableEq Hop] in
theorem caller_pc {action : CallerAction Pfx Hop} (stepped : session.caller action = some next) :
    next.pc = session.pc := by
  cases action with
  | call call =>
      obtain ⟨_, rfl⟩ := Session.caller_call.mp stepped
      rfl
  | check =>
      obtain ⟨_, _, rfl⟩ := Session.caller_check.mp stepped
      rfl
  | send ok =>
      obtain ⟨_, _, rfl⟩ := Session.caller_send.mp stepped
      exact session.write_pc ok _
  | stop =>
      cases stepped
      rfl

theorem pc_of_ended (ended : session.pc = .ended) {event : Event Pfx Hop}
    (stepped : raisingMachine.step session event = some next) : next.pc = .ended := by
  cases event with
  | raises =>
      obtain ⟨trying, _⟩ := raisingMachine_raises.mp stepped
      rw [ended] at trying
      cases trying
  | action action =>
      cases action with
      | thread action =>
          have none := thread_of_ended ended action
          exact absurd (stepped.symm.trans none) (Option.some_ne_none next)
      | caller action => exact (caller_pc stepped).trans ended

/-- The thread is over and no call is about to send. -/
structure Silent (wire : List (Sent Pfx Hop)) (session : Session Pfx Hop) : Prop where
  pc : session.pc = .ended
  established : session.established = false
  wire : session.wire = wire
  client : ∀ call, session.client ≠ .sending call

theorem Silent.event {wire : List (Sent Pfx Hop)} (silent : Silent wire session)
    {event : Event Pfx Hop} (stepped : raisingMachine.step session event = some next) :
    Silent wire next ∧ ¬ event.SendsUpdate := by
  have pc : next.pc = .ended := pc_of_ended silent.pc stepped
  cases event with
  | raises =>
      obtain ⟨_, rfl⟩ := raisingMachine_raises.mp stepped
      cases pc
  | action action =>
      cases action with
      | thread action =>
          have none := thread_of_ended silent.pc action
          exact absurd (stepped.symm.trans none) (Option.some_ne_none next)
      | caller action =>
          cases action with
          | call call =>
              obtain ⟨_, rfl⟩ := Session.caller_call.mp stepped
              exact ⟨⟨pc, silent.established, silent.wire, fun _ => by simp⟩, id⟩
          | check =>
              obtain ⟨_, _, rfl⟩ := Session.caller_check.mp stepped
              refine ⟨⟨pc, silent.established, silent.wire, fun _ => ?_⟩, id⟩
              simp [silent.established]
          | send ok =>
              obtain ⟨call, sending, _⟩ := Session.caller_send.mp stepped
              exact absurd sending (silent.client call)
          | stop =>
              cases stepped
              exact ⟨⟨pc, silent.established, silent.wire, silent.client⟩, id⟩

theorem Silent.run {wire : List (Sent Pfx Hop)} (silent : Silent wire session)
    {events : List (Event Pfx Hop)} {last : Session Pfx Hop}
    (reached : raisingMachine.run session events = some last) :
    Silent wire last ∧ ∀ event ∈ events, ¬ event.SendsUpdate := by
  induction events generalizing session with
  | nil =>
      cases reached
      exact ⟨silent, fun _ member => by cases member⟩
  | cons event rest inductionHypothesis =>
      obtain ⟨next, stepped, continued⟩ := raisingMachine.run_cons.mp reached
      obtain ⟨still, first⟩ := silent.event stepped
      obtain ⟨ends, others⟩ := inductionHypothesis still continued
      exact ⟨ends, List.forall_mem_cons.mpr ⟨first, others⟩⟩

/-- In a state of a run: what an UPDATE waits for, and what the end of the thread settles for
every call that begins after it. -/
structure Safe (history : List (Event Pfx Hop)) (session : Session Pfx Hop) : Prop where
  handshake : ∀ event next, raisingMachine.step session event = some next →
    event.SendsUpdate ∨ next.updates ≠ session.updates →
    .openMsg ∈ session.wire ∧ List.Sublist Event.greeting history
  ended : session.pc = .ended → session.established = false
  stays : session.pc = .ended → ∀ event next, raisingMachine.step session event = some next →
    next.pc = .ended
  calls : session.pc = .ended → ∀ call later updated last,
    raisingMachine.step session (.action (.caller (.call call))) = some updated →
    raisingMachine.run updated later = some last →
    updated.advertise = call.update session.advertise ∧ last.wire = session.wire ∧
      ∀ event ∈ later, ¬ event.SendsUpdate

theorem safe_of (phases : Phases session) (handshake : Handshake history session) :
    Safe history session := by
  refine ⟨?_, ?_, ?_, ?_⟩
  · intro event next stepped writes
    have sends : event.SendsUpdate := by
      by_contra other
      cases writes with
      | inl sends => exact other sends
      | inr more => exact more (updates_of_other stepped other)
    exact handshake.greeted (advertising_of_sends stepped sends)
  · intro ended
    exact phases.ended (by rw [ended]; trivial)
  · intro ended event next stepped
    exact pc_of_ended ended stepped
  · intro ended call later updated last begins reached
    obtain ⟨_, rfl⟩ := Session.caller_call.mp begins
    have silent : Silent session.wire { session with
        advertise := call.update session.advertise, client := .updated call } :=
      ⟨ended, phases.ended (by rw [ended]; trivial), rfl, fun _ => by simp⟩
    obtain ⟨still, quiet⟩ := silent.run reached
    exact ⟨rfl, still.wire, quiet⟩

end OnboxFvt.Bgp
