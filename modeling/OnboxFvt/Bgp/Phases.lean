import Mathlib.Tactic.ByContra
import OnboxFvt.Bgp.Session

/-!
# The phases of the session thread

Where the thread is tells whether the connection is up, whether the established
flag is set and whether a call can be about to send.
-/

namespace OnboxFvt.Bgp

variable {Pfx Hop : Type} {session next : Session Pfx Hop}

namespace Pc

/-- Between the establishment and the end of the initial burst. -/
def Bursting : Pc Pfx Hop → Prop
  | .snapshotting | .announcing _ => True
  | _ => False

/-- The connection is up. -/
def Live : Pc Pfx Hop → Prop
  | .unstarted | .connecting | .clearing | .closing | .ended => False
  | _ => True

/-- The places after the OPEN has been sent. -/
def Opened : Pc Pfx Hop → Prop
  | .unstarted | .connecting | .opening | .clearing | .closing | .ended => False
  | _ => True

/-- After the `finally` block has cleared the established flag. -/
def Over : Pc Pfx Hop → Prop
  | .closing | .ended => True
  | _ => False

end Pc

/-! ## What a step of the thread can do -/

/-- A step that moves the thread on outside the burst and writes no UPDATE. -/
structure Quiet (session next : Session Pfx Hop) : Prop where
  connected : next.connected = session.connected
  established : next.established = session.established
  client : next.client = session.client
  advertise : next.advertise = session.advertise
  gotOpen : next.gotOpen = session.gotOpen
  wire : next.wire = session.wire ∨
    ∃ sent, (sent = .openMsg ∨ sent = .keepalive) ∧ next.wire = session.wire ++ [sent]
  live : next.pc.Live → session.pc.Live
  opened : next.pc.Opened → session.pc.Opened ∨ .openMsg ∈ next.wire
  isOver : next.pc.Over ↔ session.pc.Over
  calm : ¬ session.pc.Bursting
  calm' : ¬ next.pc.Bursting
  apart : next.pc ≠ .establishing

theorem Quiet.write {ok : Bool} {sent : Sent Pfx Hop} {pc : Pc Pfx Hop}
    (plain : sent = .openMsg ∨ sent = .keepalive) (live : pc.Live → session.pc.Live)
    (opened : pc.Opened → session.pc.Opened ∨ ok = true ∧ sent = .openMsg)
    (isOver : pc.Over ↔ session.pc.Over) (calm : ¬ session.pc.Bursting) (calm' : ¬ pc.Bursting)
    (apart : pc ≠ .establishing) : Quiet session { session.write ok sent with pc := pc } where
  connected := session.write_connected ok sent
  established := session.write_established ok sent
  client := session.write_client ok sent
  advertise := session.write_advertise ok sent
  gotOpen := by cases ok <;> rfl
  wire := by
    cases ok with
    | false => exact Or.inl rfl
    | true => exact Or.inr ⟨sent, plain, rfl⟩
  live := live
  opened here := by
    refine (opened here).imp_right ?_
    rintro ⟨rfl, rfl⟩
    exact List.mem_append_right _ (List.mem_singleton_self _)
  isOver := isOver
  calm := calm
  calm' := calm'
  apart := apart

/-- A step of the thread: a quiet one, or one that touches the flags, the messages read or the
burst. -/
inductive ThreadCase (session next : Session Pfx Hop) : ThreadAction → Prop
  | quiet {action : ThreadAction} (quiet : Quiet session next) : ThreadCase session next action
  | connect (here : session.pc = .connecting)
      (stepped : next = { session with connected := true, pc := .opening }) :
      ThreadCase session next (.connect true)
  | receive (msg : Option Received) (here : session.pc = .receiving)
      (stepped : next = session.handle msg) : ThreadCase session next (.receive msg)
  | establish (here : session.pc = .establishing)
      (stepped : next = { session with established := true, pc := .snapshotting }) :
      ThreadCase session next .establish
  | snapshot (here : session.pc = .snapshotting)
      (stepped : next = { session with pc := .announcing session.advertise }) :
      ThreadCase session next .snapshot
  | burst (ok : Bool) (entry : Pfx × Hop) (rest : List (Pfx × Hop))
      (here : session.pc = .announcing (entry :: rest))
      (stepped : next =
        { session.write ok (.announce entry.1 entry.2) with pc := .announcing rest }) :
      ThreadCase session next (.sendBurst ok)
  | burstDone (here : session.pc = .announcing [])
      (stepped : next = { session with pc := .loop }) : ThreadCase session next .burstDone
  | clear (here : session.pc = .clearing)
      (stepped : next = { session with established := false, pc := .closing }) :
      ThreadCase session next .clear

theorem thread_cases [DecidableEq Pfx] [DecidableEq Hop] {action : ThreadAction}
    (stepped : session.thread action = some next) : ThreadCase session next action := by
  cases action with
  | start =>
      obtain ⟨here, rfl⟩ := Session.moveIf_eq_some.mp stepped
      refine .quiet (@Quiet.write _ _ session false .openMsg .connecting ?_ ?_ ?_ ?_ ?_ ?_ ?_) <;>
        simp [here, Pc.Live, Pc.Opened, Pc.Over, Pc.Bursting]
  | connect ok =>
      cases ok with
      | true =>
          obtain ⟨here, rfl⟩ := Session.moveIf_eq_some.mp stepped
          exact .connect here rfl
      | false =>
          obtain ⟨here, rfl⟩ := Session.moveIf_eq_some.mp stepped
          refine .quiet (@Quiet.write _ _ session false .openMsg .clearing ?_ ?_ ?_ ?_ ?_ ?_ ?_) <;>
            simp [here, Pc.Live, Pc.Opened, Pc.Over, Pc.Bursting]
  | sendOpen ok =>
      obtain ⟨here, rfl⟩ := Session.moveIf_eq_some.mp stepped
      refine .quiet (.write ?_ ?_ ?_ ?_ ?_ ?_ ?_) <;> cases ok <;>
        simp [here, Pc.Live, Pc.Opened, Pc.Over, Pc.Bursting]
  | test keepaliveDue =>
      obtain ⟨here, rfl⟩ := Session.moveIf_eq_some.mp stepped
      refine .quiet (@Quiet.write _ _ session false .openMsg _ ?_ ?_ ?_ ?_ ?_ ?_ ?_) <;>
        cases session.stopped <;> cases keepaliveDue <;>
          simp [here, Pc.Live, Pc.Opened, Pc.Over, Pc.Bursting]
  | sendKeepalive ok =>
      obtain ⟨here, rfl⟩ := Session.moveIf_eq_some.mp stepped
      refine .quiet (.write ?_ ?_ ?_ ?_ ?_ ?_ ?_) <;> cases ok <;>
        simp [here, Pc.Live, Pc.Opened, Pc.Over, Pc.Bursting]
  | receive msg =>
      obtain ⟨here, rfl⟩ := Session.moveIf_eq_some.mp stepped
      exact .receive msg here rfl
  | reply ok =>
      obtain ⟨here, rfl⟩ := Session.moveIf_eq_some.mp stepped
      refine .quiet (.write ?_ ?_ ?_ ?_ ?_ ?_ ?_) <;> cases ok <;>
        simp [here, Pc.Live, Pc.Opened, Pc.Over, Pc.Bursting]
  | establish =>
      obtain ⟨here, rfl⟩ := Session.moveIf_eq_some.mp stepped
      exact .establish here rfl
  | snapshot =>
      obtain ⟨here, rfl⟩ := Session.moveIf_eq_some.mp stepped
      exact .snapshot here rfl
  | sendBurst ok =>
      obtain ⟨entry, rest, here, rfl⟩ := Session.thread_sendBurst.mp stepped
      exact .burst ok entry rest here rfl
  | burstDone =>
      obtain ⟨here, rfl⟩ := Session.moveIf_eq_some.mp stepped
      exact .burstDone here rfl
  | clear =>
      obtain ⟨here, rfl⟩ := Session.moveIf_eq_some.mp stepped
      exact .clear here rfl
  | close =>
      obtain ⟨here, rfl⟩ := Session.moveIf_eq_some.mp stepped
      refine .quiet (@Quiet.write _ _ session false .openMsg .ended ?_ ?_ ?_ ?_ ?_ ?_ ?_) <;>
        simp [here, Pc.Live, Pc.Opened, Pc.Over, Pc.Bursting]

/-! ## The flags -/

/-- How the flags go with the place of the session thread. -/
structure Phases (session : Session Pfx Hop) : Prop where
  live : session.pc.Live → session.connected = true
  connected : session.established = true → session.connected = true
  establishing : session.pc = .establishing → session.established = false
  bursting : session.pc.Bursting → session.established = true
  ended : session.pc.Over → session.established = false
  sending : ∀ call, session.client = .sending call →
    session.established = true ∨ session.pc.Over

/-- A step of the thread that changes no flag and stays in its phase. -/
theorem Phases.move (phases : Phases session) (connected : next.connected = session.connected)
    (established : next.established = session.established)
    (client : next.client = session.client) (live : next.pc.Live → session.pc.Live)
    (establishing : next.pc = .establishing → session.established = false)
    (bursting : next.pc.Bursting → session.pc.Bursting)
    (ended : next.pc.Over ↔ session.pc.Over) : Phases next := by
  refine ⟨?_, ?_, ?_, ?_, ?_, ?_⟩
  · rw [connected]
    exact phases.live ∘ live
  · rw [connected, established]
    exact phases.connected
  · rw [established]
    exact establishing
  · rw [established]
    exact phases.bursting ∘ bursting
  · rw [ended, established]
    exact phases.ended
  · rw [ended, established, client]
    exact phases.sending

theorem Phases.initial (advertise : List (Pfx × Hop)) : Phases (Session.initial advertise) := by
  refine ⟨?_, ?_, ?_, ?_, ?_, ?_⟩ <;>
    simp [Session.initial, Pc.Live, Pc.Bursting, Pc.Over]

variable [DecidableEq Pfx] [DecidableEq Hop]

theorem Phases.thread (phases : Phases session) {action : ThreadAction}
    (stepped : session.thread action = some next) : Phases next := by
  cases thread_cases stepped with
  | quiet quiet =>
      exact phases.move quiet.connected quiet.established quiet.client quiet.live
        (fun here => absurd here quiet.apart) (fun here => absurd here quiet.calm') quiet.isOver
  | connect here same =>
      subst same
      refine ⟨fun _ => rfl, fun _ => rfl, by simp, by simp [Pc.Bursting], by simp [Pc.Over], ?_⟩
      intro call sending
      simpa [here, Pc.Over] using phases.sending call sending
  | receive msg here same =>
      subst same
      obtain ⟨connected, established, client, _, _, pc⟩ := session.handle_phase msg
      refine phases.move connected established client (by simp [here, Pc.Live]) ?_ ?_ ?_ <;>
        rcases pc with pc | pc | ⟨pc, fresh⟩ | pc <;> simp [*, Pc.Bursting, Pc.Over]
  | establish here same =>
      subst same
      have connected := phases.live (by simp [here, Pc.Live])
      exact ⟨fun _ => connected, fun _ => connected, by simp, fun _ => rfl, by simp [Pc.Over],
        fun _ _ => Or.inl rfl⟩
  | snapshot here same =>
      subst same
      exact phases.move rfl rfl rfl (by simp [here, Pc.Live]) (by simp)
        (by simp [here, Pc.Bursting]) (by simp [here, Pc.Over])
  | burst ok entry rest here same =>
      subst same
      exact phases.move (by simp) (by simp) (by simp) (by simp [here, Pc.Live]) (by simp)
        (by simp [here, Pc.Bursting]) (by simp [here, Pc.Over])
  | burstDone here same =>
      subst same
      exact phases.move rfl rfl rfl (by simp [here, Pc.Live]) (by simp) (by simp [Pc.Bursting])
        (by simp [here, Pc.Over])
  | clear _ same =>
      subst same
      exact ⟨by simp [Pc.Live], fun established => (by cases established), by simp,
        by simp [Pc.Bursting], fun _ => rfl, fun _ _ => Or.inr trivial⟩

omit [DecidableEq Hop] in
theorem Phases.caller (phases : Phases session) {action : CallerAction Pfx Hop}
    (stepped : session.caller action = some next) : Phases next := by
  cases action with
  | call call =>
      obtain ⟨_, rfl⟩ := Session.caller_call.mp stepped
      exact ⟨phases.live, phases.connected, phases.establishing, phases.bursting, phases.ended,
        fun _ sending => by cases sending⟩
  | check =>
      obtain ⟨call, _, rfl⟩ := Session.caller_check.mp stepped
      refine ⟨phases.live, phases.connected, phases.establishing, phases.bursting, phases.ended,
        fun other sending => ?_⟩
      left
      change session.established = true
      by_contra unset
      simp [unset] at sending
  | send ok =>
      obtain ⟨call, _, rfl⟩ := Session.caller_send.mp stepped
      exact ⟨by simpa using phases.live, by simpa using phases.connected,
        by simpa using phases.establishing, by simpa using phases.bursting,
        by simpa using phases.ended, fun _ sending => by cases sending⟩
  | stop =>
      cases stepped
      exact ⟨phases.live, phases.connected, phases.establishing, phases.bursting, phases.ended,
        phases.sending⟩

end OnboxFvt.Bgp
