import OnboxFvt.Library.Run

/-!
# The session thread and the calls of a `PyBgpPeer`

`_run` of `servers/bgp_speaker.py` is a thread of its own; `announce`, `withdraw`
and `stop` are called from the test thread.  An action is a step of one of them,
so a run is an interleaving.  `_lock` is taken by `announce` and `withdraw` only,
which one thread calls, and never by the session thread.
-/

namespace OnboxFvt.Bgp

open Library

variable (Pfx Hop : Type)

/-- What this side writes to the connection. -/
inductive Sent where
  | openMsg
  | keepalive
  | announce (pfx : Pfx) (nexthop : Hop)
  | withdraw (pfx : Pfx)
  deriving DecidableEq

/-- The types of the messages `_run` tells apart. -/
inductive Received where
  | openMsg
  | update
  | notification
  | keepalive
  deriving DecidableEq

/-- Where the session thread is. -/
inductive Pc where
  | unstarted
  | connecting
  | opening
  | loop
  | sendingKeepalive
  | receiving
  | replying
  | establishing
  | snapshotting
  | announcing (pending : List (Pfx × Hop))
  | clearing
  | closing
  | ended
  deriving DecidableEq

inductive Call where
  | announce (pfx : Pfx) (nexthop : Hop)
  | withdraw (pfx : Pfx)
  deriving DecidableEq

/-- Where the test thread is: in a call that has updated `advertise`, or in one
that has also seen the session established. -/
inductive Client where
  | idle
  | updated (call : Call Pfx Hop)
  | sending (call : Call Pfx Hop)
  deriving DecidableEq

structure Session where
  advertise : List (Pfx × Hop)
  connected : Bool
  established : Bool
  stopped : Bool
  gotOpen : Bool
  pc : Pc Pfx Hop
  client : Client Pfx Hop
  wire : List (Sent Pfx Hop)
  deriving DecidableEq

/-- A step of the session thread.  The outcome of a send, of the connect and of a
receive is part of it, and so is whether a keepalive is due. -/
inductive ThreadAction where
  | start
  | connect (ok : Bool)
  | sendOpen (ok : Bool)
  | test (keepaliveDue : Bool)
  | sendKeepalive (ok : Bool)
  | receive (msg : Option Received)
  | reply (ok : Bool)
  | establish
  | snapshot
  | sendBurst (ok : Bool)
  | burstDone
  | clear
  | close
  deriving DecidableEq

/-- A step of the test thread: a call updates `advertise`, then checks the session,
then sends. -/
inductive CallerAction (Pfx Hop : Type) where
  | call (call : Call Pfx Hop)
  | check
  | send (ok : Bool)
  | stop
  deriving DecidableEq

inductive Action (Pfx Hop : Type) where
  | thread (action : ThreadAction)
  | caller (action : CallerAction Pfx Hop)
  deriving DecidableEq

variable {Pfx Hop}

/-- Not a send or a connect that fails. -/
def Action.Succeeds : Action Pfx Hop → Prop
  | .thread (.connect ok) | .thread (.sendOpen ok) | .thread (.sendKeepalive ok)
  | .thread (.reply ok) | .thread (.sendBurst ok) | .caller (.send ok) => ok = true
  | _ => True

def Call.pfx : Call Pfx Hop → Pfx
  | .announce pfx _ => pfx
  | .withdraw pfx => pfx

/-- The next hop the prefix has after the call. -/
def Call.nexthop? : Call Pfx Hop → Option Hop
  | .announce _ nexthop => some nexthop
  | .withdraw _ => none

def Call.sent : Call Pfx Hop → Sent Pfx Hop
  | .announce pfx nexthop => .announce pfx nexthop
  | .withdraw pfx => .withdraw pfx

/-- The update of `advertise` at the start of a call. -/
def Call.update [DecidableEq Pfx] (advertise : List (Pfx × Hop)) :
    Call Pfx Hop → List (Pfx × Hop)
  | .announce pfx nexthop => advertise ++ [(pfx, nexthop)]
  | .withdraw pfx => advertise.filter fun entry => entry.1 ≠ pfx

namespace Session

def initial (advertise : List (Pfx × Hop)) : Session Pfx Hop where
  advertise := advertise
  connected := false
  established := false
  stopped := false
  gotOpen := false
  pc := .unstarted
  client := .idle
  wire := []

def write (session : Session Pfx Hop) (ok : Bool) (sent : Sent Pfx Hop) : Session Pfx Hop :=
  if ok then { session with wire := session.wire ++ [sent] } else session

@[simp]
theorem write_connected (session : Session Pfx Hop) (ok : Bool) (sent : Sent Pfx Hop) :
    (session.write ok sent).connected = session.connected := by
  cases ok <;> rfl

@[simp]
theorem write_established (session : Session Pfx Hop) (ok : Bool) (sent : Sent Pfx Hop) :
    (session.write ok sent).established = session.established := by
  cases ok <;> rfl

@[simp]
theorem write_client (session : Session Pfx Hop) (ok : Bool) (sent : Sent Pfx Hop) :
    (session.write ok sent).client = session.client := by
  cases ok <;> rfl

@[simp]
theorem write_pc (session : Session Pfx Hop) (ok : Bool) (sent : Sent Pfx Hop) :
    (session.write ok sent).pc = session.pc := by
  cases ok <;> rfl

@[simp]
theorem write_advertise (session : Session Pfx Hop) (ok : Bool) (sent : Sent Pfx Hop) :
    (session.write ok sent).advertise = session.advertise := by
  cases ok <;> rfl

/-- After a message: the branches of the loop body on its type. -/
def handle (session : Session Pfx Hop) : Option Received → Session Pfx Hop
  | none => { session with pc := .clearing }
  | some .openMsg => { session with gotOpen := true, pc := .replying }
  | some .keepalive =>
      if session.gotOpen && !session.established then { session with pc := .establishing }
      else { session with pc := .loop }
  | some .notification => { session with pc := .clearing }
  | some .update => { session with pc := .loop }

def moveIf [DecidableEq Pfx] [DecidableEq Hop] (session : Session Pfx Hop) (pc : Pc Pfx Hop)
    (next : Session Pfx Hop) : Option (Session Pfx Hop) :=
  if session.pc = pc then some next else none

variable [DecidableEq Pfx] [DecidableEq Hop]

theorem moveIf_eq_some {session next target : Session Pfx Hop} {pc : Pc Pfx Hop} :
    session.moveIf pc target = some next ↔ session.pc = pc ∧ target = next := by
  simp [moveIf]

/-- A failing send ends the thread, but in the burst the failure is ignored. -/
def thread (session : Session Pfx Hop) : ThreadAction → Option (Session Pfx Hop)
  | .start => session.moveIf .unstarted { session with pc := .connecting }
  | .connect true => session.moveIf .connecting { session with connected := true, pc := .opening }
  | .connect false => session.moveIf .connecting { session with pc := .clearing }
  | .sendOpen ok =>
      session.moveIf .opening
        { session.write ok .openMsg with pc := if ok then .loop else .clearing }
  | .test keepaliveDue =>
      session.moveIf .loop
        { session with
          pc := if session.stopped then .clearing
            else if keepaliveDue then .sendingKeepalive else .receiving }
  | .sendKeepalive ok =>
      session.moveIf .sendingKeepalive
        { session.write ok .keepalive with pc := if ok then .receiving else .clearing }
  | .receive msg => session.moveIf .receiving (session.handle msg)
  | .reply ok =>
      session.moveIf .replying
        { session.write ok .keepalive with pc := if ok then .loop else .clearing }
  | .establish =>
      session.moveIf .establishing { session with established := true, pc := .snapshotting }
  | .snapshot =>
      session.moveIf .snapshotting { session with pc := .announcing session.advertise }
  | .sendBurst ok =>
      match session.pc with
      | .announcing ((pfx, nexthop) :: rest) =>
          some { session.write ok (.announce pfx nexthop) with pc := .announcing rest }
      | _ => none
  | .burstDone => session.moveIf (.announcing []) { session with pc := .loop }
  | .clear => session.moveIf .clearing { session with established := false, pc := .closing }
  | .close => session.moveIf .closing { session with pc := .ended }

/-- `stop` also shuts the socket down, after which sends fail and receives end. -/
def caller (session : Session Pfx Hop) : CallerAction Pfx Hop → Option (Session Pfx Hop)
  | .call call =>
      match session.client with
      | .idle =>
          some { session with advertise := call.update session.advertise, client := .updated call }
      | _ => none
  | .check =>
      match session.client with
      | .updated call =>
          some { session with
            client := if session.connected && session.established then .sending call else .idle }
      | _ => none
  | .send ok =>
      match session.client with
      | .sending call => some { session.write ok call.sent with client := .idle }
      | _ => none
  | .stop => some { session with stopped := true }

/-! ## What the steps that branch on more than the place of the thread do -/

variable {session next : Session Pfx Hop}

omit [DecidableEq Pfx] [DecidableEq Hop] in
theorem handle_phase (session : Session Pfx Hop) (msg : Option Received) :
    (session.handle msg).connected = session.connected ∧
      (session.handle msg).established = session.established ∧
      (session.handle msg).client = session.client ∧
      (session.handle msg).advertise = session.advertise ∧
      (session.handle msg).wire = session.wire ∧
      ((session.handle msg).pc = .clearing ∨ (session.handle msg).pc = .replying ∨
        ((session.handle msg).pc = .establishing ∧ session.established = false) ∨
        (session.handle msg).pc = .loop) := by
  rcases msg with _ | _ | _ | _ | _
  case some.keepalive =>
    rw [handle]
    split
    next accepted => simp_all
    next => simp
  all_goals simp [handle]

theorem thread_sendBurst {ok : Bool} :
    session.thread (.sendBurst ok) = some next ↔
      ∃ entry rest, session.pc = .announcing (entry :: rest) ∧
        { session.write ok (.announce entry.1 entry.2) with pc := .announcing rest } = next := by
  rw [thread]
  split
  next pfx nexthop rest here =>
    rw [here, Option.some_inj]
    refine ⟨fun equal => ⟨(pfx, nexthop), rest, rfl, equal⟩, ?_⟩
    rintro ⟨entry, others, same, equal⟩
    cases same
    exact equal
  next elsewhere =>
    refine ⟨fun none => (by cases none), ?_⟩
    rintro ⟨⟨pfx, nexthop⟩, rest, here, _⟩
    exact absurd here (elsewhere pfx nexthop rest)

omit [DecidableEq Hop] in
theorem caller_call {call : Call Pfx Hop} :
    session.caller (.call call) = some next ↔
      session.client = .idle ∧
        { session with advertise := call.update session.advertise, client := .updated call } =
          next := by
  rw [caller]
  split <;> simp_all

omit [DecidableEq Hop] in
theorem caller_check :
    session.caller .check = some next ↔
      ∃ call, session.client = .updated call ∧
        { session with
          client := if session.connected && session.established then .sending call else .idle } =
          next := by
  rw [caller]
  split <;> simp_all

omit [DecidableEq Hop] in
theorem caller_send {ok : Bool} :
    session.caller (.send ok) = some next ↔
      ∃ call, session.client = .sending call ∧
        { session.write ok call.sent with client := .idle } = next := by
  rw [caller]
  split <;> simp_all

end Session

def machine [DecidableEq Pfx] [DecidableEq Hop] : Machine (Session Pfx Hop) (Action Pfx Hop) where
  step session
    | .thread action => session.thread action
    | .caller action => session.caller action

end OnboxFvt.Bgp
