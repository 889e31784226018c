import Mathlib.Data.List.Perm.Basic
import OnboxFvt.Library.Run
import OnboxFvt.Servers.Handler

/-!
# The life of a threaded server

`start`, `stop` and `_serve` of `ThreadServer` in `servers/base.py`: the thread of the test, the
threads that serve, and what arrives at the sockets.  A server thread reads `self._sock` anew for
every datagram; the datagram it waits for comes from the socket it read.
-/

namespace OnboxFvt.Servers

open Library

inductive Status
  | unbound
  | bound
  | closed
  deriving DecidableEq

structure Socket (Data Addr : Type) where
  status : Status
  queue : List (Datagram Data Addr)

/-- Where a server thread is in `_serve`. -/
inductive Pc (Data Addr : Type)
  | checking
  | receiving (socket : Nat)
  | logging (d : Datagram Data Addr)
  | handling (d : Datagram Data Addr)
  | replying (d : Datagram Data Addr) (reply : Data)
  | exited
  deriving DecidableEq

/-- A call of `sendto`, and whether the reply went out. -/
structure Sent (Data Addr : Type) where
  reply : Data
  addr : Addr
  out : Bool

structure System (Self Data Addr : Type) where
  self : Self
  requests : List (Datagram Data Addr)
  stopped : Bool
  current : Option Nat
  sockets : List (Socket Data Addr)
  threads : List (Pc Data Addr)
  sends : List (Sent Data Addr)

inductive Move
  | check
  | receive
  | timeout
  | fail
  | log
  | handle
  | reply (went : Bool)

/-- `stop` sets the flag and closes the socket.  Its `join` gives up after a while, as a thread
may be in `on_datagram` for as long as it likes. -/
inductive Action (Data Addr : Type)
  | start (bound : Bool)
  | setStop
  | close
  | arrive (socket : Nat) (d : Datagram Data Addr)
  | thread (t : Nat) (move : Move)

variable {Self Data Addr : Type}

namespace System

variable (state : System Self Data Addr)

def fresh (self : Self) : System Self Data Addr :=
  { self, requests := [], stopped := false, current := none, sockets := [], threads := [],
    sends := [] }

def setSocket (s : Nat) (socket : Socket Data Addr) : System Self Data Addr :=
  { state with sockets := state.sockets.set s socket }

/-- Whether `self._sock` can send. -/
def sendable : Bool :=
  ((state.current.bind (state.sockets[·]?)).map fun socket =>
    decide (socket.status ≠ .closed)).getD false

/-- A step of a server thread: the rest of the system afterwards, and where the thread is. -/
def advance? (handler : Handler Self Data Addr) :
    Pc Data Addr → Move → Option (System Self Data Addr × Pc Data Addr)
  | .checking, .check =>
      if state.stopped then some (state, .exited)
      else state.current.map fun s => (state, .receiving s)
  | .receiving s, .receive =>
      match state.sockets[s]? with
      | some ⟨.bound, d :: rest⟩ => some (state.setSocket s ⟨.bound, rest⟩, .logging d)
      | _ => none
  | .receiving _, .timeout => some (state, .checking)
  | .receiving _, .fail => some (state, .exited)
  | .logging d, .log => some ({ state with requests := state.requests ++ [d] }, .handling d)
  | .handling d, .handle =>
      let (self, reply) := handler.answer state.self d
      some ({ state with self }, (reply.map (Pc.replying d)).getD .checking)
  | .replying d reply, .reply went =>
      let sent := { reply, addr := d.addr, out := went && state.sendable }
      some ({ state with sends := state.sends ++ [sent] }, .checking)
  | _, _ => none

def step (handler : Handler Self Data Addr) :
    System Self Data Addr → Action Data Addr → Option (System Self Data Addr)
  | state, .start bound =>
      some { state with
        current := some state.sockets.length
        sockets := state.sockets ++ [⟨if bound then .bound else .unbound, []⟩]
        threads := if bound then state.threads ++ [.checking] else state.threads }
  | state, .setStop => some { state with stopped := true }
  | state, .close =>
      if state.stopped then
        match state.current with
        | none => some state
        | some s =>
            (state.sockets[s]?).map fun socket =>
              state.setSocket s { socket with status := .closed }
      else none
  | state, .arrive s d =>
      match state.sockets[s]? with
      | some ⟨.bound, queue⟩ => some (state.setSocket s ⟨.bound, queue ++ [d]⟩)
      | _ => none
  | state, .thread t move =>
      (state.threads[t]?).bind fun pc => (state.advance? handler pc move).map fun (next, pc) =>
        { next with threads := next.threads.set t pc }

end System

def server (handler : Handler Self Data Addr) :
    Machine (System Self Data Addr) (Action Data Addr) where
  step := System.step handler

/-! ## Steps -/

/-- What a step of a server thread does. -/
inductive Advances (handler : Handler Self Data Addr) (state : System Self Data Addr) :
    Pc Data Addr → System Self Data Addr → Pc Data Addr → Prop
  | stops : state.stopped = true → Advances handler state .checking state .exited
  | waits {s : Nat} : state.stopped = false → state.current = some s →
      Advances handler state .checking state (.receiving s)
  | receives {s : Nat} {d : Datagram Data Addr} {rest : List (Datagram Data Addr)} :
      state.sockets[s]? = some ⟨.bound, d :: rest⟩ →
      Advances handler state (.receiving s) (state.setSocket s ⟨.bound, rest⟩) (.logging d)
  | timesOut (s : Nat) : Advances handler state (.receiving s) state .checking
  | fails (s : Nat) : Advances handler state (.receiving s) state .exited
  | logs (d : Datagram Data Addr) : Advances handler state (.logging d)
      { state with requests := state.requests ++ [d] } (.handling d)
  | silent {d : Datagram Data Addr} : (handler.answer state.self d).2 = none →
      Advances handler state (.handling d)
        { state with self := (handler.answer state.self d).1 } .checking
  | answers {d : Datagram Data Addr} {reply : Data} :
      (handler.answer state.self d).2 = some reply →
      Advances handler state (.handling d)
        { state with self := (handler.answer state.self d).1 } (.replying d reply)
  | replies (d : Datagram Data Addr) (reply : Data) (out : Bool) :
      Advances handler state (.replying d reply)
        { state with sends := state.sends ++ [⟨reply, d.addr, out⟩] } .checking

theorem advances {handler : Handler Self Data Addr} {state next : System Self Data Addr}
    {pc after : Pc Data Addr} {move : Move}
    (advanced : state.advance? handler pc move = some (next, after)) :
    Advances handler state pc next after := by
  unfold System.advance? at advanced
  split at advanced
  · split at advanced
    next stopped =>
      cases advanced
      exact .stops stopped
    next running =>
      obtain ⟨s, current, same⟩ := Option.map_eq_some_iff.mp advanced
      cases same
      exact .waits (eq_false_of_ne_true running) current
  · split at advanced
    next d rest socket =>
      cases advanced
      exact .receives socket
    next => cases advanced
  · cases advanced
    exact .timesOut _
  · cases advanced
    exact .fails _
  · cases advanced
    exact .logs _
  next d =>
    cases reply : (handler.answer state.self d).2 with
    | none =>
        dsimp only at advanced
        rw [reply] at advanced
        cases advanced
        exact .silent reply
    | some reply' =>
        dsimp only at advanced
        rw [reply] at advanced
        cases advanced
        exact .answers reply
  · cases advanced
    exact .replies _ _ _
  · cases advanced

theorem advances_threads {handler : Handler Self Data Addr} {state next : System Self Data Addr}
    {pc after : Pc Data Addr} (advanced : Advances handler state pc next after) :
    next.threads = state.threads := by
  cases advanced <;> rfl

theorem thread_step {handler : Handler Self Data Addr} {state next : System Self Data Addr}
    {t : Nat} {move : Move} (stepped : (server handler).step state (.thread t move) = some next) :
    ∃ pc moved after, state.threads[t]? = some pc ∧ Advances handler state pc moved after ∧
      next = { moved with threads := state.threads.set t after } := by
  obtain ⟨pc, here, rest⟩ := Option.bind_eq_some_iff.mp stepped
  obtain ⟨⟨moved, after⟩, advanced, rfl⟩ := Option.map_eq_some_iff.mp rest
  refine ⟨pc, moved, after, here, advances advanced, ?_⟩
  dsimp only
  rw [advances_threads (advances advanced)]

/-! ## Every datagram is somewhere -/

def arrivals (actions : List (Action Data Addr)) : List (Datagram Data Addr) :=
  actions.filterMap fun action =>
    match action with
    | .arrive _ d => some d
    | _ => none

/-- The datagram that has been received and not been logged. -/
def Pc.inHand : Pc Data Addr → Option (Datagram Data Addr)
  | .logging d => some d
  | _ => none

namespace System

def inHand (state : System Self Data Addr) : List (Datagram Data Addr) :=
  state.threads.filterMap Pc.inHand

def queued (state : System Self Data Addr) : List (Datagram Data Addr) :=
  state.sockets.flatMap Socket.queue

end System

/-- What one element of a list is replaced by does not concern the others. -/
theorem perm_set {Item : Type} {items : List Item} {n : Nat} {item : Item}
    (here : items[n]? = some item) :
    ∃ rest, items.Perm (item :: rest) ∧ ∀ other, (items.set n other).Perm (other :: rest) := by
  obtain ⟨inside, rfl⟩ := List.getElem?_eq_some_iff.mp here
  exact ⟨items.eraseIdx n, (List.getElem_cons_eraseIdx_perm inside).symm,
    fun other => List.set_perm_cons_eraseIdx inside other⟩

theorem count_inHand_set [DecidableEq (Datagram Data Addr)] {threads : List (Pc Data Addr)}
    {t : Nat} {pc : Pc Data Addr} (here : threads[t]? = some pc) (after : Pc Data Addr)
    (d : Datagram Data Addr) :
    ((threads.set t after).filterMap Pc.inHand).count d + pc.inHand.toList.count d =
      (threads.filterMap Pc.inHand).count d + after.inHand.toList.count d := by
  obtain ⟨rest, before, afterwards⟩ := perm_set here
  have split : ∀ pc : Pc Data Addr, ((pc :: rest).filterMap Pc.inHand).count d =
      pc.inHand.toList.count d + (rest.filterMap Pc.inHand).count d := by
    intro pc
    rw [List.filterMap_cons]
    cases pc.inHand with
    | none => simp
    | some d => rw [Option.toList_some, ← List.count_append, List.singleton_append]
  rw [(before.filterMap _).count_eq, ((afterwards after).filterMap _).count_eq, split, split]
  omega

theorem count_queued_set [DecidableEq (Datagram Data Addr)] {sockets : List (Socket Data Addr)}
    {s : Nat} {socket : Socket Data Addr} (here : sockets[s]? = some socket)
    (after : Socket Data Addr) (d : Datagram Data Addr) :
    ((sockets.set s after).flatMap Socket.queue).count d + socket.queue.count d =
      (sockets.flatMap Socket.queue).count d + after.queue.count d := by
  obtain ⟨rest, before, afterwards⟩ := perm_set here
  rw [(before.flatMap_right _).count_eq, ((afterwards after).flatMap_right _).count_eq,
    List.flatMap_cons, List.flatMap_cons, List.count_append, List.count_append]
  omega

/-- What has arrived is logged, in the hand of a thread or in a queue, once each. -/
def Conserved [DecidableEq (Datagram Data Addr)] (history : List (Action Data Addr))
    (state : System Self Data Addr) : Prop :=
  ∀ d, (arrivals history).count d =
    state.requests.count d + state.inHand.count d + state.queued.count d

theorem Conserved.step [DecidableEq (Datagram Data Addr)] {handler : Handler Self Data Addr}
    {history : List (Action Data Addr)} {state next : System Self Data Addr}
    {action : Action Data Addr} (conserved : Conserved history state)
    (stepped : (server handler).step state action = some next) :
    Conserved (history ++ [action]) next := by
  intro d
  have before := conserved d
  rw [arrivals, List.filterMap_append, ← arrivals, List.count_append]
  cases action with
  | start bound =>
      cases stepped
      have threads : (if bound then state.threads ++ [.checking] else state.threads).filterMap
          Pc.inHand = state.threads.filterMap Pc.inHand := by
        cases bound <;> simp [Pc.inHand]
      simp only [System.inHand, System.queued, threads, List.flatMap_append, List.flatMap_cons,
        List.flatMap_nil, List.append_nil] at before ⊢
      exact before
  | setStop =>
      cases stepped
      exact before
  | close =>
      change (if state.stopped then _ else none) = some next at stepped
      split at stepped
      · cases known : state.current with
        | none =>
            rw [known] at stepped
            cases stepped
            exact before
        | some s =>
            rw [known] at stepped
            obtain ⟨socket, here, rfl⟩ := Option.map_eq_some_iff.mp stepped
            have same := count_queued_set here { socket with status := .closed } d
            simp only [System.inHand, System.queued, System.setSocket, List.filterMap_cons,
              List.filterMap_nil, List.count_nil] at before same ⊢
            omega
      · cases stepped
  | arrive s fresh =>
      change (match state.sockets[s]? with | some ⟨.bound, queue⟩ => _ | _ => none) = _ at stepped
      split at stepped
      next queue here =>
        cases stepped
        have more := count_queued_set here ⟨.bound, queue ++ [fresh]⟩ d
        simp only [System.inHand, System.queued, System.setSocket, List.filterMap_cons,
          List.filterMap_nil, List.count_append] at before more ⊢
        omega
      next => cases stepped
  | thread t move =>
      obtain ⟨pc, moved, after, here, advanced, rfl⟩ := thread_step stepped
      have hands := count_inHand_set here after d
      simp only [List.filterMap_cons, List.filterMap_nil, List.count_nil, Nat.add_zero]
      cases advanced with
      | @receives s first rest socket =>
          have less := count_queued_set socket ⟨.bound, rest⟩ d
          simp only [System.inHand, System.queued, System.setSocket, Pc.inHand,
            Option.toList_some, Option.toList_none, List.count_nil, List.count_cons] at *
          omega
      | logs d' =>
          simp only [System.inHand, System.queued, Pc.inHand, Option.toList_some,
            Option.toList_none, List.count_nil, List.count_append] at *
          omega
      | _ =>
          simp only [System.inHand, System.queued, Pc.inHand, Option.toList_none,
            List.count_nil] at *
          omega

/-! ## A server that has been stopped -/

/-- No thread waits for a datagram that may come. -/
structure Deaf (state : System Self Data Addr) : Prop where
  stopped : state.stopped = true
  closed : ∀ s, .receiving s ∈ state.threads →
    ∃ queue, state.sockets[s]? = some ⟨.closed, queue⟩

/-- The sockets that are read exist. -/
structure Known (state : System Self Data Addr) : Prop where
  current : ∀ s, state.current = some s → s < state.sockets.length
  receiving : ∀ s, .receiving s ∈ state.threads → s < state.sockets.length

theorem Known.step {handler : Handler Self Data Addr} {state next : System Self Data Addr}
    {action : Action Data Addr} (known : Known state)
    (stepped : (server handler).step state action = some next) : Known next := by
  cases action with
  | start bound =>
      cases stepped
      refine ⟨fun s current => ?_, fun s member => ?_⟩
      · cases current
        simp
      · have older : .receiving s ∈ state.threads := by
          cases bound with
          | false => exact member
          | true => simpa using member
        have inside := known.receiving s older
        simp only [List.length_append, List.length_singleton]
        omega
  | setStop =>
      cases stepped
      exact ⟨known.current, known.receiving⟩
  | close =>
      change (if state.stopped then _ else none) = some next at stepped
      split at stepped
      · cases named : state.current with
        | none =>
            rw [named] at stepped
            cases stepped
            exact known
        | some s =>
            rw [named] at stepped
            obtain ⟨socket, here, rfl⟩ := Option.map_eq_some_iff.mp stepped
            simp only [System.setSocket]
            exact ⟨fun s current => by simpa using known.current s current,
              fun s member => by simpa using known.receiving s member⟩
      · cases stepped
  | arrive s fresh =>
      change (match state.sockets[s]? with | some ⟨.bound, queue⟩ => _ | _ => none) = _ at stepped
      split at stepped
      next queue here =>
        cases stepped
        exact ⟨fun s current => by simpa [System.setSocket] using known.current s current,
          fun s member => by simpa [System.setSocket] using known.receiving s member⟩
      next => cases stepped
  | thread t move =>
      obtain ⟨pc, moved, after, here, advanced, rfl⟩ := thread_step stepped
      have sockets : moved.sockets.length = state.sockets.length ∧
          moved.current = state.current := by
        cases advanced <;> simp [System.setSocket]
      refine ⟨fun s current => ?_, fun s member => ?_⟩
      · rw [sockets.1]
        exact known.current s (sockets.2 ▸ current)
      · rw [sockets.1]
        rcases List.mem_or_eq_of_mem_set member with older | same
        · exact known.receiving s older
        · cases advanced with
          | waits _ current =>
              cases same
              exact known.current s current
          | _ => cases same

/-- What a server without ears has received stays what it is. -/
theorem Deaf.step [DecidableEq (Datagram Data Addr)] {handler : Handler Self Data Addr}
    {state next : System Self Data Addr} {action : Action Data Addr} (deaf : Deaf state)
    (stepped : (server handler).step state action = some next) :
    Deaf next ∧ ∀ d, next.requests.count d + next.inHand.count d =
      state.requests.count d + state.inHand.count d := by
  cases action with
  | start bound =>
      cases stepped
      refine ⟨⟨deaf.stopped, fun s member => ?_⟩, fun d => ?_⟩
      · have older : .receiving s ∈ state.threads := by
          cases bound with
          | false => exact member
          | true => simpa using member
        obtain ⟨queue, here⟩ := deaf.closed s older
        exact ⟨queue, List.getElem?_append_left (List.getElem?_eq_some_iff.mp here).1 ▸ here⟩
      · cases bound <;> simp [System.inHand, Pc.inHand, List.filterMap_cons]
  | setStop =>
      cases stepped
      exact ⟨⟨rfl, deaf.closed⟩, fun d => rfl⟩
  | close =>
      change (if state.stopped then _ else none) = some next at stepped
      split at stepped
      · cases named : state.current with
        | none =>
            rw [named] at stepped
            cases stepped
            exact ⟨deaf, fun d => rfl⟩
        | some s =>
            rw [named] at stepped
            obtain ⟨socket, here, rfl⟩ := Option.map_eq_some_iff.mp stepped
            refine ⟨⟨deaf.stopped, fun s' member => ?_⟩, fun d => rfl⟩
            obtain ⟨queue, closed⟩ := deaf.closed s' member
            by_cases same : s = s'
            · subst same
              refine ⟨socket.queue, ?_⟩
              simp [System.setSocket, (List.getElem?_eq_some_iff.mp here).1]
            · exact ⟨queue, (List.getElem?_set_ne same).trans closed⟩
      · cases stepped
  | arrive s fresh =>
      change (match state.sockets[s]? with | some ⟨.bound, queue⟩ => _ | _ => none) = _ at stepped
      split at stepped
      next queue here =>
        cases stepped
        refine ⟨⟨deaf.stopped, fun s' member => ?_⟩, fun d => rfl⟩
        obtain ⟨queue', closed⟩ := deaf.closed s' member
        have other : s ≠ s' := by
          rintro rfl
          rw [here] at closed
          cases closed
        exact ⟨queue', (List.getElem?_set_ne other).trans closed⟩
      next => cases stepped
  | thread t move =>
      obtain ⟨pc, moved, after, here, advanced, rfl⟩ := thread_step stepped
      have member := List.mem_of_getElem? here
      have hands := fun d => count_inHand_set here after d
      have stays : ∀ s, .receiving s ∈ state.threads.set t after → after ≠ .receiving s →
          ∃ queue, state.sockets[s]? = some ⟨.closed, queue⟩ := by
        intro s listed other
        rcases List.mem_or_eq_of_mem_set listed with older | same
        · exact deaf.closed s older
        · exact absurd same.symm other
      cases advanced with
      | waits running _ =>
          rw [deaf.stopped] at running
          cases running
      | receives socket =>
          obtain ⟨queue, closed⟩ := deaf.closed _ member
          rw [socket] at closed
          cases closed
      | _ =>
          refine ⟨⟨deaf.stopped, fun s listed => stays s listed (by intro same; cases same)⟩,
            fun d => ?_⟩
          have same := hands d
          simp only [System.inHand, Pc.inHand, Option.toList_some, Option.toList_none,
            List.count_nil, List.count_append] at same ⊢
          omega

theorem known_reached {handler : Handler Self Data Addr} {self : Self}
    {actions : List (Action Data Addr)} {last : System Self Data Addr}
    (reached : (server handler).run (.fresh self) actions = some last) : Known last := by
  have initially : Known (System.fresh self : System Self Data Addr) := by
    refine ⟨fun s current => ?_, fun s member => ?_⟩
    · cases current
    · cases member
  exact (server handler).preserved_of_run (fun known stepped => known.step stepped) initially
    reached

theorem conserved_run [DecidableEq (Datagram Data Addr)] {handler : Handler Self Data Addr}
    {self : Self} {actions : List (Action Data Addr)} {last : System Self Data Addr}
    (reached : (server handler).run (.fresh self) actions = some last) :
    Conserved actions last := by
  have initially : Conserved [] (System.fresh self : System Self Data Addr) := fun d => rfl
  exact (server handler).invariant_of_history (fun conserved stepped => conserved.step stepped)
    initially reached

theorem Deaf.run [DecidableEq (Datagram Data Addr)] {handler : Handler Self Data Addr}
    {mid last : System Self Data Addr} {actions : List (Action Data Addr)} (deaf : Deaf mid)
    (reached : (server handler).run mid actions = some last) :
    Deaf last ∧ ∀ d, last.requests.count d + last.inHand.count d =
      mid.requests.count d + mid.inHand.count d := by
  induction actions generalizing mid with
  | nil =>
      cases reached
      exact ⟨deaf, fun d => rfl⟩
  | cons action rest inductionHypothesis =>
      obtain ⟨next, stepped, continued⟩ := (server handler).run_cons.mp reached
      obtain ⟨deaf, counts⟩ := deaf.step stepped
      obtain ⟨deaf, later⟩ := inductionHypothesis deaf continued
      exact ⟨deaf, fun d => (later d).trans (counts d)⟩

/-- An Access-Request from the address 7. -/
def accessRequest : Datagram Dhcp.Octets Nat :=
  ⟨1 :: List.replicate 19 9, 7⟩

/-- It arrives and is answered, and the server is stopped. -/
def accessThenStop : List (Action Dhcp.Octets Nat) :=
  [.start true, .arrive 0 accessRequest, .thread 0 .check, .thread 0 .receive, .thread 0 .log,
    .thread 0 .handle, .thread 0 (.reply true), .setStop, .close]

/-- The server is started once more, and the request is sent again. -/
def accessAgain : List (Action Dhcp.Octets Nat) :=
  [.start true, .arrive 1 accessRequest, .thread 1 .check]

def Sent.pair (sent : Sent Data Addr) : Data × Addr :=
  (sent.reply, sent.addr)

/-- Between two datagrams. -/
def Pc.Calm : Pc Data Addr → Prop
  | .handling _ => False
  | .replying _ _ => False
  | _ => True

/-- How far the only thread is with what has been logged. -/
inductive Follows (handler : Handler Self Data Addr) (self : Self)
    (state : System Self Data Addr) : Pc Data Addr → Prop
  | calm {pc : Pc Data Addr} : pc.Calm →
      handler.serve self state.requests = (state.self, state.sends.map Sent.pair) →
      Follows handler self state pc
  | handling {logged : List (Datagram Data Addr)} {d : Datagram Data Addr} :
      state.requests = logged ++ [d] →
      handler.serve self logged = (state.self, state.sends.map Sent.pair) →
      Follows handler self state (.handling d)
  | replying {d : Datagram Data Addr} {reply : Data} :
      handler.serve self state.requests =
        (state.self, state.sends.map Sent.pair ++ [(reply, d.addr)]) →
      Follows handler self state (.replying d reply)

/-- The state before the first thread, or with it. -/
def Alone (handler : Handler Self Data Addr) (self : Self) (state : System Self Data Addr) :
    Prop :=
  state.threads = [] ∧ handler.serve self state.requests =
      (state.self, state.sends.map Sent.pair) ∨
    (∃ pc, state.threads = [pc] ∧ Follows handler self state pc) ∨ 2 ≤ state.threads.length

theorem Follows.advance {handler : Handler Self Data Addr} {self : Self}
    {state moved : System Self Data Addr} {pc after : Pc Data Addr}
    (follows : Follows handler self state pc) (advanced : Advances handler state pc moved after)
    (threads : List (Pc Data Addr)) :
    Follows handler self { moved with threads } after := by
  cases advanced with
  | logs d =>
      cases follows with
      | calm _ served => exact .handling rfl served
  | silent none_ =>
      cases follows with
      | calm calm _ => cases calm
      | handling logged served =>
          refine .calm trivial ?_
          dsimp only
          rw [logged, handler.serve_concat, served]
          dsimp only
          rw [none_]
          exact Prod.ext rfl (List.append_nil _)
  | answers some_ =>
      cases follows with
      | calm calm _ => cases calm
      | handling logged served =>
          refine .replying ?_
          dsimp only
          rw [logged, handler.serve_concat, served]
          dsimp only
          rw [some_]
          rfl
  | replies d reply out =>
      cases follows with
      | calm calm _ => cases calm
      | replying served =>
          refine .calm trivial ?_
          dsimp only
          rw [served, List.map_append]
          rfl
  | _ =>
      cases follows with
      | calm _ served => exact .calm trivial served

theorem Follows.congr {handler : Handler Self Data Addr} {self : Self}
    {state next : System Self Data Addr} {pc : Pc Data Addr}
    (follows : Follows handler self state pc) (requests : next.requests = state.requests)
    (same : next.self = state.self) (sends : next.sends = state.sends) :
    Follows handler self next pc := by
  cases follows with
  | calm calm served => exact .calm calm (by rw [requests, served, same, sends])
  | handling logged served => exact .handling (requests.trans logged) (by rw [served, same, sends])
  | replying served => exact .replying (by rw [requests, served, same, sends])

theorem Alone.congr {handler : Handler Self Data Addr} {self : Self}
    {state next : System Self Data Addr} (alone : Alone handler self state)
    (threads : next.threads = state.threads) (requests : next.requests = state.requests)
    (same : next.self = state.self) (sends : next.sends = state.sends) :
    Alone handler self next := by
  rcases alone with ⟨none_, served⟩ | ⟨pc, one, follows⟩ | more
  · exact Or.inl ⟨threads.trans none_, by rw [requests, served, same, sends]⟩
  · exact Or.inr (Or.inl ⟨pc, threads.trans one, follows.congr requests same sends⟩)
  · exact Or.inr (Or.inr (threads ▸ more))

theorem Alone.step {handler : Handler Self Data Addr} {self : Self}
    {state next : System Self Data Addr} {action : Action Data Addr}
    (alone : Alone handler self state)
    (stepped : (server handler).step state action = some next) : Alone handler self next := by
  cases action with
  | start bound =>
      cases stepped
      cases bound with
      | false => exact alone.congr rfl rfl rfl rfl
      | true =>
          rcases alone with ⟨none_, served⟩ | ⟨pc, one, -⟩ | more
          · refine Or.inr (Or.inl ⟨.checking, ?_, .calm trivial served⟩)
            simp [none_]
          · refine Or.inr (Or.inr ?_)
            simp [one]
          · refine Or.inr (Or.inr ?_)
            simp only [if_true, List.length_append]
            omega
  | setStop =>
      cases stepped
      exact alone.congr rfl rfl rfl rfl
  | close =>
      change (if state.stopped then _ else none) = some next at stepped
      split at stepped
      · cases named : state.current with
        | none =>
            rw [named] at stepped
            cases stepped
            exact alone
        | some s =>
            rw [named] at stepped
            obtain ⟨socket, here, rfl⟩ := Option.map_eq_some_iff.mp stepped
            exact alone.congr rfl rfl rfl rfl
      · cases stepped
  | arrive s fresh =>
      change (match state.sockets[s]? with | some ⟨.bound, queue⟩ => _ | _ => none) = _ at stepped
      split at stepped
      · cases stepped
        exact alone.congr rfl rfl rfl rfl
      · cases stepped
  | thread t move =>
      obtain ⟨pc, moved, after, here, advanced, rfl⟩ := thread_step stepped
      rcases alone with ⟨none_, -⟩ | ⟨pc', one, follows⟩ | more
      · rw [none_] at here
        cases here
      · rw [one] at here ⊢
        cases t with
        | zero =>
            cases here
            exact Or.inr (Or.inl ⟨after, rfl, follows.advance advanced _⟩)
        | succ t => cases here
      · exact Or.inr (Or.inr (by rwa [List.length_set]))

theorem alone_run {handler : Handler Self Data Addr} {self : Self}
    {actions : List (Action Data Addr)} {last : System Self Data Addr}
    (reached : (server handler).run (.fresh self) actions = some last) :
    Alone handler self last := by
  have initially : Alone handler self (.fresh self) := Or.inl ⟨rfl, rfl⟩
  exact (server handler).preserved_of_run (fun alone stepped => alone.step stepped) initially
    reached

theorem Alone.sends {handler : Handler Self Data Addr} {self : Self}
    {state : System Self Data Addr} (alone : Alone handler self state)
    (one : state.threads.length ≤ 1) :
    state.sends.map Sent.pair <+: (handler.serve self state.requests).2 := by
  rcases alone with ⟨-, served⟩ | ⟨pc, -, follows⟩ | more
  · rw [served]
  · cases follows with
    | calm _ served => rw [served]
    | handling logged served =>
        rw [logged, handler.serve_concat, served]
        exact List.prefix_append _ _
    | replying served =>
        rw [served]
        exact List.prefix_append _ _
  · omega

theorem Alone.serves {handler : Handler Self Data Addr} {self : Self}
    {state : System Self Data Addr} (alone : Alone handler self state)
    (one : state.threads.length ≤ 1) (calm : ∀ pc ∈ state.threads, pc.Calm) :
    handler.serve self state.requests = (state.self, state.sends.map Sent.pair) := by
  rcases alone with ⟨-, served⟩ | ⟨pc, single, follows⟩ | more
  · exact served
  · have still : pc.Calm := calm pc (single ▸ List.mem_singleton_self pc)
    cases follows with
    | calm _ served => exact served
    | handling => exact still.elim
    | replying => exact still.elim
  · omega

/-- Nothing that arrives is lost or seen twice, and a server with one thread does what `serve`
does with what it has logged. -/
theorem server_serves (handler : Handler Self Data Addr) (self : Self)
    (actions : List (Action Data Addr)) (last : System Self Data Addr)
    (reached : (server handler).run (.fresh self) actions = some last) :
    (arrivals actions).Perm (last.requests ++ last.inHand ++ last.queued) ∧
      (last.threads.length ≤ 1 →
        last.sends.map Sent.pair <+: (handler.serve self last.requests).2 ∧
          ((∀ pc ∈ last.threads, pc.Calm) →
            handler.serve self last.requests = (last.self, last.sends.map Sent.pair))) := by
  classical
  have conserved := conserved_run reached
  have alone := alone_run reached
  refine ⟨List.perm_iff_count.mpr fun d => ?_,
    fun one => ⟨alone.sends one, fun calm => alone.serves one calm⟩⟩
  rw [List.count_append, List.count_append]
  exact conserved d

/-- A RADIUS server that has answered. -/
theorem radius_serves :
    ∃ last : System RadiusServer Dhcp.Octets Nat,
      (server (radiusServer Nat)).run (.fresh ⟨[]⟩) (accessThenStop.take 7) = some last ∧
        (arrivals (accessThenStop.take 7)).Perm (last.requests ++ last.inHand ++ last.queued) ∧
        (radiusServer Nat).serve ⟨[]⟩ last.requests = (last.self, last.sends.map Sent.pair) := by
  have runs : ((server (radiusServer Nat)).run (.fresh ⟨[]⟩) (accessThenStop.take 7)).map
      System.threads = some [.checking] := by decide +kernel
  obtain ⟨last, reached, threads⟩ := Option.map_eq_some_iff.mp runs
  obtain ⟨arrived, served⟩ := server_serves _ _ _ last reached
  obtain ⟨-, calmly⟩ := served (by rw [threads]; exact le_rfl)
  refine ⟨last, reached, arrived, calmly fun pc member => ?_⟩
  rw [threads] at member
  rw [List.mem_singleton.mp member]
  trivial

end OnboxFvt.Servers
