import OnboxFvt.Bgp.Commands
import OnboxFvt.Bgp.Convergence

/-!
# A test and its speaker

A `NetnsBgpPeer` of `topo/netns_peer.py` and the `--serve` process it starts: the test
thread, the main thread of the process and its session thread, with the two pipes between
them.  Every call of the test waits for the answer to its line, so there is one line under
way at most, and a call that has returned has been carried out.
-/

namespace OnboxFvt.Bgp

open Library Python

variable (Pfx Hop : Type)

/-- Where the test thread is: in the `readline` of `start_speaker`, between two calls, in the
`readline` of `_send`, in the `wait` of `stop_speaker`, or after it. -/
inductive Parent where
  | starting
  | idle
  | awaiting
  | joining
  | gone
  deriving DecidableEq

/-- Where `_serve_main` is: in `wait_established`, at the next line of stdin, in a call of the
peer, at its `stop`, or over. -/
inductive Serve where
  | waiting
  | reading
  | calling
  | stopping
  | exited
  deriving DecidableEq

/-- `started` is what `start_speaker` has returned; `issued` are the calls that have written
their line. -/
structure Served where
  session : Session Pfx Hop
  serve : Serve
  parent : Parent
  stdin : Text
  stdout : Text
  started : Option Bool
  issued : List (Call Pfx Hop)

/-- `status` has the error of a session that is not established when the wait ends. -/
inductive ServeAction where
  | status (error : Option Text)
  | read
  | check
  | send (ok : Bool)
  | reply
  | stop
  deriving DecidableEq

/-- `kill` is the end of a `wait` that times out. -/
inductive ParentAction (Pfx Hop : Type) where
  | start
  | call (call : Call Pfx Hop)
  | answer
  | quit
  | reap
  | kill
  deriving DecidableEq

inductive ServedAction (Pfx Hop : Type) where
  | thread (action : ThreadAction)
  | serve (action : ServeAction)
  | parent (action : ParentAction Pfx Hop)
  deriving DecidableEq

variable {Pfx Hop}

def statusLine : Option Text → Text
  | none => "ESTABLISHED".toList
  | some error => "FAILED ".toList ++ error

def Served.spawned (advertise : List (Pfx × Hop)) : Served Pfx Hop where
  session := .initial advertise
  serve := .waiting
  parent := .starting
  stdin := []
  stdout := []
  started := none
  issued := []

variable (prefixes : Spelling Pfx) (hops : Spelling Hop)

/-- `Popen` with the argument for an `advertise` list. -/
def launch? (advertise : List (Pfx × Hop)) : Option (Served Pfx Hop) :=
  (routes? prefixes hops (parseAdv (advArgument prefixes hops advertise))).map Served.spawned

namespace Served

/-- `print` on one of the pipes. -/
def line (text : Text) : Text :=
  text ++ ['\n']

/-- `readline` on the process's stdout; the pipe ends when the process does. -/
def readline? (served : Served Pfx Hop) : Option (Text × Text) :=
  match cut? ['\n'] served.stdout with
  | some parts => some parts
  | none => if served.serve = .exited then some (served.stdout, []) else none

variable [DecidableEq Pfx] [DecidableEq Hop]

/-- The branches of the command loop, the lines behind the command being `rest`. -/
def obey (served : Served Pfx Hop) (rest : Text) : Command Pfx Hop → Option (Served Pfx Hop)
  | .skip => some { served with stdin := rest }
  | .quit => some { served with stdin := rest, serve := .stopping }
  | .unknown => some { served with stdin := rest, stdout := served.stdout ++ line "ERR".toList }
  | .call call =>
      (served.session.caller (.call call)).map fun session =>
        { served with session := session, stdin := rest, serve := .calling }

def serveStep (served : Served Pfx Hop) : ServeAction → Option (Served Pfx Hop)
  | .status error =>
      if served.serve = .waiting then
        some { served with
          stdout := served.stdout ++ line (statusLine error)
          serve := if error = none then .reading else .stopping }
      else none
  | .read =>
      if served.serve = .reading then
        (cut? ['\n'] served.stdin).bind fun parts =>
          (command? prefixes hops parts.1).bind (served.obey parts.2)
      else none
  | .check =>
      if served.serve = .calling then
        (served.session.caller .check).map fun session => { served with session := session }
      else none
  | .send ok =>
      if served.serve = .calling then
        (served.session.caller (.send ok)).map fun session => { served with session := session }
      else none
  | .reply =>
      if served.serve = .calling ∧ served.session.client = .idle then
        some { served with stdout := served.stdout ++ line "OK".toList, serve := .reading }
      else none
  | .stop =>
      if served.serve = .stopping then
        (served.session.caller .stop).map fun session =>
          { served with session := session, serve := .exited }
      else none

/-- `_send` writes nothing once the process has ended, or been waited for. -/
def parentStep (served : Served Pfx Hop) : ParentAction Pfx Hop → Option (Served Pfx Hop)
  | .start =>
      if served.parent = .starting then
        served.readline?.map fun parts =>
          { served with
            stdout := parts.2
            parent := .idle
            started := some (strip parts.1 == "ESTABLISHED".toList) }
      else none
  | .call call =>
      if served.parent = .gone then some served
      else if served.parent = .idle then
        if served.serve = .exited then some served
        else some { served with
          stdin := served.stdin ++ line (callLine prefixes hops call)
          parent := .awaiting
          issued := served.issued ++ [call] }
      else none
  | .answer =>
      if served.parent = .awaiting then
        served.readline?.map fun parts => { served with stdout := parts.2, parent := .idle }
      else none
  | .quit =>
      if served.parent = .idle then
        some { served with
          stdin := if served.serve = .exited then served.stdin else served.stdin ++ line quitLine
          parent := .joining }
      else none
  | .reap =>
      if served.parent = .joining ∧ served.serve = .exited then
        some { served with parent := .gone }
      else none
  | .kill =>
      if served.parent = .joining then some { served with parent := .gone, serve := .exited }
      else none

/-- The session thread is a daemon: it goes with the process. -/
def threadStep (served : Served Pfx Hop) (action : ThreadAction) : Option (Served Pfx Hop) :=
  if served.serve = .exited then none
  else (served.session.thread action).map fun session => { served with session := session }

end Served

def serving [DecidableEq Pfx] [DecidableEq Hop] :
    Machine (Served Pfx Hop) (ServedAction Pfx Hop) where
  step served
    | .thread action => served.threadStep action
    | .serve action => served.serveStep prefixes hops action
    | .parent action => served.parentStep prefixes hops action

variable {prefixes hops}

theorem launch?_eq (advertise : List (Pfx × Hop)) :
    launch? prefixes hops advertise = some (Served.spawned advertise) := by
  rw [launch?, routes?_parseAdv]
  rfl

end OnboxFvt.Bgp
