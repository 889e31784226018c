import OnboxFvt.Python.Text

/-!
# Rollback of the configuration guard

`ConfigGuard.__exit__` of `framework/config_guard.py`: the registered undo
commands run once in reverse order, the ones that failed run once more, and the
list is cleared.  An exception of `config_raw` leaves `__exit__` at once, while
one of a `verify` callable counts as a failed undo.

The command line and everything below it is a `Transport`: `config_raw` returns
a result or raises, and both may change its state.
-/

namespace OnboxFvt.ConfigGuard

open Python

structure Result where
  rc : Int
  out : Text
  err : Text
  deriving DecidableEq

/-- `_IDEMPOTENT`: the undo target state is already reached. -/
def idempotent : List Text :=
  ["already a member".toList, "already exist".toList, "is not a member".toList,
    "does not exist".toList, "doesn't exist".toList, "not configured".toList]

/-- `_benign`. -/
def benign (r : Result) : Bool :=
  let s := lower (r.err ++ ['\n'] ++ r.out)
  if contains "no such command".toList s then false
  else idempotent.any fun t => contains t s

universe u

structure Transport (State Command Check Error : Type u) where
  configRaw : Command → State → Except Error Result × State
  verify : Check → State → Except Error Bool × State

/-- An entry of `_undo`: the command (`None` is skipped) and its `verify`. -/
structure Undo (Command Check : Type u) where
  cmd : Option Command
  verify : Option Check

variable {State Command Check Error : Type u}

/-- `_run_undo`: whether the undo counts as done, judged by `verify` when there
is one, else by the return code or the idempotency texts. -/
def runUndo (cli : Transport State Command Check Error) (cmd : Command)
    (verify : Option Check) (state : State) : Except Error Bool × State :=
  match cli.configRaw cmd state with
  | (.error e, state) => (.error e, state)
  | (.ok r, state) =>
      match verify with
      | some check =>
          match cli.verify check state with
          | (.ok verdict, state) => (.ok verdict, state)
          | (.error _, state) => (.ok false, state)
      | none => (.ok (r.rc == 0 || benign r), state)

/-- One loop over undo entries; the entries that failed come back in order. -/
def runAll (cli : Transport State Command Check Error) :
    List (Undo Command Check) → State → Except Error (List (Undo Command Check)) × State
  | [], state => (.ok [], state)
  | item :: rest, state =>
      match item.cmd with
      | none => runAll cli rest state
      | some cmd =>
          match runUndo cli cmd item.verify state with
          | (.error e, state) => (.error e, state)
          | (.ok true, state) => runAll cli rest state
          | (.ok false, state) =>
              match runAll cli rest state with
              | (.error e, state) => (.error e, state)
              | (.ok failed, state) => (.ok (item :: failed), state)

/-- `__exit__`: what it returns or raises, the undo list after it, and the
transport state.  `False` is returned whatever the retry pass reports. -/
def exit (cli : Transport State Command Check Error) (undo : List (Undo Command Check))
    (state : State) : Except Error Bool × List (Undo Command Check) × State :=
  match runAll cli undo.reverse state with
  | (.error e, state) => (.error e, undo, state)
  | (.ok failed, state) =>
      match runAll cli failed state with
      | (.error e, state) => (.error e, undo, state)
      | (.ok _, state) => (.ok false, [], state)

end OnboxFvt.ConfigGuard
