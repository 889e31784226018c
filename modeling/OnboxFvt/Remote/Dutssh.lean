import OnboxFvt.Library.Poll
import OnboxFvt.Library.Quoting
import OnboxFvt.Python.Text

/-!
# Commands from the build host

`_q`, `run`, `_run_once` and the lines of `put` and `get` of `tools/dutssh.py`.  A child of
`pexpect.spawn` is what its calls of `expect` return one after the other.
-/

namespace OnboxFvt.Remote

open Library Python

/-- A user, a host or a password of characters that stand for themselves in a line. -/
structure PlainText where
  text : Text
  nonempty : text ≠ []
  plain : ∀ c ∈ text, Shell.isPlain c = true

/-- No argument of a program has a NUL character. -/
structure Argument where
  text : Text
  whole : '\x00' ∉ text

structure Config where
  host : PlainText
  users : List PlainText
  password : PlainText

def sshOpts : Text :=
  "-o StrictHostKeyChecking=no -o UserKnownHostsFile=/dev/null ".toList ++
    "-o PreferredAuthentications=password -o PubkeyAuthentication=no ".toList ++
      "-o HostKeyAlgorithms=+ssh-rsa -o ConnectTimeout=10 -o LogLevel=ERROR".toList

/-- `_q`. -/
def q (s : Text) : Text :=
  "'".toList ++ replaceChar '\'' "'\\''".toList s ++ "'".toList

namespace Config

variable (config : Config)

/-- The command that `run` gives to the remote shell. -/
def wrapped (cmd : Text) (withSudo : Bool) : Text :=
  if withSudo then
    "echo ".toList ++ config.password.text ++ " | sudo -S bash -lc ".toList ++ q cmd
  else cmd

def login (user : PlainText) : Text :=
  user.text ++ ['@'] ++ config.host.text

/-- The line of `_run_once`. -/
def sshLine (user : PlainText) (cmd : Text) : Text :=
  "ssh ".toList ++ sshOpts ++ [' '] ++ config.login user ++ [' '] ++ q cmd

def putLine (user : PlainText) (source target : Text) : Text :=
  "scp ".toList ++ sshOpts ++ [' '] ++ q source ++ [' '] ++ config.login user ++ [':'] ++ q target

def getLine (user : PlainText) (source target : Text) : Text :=
  "scp ".toList ++ sshOpts ++ [' '] ++ config.login user ++ [':'] ++ q source ++ [' '] ++ q target

end Config

/-! ## The retry loops -/

/-- What `expect` returns; the prompt is also seen where the command prints one. -/
inductive Expected
  | prompt
  | eof (out : Text) (exitstatus : Option Int)
  | timeout

abbrev Child := Nat → Expected

inductive Ending
  | answered (rc : Int) (out : Text)
  | authFailed
  | timedOut
  deriving DecidableEq

def Ending.isAnswered : Ending → Bool
  | answered .. => true
  | _ => false

structure Conversation where
  sent : Nat
  ending : Ending

/-- The `while` loop with `sent` passwords sent, of which there may be `left` more. -/
def converse (child : Child) (sent : Nat) : Nat → Conversation
  | 0 =>
      match child sent with
      | .prompt => { sent, ending := .authFailed }
      | .eof out exitstatus => { sent, ending := .answered (exitstatus.getD 0) out }
      | .timeout => { sent, ending := .timedOut }
  | left + 1 =>
      match child sent with
      | .prompt => converse child (sent + 1) left
      | .eof out exitstatus => { sent, ending := .answered (exitstatus.getD 0) out }
      | .timeout => { sent, ending := .timedOut }

/-- A child that has been spawned. -/
structure Spawn where
  user : PlainText
  line : Text
  conversation : Conversation

def Spawn.answered (child : Spawn) : Bool :=
  child.conversation.ending.isAnswered

namespace Config

variable (config : Config) (children : Nat → Child)

/-- The `n`-th child. -/
def spawn (cmd : Text) (user : PlainText) (n : Nat) : Spawn :=
  { user, line := config.sshLine user cmd, conversation := converse (children n) 0 2 }

/-- The loop of `_run_once` after `n` children; without an answer `SystemExit` is raised. -/
def runOnce (cmd : Text) (n : Nat) : List PlainText → List Spawn × Option Spawn
  | [] => ([], none)
  | user :: users =>
      let child := config.spawn children cmd user n
      if child.answered then ([child], some child)
      else
        let (later, answer) := runOnce cmd (n + 1) users
        (child :: later, answer)

/-- The loop of `run`; the last exception is raised again where all attempts have failed. -/
def runFrom (cmd : Text) (n : Nat) : Nat → List Spawn × Option Spawn
  | 0 => ([], none)
  | attempts + 1 =>
      match config.runOnce children cmd n config.users with
      | (spawned, some answer) => (spawned, some answer)
      | (spawned, none) =>
          let (later, answer) := runFrom cmd (n + spawned.length) attempts
          (spawned ++ later, answer)

def run (cmd : Argument) (withSudo : Bool) (attempts : Nat) : List Spawn × Option Spawn :=
  config.runFrom children (config.wrapped cmd.text withSudo) 0 attempts

end Config

/-! ## Words of the lines -/

open Shell in
theorem q_eq (s : Text) : q s = quote s :=
  rfl

open Shell in
theorem spells_q (s : Text) : Spells (q s) s :=
  Spells.quoted s

open Shell in
theorem PlainText.spells (plain : PlainText) : Spells plain.text plain.text :=
  Spells.plain plain.nonempty plain.plain

def sshOptions : List Text :=
  ["-o", "StrictHostKeyChecking=no", "-o", "UserKnownHostsFile=/dev/null", "-o",
    "PreferredAuthentications=password", "-o", "PubkeyAuthentication=no", "-o",
    "HostKeyAlgorithms=+ssh-rsa", "-o", "ConnectTimeout=10", "-o", "LogLevel=ERROR"].map
    String.toList

theorem sshOpts_eq : sshOpts = [' '].intercalate sshOptions := by
  decide +kernel

open Shell in
theorem spells_options : List.Forall₂ Spells sshOptions sshOptions := by
  have plain : sshOptions.all (fun word => !word.isEmpty && word.all isPlain) = true := by
    decide +kernel
  rw [List.all_eq_true] at plain
  refine List.forall₂_same.mpr fun word member => ?_
  have here := plain word member
  rw [Bool.and_eq_true, Bool.not_eq_true', List.isEmpty_eq_false_iff, List.all_eq_true] at here
  exact Spells.plain here.1 here.2

theorem intercalate_append {separator : Text} {first second : List Text} (left : first ≠ [])
    (right : second ≠ []) : separator.intercalate (first ++ second) =
      separator.intercalate first ++ separator ++ separator.intercalate second := by
  induction first with
  | nil => exact absurd rfl left
  | cons word rest inductionHypothesis =>
      cases rest with
      | nil =>
          rw [List.singleton_append, List.intercalate_cons_of_ne_nil right,
            List.intercalate_singleton]
      | cons next rest =>
          rw [List.cons_append, List.cons_append, List.intercalate_cons_cons,
            ← List.cons_append, inductionHypothesis (List.cons_ne_nil next rest),
            List.intercalate_cons_cons]
          simp only [List.append_assoc]

namespace Config

variable (config : Config)

theorem spells_login (user : PlainText) :
    Shell.Spells (config.login user) (config.login user) :=
  (user.spells.append (.char (by decide))).append config.host.spells

theorem read?_optioned {program : Text} {texts words : List Text}
    (named : Shell.Reading.isCommand [program] = true) (nonempty : program ≠ [])
    (plain : program.all Shell.isPlain = true)
    (spelled : List.Forall₂ Shell.Spells texts words) (some_ : texts ≠ []) :
    Shell.read? (program ++ [' '] ++ sshOpts ++ [' '] ++ [' '].intercalate texts) =
      some [program :: (sshOptions ++ words)] := by
  have line : program ++ [' '] ++ sshOpts ++ [' '] ++ [' '].intercalate texts =
      [' '].intercalate (program :: (sshOptions ++ texts)) := by
    have options : sshOptions ≠ [] := List.cons_ne_nil _ _
    rw [List.intercalate_cons_of_ne_nil (List.append_ne_nil_of_left_ne_nil options texts),
      intercalate_append options some_, sshOpts_eq]
    simp only [List.append_assoc]
  rw [line]
  exact Shell.read?_command
    { texts := program :: (sshOptions ++ texts)
      words := program :: (sshOptions ++ words)
      spelled := 
        .cons (.plain nonempty (List.all_eq_true.mp plain)) (List.rel_append spells_options spelled)
      command := Shell.Reading.isCommand_cons named _ }

theorem read?_sshLine (user : PlainText) (cmd : Text) :
    Shell.read? (config.sshLine user cmd) =
      some ["ssh".toList :: (sshOptions ++ [config.login user, cmd])] := by
  have line : config.sshLine user cmd = "ssh".toList ++ [' '] ++ sshOpts ++ [' '] ++
      [' '].intercalate [config.login user, q cmd] := by
    have program : "ssh ".toList = "ssh".toList ++ [' '] := by decide +kernel
    rw [sshLine, program, List.intercalate_cons_cons, List.intercalate_singleton]
    simp only [List.append_assoc]
  rw [line]
  exact read?_optioned (by decide) (by decide) (by decide)
    (.cons (config.spells_login user) (.cons (spells_q cmd) .nil)) (List.cons_ne_nil _ _)

theorem spells_remote (user : PlainText) (path : Text) :
    Shell.Spells (config.login user ++ [':'] ++ q path) (config.login user ++ [':'] ++ path) :=
  ((config.spells_login user).append (.char (by decide))).append (spells_q path)

theorem read?_putLine (user : PlainText) (source target : Text) :
    Shell.read? (config.putLine user source target) =
      some ["scp".toList :: (sshOptions ++ [source, config.login user ++ [':'] ++ target])] := by
  have line : config.putLine user source target = "scp".toList ++ [' '] ++ sshOpts ++ [' '] ++
      [' '].intercalate [q source, config.login user ++ [':'] ++ q target] := by
    unfold putLine
    have program : "scp ".toList = "scp".toList ++ [' '] := by decide +kernel
    rw [program, List.intercalate_cons_cons, List.intercalate_singleton]
    simp only [List.append_assoc]
  rw [line]
  exact read?_optioned (by decide) (by decide) (by decide)
    (.cons (spells_q source) (.cons (config.spells_remote user target) .nil))
    (List.cons_ne_nil _ _)

theorem read?_getLine (user : PlainText) (source target : Text) :
    Shell.read? (config.getLine user source target) =
      some ["scp".toList :: (sshOptions ++ [config.login user ++ [':'] ++ source, target])] := by
  have line : config.getLine user source target = "scp".toList ++ [' '] ++ sshOpts ++ [' '] ++
      [' '].intercalate [config.login user ++ [':'] ++ q source, q target] := by
    unfold getLine
    have program : "scp ".toList = "scp".toList ++ [' '] := by decide +kernel
    rw [program, List.intercalate_cons_cons, List.intercalate_singleton]
    simp only [List.append_assoc]
  rw [line]
  exact read?_optioned (by decide) (by decide) (by decide)
    (.cons (config.spells_remote user source) (.cons (spells_q target) .nil))
    (List.cons_ne_nil _ _)

/-- What the shell of the device makes of the command: under `sudo` another shell is started, and
gets the command as its argument. -/
theorem read?_wrapped (cmd : Text) :
    Shell.read? (config.wrapped cmd true) =
      some [["echo".toList, config.password.text],
        ["sudo".toList, "-S".toList, "bash".toList, "-lc".toList, cmd]] := by
  have spells : ∀ {word : Text}, (!word.isEmpty && word.all Shell.isPlain) = true →
      Shell.Spells word word := by
    intro word plain
    rw [Bool.and_eq_true, Bool.not_eq_true', List.isEmpty_eq_false_iff, List.all_eq_true] at plain
    exact .plain plain.1 plain.2
  have line : config.wrapped cmd true = [' ', '|', ' '].intercalate
      [[' '].intercalate ["echo".toList, config.password.text],
        [' '].intercalate ["sudo".toList, "-S".toList, "bash".toList, "-lc".toList, q cmd]] := by
    have first : "echo ".toList = "echo".toList ++ [' '] := by decide +kernel
    have second : " | sudo -S bash -lc ".toList = [' ', '|', ' '] ++ ("sudo".toList ++ [' '] ++
        ("-S".toList ++ [' '] ++ ("bash".toList ++ [' '] ++ ("-lc".toList ++ [' '])))) := by
      decide +kernel
    rw [wrapped, if_pos rfl, first, second]
    simp only [List.intercalate_cons_cons, List.intercalate_singleton, List.append_assoc]
  rw [line]
  exact Shell.read?_pipeline
    { texts := ["echo".toList, config.password.text]
      words := ["echo".toList, config.password.text]
      spelled := .cons (spells (by decide)) (.cons config.password.spells .nil)
      command := Shell.Reading.isCommand_cons (by decide) _ }
    [{ texts := ["sudo".toList, "-S".toList, "bash".toList, "-lc".toList, q cmd]
       words := ["sudo".toList, "-S".toList, "bash".toList, "-lc".toList, cmd]
       spelled := .cons (spells (by decide)) (.cons (spells (by decide)) (.cons
        (spells (by decide)) (.cons (spells (by decide)) (.cons (spells_q cmd) .nil))))
       command := Shell.Reading.isCommand_cons (by decide) _ }]

/-! ## Attempts -/

variable (children : Nat → Child)

/-- The children of all attempts, were none of them to answer. -/
def planned (cmd : Text) (attempts : Nat) : List Spawn :=
  ((List.replicate attempts config.users).flatten.zipIdx).map fun entry =>
    config.spawn children cmd entry.1 entry.2

def plannedFrom (cmd : Text) (users : List PlainText) (n : Nat) : List Spawn :=
  (users.zipIdx n).map fun entry => config.spawn children cmd entry.1 entry.2

theorem runOnce_eq (cmd : Text) (users : List PlainText) (n : Nat) :
    config.runOnce children cmd n users =
      ((poll Spawn.answered (config.plannedFrom children cmd users n)).2,
        (config.plannedFrom children cmd users n).find? Spawn.answered) := by
  induction users generalizing n with
  | nil => rfl
  | cons user rest inductionHypothesis =>
      rw [runOnce, plannedFrom, List.zipIdx_cons, List.map_cons, poll, List.find?_cons]
      dsimp only
      cases (config.spawn children cmd user n).answered with
      | true => rfl
      | false =>
          rw [if_neg Bool.false_ne_true, if_neg Bool.false_ne_true, inductionHypothesis]
          rfl

theorem plannedFrom_append (cmd : Text) (first second : List PlainText) (n : Nat) :
    config.plannedFrom children cmd (first ++ second) n =
      config.plannedFrom children cmd first n ++
        config.plannedFrom children cmd second (n + first.length) := by
  rw [plannedFrom, List.zipIdx_append, List.map_append]
  rfl

/-- The nested loops take the planned children up to the first that answers. -/
theorem runFrom_eq (cmd : Text) (n attempts : Nat) :
    config.runFrom children cmd n attempts =
      ((poll Spawn.answered (config.plannedFrom children cmd
          (List.replicate attempts config.users).flatten n)).2,
        (config.plannedFrom children cmd
          (List.replicate attempts config.users).flatten n).find? Spawn.answered) := by
  induction attempts generalizing n with
  | zero => rfl
  | succ attempts inductionHypothesis =>
      rw [runFrom, runOnce_eq, List.replicate_succ, List.flatten_cons, plannedFrom_append,
        snd_poll_append, List.find?_append]
      cases found : (config.plannedFrom children cmd config.users n).find? Spawn.answered with
      | some answer => rfl
      | none =>
          have length : (config.plannedFrom children cmd config.users n).length =
              config.users.length := by
            rw [plannedFrom, List.length_map, List.length_zipIdx]
          dsimp only
          rw [snd_poll_of_missed found, length, inductionHypothesis]
          rfl

end Config

theorem sent_converse_le (child : Child) (sent left : Nat) :
    (converse child sent left).sent ≤ sent + left := by
  induction left generalizing sent with
  | zero =>
      rw [converse]
      split <;> exact Nat.le_refl _
  | succ left inductionHypothesis =>
      rw [converse]
      split
      · exact (inductionHypothesis (sent + 1)).trans (by omega)
      · exact Nat.le_add_right _ _
      · exact Nat.le_add_right _ _

/-! ## Runs -/

/-- What a child was spawned with: its line is read as the call of `ssh` for the command, which
the device reads as the command given. -/
structure Faithful (config : Config) (cmd : Text) (withSudo : Bool) (child : Spawn) : Prop where
  sent : child.conversation.sent ≤ 2
  line : Shell.read? child.line = some ["ssh".toList :: (sshOptions ++
    [config.login child.user, config.wrapped cmd withSudo])]
  plain : withSudo = false → config.wrapped cmd withSudo = cmd
  elevated : withSudo = true → Shell.read? (config.wrapped cmd withSudo) =
    some [["echo".toList, config.password.text],
      ["sudo".toList, "-S".toList, "bash".toList, "-lc".toList, cmd]]

/-- The children are the planned ones up to the first that answers, or all of them. -/
structure Attempted (planned spawned : List Spawn) (answer : Option Spawn) : Prop where
  order : spawned <+: planned
  answered : ∀ child, answer = some child →
    child.answered = true ∧
      ∃ before, spawned = before ++ [child] ∧ ∀ other ∈ before, other.answered = false
  unanswered : answer = none →
    spawned = planned ∧ ∀ child ∈ spawned, child.answered = false

namespace Config

variable (config : Config) (children : Nat → Child)

theorem faithful_spawn (cmd : Text) (withSudo : Bool) (user : PlainText) (n : Nat) :
    Faithful config cmd withSudo
      (config.spawn children (config.wrapped cmd withSudo) user n) where
  sent := sent_converse_le (children n) 0 2
  line := config.read?_sshLine user _
  plain := by
    rintro rfl
    rfl
  elevated := by
    rintro rfl
    exact config.read?_wrapped cmd

end Config

end OnboxFvt.Remote
