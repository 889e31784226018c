import Mathlib.Tactic.ByContra
import OnboxFvt.ConfigGuard.Exit

/-!
# Exceptions during rollback

Every attempt of an undo command has an outcome given in advance: what
`config_raw` returns or raises, and what `verify` answers or raises.  The probes
of the command rewriting run inside `config_raw` with `check=True`, so it does
raise.  Rollback attempts every registered undo and clears the list exactly when
none of its attempts raises.
-/

namespace OnboxFvt.ConfigGuard

open Python

universe u

structure Outcome (Error : Type u) where
  config : Except Error Result
  verified : Except Error Bool

variable {Command Check Error : Type u}

def Outcome.raises (o : Outcome Error) : Bool :=
  match o.config with
  | .error _ => true
  | .ok _ => false

/-- Whether `_run_undo` takes an attempt that did not raise for a success. -/
def Outcome.succeeds (verify : Option Check) (o : Outcome Error) : Bool :=
  match o.config, verify, o.verified with
  | .error _, _, _ => false
  | .ok _, some _, .ok verdict => verdict
  | .ok _, some _, .error _ => false
  | .ok r, none, _ => r.rc == 0 || benign r

/-- The transport whose `k`-th attempt has outcome `outcome k`; its state is the
list of the commands attempted so far. -/
def scriptedCli (outcome : Nat → Outcome Error) :
    Transport (List Command) Command Check Error where
  configRaw cmd attempts := ((outcome attempts.length).config, attempts ++ [cmd])
  verify _ attempts := ((outcome (attempts.length - 1)).verified, attempts)

/-- The commands of a list of undo entries, `None` skipped. -/
def commands (items : List (Undo Command Check)) : List Command :=
  items.filterMap (·.cmd)

/-- The entries whose attempts, numbered from `start`, fail. -/
def failures (outcome : Nat → Outcome Error) :
    Nat → List (Undo Command Check) → List (Undo Command Check)
  | _, [] => []
  | start, item :: rest =>
      match item.cmd with
      | none => failures outcome start rest
      | some _ =>
          if (outcome start).succeeds item.verify then failures outcome (start + 1) rest
          else item :: failures outcome (start + 1) rest

variable (outcome : Nat → Outcome Error)

theorem runUndo_scriptedCli_raises (cmd : Command) (verify : Option Check)
    (attempts : List Command) (raised : (outcome attempts.length).raises = true) :
    ∃ e, runUndo (scriptedCli outcome) cmd verify attempts = (.error e, attempts ++ [cmd]) := by
  unfold Outcome.raises at raised
  split at raised
  next e failed => exact ⟨e, by simp [runUndo, scriptedCli, failed]⟩
  next => cases raised

theorem runUndo_scriptedCli_quiet (cmd : Command) (verify : Option Check)
    (attempts : List Command) (quiet : (outcome attempts.length).raises = false) :
    runUndo (scriptedCli outcome) cmd verify attempts =
      (.ok ((outcome attempts.length).succeeds verify), attempts ++ [cmd]) := by
  unfold Outcome.raises at quiet
  split at quiet
  next => cases quiet
  next r returned =>
    cases verify with
    | none => simp [runUndo, scriptedCli, Outcome.succeeds, returned]
    | some check =>
        cases judged : (outcome attempts.length).verified <;>
          simp [runUndo, scriptedCli, Outcome.succeeds, returned, judged]

/-- No attempt raises: all commands are attempted and the failures come back. -/
theorem runAll_scriptedCli_quiet (items : List (Undo Command Check)) (attempts : List Command)
    (quiet : ∀ k < (commands items).length, (outcome (attempts.length + k)).raises = false) :
    runAll (scriptedCli outcome) items attempts =
      (.ok (failures outcome attempts.length items), attempts ++ commands items) := by
  induction items generalizing attempts with
  | nil => simp [runAll, failures, commands]
  | cons item rest inductionHypothesis =>
      cases registered : item.cmd with
      | none =>
          have skipped : commands (item :: rest) = commands rest := by
            simp [commands, registered]
          rw [skipped] at quiet ⊢
          simp only [runAll, failures, registered]
          exact inductionHypothesis attempts quiet
      | some cmd =>
          have counted : commands (item :: rest) = cmd :: commands rest := by
            simp [commands, registered]
          rw [counted] at quiet ⊢
          have attempt := runUndo_scriptedCli_quiet outcome cmd item.verify attempts
            (by simpa using quiet 0 (by simp))
          have later := inductionHypothesis (attempts ++ [cmd]) (by
            intro k bound
            have next := quiet (k + 1) (by simpa using bound)
            rwa [List.length_append, List.length_singleton, Nat.add_assoc, Nat.add_comm 1 k])
          simp only [List.length_append, List.length_singleton, List.append_assoc,
            List.singleton_append] at later
          simp only [runAll, failures, registered, attempt]
          cases judged : (outcome attempts.length).succeeds item.verify <;> simp [later]

/-- Some attempt raises: the loop does not come back. -/
theorem runAll_scriptedCli_raises (items : List (Undo Command Check)) (attempts : List Command)
    {k : Nat} (bound : k < (commands items).length)
    (raised : (outcome (attempts.length + k)).raises = true) :
    ∃ e state, runAll (scriptedCli outcome) items attempts = (.error e, state) := by
  induction items generalizing attempts k with
  | nil => simp [commands] at bound
  | cons item rest inductionHypothesis =>
      cases registered : item.cmd with
      | none =>
          have skipped : commands (item :: rest) = commands rest := by
            simp [commands, registered]
          rw [skipped] at bound
          simp only [runAll, registered]
          exact inductionHypothesis attempts bound raised
      | some cmd =>
          have counted : commands (item :: rest) = cmd :: commands rest := by
            simp [commands, registered]
          rw [counted] at bound
          simp only [runAll, registered]
          cases here : (outcome attempts.length).raises with
          | true =>
              obtain ⟨e, attempt⟩ :=
                runUndo_scriptedCli_raises outcome cmd item.verify attempts here
              exact ⟨e, attempts ++ [cmd], by rw [attempt]⟩
          | false =>
              cases k with
              | zero => simp [here] at raised
              | succ k =>
                  obtain ⟨e, state, later⟩ := inductionHypothesis (attempts ++ [cmd])
                    (k := k) (by simpa using bound) (by
                      rwa [List.length_append, List.length_singleton, Nat.add_assoc,
                        Nat.add_comm 1 k])
                  rw [runUndo_scriptedCli_quiet outcome cmd item.verify attempts here]
                  cases judged : (outcome attempts.length).succeeds item.verify <;>
                    exact ⟨e, state, by simp [later]⟩

theorem commands_failures (start : Nat) (items : List (Undo Command Check)) :
    (commands (failures outcome start items)).length = (failures outcome start items).length := by
  induction items generalizing start with
  | nil => rfl
  | cons item rest inductionHypothesis =>
      cases registered : item.cmd with
      | none => simpa only [failures, registered] using inductionHypothesis start
      | some cmd =>
          simp only [failures, registered]
          split
          · exact inductionHypothesis (start + 1)
          · have later := inductionHypothesis (start + 1)
            simp only [commands] at later ⊢
            simp [registered, later]

/-- `__exit__` attempts every registered undo and leaves the list empty if and
only if neither the first pass nor the retries of what failed in it raise. -/
theorem exit_attempts_all_iff (outcome : Nat → Outcome Error)
    (undo : List (Undo Command Check)) :
    (commands undo.reverse <+: (exit (scriptedCli outcome) undo []).2.2 ∧
      (exit (scriptedCli outcome) undo []).2.1 = []) ↔
    ∀ k < (commands undo.reverse).length + (failures outcome 0 undo.reverse).length,
      (outcome k).raises = false := by
  constructor
  · rintro ⟨_, cleared⟩ k bound
    by_contra noisy
    have raised : (outcome k).raises = true := by simpa using noisy
    have nonempty : undo ≠ [] := by
      rintro rfl
      simp [commands, failures] at bound
    by_cases inFirst : ∃ i < (commands undo.reverse).length, (outcome i).raises = true
    · obtain ⟨i, within, raisedFirst⟩ := inFirst
      obtain ⟨e, state, first⟩ := runAll_scriptedCli_raises outcome
        undo.reverse [] within (by simpa using raisedFirst)
      simp only [exit, first] at cleared
      exact nonempty cleared
    · have quiet : ∀ i < (commands undo.reverse).length, (outcome i).raises = false := by
        intro i within
        by_contra noisy
        exact inFirst ⟨i, within, by simpa using noisy⟩
      have first := runAll_scriptedCli_quiet outcome undo.reverse []
        (by simpa using quiet)
      have beyond : (commands undo.reverse).length ≤ k := by
        by_contra before
        rw [quiet k (by omega)] at raised
        cases raised
      obtain ⟨e, state, second⟩ := runAll_scriptedCli_raises outcome
        (failures outcome 0 undo.reverse) (commands undo.reverse)
        (k := k - (commands undo.reverse).length)
        (by rw [commands_failures]; omega) (by rwa [Nat.add_sub_of_le beyond])
      simp only [exit, first, List.length_nil, List.nil_append, second] at cleared
      exact nonempty cleared
  · intro quiet
    have first := runAll_scriptedCli_quiet outcome undo.reverse []
      (by intro k bound; simpa using quiet k (by omega))
    have second := runAll_scriptedCli_quiet outcome
      (failures outcome 0 undo.reverse) (commands undo.reverse)
      (by intro k bound; rw [commands_failures] at bound; exact quiet _ (by omega))
    simp only [exit, first, List.length_nil, List.nil_append, second]
    exact ⟨List.prefix_append _ _, trivial⟩

/-- The last registered undo runs first and its rewriting probe raises: the one
registered before it is never attempted and the list keeps both. -/
theorem exit_stops_at_raising_undo :
    ¬ ∀ (undo : List (Undo Text Empty)) (outcome : Nat → Outcome Text),
      commands undo.reverse <+: (exit (scriptedCli outcome) undo []).2.2 ∧
        (exit (scriptedCli outcome) undo []).2.1 = [] := by
  intro always
  have safe := always
    [{ cmd := some "vlan del 320".toList, verify := none },
      { cmd := some "vlan member add -u 1000 Ethernet4".toList, verify := none }]
    fun _ => { config := .error "ShellError".toList, verified := .ok true }
  have kept := congrArg List.length safe.2
  exact absurd kept (by decide)

end OnboxFvt.ConfigGuard
