import Mathlib.Data.List.Infix

/-!
# Polling

Readings are taken until one is a hit.  The answer stands for what was read exactly if the
first hit is a true one.
-/

namespace OnboxFvt.Library

variable {Reading : Type*}

/-- Whether a reading was a hit, and the readings taken. -/
def poll (hit : Reading → Bool) : List Reading → Bool × List Reading
  | [] => (false, [])
  | reading :: rest =>
      if hit reading then (true, [reading])
      else ((poll hit rest).1, reading :: (poll hit rest).2)

section Poll

variable {hit : Reading → Bool} {readings : List Reading}

theorem fst_poll : (poll hit readings).1 = (readings.find? hit).isSome := by
  induction readings with
  | nil => rfl
  | cons reading rest inductionHypothesis =>
      rw [poll, List.find?_cons]
      cases here : hit reading with
      | false => exact inductionHypothesis
      | true => rfl

/-- Of the readings taken only the first hit is one. -/
theorem mem_poll_of_hit {reading : Reading} (member : reading ∈ (poll hit readings).2)
    (passed : hit reading = true) : readings.find? hit = some reading := by
  induction readings with
  | nil => cases member
  | cons first rest inductionHypothesis =>
      rw [List.find?_cons]
      cases here : hit first with
      | false =>
          rw [poll, here] at member
          rcases List.mem_cons.mp member with rfl | later
          · rw [here] at passed
            cases passed
          · exact inductionHypothesis later
      | true =>
          rw [poll, here] at member
          rw [List.mem_singleton.mp member]

/-- The last reading taken is the hit, where there is one. -/
theorem getLast?_poll {reading : Reading} (found : readings.find? hit = some reading) :
    (poll hit readings).2.getLast? = some reading := by
  induction readings with
  | nil => cases found
  | cons first rest inductionHypothesis =>
      rw [List.find?_cons] at found
      rw [poll]
      cases here : hit first with
      | false =>
          rw [here] at found
          rw [if_neg Bool.false_ne_true, List.getLast?_cons, inductionHypothesis found]
          rfl
      | true =>
          rw [here] at found
          cases found
          rfl

theorem mem_poll_of_find {reading : Reading} (found : readings.find? hit = some reading) :
    reading ∈ (poll hit readings).2 :=
  List.mem_of_getLast? (getLast?_poll found)

/-- Only the last reading taken is a hit. -/
theorem snd_poll_of_found {reading : Reading} (found : readings.find? hit = some reading) :
    ∃ before, (poll hit readings).2 = before ++ [reading] ∧
      ∀ other ∈ before, hit other = false := by
  induction readings with
  | nil => cases found
  | cons first rest inductionHypothesis =>
      rw [List.find?_cons] at found
      rw [poll]
      cases here : hit first with
      | false =>
          rw [here] at found
          obtain ⟨before, taken, missed⟩ := inductionHypothesis found
          refine ⟨first :: before, ?_, List.forall_mem_cons.mpr ⟨here, missed⟩⟩
          rw [if_neg Bool.false_ne_true, taken]
          rfl
      | true =>
          rw [here] at found
          cases found
          exact ⟨[], rfl, fun other member => absurd member List.not_mem_nil⟩

theorem snd_poll_append (first second : List Reading) : (poll hit (first ++ second)).2 =
    if (first.find? hit).isSome then (poll hit first).2 else first ++ (poll hit second).2 := by
  induction first with
  | nil => rfl
  | cons reading rest inductionHypothesis =>
      rw [List.cons_append, poll, poll, List.find?_cons]
      cases here : hit reading with
      | false =>
          rw [if_neg Bool.false_ne_true, if_neg Bool.false_ne_true, inductionHypothesis]
          split <;> rfl
      | true => rfl

theorem snd_poll_of_missed (missed : readings.find? hit = none) :
    (poll hit readings).2 = readings := by
  induction readings with
  | nil => rfl
  | cons reading rest inductionHypothesis =>
      rw [List.find?_cons] at missed
      rw [poll]
      cases here : hit reading with
      | false =>
          rw [here] at missed
          rw [if_neg Bool.false_ne_true, inductionHypothesis missed]
      | true =>
          rw [here] at missed
          cases missed

theorem snd_poll_prefix (readings : List Reading) : (poll hit readings).2 <+: readings := by
  induction readings with
  | nil => exact List.prefix_rfl
  | cons reading rest inductionHypothesis =>
      rw [poll]
      cases hit reading with
      | false => exact (List.cons_prefix_cons).mpr ⟨rfl, inductionHypothesis⟩
      | true => exact ⟨rest, rfl⟩

/-- What a poll answers holds of the last reading exactly if it holds of the first hit. -/
theorem poll_last_iff {good : Reading → Prop} :
    ((poll hit readings).1 = true →
        ∃ reading, (poll hit readings).2.getLast? = some reading ∧ good reading) ↔
      ∀ reading, readings.find? hit = some reading → good reading := by
  rw [fst_poll, Option.isSome_iff_exists]
  constructor
  · intro sound reading found
    obtain ⟨other, last, holds⟩ := sound ⟨reading, found⟩
    cases (getLast?_poll found).symm.trans last
    exact holds
  · rintro first ⟨reading, found⟩
    exact ⟨reading, getLast?_poll found, first reading found⟩

theorem poll_sound_iff {good : Reading → Prop}
    (hits : ∀ reading, good reading → hit reading = true) :
    ((poll hit readings).1 = true → ∃ reading ∈ (poll hit readings).2, good reading) ↔
      ∀ reading, readings.find? hit = some reading → good reading := by
  constructor
  · intro sound reading found
    have answer : (poll hit readings).1 = true := by
      rw [fst_poll, found]
      rfl
    obtain ⟨other, member, satisfied⟩ := sound answer
    cases found.symm.trans (mem_poll_of_hit member (hits other satisfied))
    exact satisfied
  · intro earliest answer
    rw [fst_poll, Option.isSome_iff_exists] at answer
    obtain ⟨reading, found⟩ := answer
    exact ⟨reading, mem_poll_of_find found, earliest reading found⟩

end Poll

end OnboxFvt.Library
