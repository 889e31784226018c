import OnboxFvt.Python.Text

/-!
# Lines

What `splitlines` makes of lines that were printed one after another.
-/

namespace OnboxFvt.Python

def Plain (line : Text) : Prop :=
  ∀ c ∈ line, isLineBreak c = false

instance (line : Text) : Decidable (Plain line) :=
  List.decidableBAll _ line

/-- Every line with a line feed after it. -/
def unlines (lines : List Text) : Text :=
  lines.flatMap (· ++ ['\n'])

/-- `"\n".join(lines)`. -/
def joinLines (lines : List Text) : Text :=
  ['\n'].intercalate lines

/-- Every line break is a blank. -/
theorem isLineBreak_of_notSpace {c : Char} (solid : isSpace c = false) : isLineBreak c = false := by
  unfold isSpace at solid
  unfold isLineBreak
  simp only [Bool.or_eq_false_iff, Bool.and_eq_false_iff, decide_eq_false_iff_not,
    beq_eq_false_iff_ne] at solid ⊢
  omega

theorem unlines_append (first second : List Text) :
    unlines (first ++ second) = unlines first ++ unlines second :=
  List.flatMap_append

theorem splitlinesFrom_plain {part : Text} (plain : Plain part) (line rest : Text) :
    splitlinesFrom line (part ++ rest) = splitlinesFrom (line ++ part) rest := by
  induction part generalizing line with
  | nil => rw [List.nil_append, List.append_nil]
  | cons c part inductionHypothesis =>
      have here := plain c (List.mem_cons_self ..)
      have later : Plain part := fun d member => plain d (List.mem_cons_of_mem c member)
      have step : splitlinesFrom line (c :: (part ++ rest)) =
          splitlinesFrom (line ++ [c]) (part ++ rest) := by
        rw [splitlinesFrom.eq_3]
        · rw [here]
          rfl
        · intro others carriage _
          rw [carriage] at here
          cases here
      rw [List.cons_append, step, inductionHypothesis later, List.append_assoc]
      rfl

/-- A line, and the lines after its line feed. -/
theorem splitlines_cons {line : Text} (plain : Plain line) (rest : Text) :
    splitlines (line ++ '\n' :: rest) = line :: splitlines rest := by
  rw [splitlines, splitlinesFrom_plain plain]
  rfl

theorem splitlines_plain {line : Text} (plain : Plain line) :
    splitlines line = if line = [] then [] else [line] := by
  have whole := splitlinesFrom_plain plain [] []
  rw [List.append_nil] at whole
  rw [splitlines, whole]
  cases line <;> rfl

/-- Lines and what stands after the last line feed. -/
theorem splitlines_unlines {lines : List Text} {last : Text} (plain : ∀ line ∈ lines, Plain line)
    (plainLast : Plain last) :
    splitlines (unlines lines ++ last) = lines ++ if last = [] then [] else [last] := by
  induction lines with
  | nil => exact splitlines_plain plainLast
  | cons line rest inductionHypothesis =>
      rw [List.forall_mem_cons] at plain
      have split : unlines (line :: rest) ++ last = line ++ '\n' :: (unlines rest ++ last) := by
        simp [unlines]
      rw [split, splitlines_cons plain.1, inductionHypothesis plain.2]
      rfl

theorem joinLines_concat (lines : List Text) (last : Text) :
    joinLines (lines ++ [last]) = unlines lines ++ last := by
  induction lines with
  | nil => simp [joinLines, unlines]
  | cons line rest inductionHypothesis =>
      have joined : joinLines (line :: (rest ++ [last])) =
          line ++ '\n' :: joinLines (rest ++ [last]) := by
        cases rest <;> simp [joinLines]
      rw [List.cons_append, joined, inductionHypothesis]
      simp [unlines]

/-- Joined lines are split again, but for an empty line at the end. -/
theorem splitlines_joinLines {lines : List Text} (plain : ∀ line ∈ lines, Plain line) :
    splitlines (joinLines lines) = lines ∨ splitlines (joinLines lines) ++ [[]] = lines := by
  rcases List.eq_nil_or_concat lines with rfl | ⟨init, last, rfl⟩
  · exact Or.inl rfl
  · rw [List.concat_eq_append] at plain ⊢
    rw [joinLines_concat, splitlines_unlines (fun line member => plain line (by simp [member]))
      (plain last (by simp))]
    by_cases empty : last = []
    · exact Or.inr (by rw [if_pos empty, List.append_nil, empty])
    · exact Or.inl (by rw [if_neg empty])

/-- `splitlines` drops the line breaks and nothing else. -/
theorem flatten_splitlines (text : Text) :
    (splitlines text).flatten = text.filter fun c => !isLineBreak c := by
  have from_line : ∀ line : Text, (splitlinesFrom line text).flatten =
      line ++ text.filter fun c => !isLineBreak c := by
    intro line
    fun_induction splitlinesFrom line text with
    | case1 line empty =>
        rw [List.isEmpty_iff.mp empty]
        rfl
    | case2 line nonempty => simp
    | case3 line rest inductionHypothesis =>
        rw [List.flatten_cons, inductionHypothesis]
        rfl
    | case4 line c rest notCarriage breaks inductionHypothesis =>
        rw [List.flatten_cons, inductionHypothesis, List.filter_cons_of_neg (by simp [breaks])]
        rfl
    | case5 line c rest notCarriage plain inductionHypothesis =>
        rw [inductionHypothesis, List.filter_cons_of_pos (by simpa using plain),
          List.append_assoc]
        rfl
  exact from_line []

/-- There is at most one line more than there are line breaks. -/
theorem length_splitlines_le (text : Text) :
    (splitlines text).length ≤ (text.filter isLineBreak).length + 1 := by
  have from_line : ∀ line : Text,
      (splitlinesFrom line text).length ≤ (text.filter isLineBreak).length + 1 := by
    intro line
    fun_induction splitlinesFrom line text with
    | case1 => simp
    | case2 => simp
    | case3 line rest inductionHypothesis =>
        have breaks : isLineBreak '\r' = true ∧ isLineBreak '\n' = true := by decide
        rw [List.filter_cons_of_pos breaks.1, List.filter_cons_of_pos breaks.2]
        simp only [List.length_cons]
        omega
    | case4 line c rest notCarriage breaks inductionHypothesis =>
        rw [List.filter_cons_of_pos breaks]
        simp only [List.length_cons]
        omega
    | case5 line c rest notCarriage plain inductionHypothesis =>
        rw [List.filter_cons_of_neg plain]
        exact inductionHypothesis
  exact from_line []

/-- Printed lines have one line break each. -/
theorem filter_unlines {lines : List Text} (plain : ∀ line ∈ lines, Plain line) :
    (unlines lines).filter isLineBreak = List.replicate lines.length '\n' := by
  induction lines with
  | nil => rfl
  | cons line rest inductionHypothesis =>
      rw [List.forall_mem_cons] at plain
      have none_inside : line.filter isLineBreak = [] := by
        rw [List.filter_eq_nil_iff]
        intro c member
        rw [plain.1 c member]
        exact Bool.false_ne_true
      rw [unlines, List.flatMap_cons, ← unlines, List.filter_append, List.filter_append,
        none_inside, inductionHypothesis plain.2]
      rfl

end OnboxFvt.Python
