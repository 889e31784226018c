import Mathlib.Data.List.Basic
import Mathlib.Data.List.Forall2

/-!
# Quoting for a shell

How a POSIX shell splits a line of simple commands between pipes into words, where the line has
only blanks, pipes, backslashes, single quotes and characters that stand for themselves.  A text
in single quotes is one word, whatever its characters.
-/

namespace OnboxFvt.Library.Shell

abbrev Word := List Char

/-- A character that stands for itself outside quotes, wherever it is in a word. -/
def isPlain (c : Char) : Bool :=
  c.isAlphanum || ['-', '_', '+', '.', '/', '@', ':', '%', ',', '='].contains c

/-- Words that are not the name of a command. -/
def reserved : List Word :=
  ["if", "then", "elif", "else", "fi", "for", "while", "until", "do", "done", "case", "esac",
    "in", "function", "select", "time", "coproc"].map String.toList

/-- What has been read of a line. -/
structure Reading where
  commands : List (List Word)
  words : List Word
  word : Option Word

namespace Reading

def start : Reading :=
  { commands := [], words := [], word := none }

def join (reading : Reading) (part : Word) : Reading :=
  { reading with word := some (reading.word.getD [] ++ part) }

def endWord (reading : Reading) : Reading :=
  match reading.word with
  | none => reading
  | some word => { reading with words := reading.words ++ [word], word := none }

/-- A command without words is none, nor is one that begins with an assignment. -/
def isCommand : List Word → Bool
  | [] => false
  | first :: _ => !first.contains '=' && !reserved.contains first

def endCommand? (reading : Reading) : Option Reading :=
  let ended := reading.endWord
  if isCommand ended.words then
    some { commands := ended.commands ++ [ended.words], words := [], word := none }
  else none

end Reading

inductive Context
  | plain
  | escaped
  | quoted

/-- `none` for lines with other characters, and for those whose quotes are open at the end. -/
def readFrom? : Context → Reading → List Char → Option (List (List Word))
  | .plain, reading, [] => reading.endCommand?.map Reading.commands
  | .escaped, _, [] => none
  | .quoted, _, [] => none
  | .plain, reading, c :: rest =>
      if c = '\'' then readFrom? .quoted (reading.join []) rest
      else if c = '\\' then readFrom? .escaped reading rest
      else if c = ' ' then readFrom? .plain reading.endWord rest
      else if c = '|' then reading.endCommand?.bind fun ended => readFrom? .plain ended rest
      else if isPlain c then readFrom? .plain (reading.join [c]) rest
      else none
  | .escaped, reading, c :: rest =>
      if c = '\n' then none else readFrom? .plain (reading.join [c]) rest
  | .quoted, reading, c :: rest =>
      if c = '\'' then readFrom? .plain reading rest
      else readFrom? .quoted (reading.join [c]) rest

/-- The commands of a line with their words. -/
def read? (line : List Char) : Option (List (List Word)) :=
  readFrom? .plain .start line

/-- A quote in the text ends the quotes, stands behind a backslash and opens them again. -/
def quote (text : Word) : List Char :=
  "'".toList ++ (text.flatMap fun c => if c = '\'' then "'\\''".toList else [c]) ++ "'".toList

namespace Reading

@[simp] theorem join_join (reading : Reading) (first second : Word) :
    (reading.join first).join second = reading.join (first ++ second) := by
  simp [join]

@[simp] theorem endWord_join (reading : Reading) (word : Word) :
    ({ reading with word := none }.join word).endWord =
      { reading with words := reading.words ++ [word], word := none } :=
  rfl

@[simp] theorem endWord_ended (commands : List (List Word)) (words : List Word) :
    (Reading.mk commands words none).endWord = Reading.mk commands words none :=
  rfl

end Reading

/-- The text is read as a part of a word. -/
def Spells (text : List Char) (part : Word) : Prop :=
  ∀ reading rest, readFrom? .plain reading (text ++ rest) =
    readFrom? .plain (reading.join part) rest

namespace Spells

theorem append {text text' : List Char} {part part' : Word} (first : Spells text part)
    (second : Spells text' part') : Spells (text ++ text') (part ++ part') := by
  intro reading rest
  rw [List.append_assoc, first, second, Reading.join_join]

theorem char {c : Char} (plain : isPlain c = true) : Spells [c] [c] := by
  intro reading rest
  have special : ['\'', '\\', ' ', '|'].all (fun d => !isPlain d) = true := by decide
  rw [List.all_eq_true] at special
  have other : ∀ d ∈ ['\'', '\\', ' ', '|'], c ≠ d := by
    rintro d member rfl
    have other := special c member
    rw [plain] at other
    cases other
  simp only [List.mem_cons, List.not_mem_nil, or_false, forall_eq_or_imp, forall_eq] at other
  obtain ⟨quote, backslash, blank, pipe⟩ := other
  rw [List.singleton_append, readFrom?, if_neg quote, if_neg backslash, if_neg blank, if_neg pipe,
    if_pos plain]

theorem plain {text : Word} (nonempty : text ≠ []) (plain : ∀ c ∈ text, isPlain c = true) :
    Spells text text := by
  induction text with
  | nil => exact absurd rfl nonempty
  | cons c rest inductionHypothesis =>
      obtain ⟨here, later⟩ := List.forall_mem_cons.mp plain
      cases rest with
      | nil => exact char here
      | cons d rest =>
          exact (char here).append (inductionHypothesis (List.cons_ne_nil d rest) later)

theorem readFrom?_quoted (text rest : List Char) (reading : Reading) :
    readFrom? .quoted (reading.join [])
        ((text.flatMap fun c => if c = '\'' then "'\\''".toList else [c]) ++ '\'' :: rest) =
      readFrom? .plain (reading.join text) rest := by
  induction text generalizing reading with
  | nil => rw [List.flatMap_nil, List.nil_append, readFrom?, if_pos rfl]
  | cons c text inductionHypothesis =>
      rw [List.flatMap_cons, List.append_assoc]
      have later := inductionHypothesis (reading.join [c])
      rw [Reading.join_join, List.append_nil, Reading.join_join, List.singleton_append] at later
      split
      next same =>
        subst same
        have opened : ∀ tail, readFrom? .quoted (reading.join []) ("'\\''".toList ++ tail) =
            readFrom? .quoted (reading.join ['\'']) tail := by
          intro tail
          rw [show "'\\''".toList = ['\'', '\\', '\'', '\''] from by decide +kernel]
          simp [readFrom?]
        rw [opened, later]
      next other =>
        rw [List.singleton_append, readFrom?, if_neg other, Reading.join_join, List.nil_append,
          later]

theorem quoted (text : Word) : Spells (quote text) text := by
  intro reading rest
  rw [quote, List.append_assoc, List.append_assoc,
    show "'".toList = ['\''] from rfl, List.singleton_append, readFrom?, if_pos rfl]
  exact readFrom?_quoted text rest reading

end Spells

/-! ## Lines -/

theorem readFrom?_blank (reading : Reading) (rest : List Char) :
    readFrom? .plain reading (' ' :: rest) = readFrom? .plain reading.endWord rest := by
  simp [readFrom?]

/-- The words of a command are read up to its last one. -/
theorem readFrom?_words {texts : List (List Char)} {words : List Word}
    (spelled : List.Forall₂ Spells texts words) (nonempty : words ≠ [])
    (commands : List (List Word)) (before : List Word) (rest : List Char) :
    ∃ reading : Reading,
      readFrom? .plain ⟨commands, before, none⟩ ([' '].intercalate texts ++ rest) =
        readFrom? .plain reading rest ∧
      reading.endWord = ⟨commands, before ++ words, none⟩ := by
  induction spelled generalizing before with
  | nil => exact absurd rfl nonempty
  | @cons text word texts words here later inductionHypothesis =>
      cases later with
      | nil =>
          rw [List.intercalate_singleton, here]
          exact ⟨_, rfl, rfl⟩
      | @cons second word' texts' words' there later =>
          obtain ⟨reading, read, ended⟩ :=
            inductionHypothesis (List.cons_ne_nil word' words') (before ++ [word])
          refine ⟨reading, ?_, by rw [ended, List.append_assoc, List.singleton_append]⟩
          rw [List.intercalate_cons_cons, List.append_assoc, List.append_assoc, here,
            List.singleton_append, readFrom?_blank]
          exact read

/-- The words of a command and how they are spelled. -/
structure Spelled where
  texts : List (List Char)
  words : List Word
  spelled : List.Forall₂ Spells texts words
  command : Reading.isCommand words = true

namespace Spelled

variable (command : Spelled)

theorem words_ne_nil : command.words ≠ [] := by
  intro empty
  have named := command.command
  rw [empty] at named
  cases named

def text : List Char :=
  [' '].intercalate command.texts

theorem endCommand? (commands : List (List Word)) {reading : Reading}
    (ended : reading.endWord = ⟨commands, command.words, none⟩) :
    reading.endCommand? = some ⟨commands ++ [command.words], [], none⟩ := by
  rw [Reading.endCommand?, ended]
  exact if_pos command.command

end Spelled

theorem readFrom?_pipeline (first : Spelled) (others : List Spelled)
    (commands : List (List Word)) :
    readFrom? .plain ⟨commands, [], none⟩
        ([' ', '|', ' '].intercalate ((first :: others).map Spelled.text)) =
      some (commands ++ (first :: others).map Spelled.words) := by
  induction others generalizing first commands with
  | nil =>
      obtain ⟨reading, read, ended⟩ :=
        readFrom?_words first.spelled first.words_ne_nil commands [] []
      rw [List.append_nil] at read
      rw [List.map_singleton, List.intercalate_singleton, Spelled.text, read, readFrom?,
        first.endCommand? commands ended]
      rfl
  | cons second others inductionHypothesis =>
      obtain ⟨reading, read, ended⟩ := readFrom?_words first.spelled first.words_ne_nil commands []
        ([' ', '|', ' '] ++ [' ', '|', ' '].intercalate ((second :: others).map Spelled.text))
      have piped : ∀ tail, readFrom? .plain ⟨commands, [] ++ first.words, none⟩ ('|' :: tail) =
          readFrom? .plain ⟨commands ++ [first.words], [], none⟩ tail := by
        intro tail
        have closed := @Spelled.endCommand? first commands ⟨commands, first.words, none⟩ rfl
        simp [readFrom?, closed]
      have rest := inductionHypothesis second (commands ++ [first.words])
      rw [List.append_assoc, List.singleton_append, ← List.map_cons] at rest
      rw [List.map_cons, List.map_cons, List.intercalate_cons_cons, List.append_assoc,
        ← List.map_cons, Spelled.text, read, List.cons_append, readFrom?_blank, ended,
        List.cons_append, piped, List.cons_append, readFrom?_blank, List.nil_append]
      exact rest

/-- A line of commands is read as the commands it spells. -/
theorem read?_pipeline (first : Spelled) (others : List Spelled) :
    read? ([' ', '|', ' '].intercalate ((first :: others).map Spelled.text)) =
      some ((first :: others).map Spelled.words) :=
  readFrom?_pipeline first others []

theorem read?_command (command : Spelled) : read? command.text = some [command.words] := by
  have alone := read?_pipeline command []
  rwa [List.map_singleton, List.intercalate_singleton] at alone

/-- Whether the name of a command can be read does not depend on the words behind it. -/
theorem Reading.isCommand_cons {first : Word} (named : Reading.isCommand [first] = true)
    (words : List Word) : Reading.isCommand (first :: words) = true :=
  named

end OnboxFvt.Library.Shell
