import Mathlib.Data.List.Basic

/-!
# Marked-up text

Tags in angle brackets and characters, three of them written as references.  What has been
written token by token is read back token by token.  Elements nest where every end tag closes the
element that was opened last.
-/

namespace OnboxFvt.Library.Markup

inductive Token
  | tag (inside : List Char)
  | char (c : Char)
  deriving DecidableEq

def references : List (Char × List Char) :=
  [('&', "amp".toList), ('<', "lt".toList), ('>', "gt".toList)]

def written (c : Char) : List Char :=
  match references.lookup c with
  | some name => '&' :: name ++ [';']
  | none => [c]

def Token.text : Token → List Char
  | tag inside => '<' :: inside ++ ['>']
  | char c => written c

def write (tokens : List Token) : List Char :=
  tokens.flatMap Token.text

def chars (text : List Char) : List Token :=
  text.map .char

/-- What has been read of an unfinished token. -/
inductive Mode
  | content
  | tag (inside : List Char)
  | reference (name : List Char)

def character? (name : List Char) : Option Char :=
  (references.find? fun entry => decide (entry.2 = name)).map Prod.fst

def readFrom : Mode → List Char → Option (List Token)
  | .content, [] => some []
  | .tag _, [] => none
  | .reference _, [] => none
  | .content, c :: rest =>
      if c = '<' then readFrom (.tag []) rest
      else if c = '&' then readFrom (.reference []) rest
      else (readFrom .content rest).map (.char c :: ·)
  | .tag inside, c :: rest =>
      if c = '>' then (readFrom .content rest).map (.tag inside :: ·)
      else readFrom (.tag (inside ++ [c])) rest
  | .reference name, c :: rest =>
      if c = ';' then
        (character? name).bind fun d => (readFrom .content rest).map (.char d :: ·)
      else readFrom (.reference (name ++ [c])) rest

/-- `none` where a tag or a reference is not finished, or a reference is not one of ours. -/
def read (text : List Char) : Option (List Token) :=
  readFrom .content text

/-- The tag ends where it should. -/
def Token.Closed : Token → Prop
  | tag inside => '>' ∉ inside
  | char _ => True

instance (token : Token) : Decidable token.Closed :=
  match token with
  | .tag inside => inferInstanceAs (Decidable ('>' ∉ inside))
  | .char _ => inferInstanceAs (Decidable True)

theorem write_append (first second : List Token) :
    write (first ++ second) = write first ++ write second :=
  List.flatMap_append

theorem write_cons (token : Token) (rest : List Token) :
    write (token :: rest) = token.text ++ write rest :=
  List.flatMap_cons

theorem write_nil : write [] = [] :=
  rfl

theorem write_singleton (token : Token) : write [token] = token.text :=
  List.append_nil token.text

/-- Texts without the three characters are written as they are. -/
theorem write_chars {text : List Char} (plain : ∀ c ∈ text, references.lookup c = none) :
    write (chars text) = text := by
  induction text with
  | nil => rfl
  | cons c rest inductionHypothesis =>
      rw [List.forall_mem_cons] at plain
      rw [chars, List.map_cons, write_cons, Token.text, written, plain.1]
      exact congrArg (c :: ·) (inductionHypothesis plain.2)

theorem chars_append (first second : List Char) :
    chars (first ++ second) = chars first ++ chars second :=
  List.map_append

theorem closed_chars (text : List Char) : ∀ token ∈ chars text, token.Closed := by
  intro token member
  obtain ⟨c, -, rfl⟩ := List.mem_map.mp member
  trivial

theorem readFrom_tag {part : List Char} (inner : '>' ∉ part) (inside rest : List Char) :
    readFrom (.tag inside) (part ++ '>' :: rest) =
      (readFrom .content rest).map (.tag (inside ++ part) :: ·) := by
  induction part generalizing inside with
  | nil => rw [List.nil_append, readFrom, if_pos rfl, List.append_nil]
  | cons c part inductionHypothesis =>
      obtain ⟨different, later⟩ := not_or.mp (mt List.mem_cons.mpr inner)
      rw [List.cons_append, readFrom, if_neg (Ne.symm different), inductionHypothesis later,
        List.append_assoc]
      rfl

theorem readFrom_written (c : Char) (rest : List Char) :
    readFrom .content (written c ++ rest) = (readFrom .content rest).map (.char c :: ·) := by
  by_cases ampersand : c = '&'
  · subst ampersand
    rfl
  by_cases less : c = '<'
  · subst less
    rfl
  by_cases greater : c = '>'
  · subst greater
    rfl
  have plain : references.lookup c = none := by
    simp [references, List.lookup_cons, beq_eq_false_iff_ne.mpr ampersand,
      beq_eq_false_iff_ne.mpr less, beq_eq_false_iff_ne.mpr greater]
  rw [written, plain]
  dsimp only
  rw [List.singleton_append, readFrom, if_neg less, if_neg ampersand]

theorem read_write {tokens : List Token} (closed : ∀ token ∈ tokens, token.Closed) :
    read (write tokens) = some tokens := by
  induction tokens with
  | nil => rfl
  | cons token rest inductionHypothesis =>
      rw [List.forall_mem_cons] at closed
      have later : readFrom .content (write rest) = some rest := inductionHypothesis closed.2
      rw [write_cons, read]
      cases token with
      | tag inside =>
          rw [Token.text, List.append_assoc, List.singleton_append, List.cons_append, readFrom,
            if_pos rfl, readFrom_tag closed.1, later]
          rfl
      | char c =>
          rw [Token.text, readFrom_written, later]
          rfl

/-! ## Nesting -/

def elementName (inside : List Char) : List Char :=
  inside.takeWhile fun c => c != ' '

/-- Declarations and elements without content. -/
def isVoid (inside : List Char) : Bool :=
  inside.head? == some '!' || elementName inside == "meta".toList

/-- The elements open behind a tag; `none` where it closes another element than the last one. -/
def nestTag (opened : List (List Char)) (inside : List Char) : Option (List (List Char)) :=
  match inside with
  | '/' :: name =>
      match opened with
      | [] => none
      | last :: before => if last = name then some before else none
  | _ => if isVoid inside then some opened else some (elementName inside :: opened)

def nest (opened : List (List Char)) : List Token → Option (List (List Char))
  | [] => some opened
  | .char _ :: rest => nest opened rest
  | .tag inside :: rest => (nestTag opened inside).bind fun opened => nest opened rest

/-- Every element is closed, and in the right order. -/
def Nested (tokens : List Token) : Prop :=
  nest [] tokens = some []

instance (tokens : List Token) : Decidable (Nested tokens) :=
  inferInstanceAs (Decidable (_ = _))

theorem nest_append (opened : List (List Char)) (first second : List Token) :
    nest opened (first ++ second) = (nest opened first).bind fun opened => nest opened second := by
  induction first generalizing opened with
  | nil => rfl
  | cons token rest inductionHypothesis =>
      cases token with
      | char c => exact inductionHypothesis opened
      | tag inside =>
          rw [List.cons_append, nest, nest, Option.bind_assoc]
          exact congrArg _ (funext inductionHypothesis)

theorem nest_chars (opened : List (List Char)) (text : List Char) :
    nest opened (chars text) = some opened := by
  induction text with
  | nil => rfl
  | cons c rest inductionHypothesis => exact inductionHypothesis

end OnboxFvt.Library.Markup
