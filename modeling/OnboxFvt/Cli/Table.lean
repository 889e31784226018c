import Mathlib.Algebra.Group.Nat.Defs
import OnboxFvt.Library.Dict
import OnboxFvt.Library.Slice
import OnboxFvt.Python.Text

/-!
# Reading a table

`Cli.parse_table`: a boxed grid, a table with a separator line of dashes, or columns
with two blanks between them.
-/

namespace OnboxFvt.Cli

open Library Python

abbrev TableRow := Dict Text Text

/-- `dict(zip(header, cols))`. -/
def rowDict (header cols : List Text) : TableRow :=
  Dict.setAll [] (header.zip cols)

/-- `set(text) <= set(chars)`. -/
def madeOf (chars : List Char) (text : Text) : Bool :=
  text.all (· ∈ chars)

def isBlank (line : Text) : Bool :=
  strip line = []

/-! ## Grids -/

def barred (line : Text) : Bool :=
  startsWith ['|'] (line.dropWhile isSpace)

/-- `cells` of a grid line. -/
def gridCells (line : Text) : List Text :=
  (splitOn '|' (stripChars ['|'] (strip line))).map strip

def gridRows (lines : List Text) : List TableRow :=
  match lines.filter fun line => barred line && !madeOf ['|', '+', '-', '=', ' '] line with
  | [] => []
  | first :: rest =>
      let header := gridCells first
      rest.filterMap fun line =>
        let cols := gridCells line
        if cols.length = header.length then some (rowDict header cols) else none

/-! ## Tables with a separator line -/

/-- The starts of the runs of dashes; `inside` tells whether a dash came before. -/
def dashStartsFrom (position : Nat) (inside : Bool) : Text → List Nat
  | [] => []
  | c :: rest =>
      if c = '-' then
        if inside then dashStartsFrom (position + 1) true rest
        else position :: dashStartsFrom (position + 1) true rest
      else dashStartsFrom (position + 1) false rest

/-- The starts of `re.finditer(r"-+", line)`. -/
def dashStarts (line : Text) : List Nat :=
  dashStartsFrom 0 false line

def isSeparator (line : Text) : Bool :=
  !isBlank line && madeOf ['-', ' '] (strip line) && decide (2 ≤ (dashStarts line).length)

/-- A line cut at the column starts, the last column to its end. -/
def cut (starts : List Nat) (line : Text) : List Text :=
  (starts.zip (starts.tail ++ [10 ^ 9])).map fun bounds => strip (slice bounds.1 bounds.2 line)

def fixedRows (separator header : Text) (after : List Text) : List TableRow :=
  let starts := dashStarts separator
  after.filterMap fun line =>
    if isBlank line || madeOf ['-', '+', ' '] (strip line) then none
    else
      let cols := cut starts line
      if cols.any (· ≠ []) then some (rowDict (cut starts header) cols) else none

/-! ## Columns with two blanks between them -/

/-- `piece` has been read so far, and the blanks `gap` after it. -/
def splitWideFrom (piece gap : Text) : Text → List Text
  | [] => if 2 ≤ gap.length then [piece, []] else [piece ++ gap]
  | c :: rest =>
      if isSpace c then splitWideFrom piece (gap ++ [c]) rest
      else if 2 ≤ gap.length then piece :: splitWideFrom [c] [] rest
      else splitWideFrom (piece ++ gap ++ [c]) [] rest

/-- `re.split(r"\s{2,}", text)`. -/
def splitWide (text : Text) : List Text :=
  splitWideFrom [] [] text

def looseRows (lines : List Text) : List TableRow :=
  match lines with
  | [] => []
  | first :: rest =>
      let header := splitWide (strip first)
      rest.filterMap fun line =>
        if madeOf ['-', '+', ' '] (strip line) then none
        else
          let cols := splitWide (strip line)
          if cols.length = header.length then some (rowDict header cols) else none

/-- `Cli.parse_table`. -/
def parseTable (text : Text) : List TableRow :=
  let raw := splitlines text
  let lines := raw.filter (!isBlank ·)
  if lines = [] then []
  else if lines.any barred then gridRows lines
  else
    match raw.dropWhile (!isSeparator ·) with
    | [] => looseRows lines
    | separator :: after =>
        match (raw.takeWhile (!isSeparator ·)).reverse.find? (!isBlank ·) with
        | some header => fixedRows separator header after
        | none => looseRows lines

end OnboxFvt.Cli
