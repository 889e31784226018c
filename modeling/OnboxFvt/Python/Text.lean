import Mathlib.Data.List.Infix

/-!
# Python text

The framework handles every command, key and field as a Python `str`.  Here a
string is its list of code points, with the `str` methods the framework calls:
`split`, `strip`, `startswith`, `replace`, `isdigit` and the builtin `int`.
-/

namespace OnboxFvt.Python

abbrev Text := List Char

/-- The proof that membership tests on texts carry, under one name. -/
instance lawfulBEqText : LawfulBEq Text :=
  inferInstance

/-- The code points `str.isspace` accepts; `split()` and `strip()` cut at them. -/
def isSpace (c : Char) : Bool :=
  let n := c.toNat
  (0x09 ≤ n && n ≤ 0x0d) || (0x1c ≤ n && n ≤ 0x20) || n == 0x85 || n == 0xa0 ||
    n == 0x1680 || (0x2000 ≤ n && n ≤ 0x200a) || n == 0x2028 || n == 0x2029 ||
    n == 0x202f || n == 0x205f || n == 0x3000

/-- First code point of every block of ten decimal digits. -/
def decimalZeros : List Nat :=
  [0x30, 0x660, 0x6f0, 0x7c0, 0x966, 0x9e6, 0xa66, 0xae6, 0xb66, 0xbe6, 0xc66, 0xce6,
    0xd66, 0xde6, 0xe50, 0xed0, 0xf20, 0x1040, 0x1090, 0x17e0, 0x1810, 0x1946, 0x19d0,
    0x1a80, 0x1a90, 0x1b50, 0x1bb0, 0x1c40, 0x1c50, 0xa620, 0xa8d0, 0xa900, 0xa9d0,
    0xa9f0, 0xaa50, 0xabf0, 0xff10, 0x104a0, 0x10d30, 0x11066, 0x110f0, 0x11136, 0x111d0,
    0x112f0, 0x11450, 0x114d0, 0x11650, 0x116c0, 0x11730, 0x118e0, 0x11950, 0x11c50,
    0x11d50, 0x11da0, 0x16a60, 0x16ac0, 0x16b50, 0x1d7ce, 0x1d7d8, 0x1d7e2, 0x1d7ec,
    0x1d7f6, 0x1e140, 0x1e2f0, 0x1e950, 0x1fbf0]

/-- Digits that are not decimal digits (superscripts, circled digits and the
like): `isdigit` accepts them, `int` does not. -/
def otherDigits : List (Nat × Nat) :=
  [(178, 179), (185, 185), (4969, 4977), (6618, 6618), (8304, 8304), (8308, 8313),
    (8320, 8329), (9312, 9320), (9332, 9340), (9352, 9360), (9450, 9450), (9461, 9469),
    (9471, 9471), (10102, 10110), (10112, 10120), (10122, 10130), (68160, 68163),
    (69216, 69224), (69714, 69722), (127232, 127242)]

def decimalValue? (c : Char) : Option Nat :=
  (decimalZeros.find? fun start => start ≤ c.toNat && c.toNat < start + 10).map (c.toNat - ·)

def isDigitChar (c : Char) : Bool :=
  (decimalValue? c).isSome ||
    otherDigits.any fun range => range.1 ≤ c.toNat && c.toNat ≤ range.2

/-- `str.isdigit`: at least one character, all of them digits. -/
def isDigit (text : Text) : Bool :=
  !text.isEmpty && text.all isDigitChar

/-- The digits of `int` after the first one; a single underscore may stand between two. -/
def readDigits (value : Nat) : Text → Option Nat
  | [] => some value
  | '_' :: c :: rest => (decimalValue? c).bind fun digit => readDigits (10 * value + digit) rest
  | c :: rest => (decimalValue? c).bind fun digit => readDigits (10 * value + digit) rest

def readNat? : Text → Option Nat
  | [] => none
  | c :: rest => (decimalValue? c).bind fun digit => readDigits digit rest

/-- `str.strip()`. -/
def strip (text : Text) : Text :=
  ((text.dropWhile isSpace).reverse.dropWhile isSpace).reverse

/-- `int(text)`; `none` is a `ValueError`. -/
def int? (text : Text) : Option Int :=
  match strip text with
  | '-' :: digits => (readNat? digits).map fun value => -(value : Int)
  | '+' :: digits => (readNat? digits).map fun value => (value : Int)
  | digits => (readNat? digits).map fun value => (value : Int)

/-- `str.strip(chars)`. -/
def stripChars (chars : List Char) (text : Text) : Text :=
  ((text.dropWhile (· ∈ chars)).reverse.dropWhile (· ∈ chars)).reverse

/-- `str.split(sep)` for a one-character separator. -/
def splitOn (separator : Char) (text : Text) : List Text :=
  List.splitOn separator text

/-- `text.rsplit(c, 1)`: the text before and after the last `c`. -/
def cutLast? (c : Char) : Text → Option (Text × Text)
  | [] => none
  | d :: rest =>
      match cutLast? c rest with
      | some (before, after) => some (d :: before, after)
      | none => if d = c then some ([], rest) else none

/-- Whitespace splitting, `word` being the token read so far. -/
def splitFrom (word : Text) : Text → List Text
  | [] => if word.isEmpty then [] else [word]
  | c :: rest =>
      if isSpace c then
        if word.isEmpty then splitFrom [] rest else word :: splitFrom [] rest
      else
        splitFrom (word ++ [c]) rest

/-- `str.split()`. -/
def split (text : Text) : List Text :=
  splitFrom [] text

/-- The code points `splitlines` cuts at. -/
def isLineBreak (c : Char) : Bool :=
  let n := c.toNat
  (0x0a ≤ n && n ≤ 0x0d) || (0x1c ≤ n && n ≤ 0x1e) || n == 0x85 || n == 0x2028 || n == 0x2029

/-- Splitting into lines, `line` being the line read so far. -/
def splitlinesFrom (line : Text) : Text → List Text
  | [] => if line.isEmpty then [] else [line]
  | '\r' :: '\n' :: rest => line :: splitlinesFrom [] rest
  | c :: rest =>
      if isLineBreak c then line :: splitlinesFrom [] rest else splitlinesFrom (line ++ [c]) rest

/-- `str.splitlines()`. -/
def splitlines (text : Text) : List Text :=
  splitlinesFrom [] text

/-- `" ".join(tokens)`. -/
def joinSpace (tokens : List Text) : Text :=
  [' '].intercalate tokens

/-- `str.lower()` of one character.  Only ASCII patterns are searched in lowered
text, so of the other letters only the two whose lower case is ASCII matter. -/
def lowerChar (c : Char) : Text :=
  if c.toNat = 0x130 then ['i', Char.ofNat 0x307]
  else if c.toNat = 0x212a then ['k']
  else [c.toLower]

def lower (text : Text) : Text :=
  text.flatMap lowerChar

/-- `str.upper()` of one character.  Only ASCII words are compared with upper-cased text, so of
the other letters only those whose upper case is ASCII matter. -/
def upperChar (c : Char) : Text :=
  match c.toNat with
  | 0xdf => ['S', 'S']
  | 0x131 => ['I']
  | 0x17f => ['S']
  | 0xfb00 => ['F', 'F']
  | 0xfb01 => ['F', 'I']
  | 0xfb02 => ['F', 'L']
  | 0xfb03 => ['F', 'F', 'I']
  | 0xfb04 => ['F', 'F', 'L']
  | 0xfb05 | 0xfb06 => ['S', 'T']
  | _ => [c.toUpper]

def upper (text : Text) : Text :=
  text.flatMap upperChar

def startsWith (pattern text : Text) : Bool :=
  pattern.isPrefixOf text

/-- The text before and after the first occurrence of `pattern`. -/
def cut? (pattern : Text) : Text → Option (Text × Text)
  | [] => if pattern.isEmpty then some ([], []) else none
  | c :: rest =>
      if startsWith pattern (c :: rest) then
        some ([], (c :: rest).drop pattern.length)
      else
        (cut? pattern rest).map fun parts => (c :: parts.1, parts.2)

/-- `pattern in text`. -/
def contains (pattern text : Text) : Bool :=
  (cut? pattern text).isSome

/-- `text.replace(pattern, replacement, 1)`. -/
def replaceFirst (pattern replacement text : Text) : Text :=
  match cut? pattern text with
  | some (before, after) => before ++ replacement ++ after
  | none => text

/-- Replacing every occurrence, `skip` being what is left of the occurrence just met. -/
def replaceFrom (pattern replacement : Text) : Nat → Text → Text
  | _, [] => []
  | skip + 1, _ :: rest => replaceFrom pattern replacement skip rest
  | 0, c :: rest =>
      if startsWith pattern (c :: rest) then
        replacement ++ replaceFrom pattern replacement (pattern.length - 1) rest
      else c :: replaceFrom pattern replacement 0 rest

/-- `text.replace(pattern, replacement)` for a pattern that is not empty. -/
def replaceAll (pattern replacement text : Text) : Text :=
  replaceFrom pattern replacement 0 text

/-- `text.replace(c, replacement)` for a one-character pattern. -/
def replaceChar (c : Char) (replacement text : Text) : Text :=
  text.flatMap fun d => if d = c then replacement else [d]

end OnboxFvt.Python
