import OnboxFvt.Library.Dict
import OnboxFvt.Python.Hexadecimal
import OnboxFvt.Python.Text

/-!
# The entries of an `lt` answer

`_val`, `parse_entries` and `field_at` of `framework/dlb.py`.  `none` is the
`ValueError` of an `int` that fails.
-/

namespace OnboxFvt.Dlb.Lt

open Library Python

inductive Val where
  | number (value : Int)
  | text (raw : Text)
  deriving DecidableEq

/-- What a key of an entry holds; the key `NAME[]` holds a list. -/
inductive Item where
  | val (value : Val)
  | list (values : List Val)
  deriving DecidableEq

abbrev Entry := Dict Text Item

/-- The group of `-?\d+` followed by `\)$`. -/
def closedDecimal? (text : Text) : Option Text :=
  let sign := if startsWith ['-'] text then ['-'] else []
  let digits := (text.drop sign.length).takeWhile isDecimal
  if digits ≠ [] ∧ (text.drop sign.length).dropWhile isDecimal = [')'] then some (sign ++ digits)
  else none

/-- `_HEXDEC_RE`, with the group of the decimal. -/
def hexDec? : Text → Option Text
  | '0' :: 'x' :: rest =>
      match rest.dropWhile isHexDigit with
      | '(' :: more => if rest.takeWhile isHexDigit = [] then none else closedDecimal? more
      | _ => none
  | _ => none

/-- `_val`. -/
def val? (raw : Text) : Option Val :=
  let raw := strip raw
  match hexDec? raw with
  | some digits => (int? digits).map .number
  | none =>
      if isDigit (raw.dropWhile (· = '-')) then (int? raw).map .number
      else if startsWith ['0', 'x'] raw then
        match hexInt? raw with
        | some value => some (.number value)
        | none => some (.text raw)
      else some (.text raw)

/-- `[A-Za-z0-9_]`. -/
def isFieldChar (c : Char) : Bool :=
  c.isAlphanum || c = '_'

/-- `_FIELD_RE`, with its two groups.  A token of a line holds no line feed. -/
def fieldMatch? (tok : Text) : Option (Text × Text) :=
  let base := tok.takeWhile isFieldChar
  if base = [] then none
  else
    match tok.dropWhile isFieldChar with
    | '=' :: raw => some (base, raw)
    | '[' :: rest =>
        match rest.dropWhile (· ≠ ']') with
        | ']' :: '=' :: raw => some (base, raw)
        | _ => none
    | _ => none

/-- The index a token gives its field; empty for `None` as well. -/
def indexOf (base tok : Text) : Text :=
  let rawName := tok.takeWhile (· ≠ '=')
  if rawName ≠ base then stripChars ['[', ']'] (rawName.drop base.length) else []

def keyOf (base idx : Text) : Text :=
  if idx ≠ [] then base ++ '_' :: idx else base

/-- The key of the list of all values of a field. -/
def listKey (base : Text) : Text :=
  base ++ ['[', ']']

/-- `cur.setdefault(key, []).append(value)`; no other value has such a key. -/
def appendTo (cur : Entry) (key : Text) (value : Val) : Entry :=
  match cur.lookup key with
  | some (.list values) => cur.set key (.list (values ++ [value]))
  | _ => cur.set key (.list [value])

/-- The assignments to `cur` for one value. -/
def assign (cur : Entry) (base idx : Text) (value : Val) : Entry :=
  let cur := cur.set (keyOf base idx) (.val value)
  if idx ≠ [] then appendTo cur (listKey base) value else cur

structure State where
  entries : List Entry
  cur : Entry

def State.put (state : State) (base idx : Text) (value : Val) : State :=
  if keyOf base idx ∈ state.cur.keys then
    { entries := state.entries ++ [state.cur], cur := assign [] base idx value }
  else { state with cur := assign state.cur base idx value }

/-- A round of the loop over `s.split(",")`. -/
def parseTok? (state : State) (tok : Text) : Option State :=
  let tok := strip tok
  match fieldMatch? tok with
  | none => some state
  | some (base, raw) => (val? raw).map fun value => state.put base (indexOf base tok) value

def tableBanner : Text := "Table ".toList

def banner : Text := "traversed".toList

def command : Text := "lt ".toList

/-- A round of the loop over the lines. -/
def parseLine? (state : State) (line : Text) : Option State :=
  let s := strip line
  if s = [] || startsWith tableBanner s || contains banner s || startsWith command s then some state
  else (splitOn ',' s).foldlM parseTok? state

/-- `parse_entries`. -/
def parseEntries? (out : Text) : Option (List Entry) :=
  ((splitlines out).foldlM parseLine? { entries := [], cur := [] }).map fun state =>
    if state.cur = [] then state.entries else state.entries ++ [state.cur]

/-- Whether the key is `name_lo-hi` with the index between the two. -/
def inSpan? (name : Text) (index : Nat) (key : Text) : Option Bool :=
  if startsWith (name ++ ['_']) key then
    let span := key.drop (name.length + 1)
    if '-' ∈ span then
      let lo := span.takeWhile (· ≠ '-')
      let hi := (span.dropWhile (· ≠ '-')).drop 1
      if isDigit lo && isDigit hi then
        (int? lo).bind fun lo =>
          if lo ≤ index then (int? hi).map fun hi => decide ((index : Int) ≤ hi) else some false
      else some false
    else some false
  else some false

/-- The loop of `field_at` over the items. -/
def firstSpan? (name : Text) (index : Nat) : Entry → Option (Option Item)
  | [] => some none
  | (key, value) :: rest =>
      (inSpan? name index key).bind fun found =>
        if found then some (some value) else firstSpan? name index rest

/-- `field_at` for an entry; the inner `none` is `None`. -/
def fieldAt? (entry : Entry) (name : Text) (index : Nat) : Option (Option Item) :=
  match entry.lookup (name ++ '_' :: decimal index) with
  | some value => some (some value)
  | none =>
      match entry.lookup name with
      | some value => some (some value)
      | none => firstSpan? name index entry

end OnboxFvt.Dlb.Lt
