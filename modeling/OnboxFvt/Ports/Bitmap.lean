import OnboxFvt.Library.Collect
import OnboxFvt.Ports.PortList

/-!
# Port bitmaps of a worker block

`Dut.bcm_of`, `Dut.worker_pbm` and `vlanchk._expand`, with their regular expressions
written as scans.
-/

namespace OnboxFvt.Ports

open Python
open Library (collect?)

/-- A `Port`; `bcm` is set where an explicit port table gives the name. -/
structure Port where
  name : Text
  bcm : Option Text
  deriving DecidableEq

/-- The `bcm_port` section of a device, or the environment variables that override it. -/
structure Naming where
  stem : Text
  offset : Int
  divisor : Int
  nonzero : divisor ≠ 0

/-- `bcm_of`; a port whose name does not end in a number keeps it. -/
def bcmOf (naming : Naming) (port : Port) : Text :=
  match port.bcm with
  | some (c :: rest) => c :: rest
  | _ =>
      match readNat? (trailingDigits isDecimal port.name) with
      | none => port.name
      | some number => naming.stem ++ integer ((number : Int).fdiv naming.divisor + naming.offset)

/-- Why `worker_pbm` raises: a name without a number at the end or letters at the
beginning is an `AttributeError`, two ports that only `<` could order a `TypeError`. -/
inductive PbmError where
  | unnumbered
  | unlettered
  | unordered
  deriving DecidableEq

/-- The pairs `sorted` gets. -/
def numbered (naming : Naming) (ports : List Port) : Option (List (Nat × Port)) :=
  collect? (fun port =>
    (readNat? (trailingDigits isDecimal (bcmOf naming port))).map fun number => (number, port))
    ports

/-- `sorted` of the pairs; two pairs are compared by their ports where the numbers agree,
and different ports have no order. -/
def sorted (pairs : List (Nat × Port)) : Option (List (Nat × Port)) :=
  if ∀ first ∈ pairs, ∀ second ∈ pairs, first.1 = second.1 → first.2 = second.2 then
    some (pairs.mergeSort fun first second => first.1 ≤ second.1)
  else
    none

/-- What `worker_pbm` writes for the sorted pairs. -/
def written (naming : Naming) (first : Nat × Port) (rest : List (Nat × Port)) :
    Except PbmError Text :=
  let pairs := first :: rest
  let nums := pairs.map Prod.fst
  match (bcmOf naming first.2).takeWhile Char.isAlpha with
  | [] => .error .unlettered
  | letters =>
      if nums = List.range' first.1 nums.length then
        .ok (portText letters first.1 ++ '-' ::
          portText letters (pairs.getLast (List.cons_ne_nil _ _)).1)
      else
        .ok ([','].intercalate (pairs.map fun pair => bcmOf naming pair.2))

/-- `worker_pbm`, from the ports of `worker_block`. -/
def workerPbm (naming : Naming) (block : Option (List Port)) : Except PbmError (Option Text) :=
  match block with
  | none => .ok none
  | some ports =>
      match numbered naming ports with
      | none => .error .unnumbered
      | some pairs =>
          match sorted pairs with
          | none => .error .unordered
          | some [] => .ok none
          | some (first :: rest) => (written naming first rest).map some

/-! ## Expansion -/

/-- `^([a-z]+)(\d+)-\1?(\d+)$`. -/
def rangeToken? (tok : Text) : Option (Text × Nat × Nat) :=
  let pre := tok.takeWhile Char.isLower
  let digits := (tok.dropWhile Char.isLower).takeWhile isDecimal
  match (tok.dropWhile Char.isLower).dropWhile isDecimal with
  | '-' :: tail =>
      let last := if startsWith pre tail then tail.drop pre.length else tail
      if pre = [] ∨ last.all isDecimal = false then none
      else
        (readNat? digits).bind fun a => (readNat? last).map fun b => (pre, a, b)
  | _ => none

/-- `^[a-z]+\d+$`. -/
def isSingle (tok : Text) : Bool :=
  !(tok.takeWhile Char.isLower).isEmpty && !(tok.dropWhile Char.isLower).isEmpty &&
    (tok.dropWhile Char.isLower).all isDecimal

/-- `^[a-z]+$`. -/
def isClass (tok : Text) : Bool :=
  !tok.isEmpty && tok.all Char.isLower

/-- The ports one comma-separated part of the list adds. -/
def expandToken (part : Text) : List Text :=
  let tok := strip part
  if tok = [] ∨ tok = "none".toList then []
  else
    match rangeToken? tok with
    | some (pre, a, b) => (List.range' a (b + 1 - a)).map (portText pre)
    | none =>
        if isSingle tok then [tok]
        else if isClass tok then ['*' :: tok]
        else []

/-- `_expand`. -/
def expand (seg : Text) : Finset Text :=
  ((splitOn ',' seg).flatMap expandToken).toFinset

end OnboxFvt.Ports
