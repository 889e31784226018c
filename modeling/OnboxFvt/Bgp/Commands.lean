import OnboxFvt.Bgp.Prefix
import OnboxFvt.Bgp.Session
import OnboxFvt.Dhcp.Server
import OnboxFvt.Python.TextFacts

/-!
# The texts between a test and its speaker

`topo/netns_peer.py` hands the `--serve` process of `servers/bgp_speaker.py` the
`advertise` list as one argument and every later call as a line on its stdin.  The
process is given texts; which prefix or address a text spells is a `Spelling`.
-/

namespace OnboxFvt.Bgp

open Library Python

/-- Values as words that the separators of the argument do not occur in. -/
structure Spelling (Value : Type) where
  text : Value → Text
  read? : Text → Option Value
  read?_text : ∀ value, read? (text value) = some value
  word : ∀ value, Word (text value)
  noComma : ∀ value, ',' ∉ text value
  noSemicolon : ∀ value, ';' ∉ text value

variable {Pfx Hop : Type} (prefixes : Spelling Pfx) (hops : Spelling Hop)

/-! ## The `advertise` argument -/

/-- The argument `start_speaker` builds. -/
def advArgument (advertise : List (Pfx × Hop)) : Text :=
  [';'].intercalate (advertise.map fun entry =>
    prefixes.text entry.1 ++ ',' :: hops.text entry.2)

/-- What `_serve_main` reads from the argument. -/
def parseAdv (adv : Text) : List (Text × Text) :=
  if adv.isEmpty then []
  else (splitOn ';' adv).filterMap fun pair =>
    (cut? [','] pair).map fun parts => (strip parts.1, strip parts.2)

/-- `none` where a text spells nothing. -/
def routes? (pairs : List (Text × Text)) : Option (List (Pfx × Hop)) :=
  collect? (fun pair => (prefixes.read? pair.1).bind fun pfx =>
    (hops.read? pair.2).map fun nexthop => (pfx, nexthop)) pairs

/-! ## The command lines -/

/-- The line of `announce` or `withdraw`. -/
def callLine : Call Pfx Hop → Text
  | .announce pfx nexthop =>
      "announce ".toList ++ prefixes.text pfx ++ ' ' :: hops.text nexthop
  | .withdraw pfx => "withdraw ".toList ++ prefixes.text pfx

def quitLine : Text :=
  "quit".toList

/-- What the command loop does with a line. -/
inductive Command (Pfx Hop : Type) where
  | skip
  | quit
  | call (call : Call Pfx Hop)
  | unknown
  deriving DecidableEq

/-- `none` is a call whose texts spell nothing. -/
def command? (line : Text) : Option (Command Pfx Hop) :=
  match split (strip line) with
  | [] => some .skip
  | cmd :: args =>
      if cmd = "quit".toList then some .quit
      else if cmd = "announce".toList then
        match args with
        | pfx :: nexthop :: _ =>
            (prefixes.read? pfx).bind fun pfx =>
              (hops.read? nexthop).map fun nexthop => .call (.announce pfx nexthop)
        | _ => some .unknown
      else if cmd = "withdraw".toList then
        match args with
        | pfx :: _ => (prefixes.read? pfx).map fun pfx => .call (.withdraw pfx)
        | _ => some .unknown
      else some .unknown

/-! ## What is written is read back -/

variable {prefixes hops}

theorem Spelling.strip_text {Value : Type} (spelling : Spelling Value) (value : Value) :
    strip (spelling.text value) = spelling.text value :=
  strip_of_notSpace (spelling.word value).2

theorem splitOn_advArgument {advertise : List (Pfx × Hop)} (nonempty : advertise ≠ []) :
    splitOn ';' (advArgument prefixes hops advertise) =
      advertise.map fun entry => prefixes.text entry.1 ++ ',' :: hops.text entry.2 := by
  apply List.splitOn_intercalate
  · intro pair member
    obtain ⟨entry, _, rfl⟩ := List.mem_map.mp member
    simp [prefixes.noSemicolon, hops.noSemicolon]
  · simpa using nonempty

theorem advArgument_ne_nil {advertise : List (Pfx × Hop)} (nonempty : advertise ≠ []) :
    advArgument prefixes hops advertise ≠ [] := by
  intro empty
  obtain ⟨entry, rest, rfl⟩ := List.exists_cons_of_ne_nil nonempty
  have comma : ',' ∈ advArgument prefixes hops (entry :: rest) :=
    mem_intercalate_of_mem (List.mem_cons_self ..) (by simp)
  rw [empty] at comma
  cases comma

theorem parseAdv_advArgument (advertise : List (Pfx × Hop)) :
    parseAdv (advArgument prefixes hops advertise) =
      advertise.map fun entry => (prefixes.text entry.1, hops.text entry.2) := by
  by_cases empty : advertise = []
  · subst empty
    rfl
  · rw [parseAdv, if_neg (by simpa using advArgument_ne_nil empty), splitOn_advArgument empty,
      List.filterMap_map, ← List.filterMap_eq_map]
    refine List.filterMap_congr fun entry _ => ?_
    have cut := cut?_separator (prefixes.noComma entry.1) (hops.text entry.2)
    simp [cut, Spelling.strip_text]

theorem routes?_parseAdv (advertise : List (Pfx × Hop)) :
    routes? prefixes hops (parseAdv (advArgument prefixes hops advertise)) = some advertise := by
  rw [parseAdv_advArgument]
  induction advertise with
  | nil => rfl
  | cons entry rest inductionHypothesis =>
      rw [routes?] at inductionHypothesis ⊢
      simp [collect?, inductionHypothesis, prefixes.read?_text, hops.read?_text]

theorem split_announce (pfx : Pfx) (nexthop : Hop) :
    split (callLine prefixes hops (.announce pfx nexthop)) =
      ["announce".toList, prefixes.text pfx, hops.text nexthop] := by
  have blank : isSpace ' ' = true := by decide
  have line : callLine prefixes hops (.announce pfx nexthop) =
      "announce".toList ++ ' ' :: (prefixes.text pfx ++ ' ' :: hops.text nexthop) := rfl
  have command : split "announce".toList = ["announce".toList] :=
    split_solid (by decide) (by decide)
  rw [line, split_blank blank, split_blank blank, command, (prefixes.word pfx).split_eq,
    (hops.word nexthop).split_eq]
  rfl

theorem split_withdraw (pfx : Pfx) :
    split (callLine prefixes hops (.withdraw pfx)) =
      ["withdraw".toList, prefixes.text pfx] := by
  have blank : isSpace ' ' = true := by decide
  have line : callLine prefixes hops (.withdraw pfx) =
      "withdraw".toList ++ ' ' :: prefixes.text pfx := rfl
  have command : split "withdraw".toList = ["withdraw".toList] :=
    split_solid (by decide) (by decide)
  rw [line, split_blank blank, command, (prefixes.word pfx).split_eq]
  rfl

/-- The command loop makes of a line the call the line was written for. -/
theorem command?_callLine (call : Call Pfx Hop) :
    command? prefixes hops (callLine prefixes hops call) = some (.call call) := by
  cases call with
  | announce pfx nexthop =>
      have other : "announce".toList ≠ "quit".toList := by decide
      rw [command?, split_strip, split_announce]
      simp only [if_neg other, if_true, prefixes.read?_text, hops.read?_text, Option.bind_some,
        Option.map_some]
  | withdraw pfx =>
      have other : "withdraw".toList ≠ "quit".toList := by decide
      have another : "withdraw".toList ≠ "announce".toList := by decide
      rw [command?, split_strip, split_withdraw]
      simp only [if_neg other, if_neg another, if_true, prefixes.read?_text, Option.map_some]

theorem Spelling.newline_notMem {Value : Type} (spelling : Spelling Value) (value : Value) :
    '\n' ∉ spelling.text value := by
  intro member
  have solid := (spelling.word value).2 '\n' member
  have broken : isSpace '\n' = true := by decide
  exact Bool.false_ne_true (solid.symm.trans broken)

/-- A line is written without a line break of its own. -/
theorem newline_notMem_callLine (call : Call Pfx Hop) : '\n' ∉ callLine prefixes hops call := by
  cases call with
  | announce pfx nexthop =>
      have command : '\n' ∉ "announce ".toList := by decide
      have line : callLine prefixes hops (.announce pfx nexthop) =
          "announce ".toList ++ prefixes.text pfx ++ ' ' :: hops.text nexthop := rfl
      rw [line, List.mem_append, List.mem_append, List.mem_cons]
      rintro ((member | member) | member | member)
      · exact command member
      · exact prefixes.newline_notMem pfx member
      · exact absurd member (by decide)
      · exact hops.newline_notMem nexthop member
  | withdraw pfx =>
      have command : '\n' ∉ "withdraw ".toList := by decide
      have line : callLine prefixes hops (.withdraw pfx) =
          "withdraw ".toList ++ prefixes.text pfx := rfl
      rw [line, List.mem_append]
      rintro (member | member)
      · exact command member
      · exact prefixes.newline_notMem pfx member

/-! ## Addresses and prefixes -/

/-- The dotted quads `inet_aton` reads. -/
def inetAton? (text : Text) : Option Ipv4 :=
  match Dhcp.addressOctets? text with
  | some [a, b, c, d] => some ⟨a, b, c, d⟩
  | _ => none

def Prefix.text (pfx : Prefix) : Text :=
  Dhcp.dotted pfx.net.bytes ++ '/' :: decimal pfx.plen.val

def length? (plen : Int) : Option (Fin 33) :=
  if 0 ≤ plen then
    if small : plen.toNat < 33 then some ⟨plen.toNat, small⟩ else none
  else none

/-- The reading of `_prefix2nlri`, for prefixes without host bits. -/
def prefix? (text : Text) : Option CanonicalPrefix :=
  match splitOn '/' text with
  | [net, plen] =>
      (inetAton? net).bind fun net =>
        ((int? plen).bind length?).bind fun plen =>
          if canonical : (⟨net, plen⟩ : Prefix).Canonical then some ⟨_, canonical⟩ else none
  | _ => none

theorem length?_val (plen : Fin 33) : length? (plen.val : Int) = some plen := by
  rw [length?, if_pos (by omega), dif_pos (by omega)]
  rfl

theorem mem_dotted {octets : List Byte} {c : Char} (member : c ∈ Dhcp.dotted octets) :
    c = '.' ∨ c.isDigit = true := by
  refine (mem_intercalate member).imp_right ?_
  rintro ⟨part, listed, inside⟩
  obtain ⟨octet, _, rfl⟩ := List.mem_map.mp listed
  exact isDigit_of_mem_decimal inside

theorem notMem_dotted {c : Char} (notDot : c ≠ '.') (notDigit : c.isDigit = false)
    (octets : List Byte) : c ∉ Dhcp.dotted octets := by
  intro member
  rcases mem_dotted member with dot | digit
  · exact notDot dot
  · rw [notDigit] at digit
    cases digit

theorem word_dotted (ip : Ipv4) : Word (Dhcp.dotted ip.bytes) := by
  refine ⟨?_, fun c member => ?_⟩
  · obtain ⟨c, first⟩ := List.exists_mem_of_ne_nil _ (decimal_ne_nil ip.a.val)
    exact List.ne_nil_of_mem (mem_intercalate_of_mem (List.mem_cons_self ..) first)
  · rcases mem_dotted member with rfl | digit
    · decide
    · exact isSpace_of_isDigit digit

theorem inetAton?_dotted (ip : Ipv4) : inetAton? (Dhcp.dotted ip.bytes) = some ip := by
  have octets : Dhcp.addressOctets? (Dhcp.dotted ip.bytes) = some ip.bytes :=
    Dhcp.addressOctets?_dotted (List.cons_ne_nil _ _)
  rw [inetAton?, octets]
  rfl

theorem comma_notMem_dotted (ip : Ipv4) : ',' ∉ Dhcp.dotted ip.bytes :=
  notMem_dotted (by decide) (by decide) ip.bytes

theorem semicolon_notMem_dotted (ip : Ipv4) : ';' ∉ Dhcp.dotted ip.bytes :=
  notMem_dotted (by decide) (by decide) ip.bytes

def addressSpelling : Spelling Ipv4 where
  text ip := Dhcp.dotted ip.bytes
  read? := inetAton?
  read?_text := inetAton?_dotted
  word := word_dotted
  noComma := comma_notMem_dotted
  noSemicolon := semicolon_notMem_dotted

theorem splitOn_prefix (pfx : Prefix) :
    splitOn '/' pfx.text = [Dhcp.dotted pfx.net.bytes, decimal pfx.plen.val] := by
  have joined : pfx.text =
      ['/'].intercalate [Dhcp.dotted pfx.net.bytes, decimal pfx.plen.val] := by
    simp [Prefix.text]
  rw [joined]
  apply List.splitOn_intercalate
  · simp [notMem_dotted, notMem_decimal]
  · exact List.cons_ne_nil _ _

theorem prefix?_text (pfx : CanonicalPrefix) : prefix? pfx.val.text = some pfx := by
  obtain ⟨⟨net, plen⟩, canonical⟩ := pfx
  rw [prefix?, splitOn_prefix]
  simp only [inetAton?_dotted, int?_decimal, Option.bind_some, length?_val]
  rw [dif_pos canonical]

theorem notMem_prefix {c : Char} (notDot : c ≠ '.') (notSlash : c ≠ '/')
    (notDigit : c.isDigit = false) (pfx : Prefix) : c ∉ pfx.text := by
  rw [Prefix.text, List.mem_append, List.mem_cons]
  rintro (member | member | member)
  · exact notMem_dotted notDot notDigit _ member
  · exact notSlash member
  · exact notMem_decimal notDigit _ member

theorem word_prefix (pfx : CanonicalPrefix) : Word pfx.val.text := by
  refine ⟨by simp [Prefix.text], fun c member => ?_⟩
  rw [Prefix.text, List.mem_append, List.mem_cons] at member
  rcases member with member | rfl | member
  · exact (word_dotted pfx.val.net).2 c member
  · decide
  · exact isSpace_of_isDigit (isDigit_of_mem_decimal member)

theorem comma_notMem_prefix (pfx : CanonicalPrefix) : ',' ∉ pfx.val.text :=
  notMem_prefix (by decide) (by decide) (by decide) pfx.val

theorem semicolon_notMem_prefix (pfx : CanonicalPrefix) : ';' ∉ pfx.val.text :=
  notMem_prefix (by decide) (by decide) (by decide) pfx.val

def prefixSpelling : Spelling CanonicalPrefix where
  text pfx := pfx.val.text
  read? := prefix?
  read?_text := prefix?_text
  word := word_prefix
  noComma := comma_notMem_prefix
  noSemicolon := semicolon_notMem_prefix

end OnboxFvt.Bgp
