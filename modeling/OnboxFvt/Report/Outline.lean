import Mathlib.Data.List.TakeWhile
import OnboxFvt.Library.Markup
import OnboxFvt.Python.TextFacts
import OnboxFvt.Report.Conversion

/-!
# What a report says

The blocks of a report, and the tokens of the page for each of them.  The page reads as the
blocks of the report, whatever its lines contain.
-/

namespace OnboxFvt.Report

open Library.Markup Python

inductive Block
  | title (text : Text)
  | quote (lines : List Text)
  | heading (text : Text)
  | subheading (text : Text)
  | item (text : Text)
  | paragraph (text : Text)
  | terminal (lines : List Text)

def titleMark : Text := "# ".toList
def quoteMark : Text := "> ".toList
def headingMark : Text := "## ".toList
def subheadingMark : Text := "### ".toList
def itemMark : Text := "- ".toList

def marks : List Text :=
  [titleMark, quoteMark, headingMark, subheadingMark, itemMark]

/-- Which blocks the lines of a report are; code that is not closed is none. -/
inductive Outline : List Text → List Block → Prop
  | nil : Outline [] []
  | terminal {opening closing : Text} {lines rest : List Text} {blocks : List Block}
      (opens : isFence opening) (inside : ∀ line ∈ lines, ¬ isFence line)
      (closes : isFence closing) (later : Outline rest blocks) :
      Outline (opening :: lines ++ closing :: rest) (.terminal lines :: blocks)
  | unfinished {opening : Text} {lines : List Text} (opens : isFence opening)
      (inside : ∀ line ∈ lines, ¬ isFence line) : Outline (opening :: lines) []
  | title (text : Text) {rest : List Text} {blocks : List Block} (later : Outline rest blocks) :
      Outline ((titleMark ++ text) :: rest) (.title text :: blocks)
  | quote (text : Text) (lines : List Text) {rest : List Text} {blocks : List Block}
      (ends : ∀ line ∈ rest.head?, ¬ isQuote line) (later : Outline rest blocks) :
      Outline ((text :: lines).map (quoteMark ++ ·) ++ rest) (.quote (text :: lines) :: blocks)
  | heading (text : Text) {rest : List Text} {blocks : List Block} (later : Outline rest blocks) :
      Outline ((headingMark ++ text) :: rest) (.heading text :: blocks)
  | subheading (text : Text) {rest : List Text} {blocks : List Block}
      (later : Outline rest blocks) :
      Outline ((subheadingMark ++ text) :: rest) (.subheading text :: blocks)
  | item (text : Text) {rest : List Text} {blocks : List Block} (later : Outline rest blocks) :
      Outline ((itemMark ++ text) :: rest) (.item text :: blocks)
  | blank {line : Text} {rest : List Text} {blocks : List Block} (empty : strip line = [])
      (later : Outline rest blocks) : Outline (line :: rest) blocks
  | paragraph {line : Text} {rest : List Text} {blocks : List Block} (filled : strip line ≠ [])
      (unfenced : ¬ isFence line) (unmarked : ∀ mark ∈ marks, ¬ startsWith mark line)
      (later : Outline rest blocks) : Outline (line :: rest) (.paragraph line :: blocks)

/-! ## The page, token by token -/

def tag (inside : String) : Token :=
  .tag inside.toList

/-- The control characters stand for tags. -/
def markToken (c : Char) : Token :=
  if c = '\x00' then tag "b"
  else if c = '\x01' then tag "/b"
  else if c = '\x02' then tag "code"
  else if c = '\x03' then tag "/code"
  else .char c

/-- Bold and code of a line. -/
def phrase (text : Text) : List Token :=
  (marked text).map markToken

def termTokens (line : Text) : List Token :=
  if startsWith "$ ".toList line then tag "span class=\"cmd\"" :: chars line ++ [tag "/span"]
  else chars line

def Verdict.tokens : Verdict → List Token
  | recovers => tag "span class=\"tag green\"" :: chars "Auto-recoverable".toList ++ [tag "/span"]
  | stays => tag "span class=\"tag red\"" :: chars "Not auto-recoverable".toList ++ [tag "/span"]
  | skipped => tag "span class=\"tag gray\"" :: chars "Skipped".toList ++ [tag "/span"]

/-- An item has a verdict only if it is about a result. -/
def itemVerdict? (text : Text) : Option Verdict :=
  if contains "Auto-recover".toList text || contains "Result".toList text then verdict? text
  else none

def itemTag (item : Text) : Token :=
  if startsWith "daemons".toList item then tag "p class=\"status\"" else tag "p"

namespace Block

/-- The bold marks of an item have become text before the item is escaped. -/
def tokens (secN : Nat) : Block → List Token
  | title text => tag "h1" :: chars text ++ [tag "/h1"]
  | quote lines => tag "p class=\"subtitle\"" :: chars (joinSpace lines) ++ [tag "/p"]
  | heading text =>
      .tag ("h2 id=\"".toList ++ State.anchor secN ++ "\"".toList) :: chars text ++ [tag "/h2"]
  | subheading text => tag "h3" :: chars text ++ [tag "/h3"]
  | item text =>
      itemTag (bold text) :: phrase (bold text) ++ .char ' ' ::
        ((itemVerdict? text).elim [] Verdict.tokens) ++ [tag "/p"]
  | paragraph text => tag "p" :: phrase text ++ [tag "/p"]
  | terminal lines =>
      tag "pre class=\"term\"" :: [Token.char '\n'].intercalate (lines.map termTokens) ++
        [tag "/pre"]

def entry (secN : Nat) : Block → List Token
  | heading text =>
      [tag "li", .tag ("a href=\"#".toList ++ State.anchor secN ++ "\"".toList)] ++ chars text ++
        [tag "/a", tag "/li"]
  | _ => []

/-- The number of the section a block is in, if the block before it was in section `secN`. -/
def sectionBehind (secN : Nat) : Block → Nat
  | heading _ => secN + 1
  | _ => secN

def isTitle : Block → Bool
  | title _ => true
  | _ => false

end Block

/-- The blocks with the numbers of their sections. -/
def numbered : Nat → List Block → List (Nat × Block)
  | _, [] => []
  | secN, block :: rest =>
      (block.sectionBehind secN, block) :: numbered (block.sectionBehind secN) rest

def contents (blocks : List (Nat × Block)) : List Token :=
  [tag "div class=\"toc\"", tag "b"] ++ chars "Contents".toList ++ [tag "/b", tag "ul"] ++
    blocks.flatMap (fun (secN, block) => block.entry secN) ++ [tag "/ul", tag "/div"]

/-- The tokens of the blocks, those of the contents behind the first title. -/
def withContents (contents : List Token) : List (Nat × Block) → List (List Token)
  | [] => []
  | (secN, block) :: rest =>
      if block.isTitle then
        block.tokens secN :: contents :: rest.map fun (secN, block) => block.tokens secN
      else block.tokens secN :: withContents contents rest

def bodyTokens (blocks : List Block) : List Token :=
  [Token.char '\n'].intercalate
    (withContents (contents (numbered 0 blocks)) (numbered 0 blocks))

def headTokens (style : Text) : List Token :=
  [tag "!doctype html", tag "html lang=\"zh-CN\"", tag "head", tag "meta charset=\"utf-8\"",
    tag "meta name=\"viewport\" content=\"width=device-width,initial-scale=1\"", tag "title"] ++
  chars "pmon Faulty-Device Field Test Report".toList ++ [tag "/title", tag "style"] ++
  chars style ++ [tag "/style", tag "/head", tag "body", tag "div class=\"sheet\""]

def footerTokens : List Token :=
  tag "div class=\"footer\"" ::
  (chars "This report was generated by ".toList ++
    chars "tools/pmon_field_report.py from a live on-device test run, and ".toList ++
    chars "converted into this page by tools/field_report_to_html.py.".toList) ++
  [tag "/div", tag "/div", tag "/body", tag "/html"]

def page (style : Text) (blocks : List Block) : List Token :=
  headTokens style ++ bodyTokens blocks ++ footerTokens

end OnboxFvt.Report
