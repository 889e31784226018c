import OnboxFvt.Python.Decimal
import OnboxFvt.Python.Lines

/-!
# The fault report as a page

`tools/field_report_to_html.py`: the markdown the device side writes, converted line by line.
The style sheet is left open.
-/

namespace OnboxFvt.Report

open Python

/-- `html.escape(s, quote=False)`. -/
def esc (s : Text) : Text :=
  replaceChar '>' "&gt;".toList (replaceChar '<' "&lt;".toList (replaceChar '&' "&amp;".toList s))

/-! ## Spans inside a line -/

/-- What `mark(.+?)mark` captures at the start of the text, which begins with `mark`. -/
def group? (mark text : Text) : Option Text :=
  match text.drop mark.length with
  | [] => none
  | c :: rest =>
      (cut? mark rest).bind fun parts =>
        if '\n' ∈ c :: parts.1 then none else some (c :: parts.1)

/-- `re.sub(mark(.+?)mark, opening + group + closing)`, with `skip` characters of the last match
still to pass. -/
def subFrom (mark opening closing : Text) : Nat → Text → Text
  | _, [] => []
  | skip + 1, _ :: rest => subFrom mark opening closing skip rest
  | 0, c :: rest =>
      match if startsWith mark (c :: rest) then group? mark (c :: rest) else none with
      | some group =>
          opening ++ group ++ closing ++
            subFrom mark opening closing (mark.length + group.length + mark.length - 1) rest
      | none => c :: subFrom mark opening closing 0 rest

def sub (mark opening closing text : Text) : Text :=
  subFrom mark opening closing 0 text

/-- Bold and code are marked by control characters until the rest is escaped. -/
def marked (s : Text) : Text :=
  sub ['`'] ['\x02'] ['\x03'] (sub "**".toList ['\x00'] ['\x01'] s)

def escInline (s : Text) : Text :=
  let s := esc (marked s)
  let s := replaceChar '\x01' "</b>".toList (replaceChar '\x00' "<b>".toList s)
  replaceChar '\x03' "</code>".toList (replaceChar '\x02' "<code>".toList s)

/-! ## Lines -/

def termLine (ln : Text) : Text :=
  if startsWith "$ ".toList ln then
    "<span class=\"cmd\">".toList ++ esc ln ++ "</span>".toList
  else esc ln

def term (lines : List Text) : Text :=
  "<pre class=\"term\">".toList ++ joinLines (lines.map termLine) ++ "</pre>".toList

inductive Verdict
  | recovers
  | stays
  | skipped

/-- Which tag `verdict_tag` chooses. -/
def verdict? (text : Text) : Option Verdict :=
  if contains "✅".toList text ||
      (contains "Auto-recover".toList text && !contains "🔴".toList text) then
    some .recovers
  else if contains "🔴".toList text then some .stays
  else if contains "skipped".toList text then some .skipped
  else none

def verdictTag (text : Text) : Text :=
  match verdict? text with
  | some .recovers => "<span class=\"tag green\">Auto-recoverable</span>".toList
  | some .stays => "<span class=\"tag red\">Not auto-recoverable</span>".toList
  | some .skipped => "<span class=\"tag gray\">Skipped</span>".toList
  | none => []

def isFence (ln : Text) : Bool :=
  startsWith "```".toList (strip ln)

def isQuote (ln : Text) : Bool :=
  startsWith "> ".toList ln

def bold (item : Text) : Text :=
  sub "**".toList "<b>".toList "</b>".toList item

/-- The line of a list item, without its dash. -/
def itemSegment (item : Text) : Text :=
  let tag :=
    if contains "Auto-recover".toList item || contains "Result".toList item then verdictTag item
    else []
  let item := bold item
  let cls := if startsWith "daemons".toList item then " class=\"status\"".toList else []
  "<p".toList ++ cls ++ ">".toList ++ escInline item ++ " ".toList ++ tag ++ "</p>".toList

/-! ## The conversion -/

structure State where
  body : List Text
  toc : List Text
  secN : Nat
  inCode : Bool
  code : List Text

namespace State

def start : State where
  body := []
  toc := []
  secN := 0
  inCode := false
  code := []

def add (state : State) (segment : Text) : State :=
  { state with body := state.body ++ [segment] }

def anchor (n : Nat) : Text :=
  's' :: decimal n

def addSection (state : State) (title : Text) : State :=
  let secN := state.secN + 1
  { state with
    secN
    toc := state.toc ++ ["<li><a href=\"#".toList ++ anchor secN ++ "\">".toList ++ esc title ++
      "</a></li>".toList]
    body := state.body ++ ["<h2 id=\"".toList ++ anchor secN ++ "\">".toList ++ esc title ++
      "</h2>".toList] }

end State

/-- The loop over the lines, `skip` of which a quotation has taken already. -/
def convertFrom : Nat → State → List Text → State
  | _, state, [] => state
  | skip + 1, state, _ :: rest => convertFrom skip state rest
  | 0, state, ln :: rest =>
      if isFence ln then
        if state.inCode then
          convertFrom 0 { state.add (term state.code) with code := [], inCode := false } rest
        else convertFrom 0 { state with inCode := true } rest
      else if state.inCode then convertFrom 0 { state with code := state.code ++ [ln] } rest
      else if startsWith "# ".toList ln then
        convertFrom 0 (state.add ("<h1>".toList ++ esc (ln.drop 2) ++ "</h1>".toList)) rest
      else if isQuote ln then
        let more := rest.takeWhile isQuote
        let quote := (ln :: more).map (List.drop 2)
        let segment := "<p class=\"subtitle\">".toList ++ esc (joinSpace quote) ++ "</p>".toList
        convertFrom more.length (state.add segment) rest
      else if startsWith "## ".toList ln then
        convertFrom 0 (state.addSection (ln.drop 3)) rest
      else if startsWith "### ".toList ln then
        convertFrom 0 (state.add ("<h3>".toList ++ esc (ln.drop 4) ++ "</h3>".toList)) rest
      else if startsWith "- ".toList ln then
        convertFrom 0 (state.add (itemSegment (ln.drop 2))) rest
      else if (strip ln).isEmpty then convertFrom 0 state rest
      else convertFrom 0 (state.add ("<p>".toList ++ escInline ln ++ "</p>".toList)) rest

/-- The table of contents goes behind the first title. -/
def insertContents (tocHtml : Text) : List Text → List Text
  | [] => []
  | seg :: rest =>
      if startsWith "<h1".toList seg then seg :: tocHtml :: rest
      else seg :: insertContents tocHtml rest

def head (style : Text) : Text :=
  "<!doctype html><html lang=\"zh-CN\"><head><meta charset=\"utf-8\">".toList ++
  "<meta name=\"viewport\" content=\"width=device-width,initial-scale=1\">".toList ++
  "<title>pmon Faulty-Device Field Test Report</title><style>".toList ++ style ++
  "</style></head><body>".toList ++ "<div class=\"sheet\">".toList

def footer : Text :=
  "<div class=\"footer\">This report was generated by ".toList ++
  "tools/pmon_field_report.py from a live on-device test run, and ".toList ++
  "converted into this page by tools/field_report_to_html.py.</div></div></body></html>".toList

def convert (style md : Text) : Text :=
  let state := convertFrom 0 .start (splitlines md)
  let tocHtml := "<div class=\"toc\"><b>Contents</b><ul>".toList ++ state.toc.flatten ++
    "</ul></div>".toList
  head style ++ joinLines (insertContents tocHtml state.body) ++ footer

end OnboxFvt.Report
