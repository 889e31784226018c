import OnboxFvt.Library.Dict
import OnboxFvt.Report.Reading

/-!
# The fault report as it is written

`fence`, `status_line` and `render` of `tools/pmon_field_report.py`, and what a report says:
the blocks its page comes to have.  The texts of a result stand on one line each, and what
`show` prints has lines that are no fences.
-/

namespace OnboxFvt.Report

open Library Library.Markup Python

/-! ## What a report is written from -/

/-- A text without a line break. -/
structure Line where
  text : Text
  plain : Plain text

/-- `text.rstrip()`. -/
def rstrip (text : Text) : Text :=
  (text.reverse.dropWhile isSpace).reverse

/-- What a command printed. -/
structure Output where
  text : Text
  breaks : ∀ c ∈ text, isLineBreak c = true → c = '\n'
  unfenced : ∀ line ∈ splitOn '\n' (rstrip text), ¬ isFence line

/-- `psuBlank` is the list as it prints, where it is not empty. -/
structure Snapshot where
  clock : Line
  daemons : Line
  cacheAge : Option Int
  syncAlive : Bool
  psustatus : Output
  fan : Output
  temperature : Output
  psuBlank : Option Line

/-- What a scenario returned. -/
structure Outcome where
  skip : Option Line
  inject : Option Line
  note : Option Line
  autoRecover : Option Bool
  base : Option Snapshot
  injectSeries : Dict Line Snapshot
  recoverSeries : Dict Line Snapshot

/-- A text that is not empty. -/
def said (text : Option Line) : Option Line :=
  text.filter fun line => !line.text.isEmpty

def scenarios : List (Text × Text) :=
  [("baseline".toList, "field baseline (no injection)".toList),
    ("b1".toList, "BMC connection refused -> sync daemon survival".toList),
    ("b2".toList, "BMC bad JSON -> sync daemon survival".toList),
    ("s5".toList, "PSU sentinel voltage -> displays 0.0 vs N/A".toList),
    ("s9".toList, "runtime sensor key-drop -> temperature row freezes".toList)]

/-! ## Rendering -/

def fenceMark : Text := "```".toList
def psuPrompt : Text := "$ show platform psustatus".toList
def fanPrompt : Text := "$ show platform fan".toList
def temperaturePrompt : Text := "$ show platform temperature".toList

def fence (snap : Snapshot) : Text :=
  fenceMark ++ '\n' :: psuPrompt ++ '\n' :: rstrip snap.psustatus.text ++
    '\n' :: '\n' :: fanPrompt ++ '\n' :: rstrip snap.fan.text ++
    '\n' :: '\n' :: temperaturePrompt ++ '\n' :: rstrip snap.temperature.text ++
    '\n' :: fenceMark

def cacheAgeText : Option Int → Text
  | some age => integer age
  | none => "None".toList

def statusLine (snap : Snapshot) : Text :=
  "daemons: ".toList ++ snap.daemons.text ++ " | sync daemon alive: ".toList ++
    (if snap.syncAlive then "yes".toList else "no".toList) ++ " | cache age: ".toList ++
    cacheAgeText snap.cacheAge ++ "s | PSU detail blank: ".toList ++
    ((snap.psuBlank.map Line.text).getD "none".toList)

def observeLabels : List Text :=
  ["T+30s".toList, "T+60s".toList, "T+300s".toList]

/-- The key the labels of a series are sorted by. -/
def labelRank (label : Text) : Nat :=
  if label ∈ observeLabels then observeLabels.idxOf label else 99

def sortedSeries (series : Dict Line Snapshot) : List (Line × Snapshot) :=
  series.mergeSort fun first second => labelRank first.1.text ≤ labelRank second.1.text

/-- What is written of a snapshot under a heading. -/
def shotPieces (heading : Text) (snap : Snapshot) : List Text :=
  ["### ".toList ++ heading ++ "\n".toList, "- ".toList ++ statusLine snap ++ "\n".toList,
    fence snap ++ "\n".toList]

def baseHeading : Text :=
  "Baseline (pre-injection)".toList

def shotHeading (phase : Text) (label : Line) (snap : Snapshot) : Text :=
  phase ++ ' ' :: label.text ++ " (".toList ++ snap.clock.text ++ ")".toList

def seriesPieces (phase : Text) (series : Dict Line Snapshot) : List Text :=
  (sortedSeries series).flatMap fun (label, snap) => shotPieces (shotHeading phase label snap) snap

def recoveryText (recovers : Bool) : Text :=
  if recovers then
    "✅ yes (back to baseline without restarting pmon after revocation)".toList
  else "🔴 no (still not back to baseline after revocation, pmon restart required)".toList

def afterInjection : Text := "After injection".toList
def afterRevocation : Text := "After revocation".toList

/-- The round of the loop for a scenario that has a result. -/
def outcomePieces (title : Text) (r : Outcome) : List Text :=
  ("## ".toList ++ title ++ "\n".toList) ::
    match said r.skip with
    | some skip => ["- **Result**: skipped -- ".toList ++ skip.text ++ "\n".toList]
    | none =>
        ((said r.inject).toList.map fun inject =>
          "- **Injection method**: ".toList ++ inject.text) ++
        ((said r.note).toList.map fun note => "- **Observation goal**: ".toList ++ note.text) ++
        (r.autoRecover.toList.map fun recovers =>
          "- **Auto-recovers**: ".toList ++ recoveryText recovers) ++
        [[]] ++ r.base.toList.flatMap (shotPieces baseHeading) ++
        seriesPieces afterInjection r.injectSeries ++ seriesPieces afterRevocation r.recoverSeries

def reportTitle (host : Line) : Text :=
  "pmon fault device field-test report (".toList ++ host.text ++ ")".toList

def titlePiece (host : Line) : Text :=
  "# ".toList ++ reportTitle host ++ "\n".toList

def scopeText : Text :=
  "Scope: on-device real mock BMC injection -> real sync daemon -> real cache -> ".toList ++
  "real psud/thermalctld -> real `show platform`. Each scenario is sampled repeatedly ".toList ++
  "at T+30s/T+60s/T+300s after injection and after revocation; the last sample ".toList ++
  "decides whether it can **auto-recover** (back to baseline without restarting pmon).".toList

def generatedText (now : Line) : Text :=
  "Generated: ".toList ++ now.text ++ " | Method: `sudo python3 tools/pmon_field_report.py`".toList

def scopePiece (now : Line) : Text :=
  "> ".toList ++ generatedText now ++ "\n".toList ++ "> ".toList ++ scopeText ++ "\n".toList

def scenarioPieces (results : Dict Text Outcome) (scenario : Text × Text) : List Text :=
  match results.lookup scenario.1 with
  | none => []
  | some r => outcomePieces scenario.2 r

/-- `now` is the time as it prints. -/
def render (now host : Line) (results : Dict Text Outcome) : Text :=
  joinLines ([titlePiece host, scopePiece now] ++ scenarios.flatMap (scenarioPieces results))

/-! ## What it says -/

/-- The lines of the terminal of a snapshot. -/
def terminalLines (snap : Snapshot) : List Text :=
  psuPrompt :: splitOn '\n' (rstrip snap.psustatus.text) ++
    [] :: fanPrompt :: splitOn '\n' (rstrip snap.fan.text) ++
    [] :: temperaturePrompt :: splitOn '\n' (rstrip snap.temperature.text)

def shotBlocks (heading : Text) (snap : Snapshot) : List Block :=
  [.subheading heading, .item (statusLine snap), .terminal (terminalLines snap)]

/-- The snapshots of a result with their headings. -/
def shots (r : Outcome) : List (Text × Snapshot) :=
  r.base.toList.map (baseHeading, ·) ++
    (sortedSeries r.injectSeries).map
      (fun (label, snap) => (shotHeading afterInjection label snap, snap)) ++
    (sortedSeries r.recoverSeries).map
      (fun (label, snap) => (shotHeading afterRevocation label snap, snap))

/-- The items in front of the snapshots. -/
def outcomeItems (r : Outcome) : List Text :=
  ((said r.inject).toList.map fun inject => "**Injection method**: ".toList ++ inject.text) ++
    ((said r.note).toList.map fun note => "**Observation goal**: ".toList ++ note.text) ++
    (r.autoRecover.toList.map fun recovers =>
      "**Auto-recovers**: ".toList ++ recoveryText recovers)

def outcomeBlocks (title : Text) (r : Outcome) : List Block :=
  .heading title ::
    match said r.skip with
    | some skip => [.item ("**Result**: skipped -- ".toList ++ skip.text)]
    | none =>
        (outcomeItems r).map .item ++
          (shots r).flatMap fun (heading, snap) => shotBlocks heading snap

/-- The results of the scenarios, in their order. -/
def reported (results : Dict Text Outcome) : List (Text × Outcome) :=
  scenarios.filterMap fun scenario => (results.lookup scenario.1).map (scenario.2, ·)

def reportBlocks (now host : Line) (results : Dict Text Outcome) : List Block :=
  .title (reportTitle host) :: .quote [generatedText now, scopeText] ::
    (reported results).flatMap fun (title, r) => outcomeBlocks title r

end OnboxFvt.Report
