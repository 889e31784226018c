import OnboxFvt.Report.Rendering

/-!
# From results to the page

The report of any results is read as the blocks it was written from, so its page shows every
snapshot as it was taken, one terminal each, under the section of its scenario.
-/

namespace OnboxFvt.Report

open Library Library.Markup Python

/-! ## The lines of a report -/

theorem unlines_cons (line : Text) (lines : List Text) :
    unlines (line :: lines) = line ++ '\n' :: unlines lines := by
  simp [unlines]

theorem unlines_eq {lines : List Text} (nonempty : lines ≠ []) :
    unlines lines = joinLines lines ++ ['\n'] := by
  obtain ⟨init, last, rfl⟩ := (List.eq_nil_or_concat lines).resolve_left nonempty
  rw [List.concat_eq_append, joinLines_concat, unlines_append]
  simp [unlines]

theorem unlines_splitOn (text : Text) : unlines (splitOn '\n' text) = text ++ ['\n'] := by
  have nonempty : splitOn '\n' text ≠ [] := List.splitOn_ne_nil '\n' text
  rw [unlines_eq nonempty]
  exact congrArg (· ++ ['\n']) (List.intercalate_splitOn '\n')

/-- A separator behind every part is one in front of every part. -/
theorem cons_flatMap_concat {Part : Type} (separator : Text) (lines : Part → List Text)
    (parts : List Part) : separator :: parts.flatMap (fun part => lines part ++ [separator]) =
      parts.flatMap (fun part => separator :: lines part) ++ [separator] := by
  induction parts with
  | nil => rfl
  | cons part rest inductionHypothesis =>
      rw [List.flatMap_cons, List.flatMap_cons, List.append_assoc, List.singleton_append,
        inductionHypothesis]
      simp

def shotLines (heading : Text) (snap : Snapshot) : List Text :=
  (subheadingMark ++ heading) :: [] :: (itemMark ++ statusLine snap) :: [] ::
    fenceMark :: terminalLines snap ++ [fenceMark]

def outcomeLines (title : Text) (r : Outcome) : List Text :=
  (headingMark ++ title) :: [] ::
    match said r.skip with
    | some skip => [itemMark ++ ("**Result**: skipped -- ".toList ++ skip.text)]
    | none =>
        (outcomeItems r).map (itemMark ++ ·) ++
          (shots r).flatMap fun (heading, snap) => [] :: shotLines heading snap

def reportLines (now host : Line) (results : Dict Text Outcome) : List Text :=
  (titleMark ++ reportTitle host) :: [] ::
    [generatedText now, scopeText].map (quoteMark ++ ·) ++
      (reported results).flatMap fun (title, r) => [] :: outcomeLines title r

theorem fence_eq (snap : Snapshot) :
    fence snap ++ ['\n'] = unlines (fenceMark :: terminalLines snap ++ [fenceMark]) := by
  rw [fence, terminalLines]
  simp only [unlines_append, unlines_cons, unlines_splitOn, List.cons_append, List.append_assoc,
    List.nil_append]
  rfl

theorem newline_eq : "\n".toList = ['\n'] := by
  decide

theorem shotPieces_eq (heading : Text) (snap : Snapshot) :
    unlines (shotPieces heading snap) = unlines (shotLines heading snap ++ [[]]) := by
  rw [shotPieces, unlines_cons, unlines_cons, unlines_cons, newline_eq, fence_eq, shotLines]
  simp only [unlines_append, unlines_cons, List.cons_append, List.append_assoc, List.nil_append]
  rfl

theorem unlines_flatMap {Part : Type} (lines : Part → List Text) (parts : List Part) :
    unlines (parts.flatMap lines) = parts.flatMap fun part => unlines (lines part) :=
  List.flatMap_assoc

theorem seriesPieces_eq (phase : Text) (series : Dict Line Snapshot) :
    unlines (seriesPieces phase series) =
      unlines (((sortedSeries series).map fun (label, snap) =>
        (shotHeading phase label snap, snap)).flatMap fun (heading, snap) =>
          shotLines heading snap ++ [[]]) := by
  rw [seriesPieces, unlines_flatMap, unlines_flatMap, List.flatMap_map]
  exact List.flatMap_congr fun (label, snap) _ => shotPieces_eq _ snap

theorem basePieces_eq (base : Option Snapshot) :
    unlines (base.toList.flatMap (shotPieces baseHeading)) =
      unlines ((base.toList.map (baseHeading, ·)).flatMap fun (heading, snap) =>
        shotLines heading snap ++ [[]]) := by
  rw [unlines_flatMap, unlines_flatMap, List.flatMap_map]
  exact List.flatMap_congr fun snap _ => shotPieces_eq baseHeading snap

/-- The snapshots of a result, each with an empty line behind it. -/
theorem shots_eq (r : Outcome) :
    unlines (r.base.toList.flatMap (shotPieces baseHeading) ++
        seriesPieces afterInjection r.injectSeries ++
        seriesPieces afterRevocation r.recoverSeries) =
      unlines ((shots r).flatMap fun (heading, snap) => shotLines heading snap ++ [[]]) := by
  rw [unlines_append, unlines_append, basePieces_eq, seriesPieces_eq, seriesPieces_eq, shots,
    List.flatMap_append, List.flatMap_append, unlines_append, unlines_append]

theorem outcomePieces_eq (title : Text) (r : Outcome) :
    unlines (outcomePieces title r) = unlines (outcomeLines title r ++ [[]]) := by
  rw [outcomePieces, outcomeLines, unlines_cons, newline_eq]
  cases said r.skip with
  | some skip =>
      dsimp only
      simp only [unlines_cons, List.cons_append, List.append_assoc, List.nil_append]
      rfl
  | none =>
      dsimp only
      have items : ((said r.inject).toList.map fun inject =>
            "- **Injection method**: ".toList ++ inject.text) ++
          ((said r.note).toList.map fun note => "- **Observation goal**: ".toList ++ note.text) ++
          (r.autoRecover.toList.map fun recovers =>
            "- **Auto-recovers**: ".toList ++ recoveryText recovers) =
          (outcomeItems r).map (itemMark ++ ·) := by
        rw [outcomeItems, List.map_append, List.map_append, List.map_map, List.map_map,
          List.map_map]
        rfl
      have shifted := cons_flatMap_concat [] (fun (heading, snap) => shotLines heading snap)
        (shots r)
      have grouped : ∀ front base series series' : List Text,
          front ++ [[]] ++ base ++ series ++ series' =
            front ++ [] :: (base ++ series ++ series') := by
        simp
      rw [items, grouped, unlines_append, unlines_cons, shots_eq, ← unlines_cons, shifted]
      simp only [unlines_append, unlines_cons, List.cons_append, List.append_assoc,
        List.nil_append]
      rfl

theorem scenarioPieces_eq (results : Dict Text Outcome) :
    unlines (scenarios.flatMap (scenarioPieces results)) =
      unlines ((reported results).flatMap fun (title, r) => outcomeLines title r ++ [[]]) := by
  rw [reported, unlines_flatMap, unlines_flatMap]
  induction scenarios with
  | nil => rfl
  | cons scenario rest inductionHypothesis =>
      rw [List.flatMap_cons, inductionHypothesis, List.filterMap_cons, scenarioPieces]
      cases results.lookup scenario.1 with
      | none => rfl
      | some r => exact congrArg (· ++ _) (outcomePieces_eq scenario.2 r)

theorem headPieces_eq (now host : Line) :
    unlines [titlePiece host, scopePiece now] = unlines ((titleMark ++ reportTitle host) :: [] ::
      [generatedText now, scopeText].map (quoteMark ++ ·) ++ [[]]) := by
  rw [titlePiece, scopePiece, newline_eq, List.map_cons, List.map_cons, List.map_nil]
  simp only [unlines_cons, List.cons_append, List.append_assoc, List.nil_append]
  rfl

theorem render_eq (now host : Line) (results : Dict Text Outcome) :
    render now host results = unlines (reportLines now host results) := by
  have filled : ∀ others, [titlePiece host, scopePiece now] ++ others ≠ [] := by simp
  have shifted := cons_flatMap_concat [] (fun (title, r) => outcomeLines title r)
    (reported results)
  have grouped : ∀ front others : List Text, unlines (front ++ [[]]) ++ unlines others =
      unlines front ++ unlines ([] :: others) := by
    intro front others
    rw [← unlines_append, ← unlines_append, List.append_assoc, List.singleton_append]
  have closed : render now host results ++ ['\n'] =
      unlines (reportLines now host results) ++ ['\n'] := by
    rw [render, ← unlines_eq (filled _), unlines_append, scenarioPieces_eq, headPieces_eq, grouped,
      shifted, ← unlines_append, ← List.append_assoc, unlines_append]
    rfl
  exact List.append_cancel_right closed

/-! ## They are lines -/

theorem plain_append {first second : Text} (plain : Plain first) (plain' : Plain second) :
    Plain (first ++ second) := by
  intro c member
  exact (List.mem_append.mp member).elim (plain c) (plain' c)

theorem plain_splitOn {text : Text} (breaks : ∀ c ∈ text, isLineBreak c = true → c = '\n') :
    ∀ line ∈ splitOn '\n' (rstrip text), Plain line := by
  intro line listed c member
  have own : c ∈ ['\n'].intercalate (splitOn '\n' (rstrip text)) :=
    mem_intercalate_of_mem listed member
  have joined : ['\n'].intercalate (splitOn '\n' (rstrip text)) = rstrip text :=
    List.intercalate_splitOn '\n'
  rw [joined, rstrip, List.mem_reverse] at own
  have inside : c ∈ text := List.mem_reverse.mp ((List.dropWhile_sublist _).subset own)
  refine Bool.eq_false_iff.mpr fun broken => ?_
  rw [breaks c inside broken] at member
  exact notMem_of_mem_splitOn listed member

theorem plain_integer (value : Int) : Plain (integer value) := by
  have digits : ∀ number, Plain (decimal number) := fun number c member =>
    isLineBreak_of_notSpace (isSpace_of_isDigit (isDigit_of_mem_decimal member))
  cases value with
  | ofNat number => exact digits number
  | negSucc number =>
      intro c member
      rcases List.mem_cons.mp member with rfl | later
      · decide
      · exact digits _ c later

theorem plain_statusLine (snap : Snapshot) : Plain (statusLine snap) := by
  have alive : Plain (if snap.syncAlive then "yes".toList else "no".toList) := by
    split <;> decide
  have age : Plain (cacheAgeText snap.cacheAge) := by
    cases snap.cacheAge with
    | none => decide
    | some age => exact plain_integer age
  have blank : Plain ((snap.psuBlank.map Line.text).getD "none".toList) := by
    cases snap.psuBlank with
    | none => decide
    | some line => exact line.plain
  have one := plain_append (by decide : Plain "daemons: ".toList) snap.daemons.plain
  have two := plain_append one (by decide : Plain " | sync daemon alive: ".toList)
  have three := plain_append (plain_append two alive) (by decide : Plain " | cache age: ".toList)
  have four := plain_append (plain_append three age)
    (by decide : Plain "s | PSU detail blank: ".toList)
  exact plain_append four blank

theorem plain_terminalLines (snap : Snapshot) : ∀ line ∈ terminalLines snap, Plain line := by
  rw [terminalLines]
  simp only [List.forall_mem_cons, List.forall_mem_append, List.cons_append]
  exact ⟨by decide, ⟨plain_splitOn snap.psustatus.breaks, by decide, by decide,
    plain_splitOn snap.fan.breaks⟩, by decide, by decide, plain_splitOn snap.temperature.breaks⟩

theorem plain_shotLines {heading : Text} (plain : Plain heading) (snap : Snapshot) :
    ∀ line ∈ shotLines heading snap, Plain line := by
  have mark : Plain fenceMark := by decide
  have empty : Plain [] := by decide
  have item : Plain (itemMark ++ statusLine snap) :=
    plain_append (by decide) (plain_statusLine snap)
  rw [shotLines]
  simp only [List.cons_append, List.forall_mem_cons, List.forall_mem_append]
  exact ⟨plain_append (by decide) plain, empty, item, empty, mark, plain_terminalLines snap, mark,
    fun _ member => absurd member List.not_mem_nil⟩

theorem plain_shotHeading {phase : Text} (plain : Plain phase) (label : Line) (snap : Snapshot) :
    Plain (shotHeading phase label snap) := by
  have blank : Plain (' ' :: label.text) :=
    plain_append (by decide : Plain [' ']) label.plain
  have opening := plain_append (plain_append plain blank) (by decide : Plain " (".toList)
  exact plain_append (plain_append opening snap.clock.plain) (by decide : Plain ")".toList)

theorem plain_shots (r : Outcome) : ∀ shot ∈ shots r, Plain shot.1 := by
  rw [shots]
  simp only [List.forall_mem_append, List.forall_mem_map]
  refine ⟨⟨fun _ _ => (by decide : Plain baseHeading), fun (label, snap) _ => ?_⟩,
    fun (label, snap) _ => ?_⟩
  · exact plain_shotHeading (by decide) label snap
  · exact plain_shotHeading (by decide) label snap

theorem plain_recoveryText (recovers : Bool) : Plain (recoveryText recovers) := by
  cases recovers <;> decide +kernel

theorem plain_outcomeItems (r : Outcome) : ∀ item ∈ outcomeItems r, Plain item := by
  rw [outcomeItems]
  simp only [List.forall_mem_append, List.forall_mem_map]
  exact ⟨⟨fun inject _ => plain_append (by decide) inject.plain,
    fun note _ => plain_append (by decide) note.plain⟩,
    fun recovers _ => plain_append (by decide) (plain_recoveryText recovers)⟩

theorem plain_outcomeLines {title : Text} (plain : Plain title) (r : Outcome) :
    ∀ line ∈ outcomeLines title r, Plain line := by
  have empty : Plain [] := by decide
  rw [outcomeLines, List.forall_mem_cons, List.forall_mem_cons]
  refine ⟨plain_append (by decide) plain, empty, ?_⟩
  cases said r.skip with
  | some skip =>
      have skipped := plain_append (by decide : Plain "**Result**: skipped -- ".toList) skip.plain
      exact List.forall_mem_singleton.mpr (plain_append (by decide) skipped)
  | none =>
      dsimp only
      rw [List.forall_mem_append, List.forall_mem_map]
      refine ⟨fun item listed => plain_append (by decide) (plain_outcomeItems r item listed), ?_⟩
      intro line member
      obtain ⟨⟨heading, snap⟩, listed, inside⟩ := List.mem_flatMap.mp member
      rcases List.mem_cons.mp inside with rfl | inside
      · exact empty
      · exact plain_shotLines (plain_shots r _ listed) snap line inside

theorem plain_reportLines (now host : Line) (results : Dict Text Outcome) :
    ∀ line ∈ reportLines now host results, Plain line := by
  have empty : Plain [] := by decide
  have title : Plain (reportTitle host) :=
    plain_append (plain_append (by decide) host.plain) (by decide)
  have generated : Plain (generatedText now) :=
    plain_append (plain_append (by decide) now.plain) (by decide +kernel)
  have scope : Plain scopeText := by decide +kernel
  have titles : ∀ scenario ∈ scenarios, Plain scenario.2 := by decide +kernel
  rw [reportLines]
  simp only [List.cons_append, List.forall_mem_cons, List.map_cons, List.map_nil,
    List.nil_append]
  refine ⟨plain_append (by decide) title, empty, plain_append (by decide) generated,
    plain_append (by decide) scope, ?_⟩
  intro line member
  obtain ⟨⟨own, r⟩, listed, inside⟩ := List.mem_flatMap.mp member
  rcases List.mem_cons.mp inside with rfl | inside
  · exact empty
  · obtain ⟨scenario, known, found⟩ := List.mem_filterMap.mp listed
    obtain ⟨outcome, _, same⟩ := Option.map_eq_some_iff.mp found
    cases same
    exact plain_outcomeLines (titles scenario known) r line inside

/-! ## Their blocks -/

theorem unfenced_terminalLines (snap : Snapshot) :
    ∀ line ∈ terminalLines snap, ¬ isFence line := by
  have empty : ¬ isFence [] := by decide
  have prompt : ∀ line : Text, line.head? = some '$' → ¬ isFence line := by
    intro line first
    obtain ⟨rest, rfl⟩ : ∃ rest, line = '$' :: rest := by
      cases line with
      | nil => cases first
      | cons c rest =>
          cases first
          exact ⟨rest, rfl⟩
    exact not_isFence (by decide) (by decide) rest
  rw [terminalLines]
  simp only [List.forall_mem_cons, List.forall_mem_append, List.cons_append]
  exact ⟨prompt _ rfl, ⟨snap.psustatus.unfenced, empty, prompt _ rfl, snap.fan.unfenced⟩, empty,
    prompt _ rfl, snap.temperature.unfenced⟩

variable {rest : List Text} {blocks : List Block}

theorem Outline.empty (later : Outline rest blocks) : Outline ([] :: rest) blocks :=
  .blank rfl later

theorem outline_shot (heading : Text) (snap : Snapshot) (later : Outline rest blocks) :
    Outline (shotLines heading snap ++ rest) (shotBlocks heading snap ++ blocks) := by
  have fenced : isFence fenceMark := by decide
  have terminal : Outline (fenceMark :: terminalLines snap ++ fenceMark :: rest)
      (.terminal (terminalLines snap) :: blocks) :=
    .terminal fenced (unfenced_terminalLines snap) fenced later
  have shot := Outline.subheading heading (.empty (.item (statusLine snap) terminal.empty))
  rw [shotLines]
  simp only [List.cons_append, List.append_assoc, List.nil_append] at shot ⊢
  exact shot

theorem outline_shots (shots : List (Text × Snapshot)) (later : Outline rest blocks) :
    Outline (shots.flatMap (fun (heading, snap) => [] :: shotLines heading snap) ++ rest)
      (shots.flatMap (fun (heading, snap) => shotBlocks heading snap) ++ blocks) := by
  induction shots with
  | nil => exact later
  | cons shot others inductionHypothesis =>
      rw [List.flatMap_cons, List.flatMap_cons, List.append_assoc, List.append_assoc]
      exact .empty (outline_shot shot.1 shot.2 inductionHypothesis)

theorem outline_items (items : List Text) (later : Outline rest blocks) :
    Outline (items.map (itemMark ++ ·) ++ rest) (items.map .item ++ blocks) := by
  induction items with
  | nil => exact later
  | cons item others inductionHypothesis => exact .item item inductionHypothesis

theorem outline_outcome (title : Text) (r : Outcome) (later : Outline rest blocks) :
    Outline (outcomeLines title r ++ rest) (outcomeBlocks title r ++ blocks) := by
  rw [outcomeLines, outcomeBlocks]
  cases said r.skip with
  | some skip => exact .heading title (.empty (.item _ later))
  | none =>
      have inside := outline_items (outcomeItems r) (outline_shots (shots r) later)
      rw [← List.append_assoc, ← List.append_assoc] at inside
      exact .heading title (.empty inside)

theorem outline_outcomes (outcomes : List (Text × Outcome)) :
    Outline (outcomes.flatMap fun (title, r) => [] :: outcomeLines title r)
      (outcomes.flatMap fun (title, r) => outcomeBlocks title r) := by
  induction outcomes with
  | nil => exact .nil
  | cons outcome others inductionHypothesis =>
      rw [List.flatMap_cons, List.flatMap_cons]
      exact .empty (outline_outcome outcome.1 outcome.2 inductionHypothesis)

theorem outline_report (now host : Line) (results : Dict Text Outcome) :
    Outline (splitlines (render now host results)) (reportBlocks now host results) := by
  have lines : splitlines (render now host results) = reportLines now host results := by
    have split := splitlines_unlines (plain_reportLines now host results)
      (fun c member => absurd member List.not_mem_nil : Plain [])
    rw [List.append_nil, if_pos rfl, List.append_nil] at split
    rw [render_eq, split]
  have ends : ∀ line ∈ ((reported results).flatMap fun (title, r) =>
      [] :: outcomeLines title r).head?, ¬ isQuote line := by
    generalize reported results = outcomes
    intro line first
    cases outcomes with
    | nil => cases first
    | cons outcome others =>
        cases first
        decide
  rw [lines, reportLines, reportBlocks]
  exact .title (reportTitle host) (.empty (.quote (generatedText now) [scopeText] ends
    (outline_outcomes (reported results))))

/-- The page of a report shows the results it was rendered from: after the title and the method, a
section for each scenario with a result, in order, with what was injected, whether the device
recovered, and for every snapshot its status and one terminal with the lines that were shown. -/
theorem report_page (style : Style) (now host : Line) (results : Dict Text Outcome) :
    read (convert style.text (render now host results)) =
      some (page style.text (reportBlocks now host results)) := by
  rw [convert_eq style (outline_report now host results)]
  exact read_write (closed_page style.text (reportBlocks now host results))

end OnboxFvt.Report
