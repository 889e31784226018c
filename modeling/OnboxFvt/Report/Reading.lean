import OnboxFvt.Library.Dict
import OnboxFvt.Report.Outline

/-!
# Reading the page

What the conversion writes are the tokens of the blocks, so that a reader of the page finds the
blocks of the report.
-/

namespace OnboxFvt.Report

open Library.Markup Python

/-! ## Texts -/

theorem replaceChar_append (c : Char) (replacement first second : Text) :
    replaceChar c replacement (first ++ second) =
      replaceChar c replacement first ++ replaceChar c replacement second :=
  List.flatMap_append

theorem esc_append (first second : Text) : esc (first ++ second) = esc first ++ esc second := by
  simp only [esc, replaceChar_append]

theorem esc_singleton (c : Char) : esc [c] = written c := by
  by_cases ampersand : c = '&'
  · subst ampersand
    decide
  by_cases less : c = '<'
  · subst less
    decide
  by_cases greater : c = '>'
  · subst greater
    decide
  simp [esc, replaceChar, written, references, List.lookup_cons, ampersand, less, greater,
    beq_eq_false_iff_ne.mpr ampersand, beq_eq_false_iff_ne.mpr less,
    beq_eq_false_iff_ne.mpr greater]

theorem esc_eq (text : Text) : esc text = write (chars text) := by
  induction text with
  | nil => rfl
  | cons c rest inductionHypothesis =>
      rw [← List.singleton_append, esc_append, esc_singleton, inductionHypothesis,
        List.singleton_append]
      rfl

def controls : List Char :=
  ['\x00', '\x01', '\x02', '\x03']

/-- Putting the tags in for the control characters. -/
def putTags (s : Text) : Text :=
  replaceChar '\x03' "</code>".toList (replaceChar '\x02' "<code>".toList
    (replaceChar '\x01' "</b>".toList (replaceChar '\x00' "<b>".toList s)))

theorem putTags_append (first second : Text) :
    putTags (first ++ second) = putTags first ++ putTags second := by
  simp only [putTags, replaceChar_append]

theorem replaceChar_of_notMem {c : Char} {text : Text} (absent : c ∉ text) (replacement : Text) :
    replaceChar c replacement text = text := by
  induction text with
  | nil => rfl
  | cons d rest inductionHypothesis =>
      obtain ⟨different, later⟩ := not_or.mp (mt List.mem_cons.mpr absent)
      have here : replaceChar c replacement (d :: rest) = d :: replaceChar c replacement rest := by
        simp [replaceChar, Ne.symm different]
      rw [here, inductionHypothesis later]

/-- A reference has no control character. -/
theorem mem_written {c d : Char} (member : d ∈ written c) : d = c ∨ d ∉ controls := by
  rw [written] at member
  split at member
  next name found =>
    have visible : references.all (fun entry => ('&' :: entry.2 ++ [';']).all fun e =>
        !controls.contains e) = true := by
      decide
    have own := List.all_eq_true.mp visible _ (Library.Dict.mem_of_lookup found)
    have other := List.all_eq_true.mp own d member
    exact Or.inr (by simpa using other)
  next => exact Or.inl (List.mem_singleton.mp member)

theorem putTags_of_visible {text : Text} (visible : ∀ c ∈ text, c ∉ controls) :
    putTags text = text := by
  have absent : ∀ c ∈ controls, c ∉ text := fun c control member => visible c member control
  rw [putTags, replaceChar_of_notMem (absent '\x00' (by decide)),
    replaceChar_of_notMem (absent '\x01' (by decide)),
    replaceChar_of_notMem (absent '\x02' (by decide)),
    replaceChar_of_notMem (absent '\x03' (by decide))]

theorem putTags_esc_singleton (c : Char) : putTags (esc [c]) = (markToken c).text := by
  by_cases control : c ∈ controls
  · simp only [controls, List.mem_cons, List.not_mem_nil, or_false] at control
    rcases control with rfl | rfl | rfl | rfl <;> decide
  · have apart := control
    simp only [controls, List.mem_cons, List.not_mem_nil, or_false, not_or] at apart
    obtain ⟨bold, boldEnd, code, codeEnd⟩ := apart
    rw [markToken, if_neg bold, if_neg boldEnd, if_neg code, if_neg codeEnd, esc_singleton]
    refine putTags_of_visible fun d member => ?_
    rcases mem_written member with rfl | visible
    · exact control
    · exact visible

theorem escInline_eq (text : Text) : escInline text = write (phrase text) := by
  have tags : ∀ s : Text, putTags (esc s) = write (s.map markToken) := by
    intro s
    induction s with
    | nil => rfl
    | cons c rest inductionHypothesis =>
        rw [← List.singleton_append, esc_append, putTags_append, putTags_esc_singleton,
          inductionHypothesis, List.singleton_append, List.map_cons, write_cons]
  exact tags (marked text)

theorem joinLines_write (segments : List (List Token)) :
    joinLines (segments.map write) = write ([Token.char '\n'].intercalate segments) := by
  induction segments with
  | nil => rfl
  | cons segment rest inductionHypothesis =>
      cases rest with
      | nil => simp [joinLines]
      | cons next rest =>
          have line : write [Token.char '\n'] = ['\n'] := by decide
          rw [List.intercalate_cons_cons, write_append, write_append, line,
            ← inductionHypothesis, joinLines, joinLines, List.map_cons, List.map_cons,
            List.intercalate_cons_cons]

/-- An element with something in it. -/
theorem write_element {opening closing : Text} {start stop : Token} (first : opening = start.text)
    (last : closing = stop.text) (inner : List Token) :
    opening ++ write inner ++ closing = write (start :: inner ++ [stop]) := by
  rw [List.cons_append, write_cons, write_append, write_singleton, ← List.append_assoc, first,
    last]

theorem termLine_eq (line : Text) : termLine line = write (termTokens line) := by
  rw [termLine, termTokens, esc_eq]
  split
  · exact write_element (by decide) (by decide) (chars line)
  · rfl

theorem verdictTag_eq (text : Text) :
    verdictTag text = write ((verdict? text).elim [] Verdict.tokens) := by
  rw [verdictTag]
  cases verdict? text with
  | none => rfl
  | some verdict => cases verdict <;> decide

theorem itemSegment_eq (secN : Nat) (item : Text) :
    itemSegment item = write ((Block.item item).tokens secN) := by
  have verdict : (if contains "Auto-recover".toList item || contains "Result".toList item then
      verdictTag item else []) = write ((itemVerdict? item).elim [] Verdict.tokens) := by
    rw [itemVerdict?, verdictTag_eq]
    split <;> rfl
  have opening : "<p".toList ++ (if startsWith "daemons".toList (bold item) then
      " class=\"status\"".toList else []) ++ ">".toList = (itemTag (bold item)).text := by
    rw [itemTag]
    split <;> decide
  have inner : ∀ tokens : List Token, write (phrase (bold item)) ++ " ".toList ++ write tokens =
      write (phrase (bold item) ++ .char ' ' :: tokens) := by
    intro tokens
    rw [write_append, write_cons, List.append_assoc]
    rfl
  have closing : "</p>".toList = (tag "/p").text := by decide
  have element := write_element opening closing
    (phrase (bold item) ++ .char ' ' :: (itemVerdict? item).elim [] Verdict.tokens)
  rw [← inner, ← verdict, ← escInline_eq, ← List.append_assoc, ← List.append_assoc] at element
  exact element

/-! ## The loop -/

/-- What a block adds. -/
structure Emits (state : State) (block : Block) (next : State) : Prop where
  body : next.body =
    state.body ++ [write (block.tokens (block.sectionBehind state.secN))]
  toc : next.toc.flatten =
    state.toc.flatten ++ write (block.entry (block.sectionBehind state.secN))
  secN : next.secN = block.sectionBehind state.secN
  inText : next.inCode = false ∧ next.code = []

/-- What the blocks of a report add. -/
structure Written (state : State) (blocks : List Block) (last : State) : Prop where
  body : last.body = state.body ++
    (numbered state.secN blocks).map fun (secN, block) => write (block.tokens secN)
  toc : last.toc.flatten = state.toc.flatten ++
    write ((numbered state.secN blocks).flatMap fun (secN, block) => block.entry secN)

theorem Written.none (state : State) : Written state [] state :=
  ⟨(List.append_nil _).symm, (List.append_nil _).symm⟩

theorem Written.cons {state next last : State} {block : Block} {blocks : List Block}
    (emits : Emits state block next) (written : Written next blocks last) :
    Written state (block :: blocks) last := by
  refine ⟨?_, ?_⟩
  · rw [written.body, emits.body, emits.secN, List.append_assoc]
    rfl
  · rw [written.toc, emits.toc, emits.secN, List.append_assoc, ← write_append]
    rfl

theorem Emits.add {state : State} (inText : state.inCode = false ∧ state.code = [])
    {block : Block} {segment : Text} (segment_eq : segment = write (block.tokens state.secN))
    (same : block.sectionBehind state.secN = state.secN)
    (unlisted : block.entry state.secN = []) : Emits state block (state.add segment) := by
  refine ⟨?_, ?_, same.symm, inText⟩
  · rw [same, ← segment_eq]
    rfl
  · rw [same, unlisted]
    exact (List.append_nil _).symm

theorem not_isFence {c : Char} (solid : isSpace c = false) (other : c ≠ '`') (rest : Text) :
    ¬ isFence (c :: rest) = true := by
  intro fence
  obtain ⟨after, stripped⟩ := startsWith_iff.mp fence
  obtain ⟨front, back, whole, blank, -⟩ := strip_split (c :: rest)
  rw [← stripped] at whole
  cases front with
  | nil => exact other (List.cons.inj whole).1
  | cons d front =>
      have first := blank d (List.mem_cons_self ..)
      rw [← (List.cons.inj whole).1, solid] at first
      exact Bool.false_ne_true first

theorem unmarked_of_blank {line : Text} (empty : strip line = []) :
    ¬ isFence line ∧ ∀ mark ∈ marks, ¬ startsWith mark line := by
  refine ⟨?_, fun mark member starts => ?_⟩
  · rw [isFence, empty]
    exact Bool.false_ne_true
  · obtain ⟨after, rfl⟩ := startsWith_iff.mp starts
    have visible : marks.all (fun mark => mark.any fun c => !isSpace c) = true := by decide
    obtain ⟨c, inside, solid⟩ := List.any_eq_true.mp (List.all_eq_true.mp visible mark member)
    have blank := strip_eq_nil.mp empty c (List.mem_append_left after inside)
    rw [blank] at solid
    exact Bool.false_ne_true solid

theorem convertFrom_skip (state : State) (lines rest : List Text) :
    convertFrom lines.length state (lines ++ rest) = convertFrom 0 state rest := by
  induction lines with
  | nil => rfl
  | cons line lines inductionHypothesis => exact inductionHypothesis

theorem convertFrom_inCode {state : State} (inCode : state.inCode = true) {line : Text}
    (unfenced : ¬ isFence line) (rest : List Text) :
    convertFrom 0 state (line :: rest) =
      convertFrom 0 { state with code := state.code ++ [line] } rest := by
  rw [convertFrom, if_neg unfenced, if_pos inCode]

theorem convertFrom_opens {state : State} (inText : state.inCode = false) {line : Text}
    (fence : isFence line) (rest : List Text) :
    convertFrom 0 state (line :: rest) = convertFrom 0 { state with inCode := true } rest := by
  rw [convertFrom, if_pos fence, if_neg (by rw [inText]; exact Bool.false_ne_true)]

theorem convertFrom_closes {state : State} (inCode : state.inCode = true) {line : Text}
    (fence : isFence line) (rest : List Text) :
    convertFrom 0 state (line :: rest) =
      convertFrom 0 { state.add (term state.code) with code := [], inCode := false } rest := by
  rw [convertFrom, if_pos fence, if_pos inCode]

/-- Inside a code block the lines are kept for later. -/
theorem convertFrom_code {state : State} (inCode : state.inCode = true) {lines : List Text}
    (inside : ∀ line ∈ lines, ¬ isFence line) (rest : List Text) :
    convertFrom 0 state (lines ++ rest) =
      convertFrom 0 { state with code := state.code ++ lines } rest := by
  induction lines generalizing state with
  | nil => rw [List.append_nil, List.nil_append]
  | cons line lines inductionHypothesis =>
      rw [List.forall_mem_cons] at inside
      have later := @inductionHypothesis { state with code := state.code ++ [line] } inCode inside.2
      rw [List.append_assoc] at later
      rw [List.cons_append, convertFrom_inCode inCode inside.1, later]
      rfl

theorem term_eq (secN : Nat) (lines : List Text) :
    term lines = write ((Block.terminal lines).tokens secN) := by
  have segments : lines.map termLine = (lines.map termTokens).map write := by
    rw [List.map_map]
    exact List.map_congr_left fun line _ => termLine_eq line
  have inner : joinLines (lines.map termLine) =
      write ([Token.char '\n'].intercalate (lines.map termTokens)) := by
    rw [segments, joinLines_write]
  have opening : "<pre class=\"term\">".toList = (tag "pre class=\"term\"").text := by decide
  have closing : "</pre>".toList = (tag "/pre").text := by decide
  have element := write_element opening closing
    ([Token.char '\n'].intercalate (lines.map termTokens))
  rw [← inner] at element
  exact element

theorem Emits.addSection {state : State} (inText : state.inCode = false ∧ state.code = [])
    (text : Text) : Emits state (.heading text) (state.addSection text) := by
  have numbered_ : ∀ front : Text, ∀ secN, '<' :: front ++ State.anchor secN ++ "\">".toList =
      (Token.tag (front ++ State.anchor secN ++ "\"".toList)).text := by
    intro front secN
    simp [Token.text]
  have closing : "</h2>".toList = (tag "/h2").text := by decide
  have link : "<li><a href=\"#".toList = (tag "li").text ++ '<' :: "a href=\"#".toList := by decide
  have ends : "</a></li>".toList = write [tag "/a", tag "/li"] := by decide
  refine ⟨?_, ?_, rfl, inText⟩
  · have element := write_element (numbered_ "h2 id=\"".toList (state.secN + 1)) closing
      (chars text)
    rw [← esc_eq] at element
    exact congrArg (fun segment => state.body ++ [segment]) element
  · have entry : "<li><a href=\"#".toList ++ State.anchor (state.secN + 1) ++ "\">".toList ++
        esc text ++ "</a></li>".toList = write ((Block.heading text).entry (state.secN + 1)) := by
      rw [link, List.append_assoc (tag "li").text, List.append_assoc (tag "li").text, numbered_,
        esc_eq, ends, Block.entry, write_append, write_append, write_cons (tag "li"),
        write_singleton]
    rw [State.addSection, List.flatten_append, List.flatten_singleton, entry]
    rfl

/-! ### The lines of a text -/

section Lines

variable {state : State} (inText : state.inCode = false ∧ state.code = []) (text : Text)
  (rest : List Text)

include inText

theorem convertFrom_title : convertFrom 0 state ((titleMark ++ text) :: rest) =
    convertFrom 0 (state.add ("<h1>".toList ++ esc text ++ "</h1>".toList)) rest := by
  have unfenced : ¬ isFence (titleMark ++ text) = true := not_isFence (by decide) (by decide) _
  have title : startsWith "# ".toList (titleMark ++ text) = true := rfl
  rw [convertFrom, if_neg unfenced, if_neg (by simp [inText.1]), if_pos title]
  rfl

theorem convertFrom_heading : convertFrom 0 state ((headingMark ++ text) :: rest) =
    convertFrom 0 (state.addSection text) rest := by
  have unfenced : ¬ isFence (headingMark ++ text) = true := not_isFence (by decide) (by decide) _
  have title : ¬ startsWith "# ".toList (headingMark ++ text) = true := Bool.false_ne_true
  have quote : ¬ isQuote (headingMark ++ text) = true := Bool.false_ne_true
  have heading : startsWith "## ".toList (headingMark ++ text) = true := rfl
  rw [convertFrom, if_neg unfenced, if_neg (by simp [inText.1]), if_neg title, if_neg quote,
    if_pos heading]
  rfl

theorem convertFrom_subheading : convertFrom 0 state ((subheadingMark ++ text) :: rest) =
    convertFrom 0 (state.add ("<h3>".toList ++ esc text ++ "</h3>".toList)) rest := by
  have unfenced : ¬ isFence (subheadingMark ++ text) = true :=
    not_isFence (by decide) (by decide) _
  have title : ¬ startsWith "# ".toList (subheadingMark ++ text) = true := Bool.false_ne_true
  have quote : ¬ isQuote (subheadingMark ++ text) = true := Bool.false_ne_true
  have heading : ¬ startsWith "## ".toList (subheadingMark ++ text) = true := Bool.false_ne_true
  have subheading : startsWith "### ".toList (subheadingMark ++ text) = true := rfl
  rw [convertFrom, if_neg unfenced, if_neg (by simp [inText.1]), if_neg title, if_neg quote,
    if_neg heading, if_pos subheading]
  rfl

theorem convertFrom_item : convertFrom 0 state ((itemMark ++ text) :: rest) =
    convertFrom 0 (state.add (itemSegment text)) rest := by
  have unfenced : ¬ isFence (itemMark ++ text) = true := not_isFence (by decide) (by decide) _
  have title : ¬ startsWith "# ".toList (itemMark ++ text) = true := Bool.false_ne_true
  have quote : ¬ isQuote (itemMark ++ text) = true := Bool.false_ne_true
  have heading : ¬ startsWith "## ".toList (itemMark ++ text) = true := Bool.false_ne_true
  have subheading : ¬ startsWith "### ".toList (itemMark ++ text) = true := Bool.false_ne_true
  have item : startsWith "- ".toList (itemMark ++ text) = true := rfl
  rw [convertFrom, if_neg unfenced, if_neg (by simp [inText.1]), if_neg title, if_neg quote,
    if_neg heading, if_neg subheading, if_pos item]
  rfl

theorem convertFrom_quote (lines : List Text) (ends : ∀ line ∈ rest.head?, ¬ isQuote line) :
    convertFrom 0 state ((text :: lines).map (quoteMark ++ ·) ++ rest) =
      convertFrom 0 (state.add ("<p class=\"subtitle\">".toList ++
        esc (joinSpace (text :: lines)) ++ "</p>".toList)) rest := by
  have unfenced : ¬ isFence (quoteMark ++ text) = true := not_isFence (by decide) (by decide) _
  have title : ¬ startsWith "# ".toList (quoteMark ++ text) = true := Bool.false_ne_true
  have quote : isQuote (quoteMark ++ text) = true := rfl
  have quotes : ∀ line ∈ lines.map (quoteMark ++ ·), isQuote line = true := by
    intro line member
    obtain ⟨part, -, rfl⟩ := List.mem_map.mp member
    rfl
  have taken : (lines.map (quoteMark ++ ·) ++ rest).takeWhile isQuote =
      lines.map (quoteMark ++ ·) := by
    rw [List.takeWhile_append_of_pos quotes]
    cases rest with
    | nil => exact List.append_nil _
    | cons line rest => rw [List.takeWhile_cons_of_neg (ends line rfl), List.append_nil]
  have texts : ∀ parts : List Text, (parts.map (quoteMark ++ ·)).map (List.drop 2) = parts := by
    intro parts
    rw [List.map_map]
    exact List.map_id parts
  rw [List.map_cons, List.cons_append, convertFrom, if_neg unfenced, if_neg (by simp [inText.1]),
    if_neg title, if_pos quote, taken]
  have skipped := convertFrom_skip (state.add ("<p class=\"subtitle\">".toList ++
    esc (joinSpace (((text :: lines).map (quoteMark ++ ·)).map (List.drop 2))) ++ "</p>".toList))
    (lines.map (quoteMark ++ ·)) rest
  refine skipped.trans ?_
  rw [texts]

theorem convertFrom_unmarked {line : Text} (unfenced : ¬ isFence line)
    (unmarked : ∀ mark ∈ marks, ¬ startsWith mark line) :
    convertFrom 0 state (line :: rest) =
      if (strip line).isEmpty then convertFrom 0 state rest
      else convertFrom 0 (state.add ("<p>".toList ++ escInline line ++ "</p>".toList)) rest := by
  have title : ¬ startsWith "# ".toList line = true := unmarked titleMark (by simp [marks])
  have quote : ¬ isQuote line = true := unmarked quoteMark (by simp [marks])
  have heading : ¬ startsWith "## ".toList line = true := unmarked headingMark (by simp [marks])
  have subheading : ¬ startsWith "### ".toList line = true :=
    unmarked subheadingMark (by simp [marks])
  have item : ¬ startsWith "- ".toList line = true := unmarked itemMark (by simp [marks])
  rw [convertFrom, if_neg unfenced, if_neg (by simp [inText.1]), if_neg title, if_neg quote,
    if_neg heading, if_neg subheading, if_neg item]

end Lines

/-- The loop goes through a report block by block. -/
theorem convertFrom_outline {lines : List Text} {blocks : List Block}
    (outline : Outline lines blocks) {state : State}
    (inText : state.inCode = false ∧ state.code = []) :
    Written state blocks (convertFrom 0 state lines) := by
  induction outline generalizing state with
  | nil => exact Written.none state
  | @terminal opening closing lines rest blocks opens inside closes later inductionHypothesis =>
      rw [List.cons_append, convertFrom_opens inText.1 opens, convertFrom_code rfl inside,
        convertFrom_closes rfl closes]
      refine Written.cons ?_ (inductionHypothesis ⟨rfl, rfl⟩)
      dsimp only
      rw [inText.2, List.nil_append]
      exact ⟨congrArg (fun segment => state.body ++ [segment]) (term_eq state.secN lines),
        (List.append_nil _).symm, rfl, rfl, rfl⟩
  | @unfinished opening lines opens inside =>
      have inside_ := @convertFrom_code { state with inCode := true } rfl lines inside []
      rw [List.append_nil] at inside_
      rw [convertFrom_opens inText.1 opens, inside_]
      exact ⟨(List.append_nil _).symm, (List.append_nil _).symm⟩
  | title text later inductionHypothesis =>
      rw [convertFrom_title inText]
      refine Written.cons (Emits.add inText ?_ rfl rfl) (inductionHypothesis inText)
      rw [esc_eq]
      exact write_element (by decide) (by decide) _
  | quote text lines ends later inductionHypothesis =>
      rw [convertFrom_quote inText _ _ _ ends]
      refine Written.cons (Emits.add inText ?_ rfl rfl) (inductionHypothesis inText)
      rw [esc_eq]
      exact write_element (by decide) (by decide) _
  | heading text later inductionHypothesis =>
      rw [convertFrom_heading inText]
      exact Written.cons (Emits.addSection inText text) (inductionHypothesis inText)
  | subheading text later inductionHypothesis =>
      rw [convertFrom_subheading inText]
      refine Written.cons (Emits.add inText ?_ rfl rfl) (inductionHypothesis inText)
      rw [esc_eq]
      exact write_element (by decide) (by decide) _
  | item text later inductionHypothesis =>
      rw [convertFrom_item inText]
      exact Written.cons (Emits.add inText (itemSegment_eq _ text) rfl rfl)
        (inductionHypothesis inText)
  | blank empty later inductionHypothesis =>
      obtain ⟨unfenced, unmarked⟩ := unmarked_of_blank empty
      rw [convertFrom_unmarked inText _ unfenced unmarked, if_pos (List.isEmpty_iff.mpr empty)]
      exact inductionHypothesis inText
  | paragraph filled unfenced unmarked later inductionHypothesis =>
      rw [convertFrom_unmarked inText _ unfenced unmarked,
        if_neg fun empty => filled (List.isEmpty_iff.mp empty)]
      refine Written.cons (Emits.add inText ?_ rfl rfl) (inductionHypothesis inText)
      rw [escInline_eq]
      exact write_element (by decide) (by decide) _

/-! ## Every report has an outline -/

theorem exists_outline (lines : List Text) : ∃ blocks, Outline lines blocks := by
  induction count : lines.length using Nat.strong_induction_on generalizing lines with
  | _ length inductionHypothesis =>
    cases lines with
    | nil => exact ⟨[], .nil⟩
    | cons line rest =>
      have behind : ∀ part : List Text, part.length ≤ rest.length → ∃ blocks, Outline part blocks :=
        fun part shorter => inductionHypothesis part.length
          (by rw [← count, List.length_cons]; omega) part rfl
      by_cases fence : isFence line = true
      · have split := List.takeWhile_append_dropWhile (p := fun line => !isFence line) (l := rest)
        have inside : ∀ line ∈ rest.takeWhile fun line => !isFence line, ¬ isFence line := by
          intro line member
          simpa using List.mem_takeWhile_imp member
        cases remaining : rest.dropWhile fun line => !isFence line with
        | nil =>
            rw [remaining, List.append_nil] at split
            rw [split] at inside
            exact ⟨[], .unfinished fence inside⟩
        | cons closing later =>
            have closes : isFence closing = true := by
              have stop := List.head?_dropWhile_not (fun line => !isFence line) rest
              rw [remaining] at stop
              simpa using stop
            rw [remaining] at split
            obtain ⟨blocks, outline⟩ := behind later (by
              rw [← split, List.length_append, List.length_cons]
              omega)
            rw [← split]
            exact ⟨_, .terminal fence inside closes outline⟩
      · obtain ⟨blocks, outline⟩ := behind rest (Nat.le_refl _)
        by_cases title : startsWith titleMark line = true
        · obtain ⟨text, rfl⟩ := startsWith_iff.mp title
          exact ⟨_, .title text outline⟩
        by_cases heading : startsWith headingMark line = true
        · obtain ⟨text, rfl⟩ := startsWith_iff.mp heading
          exact ⟨_, .heading text outline⟩
        by_cases subheading : startsWith subheadingMark line = true
        · obtain ⟨text, rfl⟩ := startsWith_iff.mp subheading
          exact ⟨_, .subheading text outline⟩
        by_cases item : startsWith itemMark line = true
        · obtain ⟨text, rfl⟩ := startsWith_iff.mp item
          exact ⟨_, .item text outline⟩
        by_cases quote : startsWith quoteMark line = true
        · obtain ⟨text, rfl⟩ := startsWith_iff.mp quote
          have split := List.takeWhile_append_dropWhile (p := isQuote) (l := rest)
          obtain ⟨blocks', outline'⟩ := behind (rest.dropWhile isQuote)
            (List.dropWhile_suffix isQuote).length_le
          obtain ⟨lines, quoted⟩ : ∃ lines : List Text,
              lines.map (quoteMark ++ ·) = rest.takeWhile isQuote := by
            refine ⟨(rest.takeWhile isQuote).map (List.drop 2), ?_⟩
            rw [List.map_map]
            refine List.map_congr_left (fun line member => ?_) |>.trans (List.map_id _)
            obtain ⟨text, rfl⟩ := startsWith_iff.mp (List.mem_takeWhile_imp member)
            rfl
          have ends : ∀ line ∈ (rest.dropWhile isQuote).head?, ¬ isQuote line = true := by
            intro line first
            have stop := List.head?_dropWhile_not isQuote rest
            rw [first] at stop
            simpa using stop
          rw [← split, ← quoted]
          exact ⟨_, .quote text lines ends outline'⟩
        by_cases empty : strip line = []
        · exact ⟨_, .blank empty outline⟩
        · refine ⟨_, .paragraph empty fence ?_ outline⟩
          intro mark member
          simp only [marks, List.mem_cons, List.not_mem_nil, or_false] at member
          rcases member with rfl | rfl | rfl | rfl | rfl
          · exact title
          · exact quote
          · exact heading
          · exact subheading
          · exact item

/-! ## The whole page -/

theorem startsWith_tokens (secN : Nat) (block : Block) :
    startsWith "<h1".toList (write (block.tokens secN)) = block.isTitle := by
  cases block with
  | item text =>
      rw [Block.tokens, List.cons_append, List.cons_append, write_cons, itemTag]
      split <;> rfl
  | _ => rfl

theorem insertContents_write (contents : List Token) (blocks : List (Nat × Block)) :
    insertContents (write contents)
        (blocks.map fun (secN, block) => write (block.tokens secN)) =
      (withContents contents blocks).map write := by
  induction blocks with
  | nil => rfl
  | cons numbered rest inductionHypothesis =>
      obtain ⟨secN, block⟩ := numbered
      rw [List.map_cons, insertContents, startsWith_tokens, withContents]
      split
      · rw [List.map_cons, List.map_cons, List.map_map]
        rfl
      · rw [List.map_cons, inductionHypothesis]

/-- A style sheet; the one of the tool has none of the three characters. -/
structure Style where
  text : Text
  plain : ∀ c ∈ text, references.lookup c = none

theorem head_eq (style : Style) : head style.text = write (headTokens style.text) := by
  have front : "<!doctype html><html lang=\"zh-CN\"><head><meta charset=\"utf-8\">".toList =
      write [tag "!doctype html", tag "html lang=\"zh-CN\"", tag "head",
        tag "meta charset=\"utf-8\""] := by decide
  have meta_ : "<meta name=\"viewport\" content=\"width=device-width,initial-scale=1\">".toList =
      write [tag "meta name=\"viewport\" content=\"width=device-width,initial-scale=1\""] := by
    decide
  have title : "<title>pmon Faulty-Device Field Test Report</title><style>".toList =
      write (tag "title" :: chars "pmon Faulty-Device Field Test Report".toList ++
        [tag "/title", tag "style"]) := by
    decide +kernel
  have back : "</style></head><body>".toList = write [tag "/style", tag "/head", tag "body"] := by
    decide
  have sheet : "<div class=\"sheet\">".toList = write [tag "div class=\"sheet\""] := by decide
  have parts : headTokens style.text =
      [tag "!doctype html", tag "html lang=\"zh-CN\"", tag "head", tag "meta charset=\"utf-8\""] ++
      [tag "meta name=\"viewport\" content=\"width=device-width,initial-scale=1\""] ++
      (tag "title" :: chars "pmon Faulty-Device Field Test Report".toList ++
        [tag "/title", tag "style"]) ++ chars style.text ++
      [tag "/style", tag "/head", tag "body"] ++ [tag "div class=\"sheet\""] := by
    simp [headTokens]
  rw [parts]
  simp only [write_append]
  rw [← front, ← meta_, ← back, ← sheet, ← write_append, ← title, write_chars style.plain]
  rfl

theorem footer_eq : footer = write footerTokens := by
  decide +kernel

theorem convert_eq (style : Style) {md : Text} {blocks : List Block}
    (outline : Outline (splitlines md) blocks) :
    convert style.text md = write (page style.text blocks) := by
  have written := @convertFrom_outline _ _ outline .start ⟨rfl, rfl⟩
  have opening : "<div class=\"toc\"><b>Contents</b><ul>".toList =
      write ([tag "div class=\"toc\"", tag "b"] ++ chars "Contents".toList ++
        [tag "/b", tag "ul"]) := by
    decide
  have closing : "</ul></div>".toList = write [tag "/ul", tag "/div"] := by decide
  have toc : "<div class=\"toc\"><b>Contents</b><ul>".toList ++
      (convertFrom 0 .start (splitlines md)).toc.flatten ++ "</ul></div>".toList =
        write (contents (numbered 0 blocks)) := by
    rw [contents, write_append, write_append, ← opening, ← closing, written.toc]
    rfl
  have body : (convertFrom 0 .start (splitlines md)).body =
      (numbered 0 blocks).map fun (secN, block) => write (block.tokens secN) := written.body
  have joined : joinLines (insertContents (write (contents (numbered 0 blocks)))
      (convertFrom 0 .start (splitlines md)).body) = write (bodyTokens blocks) := by
    rw [body, insertContents_write, joinLines_write, bodyTokens]
  rw [page, write_append, write_append, ← joined, ← toc, ← head_eq, ← footer_eq]
  rfl

/-! ### Every tag ends -/

theorem closed_phrase (text : Text) : ∀ token ∈ phrase text, token.Closed := by
  intro token member
  obtain ⟨c, -, rfl⟩ := List.mem_map.mp member
  rw [markToken]
  repeat' split
  all_goals trivial

theorem closed_anchor {front : Text} (closed : '>' ∉ front) (secN : Nat) :
    (Token.tag (front ++ State.anchor secN ++ "\"".toList)).Closed := by
  intro member
  rcases List.mem_append.mp member with before | last
  · rcases List.mem_append.mp before with first | digits
    · exact closed first
    · rcases List.mem_cons.mp digits with letter | digit
      · exact absurd letter (by decide)
      · exact absurd (isDigit_of_mem_decimal digit) (by decide)
  · exact absurd last (by decide)

theorem closed_intercalate {segments : List (List Token)}
    (closed : ∀ segment ∈ segments, ∀ token ∈ segment, token.Closed) :
    ∀ token ∈ [Token.char '\n'].intercalate segments, token.Closed := by
  induction segments with
  | nil => exact fun token member => absurd member List.not_mem_nil
  | cons segment rest inductionHypothesis =>
      rw [List.forall_mem_cons] at closed
      cases rest with
      | nil => simpa using closed.1
      | cons next rest =>
          rw [List.intercalate_cons_cons, List.forall_mem_append, List.forall_mem_append,
            List.forall_mem_singleton]
          exact ⟨⟨closed.1, trivial⟩, inductionHypothesis closed.2⟩

theorem closed_termTokens (line : Text) : ∀ token ∈ termTokens line, token.Closed := by
  rw [termTokens]
  split
  · rw [List.cons_append, List.forall_mem_cons, List.forall_mem_append, List.forall_mem_singleton]
    exact ⟨by decide, closed_chars line, by decide⟩
  · exact closed_chars line

theorem closed_tokens (secN : Nat) (block : Block) : ∀ token ∈ block.tokens secN, token.Closed := by
  have element : ∀ {start stop : Token} {inner : List Token}, start.Closed → stop.Closed →
      (∀ token ∈ inner, token.Closed) → ∀ token ∈ start :: inner ++ [stop], token.Closed := by
    intro start stop inner first last inside
    rw [List.cons_append, List.forall_mem_cons, List.forall_mem_append, List.forall_mem_singleton]
    exact ⟨first, inside, last⟩
  cases block with
  | title text => exact element (by decide) (by decide) (closed_chars text)
  | quote lines => exact element (by decide) (by decide) (closed_chars _)
  | heading text => exact element (closed_anchor (by decide) secN) (by decide) (closed_chars text)
  | subheading text => exact element (by decide) (by decide) (closed_chars text)
  | paragraph text => exact element (by decide) (by decide) (closed_phrase text)
  | terminal lines =>
      refine element (by decide) (by decide) (closed_intercalate fun segment member => ?_)
      obtain ⟨line, -, rfl⟩ := List.mem_map.mp member
      exact closed_termTokens line
  | item text =>
      have start : (itemTag (bold text)).Closed := by
        rw [itemTag]
        split <;> decide
      have verdict : ∀ token ∈ (itemVerdict? text).elim [] Verdict.tokens, token.Closed := by
        cases itemVerdict? text with
        | none => exact fun token member => absurd member List.not_mem_nil
        | some verdict => cases verdict <;> decide
      have inner : ∀ token ∈ phrase (bold text) ++ .char ' ' ::
          (itemVerdict? text).elim [] Verdict.tokens, token.Closed := by
        rw [List.forall_mem_append, List.forall_mem_cons]
        exact ⟨closed_phrase _, trivial, verdict⟩
      exact element start (by decide) inner

theorem closed_entry (secN : Nat) (block : Block) : ∀ token ∈ block.entry secN, token.Closed := by
  cases block with
  | heading text =>
      have front : ∀ token ∈ [tag "li", .tag ("a href=\"#".toList ++ State.anchor secN ++
          "\"".toList)], token.Closed := by
        rw [List.forall_mem_cons, List.forall_mem_singleton]
        exact ⟨by decide, closed_anchor (by decide) secN⟩
      exact List.forall_mem_append.mpr
        ⟨List.forall_mem_append.mpr ⟨front, closed_chars text⟩, by decide⟩
  | _ => exact fun token listed => absurd listed List.not_mem_nil

theorem closed_contents (blocks : List (Nat × Block)) :
    ∀ token ∈ contents blocks, token.Closed := by
  rw [contents, List.forall_mem_append, List.forall_mem_append]
  refine ⟨⟨by decide, fun token member => ?_⟩, by decide⟩
  obtain ⟨⟨secN, block⟩, -, listed⟩ := List.mem_flatMap.mp member
  exact closed_entry secN block token listed

theorem closed_withContents {contents : List Token} (closed : ∀ token ∈ contents, token.Closed)
    (blocks : List (Nat × Block)) :
    ∀ segment ∈ withContents contents blocks, ∀ token ∈ segment, token.Closed := by
  induction blocks with
  | nil => exact fun segment member => absurd member List.not_mem_nil
  | cons numbered rest inductionHypothesis =>
      obtain ⟨secN, block⟩ := numbered
      rw [withContents]
      split
      · rw [List.forall_mem_cons, List.forall_mem_cons]
        refine ⟨closed_tokens secN block, closed, fun segment member => ?_⟩
        obtain ⟨⟨secN, block⟩, -, rfl⟩ := List.mem_map.mp member
        exact closed_tokens secN block
      · rw [List.forall_mem_cons]
        exact ⟨closed_tokens secN block, inductionHypothesis⟩

theorem closed_page (style : Text) (blocks : List Block) :
    ∀ token ∈ page style blocks, token.Closed := by
  rw [page, headTokens]
  simp only [List.forall_mem_append]
  have body := closed_intercalate (closed_withContents (closed_contents (numbered 0 blocks))
    (numbered 0 blocks))
  exact ⟨⟨⟨⟨⟨⟨by decide, closed_chars _⟩, by decide⟩, closed_chars style⟩, by decide⟩, body⟩,
    by decide +kernel⟩

end OnboxFvt.Report
