import Mathlib.Data.List.Nodup
import OnboxFvt.Report.Reading

/-!
# Elements of the page

The elements of the page nest if the bold and the code of every line do, and the links of the
contents lead to its sections.
-/

namespace OnboxFvt.Report

open Library.Markup Python

/-- The inline elements. -/
def inlineNames : List Text :=
  ["b".toList, "code".toList]

/-- What a segment does to the open elements: nothing if `holds`, and otherwise it breaks off. -/
structure NestsIff (segment : List Token) (holds : Prop) : Prop where
  nested : holds → ∀ opened, nest opened segment = some opened
  broken : ¬ holds → ∀ opened, nest opened segment = none

namespace NestsIff

theorem of_nested {segment : List Token} (nested : ∀ opened, nest opened segment = some opened) :
    NestsIff segment True :=
  ⟨fun _ => nested, fun broken => absurd trivial broken⟩

theorem nested_iff {segment : List Token} {holds : Prop} (nests : NestsIff segment holds) :
    Nested segment ↔ holds := by
  refine ⟨fun nested => ?_, fun holds_ => nests.nested holds_ []⟩
  by_contra broken
  rw [Nested, nests.broken broken] at nested
  cases nested

theorem congr {segment : List Token} {holds holds' : Prop} (nests : NestsIff segment holds)
    (same : holds ↔ holds') : NestsIff segment holds' :=
  propext same ▸ nests

theorem append {first second : List Token} {holds holds' : Prop} (one : NestsIff first holds)
    (other : NestsIff second holds') : NestsIff (first ++ second) (holds ∧ holds') := by
  refine ⟨fun both opened => ?_, fun notBoth opened => ?_⟩
  · rw [nest_append, one.nested both.1, Option.bind_some, other.nested both.2]
  · rw [nest_append]
    by_cases first_ : holds
    · have second_ : ¬ holds' := fun second_ => notBoth ⟨first_, second_⟩
      rw [one.nested first_, Option.bind_some, other.broken second_]
    · rw [one.broken first_, Option.bind_none]

theorem intercalate {segments : List (List Token)}
    (each : ∀ segment ∈ segments, NestsIff segment (Nested segment)) :
    NestsIff ([Token.char '\n'].intercalate segments) (∀ segment ∈ segments, Nested segment) := by
  induction segments with
  | nil =>
      refine ⟨fun _ _ => rfl, fun broken => absurd ?_ broken⟩
      exact fun segment member => absurd member List.not_mem_nil
  | cons segment rest inductionHypothesis =>
      rw [List.forall_mem_cons] at each
      cases rest with
      | nil => simpa using each.1
      | cons next rest =>
          have line : NestsIff [Token.char '\n'] True := of_nested fun _ => rfl
          rw [List.intercalate_cons_cons, List.forall_mem_cons]
          have parts := (each.1.append line).append (inductionHypothesis each.2)
          rwa [and_true] at parts

end NestsIff

/-! ## Phrases -/

def IsInline (token : Token) : Prop :=
  (∃ c, token = .char c) ∨
    ∃ name ∈ inlineNames, token = .tag name ∨ token = .tag ('/' :: name)

theorem mem_phrase {text : Text} {token : Token} (member : token ∈ phrase text) :
    IsInline token := by
  obtain ⟨c, -, rfl⟩ := List.mem_map.mp member
  have bold : "b".toList ∈ inlineNames := List.mem_cons_self ..
  have code : "code".toList ∈ inlineNames := List.mem_cons_of_mem _ (List.mem_cons_self ..)
  rw [markToken]
  repeat' split
  · exact Or.inr ⟨_, bold, Or.inl rfl⟩
  · exact Or.inr ⟨_, bold, Or.inr rfl⟩
  · exact Or.inr ⟨_, code, Or.inl rfl⟩
  · exact Or.inr ⟨_, code, Or.inr rfl⟩
  · exact Or.inl ⟨c, rfl⟩

/-- Inline elements leave the elements around them alone. -/
theorem nest_inline {tokens : List Token} (inline : ∀ token ∈ tokens, IsInline token)
    {around : Text} (outside : around ∉ inlineNames) (before opened : List Text) :
    nest (opened ++ around :: before) tokens =
      (nest opened tokens).map fun opened => opened ++ around :: before := by
  induction tokens generalizing opened with
  | nil => rfl
  | cons token rest inductionHypothesis =>
      rw [List.forall_mem_cons] at inline
      obtain ⟨here, later⟩ := inline
      rcases here with ⟨c, rfl⟩ | ⟨name, inlined, rfl | rfl⟩
      · exact inductionHypothesis later opened
      · have opens : ∀ opened, nestTag opened name = some (name :: opened) := by
          intro opened
          rcases List.mem_cons.mp inlined with rfl | other
          · rfl
          · rw [List.mem_singleton.mp other]
            rfl
        rw [nest, nest, opens, opens, Option.bind_some, Option.bind_some]
        exact inductionHypothesis later (name :: opened)
      · rw [nest, nest]
        cases opened with
        | nil =>
            have different : around ≠ name := fun same => outside (same ▸ inlined)
            rw [List.nil_append, nestTag, nestTag, if_neg different]
            rfl
        | cons last opened =>
            rw [List.cons_append, nestTag, nestTag]
            split
            · exact inductionHypothesis later opened
            · rfl

/-- Only inline elements are open inside a phrase. -/
theorem nest_inline_names {tokens : List Token} (inline : ∀ token ∈ tokens, IsInline token)
    {opened last : List Text} (names : ∀ name ∈ opened, name ∈ inlineNames)
    (nested : nest opened tokens = some last) : ∀ name ∈ last, name ∈ inlineNames := by
  induction tokens generalizing opened with
  | nil =>
      cases nested
      exact names
  | cons token rest inductionHypothesis =>
      rw [List.forall_mem_cons] at inline
      obtain ⟨here, later⟩ := inline
      rcases here with ⟨c, rfl⟩ | ⟨name, inlined, rfl | rfl⟩
      · exact inductionHypothesis later names nested
      · have opens : nestTag opened name = some (name :: opened) := by
          rcases List.mem_cons.mp inlined with rfl | other
          · rfl
          · rw [List.mem_singleton.mp other]
            rfl
        rw [nest, opens, Option.bind_some] at nested
        exact inductionHypothesis later (List.forall_mem_cons.mpr ⟨inlined, names⟩) nested
      · rw [nest] at nested
        cases opened with
        | nil => cases nested
        | cons first opened =>
            rw [List.forall_mem_cons] at names
            rw [nestTag] at nested
            split at nested
            · exact inductionHypothesis later names.2 nested
            · cases nested

/-- A phrase in an element, with something harmless behind it. -/
theorem nestsIff_phrase (start name : Text) (outside : name ∉ inlineNames)
    (opens : ∀ opened, nestTag opened start = some (name :: opened)) (text : Text)
    (behind : List Token) (harmless : ∀ opened, nest opened behind = some opened) :
    NestsIff (.tag start :: phrase text ++ behind ++ [.tag ('/' :: name)])
      (Nested (phrase text)) := by
  have inline : ∀ token ∈ phrase text, IsInline token := fun token member => mem_phrase member
  have whole : ∀ opened,
      nest opened (.tag start :: phrase text ++ behind ++ [.tag ('/' :: name)]) =
        (nest [] (phrase text)).bind fun inner =>
          nestTag (inner ++ name :: opened) ('/' :: name) := by
    intro opened
    have inside := nest_inline inline outside opened []
    rw [List.nil_append] at inside
    rw [List.append_assoc, List.cons_append, nest, opens, Option.bind_some, nest_append, inside,
      Option.bind_map]
    refine congrArg _ (funext fun inner => ?_)
    rw [Function.comp_apply, nest_append, harmless, Option.bind_some, nest]
    cases nestTag (inner ++ name :: opened) ('/' :: name) <;> rfl
  refine ⟨fun nested opened => ?_, fun broken opened => ?_⟩
  · rw [whole, nested, Option.bind_some, List.nil_append, nestTag, if_pos rfl]
  · rw [whole]
    cases left : nest [] (phrase text) with
    | none => rfl
    | some inner =>
        cases inner with
        | nil => exact absurd left broken
        | cons last inner =>
            have names := nest_inline_names inline (fun _ => (absurd · List.not_mem_nil)) left
            have different : last ≠ name :=
              fun same => outside (same ▸ names last (List.mem_cons_self ..))
            rw [Option.bind_some, List.cons_append, nestTag, if_neg different]

/-! ## Blocks -/

theorem nestsIff_element (start name : Text) {inner : List Token}
    (opens : ∀ opened, nestTag opened start = some (name :: opened))
    (harmless : ∀ opened, nest opened inner = some opened) :
    NestsIff (.tag start :: inner ++ [.tag ('/' :: name)]) True := by
  refine .of_nested fun opened => ?_
  rw [List.cons_append, nest, opens, Option.bind_some, nest_append, harmless, Option.bind_some,
    nest, nestTag, if_pos rfl]
  rfl

theorem nestsIff_text (start name : Text)
    (opens : ∀ opened, nestTag opened start = some (name :: opened)) (text : Text) :
    NestsIff (.tag start :: chars text ++ [.tag ('/' :: name)]) True :=
  nestsIff_element start name opens fun opened => nest_chars opened text

/-- Whether bold and code nest in a block. -/
def Block.Nests : Block → Prop
  | item text => Nested (phrase (bold text))
  | paragraph text => Nested (phrase text)
  | _ => True

theorem nest_verdict (text : Text) (opened : List Text) :
    nest opened (.char ' ' :: (itemVerdict? text).elim [] Verdict.tokens) = some opened := by
  cases itemVerdict? text with
  | none => rfl
  | some verdict =>
      have element : ∀ (start : Text) (shown : String),
          (∀ opened, nestTag opened start = some ("span".toList :: opened)) →
          nest opened (.char ' ' :: (.tag start :: chars shown.toList ++ [tag "/span"])) =
            some opened := by
        intro start shown opens
        exact (nestsIff_text _ _ opens _).nested trivial opened
      cases verdict with
      | recovers => exact element _ _ fun _ => rfl
      | stays => exact element _ _ fun _ => rfl
      | skipped => exact element _ _ fun _ => rfl

theorem nest_termLines (lines : List Text) (opened : List Text) :
    nest opened ([Token.char '\n'].intercalate (lines.map termTokens)) = some opened := by
  have each : ∀ line, NestsIff (termTokens line) True := by
    intro line
    rw [termTokens]
    split
    · exact nestsIff_text "span class=\"cmd\"".toList "span".toList (fun _ => rfl) line
    · exact .of_nested fun opened => nest_chars opened _
  have segments : ∀ segment ∈ lines.map termTokens, NestsIff segment (Nested segment) := by
    intro segment member
    obtain ⟨line, -, rfl⟩ := List.mem_map.mp member
    exact (each line).congr (each line).nested_iff.symm
  refine (NestsIff.intercalate segments).nested (fun segment member => ?_) opened
  obtain ⟨line, -, rfl⟩ := List.mem_map.mp member
  exact (each line).nested_iff.mpr trivial

theorem nestsIff_block (secN : Nat) (block : Block) : NestsIff (block.tokens secN) block.Nests := by
  have paragraphs : "p".toList ∉ inlineNames := by decide
  cases block with
  | title text => exact nestsIff_text "h1".toList "h1".toList (fun _ => rfl) text
  | quote lines =>
      exact nestsIff_text "p class=\"subtitle\"".toList "p".toList (fun _ => rfl) (joinSpace lines)
  | heading text => exact nestsIff_text _ "h2".toList (fun _ => rfl) text
  | subheading text => exact nestsIff_text "h3".toList "h3".toList (fun _ => rfl) text
  | terminal lines =>
      exact nestsIff_element "pre class=\"term\"".toList "pre".toList (fun _ => rfl)
        (nest_termLines lines)
  | paragraph text =>
      have phrase_ := nestsIff_phrase "p".toList "p".toList paragraphs (fun _ => rfl) text []
        fun _ => rfl
      rw [List.append_nil] at phrase_
      exact phrase_
  | item text =>
      rw [Block.tokens, itemTag]
      split
      · exact nestsIff_phrase "p class=\"status\"".toList "p".toList paragraphs (fun _ => rfl)
          (bold text) _ (nest_verdict text)
      · exact nestsIff_phrase "p".toList "p".toList paragraphs (fun _ => rfl) (bold text) _
          (nest_verdict text)

theorem nest_entries (blocks : List (Nat × Block)) (opened : List Text) :
    nest opened (blocks.flatMap fun (secN, block) => block.entry secN) = some opened := by
  induction blocks with
  | nil => rfl
  | cons numbered rest inductionHypothesis =>
      obtain ⟨secN, block⟩ := numbered
      have entry : nest opened (block.entry secN) = some opened := by
        cases block with
        | heading text =>
            have link : ∀ opened, nest opened (.tag ("a href=\"#".toList ++ State.anchor secN ++
                "\"".toList) :: chars text ++ [tag "/a"]) = some opened :=
              (nestsIff_text _ "a".toList (fun _ => rfl) text).nested trivial
            have listed :=
              (nestsIff_element "li".toList "li".toList (fun _ => rfl) link).nested trivial opened
            rw [← listed, Block.entry]
            refine congrArg (nest opened) ?_
            simp [tag]
        | _ => rfl
      rw [List.flatMap_cons, nest_append, entry, Option.bind_some, inductionHypothesis]

theorem nest_contents (blocks : List (Nat × Block)) (opened : List Text) :
    nest opened (contents blocks) = some opened := by
  have bold_ : ∀ opened, nest opened (tag "b" :: chars "Contents".toList ++ [tag "/b"]) =
      some opened :=
    (nestsIff_text "b".toList "b".toList (fun _ => rfl) _).nested trivial
  have list : ∀ opened, nest opened (tag "ul" ::
      (blocks.flatMap fun (secN, block) => block.entry secN) ++ [tag "/ul"]) = some opened :=
    (nestsIff_element "ul".toList "ul".toList (fun _ => rfl) (nest_entries blocks)).nested trivial
  have both : ∀ opened, nest opened ((tag "b" :: chars "Contents".toList ++ [tag "/b"]) ++
      (tag "ul" :: (blocks.flatMap fun (secN, block) => block.entry secN) ++ [tag "/ul"])) =
        some opened := by
    intro opened
    rw [nest_append, bold_, Option.bind_some, list]
  have whole :=
    (nestsIff_element "div class=\"toc\"".toList "div".toList (fun _ => rfl) both).nested trivial
      opened
  rw [← whole, contents]
  refine congrArg (nest opened) ?_
  simp [tag]

/-! ## The page -/

theorem nested_withContents_iff {contents : List Token}
    (harmless : ∀ opened, nest opened contents = some opened) (blocks : List (Nat × Block)) :
    (∀ segment ∈ withContents contents blocks, NestsIff segment (Nested segment)) ∧
      ((∀ segment ∈ withContents contents blocks, Nested segment) ↔
        ∀ numbered ∈ blocks, numbered.2.Nests) := by
  have own : ∀ numbered : Nat × Block, NestsIff (numbered.2.tokens numbered.1)
      (Nested (numbered.2.tokens numbered.1)) := fun numbered =>
    (nestsIff_block ..).congr (nestsIff_block ..).nested_iff.symm
  have own_iff : ∀ numbered : Nat × Block,
      Nested (numbered.2.tokens numbered.1) ↔ numbered.2.Nests := fun numbered =>
    (nestsIff_block ..).nested_iff
  have inserted := NestsIff.of_nested harmless
  induction blocks with
  | nil => exact ⟨fun _ => (absurd · List.not_mem_nil), by simp [withContents]⟩
  | cons numbered rest inductionHypothesis =>
      rw [withContents]
      split
      · refine ⟨?_, ?_⟩
        · rw [List.forall_mem_cons, List.forall_mem_cons, List.forall_mem_map]
          exact ⟨own numbered, inserted.congr inserted.nested_iff.symm, fun other _ => own other⟩
        · rw [List.forall_mem_cons, List.forall_mem_cons, List.forall_mem_map, List.forall_mem_cons,
            own_iff, inserted.nested_iff, true_and]
          exact and_congr_right fun _ => forall₂_congr fun other _ => own_iff other
      · rw [List.forall_mem_cons, List.forall_mem_cons, List.forall_mem_cons,
          inductionHypothesis.2]
        exact ⟨⟨own numbered, inductionHypothesis.1⟩, and_congr_left fun _ => own_iff numbered⟩

theorem mem_numbered {secN : Nat} {blocks : List Block} {holds : Block → Prop} :
    (∀ entry ∈ numbered secN blocks, holds entry.2) ↔ ∀ block ∈ blocks, holds block := by
  induction blocks generalizing secN with
  | nil => exact ⟨fun _ _ => (absurd · List.not_mem_nil), fun _ _ => (absurd · List.not_mem_nil)⟩
  | cons block rest inductionHypothesis =>
      rw [numbered, List.forall_mem_cons, List.forall_mem_cons, inductionHypothesis]

/-- The elements open around the blocks. -/
def around : List Text :=
  ["div".toList, "body".toList, "html".toList]

theorem nest_head (style : Text) : nest [] (headTokens style) = some around := by
  rw [headTokens, nest_append, nest_append, nest_append, nest_append]
  have front : nest [] [tag "!doctype html", tag "html lang=\"zh-CN\"", tag "head",
      tag "meta charset=\"utf-8\"",
      tag "meta name=\"viewport\" content=\"width=device-width,initial-scale=1\"", tag "title"] =
        some ["title".toList, "head".toList, "html".toList] := by
    decide
  rw [front, Option.bind_some, nest_chars, Option.bind_some]
  have style_ : nest ["title".toList, "head".toList, "html".toList] [tag "/title", tag "style"] =
      some ["style".toList, "head".toList, "html".toList] := by
    decide
  rw [style_, Option.bind_some, nest_chars, Option.bind_some]
  decide

theorem nest_footer : nest around footerTokens = some [] := by
  decide +kernel

/-- The elements of a page nest exactly if bold and code do in each of its paragraphs and items. -/
theorem page_nested_iff (style : Style) (md : Text) :
    ∃ blocks tokens, Outline (splitlines md) blocks ∧ read (convert style.text md) = some tokens ∧
      (Nested tokens ↔ ∀ block ∈ blocks, block.Nests) := by
  obtain ⟨blocks, outline⟩ := exists_outline (splitlines md)
  refine ⟨blocks, page style.text blocks, outline, ?_, ?_⟩
  · rw [convert_eq style outline]
    exact read_write (closed_page style.text blocks)
  · obtain ⟨segments, segments_iff⟩ :=
      nested_withContents_iff (nest_contents (numbered 0 blocks)) (numbered 0 blocks)
    have body := (NestsIff.intercalate segments).congr (segments_iff.trans mem_numbered)
    have whole : nest [] (page style.text blocks) =
        (nest around (bodyTokens blocks)).bind fun opened => nest opened footerTokens := by
      rw [page, nest_append, nest_append, nest_head]
      rfl
    rw [Nested, whole]
    constructor
    · intro nested
      by_contra broken
      rw [bodyTokens, body.broken broken, Option.bind_none] at nested
      cases nested
    · intro nests
      rw [bodyTokens, body.nested nests, Option.bind_some, nest_footer]

/-! ## Links and sections -/

/-- What a tag has between `front` and its last quotation mark. -/
def attribute? (front : Text) : Token → Option Text
  | .tag inside =>
      if startsWith front inside then some (inside.drop front.length).dropLast else none
  | .char _ => none

def linkFront : Text :=
  "a href=\"#".toList

def anchorFront : Text :=
  "h2 id=\"".toList

def links (tokens : List Token) : List Text :=
  tokens.filterMap (attribute? linkFront)

def anchors (tokens : List Token) : List Text :=
  tokens.filterMap (attribute? anchorFront)

/-- The anchor of a section. -/
def Block.anchors (secN : Nat) : Block → List Text
  | heading _ => [State.anchor secN]
  | _ => []

theorem filterMap_intercalate (front : Text) (segments : List (List Token)) :
    ([Token.char '\n'].intercalate segments).filterMap (attribute? front) =
      segments.flatMap fun segment => segment.filterMap (attribute? front) := by
  induction segments with
  | nil => rfl
  | cons segment rest inductionHypothesis =>
      cases rest with
      | nil => simp
      | cons next rest =>
          rw [List.intercalate_cons_cons, List.filterMap_append, List.filterMap_append,
            inductionHypothesis, List.flatMap_cons, List.append_assoc]
          rfl

/-- Neither a link nor an anchor. -/
def IsSilent (token : Token) : Prop :=
  attribute? linkFront token = none ∧ attribute? anchorFront token = none

instance (token : Token) : Decidable (IsSilent token) :=
  inferInstanceAs (Decidable (_ ∧ _))

def Silent (tokens : List Token) : Prop :=
  ∀ token ∈ tokens, IsSilent token

instance (tokens : List Token) : Decidable (Silent tokens) :=
  List.decidableBAll _ tokens

namespace Silent

theorem links_eq {tokens : List Token} (silent : Silent tokens) : links tokens = [] :=
  List.filterMap_eq_nil_iff.mpr fun token member => (silent token member).1

theorem anchors_eq {tokens : List Token} (silent : Silent tokens) : anchors tokens = [] :=
  List.filterMap_eq_nil_iff.mpr fun token member => (silent token member).2

theorem append {first second : List Token} (one : Silent first) (other : Silent second) :
    Silent (first ++ second) :=
  List.forall_mem_append.mpr ⟨one, other⟩

theorem cons {token : Token} {rest : List Token} (one : IsSilent token) (other : Silent rest) :
    Silent (token :: rest) :=
  List.forall_mem_cons.mpr ⟨one, other⟩

theorem chars (text : Text) : Silent (chars text) :=
  List.forall_mem_map.mpr fun _ _ => ⟨rfl, rfl⟩

theorem phrase (text : Text) : Silent (phrase text) := by
  intro token member
  rcases mem_phrase member with ⟨c, rfl⟩ | ⟨name, inlined, same⟩
  · exact ⟨rfl, rfl⟩
  · simp only [inlineNames, List.mem_cons, List.not_mem_nil, or_false] at inlined
    rcases inlined with rfl | rfl <;> rcases same with rfl | rfl <;> decide

theorem intercalate {segments : List (List Token)} (each : ∀ segment ∈ segments, Silent segment) :
    Silent ([Token.char '\n'].intercalate segments) := by
  induction segments with
  | nil => exact fun token member => absurd member List.not_mem_nil
  | cons segment rest inductionHypothesis =>
      rw [List.forall_mem_cons] at each
      cases rest with
      | nil => simpa using each.1
      | cons next rest =>
          rw [List.intercalate_cons_cons]
          exact (each.1.append (chars ['\n'])).append (inductionHypothesis each.2)

theorem termTokens (line : Text) : Silent (termTokens line) := by
  rw [Report.termTokens]
  split
  · exact .append (.cons (by decide) (chars line)) (by decide)
  · exact chars line

end Silent

theorem attribute?_anchor (front : Text) (secN : Nat) :
    attribute? front (.tag (front ++ State.anchor secN ++ "\"".toList)) =
      some (State.anchor secN) := by
  have starts : startsWith front (front ++ State.anchor secN ++ "\"".toList) = true :=
    startsWith_iff.mpr ⟨_, (List.append_assoc ..).symm⟩
  rw [attribute?, if_pos starts, List.append_assoc, List.drop_left]
  exact congrArg some List.dropLast_concat

/-- Only a heading has an anchor, and no block a link. -/
theorem attributes_tokens (secN : Nat) (block : Block) :
    links (block.tokens secN) = [] ∧ anchors (block.tokens secN) = block.anchors secN := by
  have both : ∀ {tokens : List Token}, Silent tokens → links tokens = [] ∧ anchors tokens = [] :=
    fun silent => ⟨silent.links_eq, silent.anchors_eq⟩
  have element : ∀ {start stop : Token} {inner : List Token}, IsSilent start →
      IsSilent stop → Silent inner → Silent (start :: inner ++ [stop]) := fun first last inside =>
    (Silent.cons first inside).append (Silent.cons last fun _ => (absurd · List.not_mem_nil))
  cases block with
  | title text => exact both (element (by decide) (by decide) (.chars text))
  | quote lines => exact both (element (by decide) (by decide) (.chars _))
  | subheading text => exact both (element (by decide) (by decide) (.chars text))
  | paragraph text => exact both (element (by decide) (by decide) (.phrase text))
  | terminal lines =>
      refine both (element (by decide) (by decide) (.intercalate fun segment member => ?_))
      obtain ⟨line, -, rfl⟩ := List.mem_map.mp member
      exact .termTokens line
  | item text =>
      have start : IsSilent (itemTag (bold text)) := by
        rw [itemTag]
        split <;> decide
      have verdict : Silent ((itemVerdict? text).elim [] Verdict.tokens) := by
        cases itemVerdict? text with
        | none => exact fun token member => absurd member List.not_mem_nil
        | some verdict => cases verdict <;> decide
      have inner : Silent (phrase (bold text) ++ .char ' ' ::
          (itemVerdict? text).elim [] Verdict.tokens) :=
        (Silent.phrase _).append (.cons ⟨rfl, rfl⟩ verdict)
      exact both (element start (by decide) inner)
  | heading text =>
      have behind : Silent (chars text ++ [tag "/h2"]) := (Silent.chars text).append (by decide)
      have split : (Block.heading text).tokens secN =
          Token.tag (anchorFront ++ State.anchor secN ++ "\"".toList) ::
            (chars text ++ [tag "/h2"]) := rfl
      rw [split]
      refine ⟨?_, ?_⟩
      · exact (List.filterMap_cons_none rfl).trans behind.links_eq
      · exact (List.filterMap_cons_some (attribute?_anchor ..)).trans
          (congrArg (State.anchor secN :: ·) behind.anchors_eq)

/-- The entry of a heading links to its anchor. -/
theorem attributes_entry (secN : Nat) (block : Block) :
    links (block.entry secN) = block.anchors secN ∧ anchors (block.entry secN) = [] := by
  cases block with
  | heading text =>
      have behind : Silent (chars text ++ [tag "/a", tag "/li"]) :=
        (Silent.chars text).append (by decide)
      have split : (Block.heading text).entry secN = tag "li" ::
          Token.tag (linkFront ++ State.anchor secN ++ "\"".toList) ::
            (chars text ++ [tag "/a", tag "/li"]) := rfl
      rw [split]
      refine ⟨?_, ?_⟩
      · refine (List.filterMap_cons_none rfl).trans ?_
        exact (List.filterMap_cons_some (attribute?_anchor ..)).trans
          (congrArg (State.anchor secN :: ·) behind.links_eq)
      · exact (List.filterMap_cons_none rfl).trans
          ((List.filterMap_cons_none rfl).trans behind.anchors_eq)
  | _ => exact ⟨rfl, rfl⟩

def sections (blocks : List (Nat × Block)) : List Text :=
  blocks.flatMap fun (secN, block) => block.anchors secN

theorem filterMap_flatMap_congr {Source : Type} {front : Text} {segments : Source → List Token}
    {found : Source → List Text} (same : ∀ source, (segments source).filterMap (attribute? front) =
      found source) (sources : List Source) :
    (sources.flatMap segments).filterMap (attribute? front) = sources.flatMap found := by
  induction sources with
  | nil => rfl
  | cons source rest inductionHypothesis =>
      rw [List.flatMap_cons, List.filterMap_append, same, inductionHypothesis, List.flatMap_cons]

theorem attributes_contents (blocks : List (Nat × Block)) :
    links (contents blocks) = sections blocks ∧ anchors (contents blocks) = [] := by
  have front : Silent ([tag "div class=\"toc\"", tag "b"] ++ chars "Contents".toList ++
      [tag "/b", tag "ul"]) := by
    decide
  have back : Silent [tag "/ul", tag "/div"] := by decide
  have entries := filterMap_flatMap_congr (fun entry : Nat × Block =>
    (attributes_entry entry.1 entry.2).1) blocks
  have unanchored : anchors (blocks.flatMap fun (secN, block) => block.entry secN) = [] := by
    refine (filterMap_flatMap_congr (fun entry : Nat × Block =>
      (attributes_entry entry.1 entry.2).2) blocks).trans ?_
    exact List.flatMap_eq_nil_iff.mpr fun _ _ => rfl
  refine ⟨?_, ?_⟩
  · rw [contents, links, List.filterMap_append, List.filterMap_append]
    refine (congrArg₂ (· ++ ·) (congrArg₂ (· ++ ·) front.links_eq entries) back.links_eq).trans ?_
    rw [List.nil_append, List.append_nil]
    rfl
  · rw [contents, anchors, List.filterMap_append, List.filterMap_append]
    exact congrArg₂ (· ++ ·) (congrArg₂ (· ++ ·) front.anchors_eq unanchored) back.anchors_eq

theorem attributes_withContents (contents : List Token) (blocks : List (Nat × Block)) :
    (withContents contents blocks).flatMap links =
        (if blocks.any fun entry => entry.2.isTitle then links contents else []) ∧
      (anchors contents = [] →
        (withContents contents blocks).flatMap anchors = sections blocks) := by
  have later : ∀ blocks : List (Nat × Block),
      (blocks.map fun (secN, block) => block.tokens secN).flatMap links = [] ∧
        (blocks.map fun (secN, block) => block.tokens secN).flatMap anchors = sections blocks := by
    intro blocks
    rw [List.flatMap_map, List.flatMap_map]
    refine ⟨List.flatMap_eq_nil_iff.mpr fun entry _ => (attributes_tokens ..).1, ?_⟩
    exact congrArg List.flatten (List.map_congr_left fun entry _ => (attributes_tokens ..).2)
  induction blocks with
  | nil => exact ⟨rfl, fun _ => rfl⟩
  | cons entry rest inductionHypothesis =>
      rw [withContents]
      split
      next title =>
        refine ⟨?_, fun unanchored => ?_⟩
        · rw [List.flatMap_cons, List.flatMap_cons, (attributes_tokens ..).1, (later rest).1,
            List.any_cons, title, Bool.true_or, if_pos rfl, List.nil_append, List.append_nil]
        · rw [List.flatMap_cons, List.flatMap_cons, (attributes_tokens ..).2, (later rest).2,
            unanchored, List.nil_append]
          rfl
      next untitled =>
        refine ⟨?_, fun unanchored => ?_⟩
        · rw [List.flatMap_cons, (attributes_tokens ..).1, inductionHypothesis.1, List.nil_append,
            List.any_cons, Bool.eq_false_iff.mpr untitled, Bool.false_or]
        · rw [List.flatMap_cons, (attributes_tokens ..).2, inductionHypothesis.2 unanchored]
          rfl

/-- The sections are numbered one after another. -/
theorem sections_numbered (secN : Nat) (blocks : List Block) :
    ∃ count, sections (numbered secN blocks) = (List.range' (secN + 1) count).map State.anchor := by
  induction blocks generalizing secN with
  | nil => exact ⟨0, rfl⟩
  | cons block rest inductionHypothesis =>
      obtain ⟨count, later⟩ := inductionHypothesis (block.sectionBehind secN)
      rw [numbered, sections, List.flatMap_cons, ← sections, later]
      cases block with
      | heading text => exact ⟨count + 1, rfl⟩
      | _ => exact ⟨count, rfl⟩

theorem nodup_sections (blocks : List Block) : (sections (numbered 0 blocks)).Nodup := by
  obtain ⟨count, sections_eq⟩ := sections_numbered 0 blocks
  rw [sections_eq]
  refine List.Nodup.map (fun first second same => ?_) List.nodup_range'
  exact decimal_injective (List.cons.inj same).2

theorem any_numbered (secN : Nat) (blocks : List Block) :
    (numbered secN blocks).any (fun entry => entry.2.isTitle) = blocks.any Block.isTitle := by
  induction blocks generalizing secN with
  | nil => rfl
  | cons block rest inductionHypothesis =>
      rw [numbered, List.any_cons, List.any_cons, inductionHypothesis]

/-- The sections of a page have anchors of their own; the contents link to all of them in their
order, and are only missing from a report without a title. -/
theorem contents_links (style : Style) (md : Text) :
    ∃ blocks tokens, Outline (splitlines md) blocks ∧ read (convert style.text md) = some tokens ∧
      (anchors tokens).Nodup ∧
      links tokens = if blocks.any Block.isTitle then anchors tokens else [] := by
  obtain ⟨blocks, outline⟩ := exists_outline (splitlines md)
  have front : Silent (headTokens style.text) := by
    rw [headTokens]
    exact .append (.append (.append (by decide) (by decide)) (.chars style.text)) (by decide)
  have back : Silent footerTokens := by decide +kernel
  obtain ⟨linked, anchored⟩ :=
    attributes_withContents (contents (numbered 0 blocks)) (numbered 0 blocks)
  obtain ⟨entries, unanchored⟩ := attributes_contents (numbered 0 blocks)
  have anchors_eq : anchors (page style.text blocks) = sections (numbered 0 blocks) := by
    rw [page, anchors, List.filterMap_append, List.filterMap_append, ← anchors, ← anchors,
      ← anchors, front.anchors_eq, back.anchors_eq, List.nil_append, List.append_nil, bodyTokens,
      anchors, filterMap_intercalate]
    exact anchored unanchored
  have links_eq : links (page style.text blocks) =
      if blocks.any Block.isTitle then sections (numbered 0 blocks) else [] := by
    rw [page, links, List.filterMap_append, List.filterMap_append, ← links, ← links, ← links,
      front.links_eq, back.links_eq, List.nil_append, List.append_nil, bodyTokens, links,
      filterMap_intercalate]
    refine linked.trans ?_
    rw [any_numbered, entries]
  refine ⟨blocks, page style.text blocks, outline, ?_, ?_, ?_⟩
  · rw [convert_eq style outline]
    exact read_write (closed_page style.text blocks)
  · rw [anchors_eq]
    exact nodup_sections blocks
  · rw [links_eq, anchors_eq]

end OnboxFvt.Report
