import OnboxFvt.Dlb.Tokens
import OnboxFvt.Library.Regroup
import OnboxFvt.Python.Lines

/-!
# Decoding an `lt` answer

Records of scalar and array fields and the ways their elements are printed.
`parse_entries` finds the records again, and `field_at` every scalar and element.
-/

namespace OnboxFvt.Dlb.Lt

open Library Python

/-! ## Arrays -/

/-- An element and how many more equal ones follow it. -/
structure Run where
  value : Written
  more : Nat

def expand (runs : List Run) : List Written :=
  runs.flatMap fun run => List.replicate (run.more + 1) run.value

/-- One element is printed with its index, several with their range. -/
def Run.index (run : Run) (start : Nat) : Index :=
  if run.more = 0 then .single start else .span start (start + run.more)

def runTokens (name : Ident) (start : Nat) : List Run → List Token
  | [] => []
  | run :: rest =>
      { name := name, index := run.index start, value := run.value } ::
        runTokens name (start + run.more + 1) rest

def lineTokens (name : Ident) (start : Nat) : List (List Run) → List (List Token)
  | [] => []
  | line :: rest => runTokens name start line :: lineTokens name (start + (expand line).length) rest

/-- Lines of runs that print the elements in their order. -/
structure Layout (values : List Written) where
  lines : List (List Run)
  filled : ∀ line ∈ lines, line ≠ []
  whole : expand lines.flatten = values

def single (value : Written) : Run where
  value := value
  more := 0

/-- The longest runs of equal values. -/
def compress : List Written → List Run
  | [] => []
  | value :: rest =>
      match compress rest with
      | [] => [single value]
      | run :: runs =>
          if value = run.value then { run with more := run.more + 1 } :: runs
          else single value :: run :: runs

theorem expand_cons (run : Run) (runs : List Run) :
    expand (run :: runs) = run.value :: (List.replicate run.more run.value ++ expand runs) := by
  rw [expand, List.flatMap_cons, List.replicate_succ]
  rfl

theorem expand_single (values : List Written) : expand (values.map single) = values := by
  induction values with
  | nil => rfl
  | cons value rest inductionHypothesis =>
      rw [List.map_cons, expand_cons, inductionHypothesis]
      rfl

theorem expand_compress (values : List Written) : expand (compress values) = values := by
  induction values with
  | nil => rfl
  | cons value rest inductionHypothesis =>
      rw [compress]
      split
      next empty =>
        rw [← inductionHypothesis, empty]
        rfl
      next run runs found =>
        rw [found] at inductionHypothesis
        split
        next same =>
          rw [← inductionHypothesis, expand_cons, expand_cons, same]
          rfl
        next =>
          rw [expand_cons, inductionHypothesis]
          rfl

/-- The ways `lt` prints an array. -/
inductive Rendering where
  | perLine
  | commas
  | ranges

theorem flatten_singletons {Element : Type} (elements : List Element) :
    (elements.map fun element => [element]).flatten = elements := by
  induction elements with
  | nil => rfl
  | cons element rest inductionHypothesis =>
      rw [List.map_cons, List.flatten_cons, inductionHypothesis]
      rfl

def Rendering.layout (rendering : Rendering) (values : List Written) : Layout values :=
  match rendering with
  | perLine =>
      { lines := (values.map single).map fun run => [run]
        filled := by simp
        whole := by rw [flatten_singletons, expand_single] }
  | commas =>
      { lines := if values = [] then [] else [values.map single]
        filled := by
          intro line member
          split at member
          next => cases member
          next nonempty => simpa [List.mem_singleton.mp member] using nonempty
        whole := by
          split
          next empty =>
            rw [empty]
            rfl
          next => rw [List.flatten_singleton, expand_single] }
  | ranges =>
      { lines := (compress values).map fun run => [run]
        filled := by simp
        whole := by rw [flatten_singletons, expand_compress] }

/-! ## Records -/

inductive RecordField where
  | scalar (name : Ident) (value : Written)
  | array (name : Ident) (values : List Written) (layout : Layout values)

namespace RecordField

def name : RecordField → Ident
  | scalar name _ => name
  | array name _ _ => name

def lines : RecordField → List (List Token)
  | scalar name value => [[{ name := name, index := .none, value := value }]]
  | array name _ layout => lineTokens name 0 layout.lines

end RecordField

/-- A record that begins with the scalar `key`.  No name is another one with an index. -/
structure Record (key : Ident) where
  value : Written
  others : List RecordField
  distinct : ((key :: others.map RecordField.name).map Ident.text).Nodup
  apart : ∀ name ∈ key :: others.map RecordField.name,
    ∀ other ∈ key :: others.map RecordField.name, ∀ i : Nat,
      name.text ≠ other.text ++ '_' :: decimal i

namespace Record

variable {key : Ident}

def fields (record : Record key) : List RecordField :=
  .scalar key record.value :: record.others

def lines (record : Record key) : List (List Token) :=
  record.fields.flatMap RecordField.lines

def tokens (record : Record key) : List Token :=
  record.lines.flatten

end Record

def printed {key : Ident} (indent : Nat) (records : List (Record key)) : Text :=
  unlines ((records.flatMap Record.lines).map (lineText indent))

/-! ## Keys -/

theorem keyOf_none (base : Text) : keyOf base Index.none.text = base :=
  if_neg (not_not.mpr rfl)

theorem keyOf_single (base : Text) (i : Nat) :
    keyOf base (Index.single i).text = base ++ '_' :: decimal i :=
  if_pos (decimal_ne_nil i)

theorem keyOf_span (base : Text) (lo hi : Nat) :
    keyOf base (Index.span lo hi).text = base ++ '_' :: decimal lo ++ '-' :: decimal hi := by
  rw [keyOf, if_pos (by simp [Index.text]), Index.text]
  simp

theorem underscore_notMem_decimal (i : Nat) : '_' ∉ decimal i :=
  notMem_decimal (by decide) i

theorem dash_notMem_low (name : Ident) (i : Nat) : '-' ∉ name.text ++ '_' :: decimal i := by
  rw [List.mem_append, List.mem_cons, not_or, not_or]
  exact ⟨Ident.notMem (by decide), by decide, notMem_decimal (by decide) i⟩

theorem dash_mem_span (base : Text) (lo hi : Nat) : '-' ∈ keyOf base (Index.span lo hi).text := by
  rw [keyOf_span]
  simp

theorem bracket_notMem_key (token : Token) : '[' ∉ token.key := by
  rw [Token.key, keyOf]
  split
  next =>
    rw [List.mem_append, List.mem_cons, not_or, not_or]
    exact ⟨Ident.notMem (by decide), by decide, Index.notMem_text (by decide) (by decide)⟩
  next => exact Ident.notMem (by decide)

/-- A key says the field and the index, if neither name is the other with an index. -/
theorem key_injective {token other : Token}
    (apart : ∀ i : Nat, token.name.text ≠ other.name.text ++ '_' :: decimal i)
    (apart' : ∀ i : Nat, other.name.text ≠ token.name.text ++ '_' :: decimal i)
    (same : token.key = other.key) :
    token.name.text = other.name.text ∧ token.index = other.index := by
  obtain ⟨name, index, value⟩ := token
  obtain ⟨name', index', value'⟩ := other
  rw [Token.key, Token.key] at same
  dsimp only at apart apart' same ⊢
  -- A dash tells a range from the others, an index after the last underscore from a name.
  have dash : '-' ∈ keyOf name.text index.text ↔ '-' ∈ keyOf name'.text index'.text := by rw [same]
  cases index with
  | none =>
      rw [keyOf_none] at same dash
      cases index' with
      | none => exact ⟨by rwa [keyOf_none] at same, rfl⟩
      | single i =>
          rw [keyOf_single] at same
          exact absurd same (apart i)
      | span lo hi => exact absurd (dash.mpr (dash_mem_span _ lo hi)) (Ident.notMem (by decide))
  | single i =>
      rw [keyOf_single] at same dash
      cases index' with
      | none =>
          rw [keyOf_none] at same
          exact absurd same.symm (apart' i)
      | single j =>
          rw [keyOf_single, append_cons_inj_right (underscore_notMem_decimal i)
            (underscore_notMem_decimal j)] at same
          exact ⟨same.1, congrArg Index.single (decimal_injective same.2)⟩
      | span lo hi => exact absurd (dash.mpr (dash_mem_span _ lo hi)) (dash_notMem_low name i)
  | span lo hi =>
      have inside := dash.mp (dash_mem_span _ lo hi)
      cases index' with
      | none =>
          rw [keyOf_none] at inside
          exact absurd inside (Ident.notMem (by decide))
      | single j =>
          rw [keyOf_single] at inside
          exact absurd inside (dash_notMem_low name' j)
      | span lo' hi' =>
          rw [keyOf_span, keyOf_span, append_cons_inj_left (dash_notMem_low name lo)
            (dash_notMem_low name' lo')] at same
          obtain ⟨low, high⟩ := same
          rw [append_cons_inj_right (underscore_notMem_decimal lo)
            (underscore_notMem_decimal lo')] at low
          rw [decimal_injective low.2, decimal_injective high]
          exact ⟨low.1, rfl⟩

/-! ## Entries -/

/-- The entry a group of tokens makes. -/
def entryOf (tokens : List Token) : Entry :=
  tokens.foldl (fun cur token => assign cur token.name.text token.index.text token.value.val) []

theorem entryOf_concat (tokens : List Token) (token : Token) :
    entryOf (tokens ++ [token]) =
      assign (entryOf tokens) token.name.text token.index.text token.value.val := by
  rw [entryOf, List.foldl_append]
  rfl

theorem lookup_appendTo {cur : Entry} {key other : Text} (different : key ≠ other) (value : Val) :
    (appendTo cur key value).lookup other = cur.lookup other := by
  rw [appendTo]
  split <;> rw [Dict.lookup_set, if_neg different]

theorem mem_keys_appendTo (cur : Entry) (key other : Text) (value : Val) :
    other ∈ (appendTo cur key value).keys ↔ other = key ∨ other ∈ cur.keys := by
  rw [appendTo]
  split <;> rw [Dict.mem_keys_set]

theorem nodup_keys_appendTo {cur : Entry} (distinct : cur.keys.Nodup) (key : Text) (value : Val) :
    (appendTo cur key value).keys.Nodup := by
  rw [appendTo]
  split <;> exact Dict.nodup_keys_set distinct key _

theorem listKey_ne {key : Text} (bare : '[' ∉ key) (base : Text) : listKey base ≠ key := by
  rintro rfl
  exact bare (by simp [listKey])

theorem lookup_assign {cur : Entry} {key : Text} (bare : '[' ∉ key) (base idx : Text)
    (value : Val) :
    (assign cur base idx value).lookup key =
      if keyOf base idx = key then some (.val value) else cur.lookup key := by
  rw [assign]
  split
  next => rw [lookup_appendTo (listKey_ne bare base), Dict.lookup_set]
  next => rw [Dict.lookup_set]

theorem mem_keys_assign (cur : Entry) (base idx : Text) (value : Val) (key : Text) :
    key ∈ (assign cur base idx value).keys ↔
      key = keyOf base idx ∨ idx ≠ [] ∧ key = listKey base ∨ key ∈ cur.keys := by
  rw [assign]
  split
  next indexed =>
    rw [mem_keys_appendTo, Dict.mem_keys_set, and_iff_right indexed]
    exact or_left_comm
  next scalar => simp [Dict.mem_keys_set, scalar]

section Entry

variable {tokens : List Token}

theorem mem_keys_entryOf {key : Text} :
    key ∈ (entryOf tokens).keys ↔
      ∃ token ∈ tokens, key = token.key ∨ token.index ≠ .none ∧ key = listKey token.name.text := by
  induction tokens using List.reverseRecOn with
  | nil => exact iff_of_false nofun (by simp)
  | append_singleton tokens token inductionHypothesis =>
      rw [entryOf_concat, mem_keys_assign, inductionHypothesis, ← or_assoc]
      simp only [List.mem_append, List.mem_singleton, or_and_right, exists_or, exists_eq_left,
        ne_eq, Index.text_eq_nil]
      exact or_comm

theorem nodup_keys_entryOf (tokens : List Token) : (entryOf tokens).keys.Nodup := by
  induction tokens using List.reverseRecOn with
  | nil => exact List.nodup_nil
  | append_singleton tokens token inductionHypothesis =>
      rw [entryOf_concat, assign]
      split
      next => exact nodup_keys_appendTo (Dict.nodup_keys_set inductionHypothesis _ _) _ _
      next => exact Dict.nodup_keys_set inductionHypothesis _ _

/-- The items of the tokens, last item first where a key came twice. -/
theorem lookup_entryOf {key : Text} (bare : '[' ∉ key) :
    (entryOf tokens).lookup key =
      lastEntry (tokens.map fun token => (token.key, Item.val token.value.val)) key := by
  induction tokens using List.reverseRecOn with
  | nil => rfl
  | append_singleton tokens token inductionHypothesis =>
      rw [entryOf_concat, lookup_assign bare, inductionHypothesis, List.map_append,
        List.map_singleton, lastEntry_concat]
      rfl

theorem token_of_lookup {key : Text} {item : Item} (bare : '[' ∉ key)
    (found : (entryOf tokens).lookup key = some item) :
    ∃ token ∈ tokens, token.key = key ∧ item = .val token.value.val := by
  rw [lookup_entryOf bare] at found
  obtain ⟨token, member, same⟩ := List.mem_map.mp (mem_of_lastEntry found)
  cases same
  exact ⟨token, member, rfl, rfl⟩

theorem lookup_of_token (distinct : (tokens.map Token.key).Nodup) {token : Token}
    (member : token ∈ tokens) :
    (entryOf tokens).lookup token.key = some (.val token.value.val) := by
  have keys : ((tokens.map fun token => (token.key, Item.val token.value.val)).map
      Prod.fst).Nodup := by
    rw [List.map_map]
    exact distinct
  rw [lookup_entryOf (bracket_notMem_key token)]
  exact lastEntry_of_nodup keys (List.mem_map_of_mem member)

/-- An item with a dash in its key is that of a token. -/
theorem token_of_dash {key : Text} {item : Item} (member : (key, item) ∈ entryOf tokens)
    (dash : '-' ∈ key) : ∃ token ∈ tokens, token.key = key ∧ item = .val token.value.val := by
  have listed : key ∈ (entryOf tokens).keys := List.mem_map_of_mem (f := Prod.fst) member
  obtain ⟨token, -, rfl | ⟨-, rfl⟩⟩ := mem_keys_entryOf.mp listed
  · exact token_of_lookup (bracket_notMem_key token)
      (Dict.lookup_of_nodup (nodup_keys_entryOf tokens) member)
  · rw [listKey, List.mem_append] at dash
    rcases dash with inside | bracket
    · exact absurd inside (Ident.notMem (by decide))
    · exact absurd bracket (by decide)

end Entry

/-! ## Groups of tokens -/

theorem mem_map_key_iff {tokens : List Token} {token : Token} :
    token.key ∈ (entryOf tokens).keys ↔ token.key ∈ tokens.map Token.key := by
  have bare := bracket_notMem_key token
  rw [mem_keys_entryOf, List.mem_map]
  refine exists_congr fun other => and_congr_right fun _ => ?_
  exact ⟨fun either => either.elim Eq.symm fun list => absurd list.2.symm (listKey_ne bare _),
    fun same => Or.inl same.symm⟩

def stateOf (groups : List (List Token) × List Token) : State where
  entries := groups.1.map entryOf
  cur := entryOf groups.2

/-- The loop regroups the tokens by their keys. -/
theorem add_stateOf (groups : List (List Token) × List Token) (token : Token) :
    (stateOf groups).add token = stateOf (regroupStep Token.key groups token) := by
  have seen : keyOf token.name.text token.index.text ∈ (stateOf groups).cur.keys ↔
      token.key ∈ groups.2.map Token.key := mem_map_key_iff
  rw [State.add, State.put, regroupStep]
  by_cases again : token.key ∈ groups.2.map Token.key
  · rw [if_pos again, if_pos (seen.mpr again)]
    simp [stateOf, entryOf]
  · rw [if_neg again, if_neg (seen.not.mpr again)]
    simp only [stateOf, entryOf_concat]

theorem foldl_add (groups : List (List Token) × List Token) (tokens : List Token) :
    tokens.foldl State.add (stateOf groups) =
      stateOf (tokens.foldl (regroupStep Token.key) groups) := by
  induction tokens generalizing groups with
  | nil => rfl
  | cons token rest inductionHypothesis =>
      rw [List.foldl_cons, add_stateOf, inductionHypothesis, List.foldl_cons]

theorem entryOf_eq_nil {tokens : List Token} : entryOf tokens = [] ↔ tokens = [] := by
  refine ⟨fun empty => ?_, fun empty => by rw [empty]; rfl⟩
  by_contra filled
  obtain ⟨token, rest, rfl⟩ := List.exists_cons_of_ne_nil filled
  have member : token.key ∈ (entryOf (token :: rest)).keys :=
    mem_map_key_iff.mpr (List.mem_cons_self ..)
  rw [empty] at member
  cases member

theorem foldlM_parseLine? (indent : Nat) (state : State) {lines : List (List Token)}
    (filled : ∀ line ∈ lines, line ≠ []) :
    (lines.map (lineText indent)).foldlM parseLine? state =
      some (lines.flatten.foldl State.add state) := by
  induction lines generalizing state with
  | nil => rfl
  | cons line rest inductionHypothesis =>
      rw [List.forall_mem_cons] at filled
      rw [List.map_cons, List.foldlM_cons, parseLine?_text indent state filled.1,
        List.flatten_cons, List.foldl_append]
      exact inductionHypothesis (line.foldl State.add state) filled.2

theorem plain_lineText (indent : Nat) (line : List Token) : Plain (lineText indent line) := by
  intro c member
  rcases List.mem_append.mp member with blank | inside
  · rw [List.eq_of_mem_replicate blank]
    decide
  · exact isLineBreak_of_notSpace (solid_tokens line c inside)

theorem parseEntries?_lines (indent : Nat) {lines : List (List Token)}
    (filled : ∀ line ∈ lines, line ≠ []) :
    parseEntries? (unlines (lines.map (lineText indent))) =
      some ((regroup Token.key lines.flatten).map entryOf) := by
  have plain : ∀ line ∈ lines.map (lineText indent), Plain line := by
    intro text member
    obtain ⟨line, -, rfl⟩ := List.mem_map.mp member
    exact plain_lineText indent line
  have broken : splitlines (unlines (lines.map (lineText indent))) =
      lines.map (lineText indent) := by
    have whole := @splitlines_unlines _ [] plain nofun
    rwa [List.append_nil, if_pos rfl, List.append_nil] at whole
  have start : ({ entries := [], cur := [] } : State) = stateOf ([], []) := rfl
  rw [parseEntries?, broken, foldlM_parseLine? indent _ filled, start, foldl_add, Option.map_some,
    regroup]
  simp only [stateOf, entryOf_eq_nil]
  split <;> simp

/-! ## The tokens of a field -/

theorem Run.holds_index (run : Run) (start i : Nat) :
    (run.index start).Holds i ↔ start ≤ i ∧ i ≤ start + run.more := by
  rw [Run.index]
  split
  next alone =>
    rw [alone, Index.Holds]
    omega
  next => exact Iff.rfl

theorem getElem?_expand_cons (run : Run) (runs : List Run) (j : Nat) :
    (expand (run :: runs))[j]? =
      if j ≤ run.more then some run.value else (expand runs)[j - (run.more + 1)]? := by
  rw [expand, List.flatMap_cons, List.getElem?_append, List.length_replicate,
    List.getElem?_replicate]
  by_cases inside : j ≤ run.more
  · rw [if_pos (Nat.lt_succ_of_le inside), if_pos (Nat.lt_succ_of_le inside), if_pos inside]
  · rw [if_neg (by omega), if_neg inside]
    rfl

theorem le_of_runTokens {name : Ident} {start i : Nat} {runs : List Run} {token : Token}
    (member : token ∈ runTokens name start runs) (holds : token.index.Holds i) : start ≤ i := by
  induction runs generalizing start with
  | nil => cases member
  | cons run rest inductionHypothesis =>
      rcases List.mem_cons.mp member with rfl | later
      · exact ((run.holds_index start i).mp holds).1
      · have := inductionHypothesis later
        omega

/-- The value of a token is that of each element it holds. -/
theorem value_of_runTokens {name : Ident} {start j : Nat} {runs : List Run} {token : Token}
    (member : token ∈ runTokens name start runs) (holds : token.index.Holds (start + j)) :
    (expand runs)[j]? = some token.value := by
  induction runs generalizing start j with
  | nil => cases member
  | cons run rest inductionHypothesis =>
      rw [getElem?_expand_cons]
      rcases List.mem_cons.mp member with rfl | later
      · rw [if_pos]
        have := ((run.holds_index start (start + j)).mp holds).2
        omega
      · have past := le_of_runTokens later holds
        rw [if_neg (by omega)]
        apply inductionHypothesis later
        rwa [show start + run.more + 1 + (j - (run.more + 1)) = start + j by omega]

/-- Every element is held by a token. -/
theorem exists_runTokens (name : Ident) {start j : Nat} {runs : List Run} {value : Written}
    (element : (expand runs)[j]? = some value) :
    ∃ token ∈ runTokens name start runs, token.index.Holds (start + j) := by
  induction runs generalizing start j with
  | nil => cases element
  | cons run rest inductionHypothesis =>
      rw [getElem?_expand_cons] at element
      split at element
      next inside =>
        refine ⟨_, List.mem_cons_self .., (run.holds_index start (start + j)).mpr ?_⟩
        omega
      next past =>
        obtain ⟨token, member, holds⟩ :=
          @inductionHypothesis (start + run.more + 1) _ element
        refine ⟨token, List.mem_cons_of_mem _ member, ?_⟩
        rwa [show start + run.more + 1 + (j - (run.more + 1)) = start + j by omega] at holds

theorem pairwise_runTokens (name : Ident) (start : Nat) (runs : List Run) :
    (runTokens name start runs).Pairwise fun token other => token.index ≠ other.index := by
  induction runs generalizing start with
  | nil => exact List.Pairwise.nil
  | cons run rest inductionHypothesis =>
      refine List.Pairwise.cons (fun other member same => ?_) (inductionHypothesis _)
      have holds : (run.index start).Holds start := (run.holds_index start start).mpr (by omega)
      have := le_of_runTokens member (Eq.subst (motive := (Index.Holds · start)) same holds)
      omega

theorem name_of_runTokens {name : Ident} {start : Nat} {runs : List Run} {token : Token}
    (member : token ∈ runTokens name start runs) : token.name = name ∧ token.index ≠ .none := by
  induction runs generalizing start with
  | nil => cases member
  | cons run rest inductionHypothesis =>
      rcases List.mem_cons.mp member with rfl | later
      · refine ⟨rfl, fun none => ?_⟩
        have holds := (run.holds_index start start).mpr (by omega)
        exact Eq.subst (motive := (Index.Holds · start)) none holds
      · exact inductionHypothesis later

theorem runTokens_append (name : Ident) (start : Nat) (first second : List Run) :
    runTokens name start (first ++ second) =
      runTokens name start first ++ runTokens name (start + (expand first).length) second := by
  induction first generalizing start with
  | nil => rfl
  | cons run rest inductionHypothesis =>
      rw [List.cons_append, runTokens, runTokens, inductionHypothesis, expand_cons,
        List.length_cons, List.length_append, List.length_replicate, List.cons_append]
      congr 3
      omega

theorem flatten_lineTokens (name : Ident) (start : Nat) (lines : List (List Run)) :
    (lineTokens name start lines).flatten = runTokens name start lines.flatten := by
  induction lines generalizing start with
  | nil => rfl
  | cons line rest inductionHypothesis =>
      rw [lineTokens, List.flatten_cons, inductionHypothesis, List.flatten_cons, runTokens_append]

theorem filled_lineTokens {name : Ident} {start : Nat} {lines : List (List Run)}
    (filled : ∀ line ∈ lines, line ≠ []) : ∀ line ∈ lineTokens name start lines, line ≠ [] := by
  induction lines generalizing start with
  | nil => exact nofun
  | cons line rest inductionHypothesis =>
      rw [List.forall_mem_cons] at filled
      rw [lineTokens, List.forall_mem_cons]
      refine ⟨?_, inductionHypothesis filled.2⟩
      cases line with
      | nil => exact absurd rfl filled.1
      | cons run runs => exact List.cons_ne_nil _ _

namespace RecordField

def tokens : RecordField → List Token
  | scalar name value => [{ name := name, index := .none, value := value }]
  | array name _ layout => runTokens name 0 layout.lines.flatten

theorem flatten_lines (field : RecordField) : field.lines.flatten = field.tokens := by
  cases field with
  | scalar name value => rfl
  | array name values layout => exact flatten_lineTokens name 0 layout.lines

theorem filled_lines (field : RecordField) : ∀ line ∈ field.lines, line ≠ [] := by
  cases field with
  | scalar name value => simp [lines]
  | array name values layout => exact filled_lineTokens layout.filled

theorem name_of_mem_tokens {field : RecordField} {token : Token} (member : token ∈ field.tokens) :
    token.name = field.name := by
  cases field with
  | scalar name value =>
      rw [List.mem_singleton.mp member]
      rfl
  | array name values layout => exact (name_of_runTokens member).1

theorem pairwise_tokens (field : RecordField) :
    field.tokens.Pairwise fun token other => token.index ≠ other.index := by
  cases field with
  | scalar name value => exact List.pairwise_singleton _ _
  | array name values layout => exact pairwise_runTokens name 0 _

end RecordField

namespace Record

variable {key : Ident} (record : Record key)

def names : List Ident :=
  record.fields.map RecordField.name

theorem flatten_lines : record.lines.flatten = record.fields.flatMap RecordField.tokens := by
  rw [lines, List.flatMap_def, List.flatten_flatten, List.map_map, List.flatMap_def]
  exact congrArg List.flatten (List.map_congr_left fun field _ => field.flatten_lines)

theorem mem_tokens {token : Token} :
    token ∈ record.tokens ↔ ∃ field ∈ record.fields, token ∈ field.tokens := by
  rw [tokens, flatten_lines, List.mem_flatMap]

theorem filled_lines : ∀ line ∈ record.lines, line ≠ [] := by
  intro line member
  obtain ⟨field, -, inside⟩ := List.mem_flatMap.mp member
  exact field.filled_lines line inside

variable {record}

theorem apart_of_fields {field other : RecordField} (member : field ∈ record.fields)
    (member' : other ∈ record.fields) (i : Nat) :
    field.name.text ≠ other.name.text ++ '_' :: decimal i :=
  record.apart field.name (List.mem_map_of_mem member) other.name (List.mem_map_of_mem member') i

theorem apart_of_tokens {token : Token} {field : RecordField} (member : token ∈ record.tokens)
    (member' : field ∈ record.fields) (i : Nat) :
    token.name.text ≠ field.name.text ++ '_' :: decimal i ∧
      field.name.text ≠ token.name.text ++ '_' :: decimal i := by
  obtain ⟨own, listed, inside⟩ := record.mem_tokens.mp member
  rw [RecordField.name_of_mem_tokens inside]
  exact ⟨apart_of_fields listed member' i, apart_of_fields member' listed i⟩

/-- A token with the name of a field is one of its tokens. -/
theorem token_of_name {token : Token} {field : RecordField} (member : token ∈ record.tokens)
    (member' : field ∈ record.fields) (same : token.name.text = field.name.text) :
    token ∈ field.tokens := by
  obtain ⟨own, listed, inside⟩ := record.mem_tokens.mp member
  have distinct : (record.fields.map fun field => field.name.text).Nodup := by
    have names := record.distinct
    rwa [List.map_cons, List.map_map] at names
  rw [RecordField.name_of_mem_tokens inside] at same
  rwa [← List.inj_on_of_nodup_map distinct listed member' same]

theorem nodup_keys : (record.tokens.map Token.key).Nodup := by
  have different : record.tokens.Pairwise fun token other =>
      ¬ (token.name.text = other.name.text ∧ token.index = other.index) := by
    have names := record.distinct
    rw [List.nodup_iff_pairwise_ne, List.pairwise_map] at names
    rw [tokens, flatten_lines, List.pairwise_flatMap]
    refine ⟨fun field _ => (field.pairwise_tokens).imp fun indices both => indices both.2, ?_⟩
    refine (List.pairwise_map (f := RecordField.name)).mp names |>.imp ?_
    intro field other namesApart token inside token' inside' both
    rw [RecordField.name_of_mem_tokens inside, RecordField.name_of_mem_tokens inside'] at both
    exact namesApart both.1
  rw [List.nodup_iff_pairwise_ne, List.pairwise_map]
  refine different.imp_of_mem fun {token other} member member' apart same => apart ?_
  obtain ⟨field, listed, inside⟩ := record.mem_tokens.mp member'
  have names (i : Nat) := apart_of_tokens member listed i
  rw [← RecordField.name_of_mem_tokens inside] at names
  exact key_injective (fun i => (names i).1) (fun i => (names i).2) same

theorem head_keys : (record.tokens.map Token.key).head? = some key.text := by
  rw [tokens, flatten_lines, fields, List.flatMap_cons]
  rfl

end Record

/-- The entries found are those of the records. -/
theorem parseEntries?_printed {key : Ident} (indent : Nat) (records : List (Record key)) :
    parseEntries? (printed indent records) =
      some (records.map fun record => entryOf record.tokens) := by
  have filled : ∀ line ∈ records.flatMap Record.lines, line ≠ [] := by
    intro line member
    obtain ⟨record, -, inside⟩ := List.mem_flatMap.mp member
    exact record.filled_lines line inside
  have flat : (records.flatMap Record.lines).flatten = (records.map Record.tokens).flatten := by
    rw [List.flatMap_def, List.flatten_flatten, List.map_map]
    rfl
  rw [printed, parseEntries?_lines indent filled, flat, @regroup_flatten _ _ _ _ key.text,
    List.map_map]
  · rfl
  · intro group member
    obtain ⟨record, -, rfl⟩ := List.mem_map.mp member
    exact ⟨record.head_keys, record.nodup_keys⟩

/-! ## `field_at` -/

theorem inSpan?_of_no_dash {name key : Text} (index : Nat) (none : '-' ∉ key) :
    inSpan? name index key = some false := by
  rw [inSpan?]
  split
  next =>
    have inside : '-' ∉ key.drop (name.length + 1) := fun member =>
      none (List.mem_of_mem_drop member)
    rw [if_neg inside]
  next => rfl

/-- How a key with a dash is read; the first dash counts. -/
theorem inSpan?_dash (name : Ident) (index : Nat) {low : Text} (first : '-' ∉ low) (high : Text) :
    inSpan? name.text index (name.text ++ '_' :: low ++ '-' :: high) =
      if isDigit low && isDigit high then
        (int? low).bind fun lo =>
          if lo ≤ index then (int? high).map fun hi => decide ((index : Int) ≤ hi) else some false
      else some false := by
  have begins : startsWith (name.text ++ ['_']) (name.text ++ '_' :: low ++ '-' :: high) = true :=
    startsWith_iff.mpr ⟨low ++ '-' :: high, by simp⟩
  have span : (name.text ++ '_' :: low ++ '-' :: high).drop (name.text.length + 1) =
      low ++ '-' :: high := by
    have split : name.text ++ '_' :: low ++ '-' :: high =
        name.text ++ ['_'] ++ (low ++ '-' :: high) := by simp
    rw [split]
    exact List.drop_left' (by simp)
  have inside : ∀ c ∈ low, decide (c ≠ '-') = true := by
    intro c member
    rw [decide_eq_true_iff]
    rintro rfl
    exact first member
  have before : (low ++ '-' :: high).takeWhile (· ≠ '-') = low := by
    rw [List.takeWhile_append_of_pos inside, List.takeWhile_cons_of_neg (by decide),
      List.append_nil]
  have after : ((low ++ '-' :: high).dropWhile (· ≠ '-')).drop 1 = high := by
    rw [List.dropWhile_append_of_pos inside, List.dropWhile_cons_of_neg (by decide)]
    rfl
  have dash : '-' ∈ low ++ '-' :: high := List.mem_append_right _ (List.mem_cons_self ..)
  rw [inSpan?, begins]
  simp only [span, dash, if_true, before, after]

/-- A key that begins with the name and has a dash has it after the name. -/
theorem exists_dash (name : Ident) {key : Text}
    (begins : startsWith (name.text ++ ['_']) key = true) (dash : '-' ∈ key) :
    ∃ low high, key = name.text ++ '_' :: low ++ '-' :: high ∧ '-' ∉ low := by
  obtain ⟨span, rfl⟩ := startsWith_iff.mp begins
  have dashless : '-' ∉ name.text ++ ['_'] := by
    rw [List.mem_append, not_or]
    exact ⟨Ident.notMem (by decide), by decide⟩
  obtain ⟨low, high, rfl, first⟩ :=
    List.eq_append_cons_of_mem ((List.mem_append.mp dash).resolve_left dashless)
  exact ⟨low, high, by simp, first⟩

/-- A range key is in the span of its own field only. -/
theorem inSpan?_span (name own : Ident) (index lo hi : Nat) :
    inSpan? name.text index (keyOf own.text (Index.span lo hi).text) =
      some (decide (own.text = name.text ∧ lo ≤ index ∧ index ≤ hi)) := by
  rw [keyOf_span]
  have dashless : '-' ∉ decimal lo := notMem_decimal (by decide) lo
  by_cases same : own.text = name.text
  · rw [same, inSpan?_dash name index dashless, isDigit_decimal, isDigit_decimal, int?_decimal,
      int?_decimal, Bool.and_self, if_pos rfl, Option.bind_some, Option.map_some]
    by_cases low_le : lo ≤ index <;> simp [low_le]
  · rw [decide_eq_false fun both => same both.1]
    by_cases begins : startsWith (name.text ++ ['_'])
        (own.text ++ '_' :: decimal lo ++ '-' :: decimal hi) = true
    · obtain ⟨low, high, split, first⟩ := exists_dash name begins (by simp)
      have dashless_low : '-' ∉ name.text ++ '_' :: low := by
        rw [List.mem_append, List.mem_cons, not_or, not_or]
        exact ⟨Ident.notMem (by decide), by decide, first⟩
      obtain ⟨front, -⟩ :=
        (append_cons_inj_left dashless_low (dash_notMem_low own lo)).mp split.symm
      -- digits hold no underscore, so the name would end where the other one does
      have notDigits : isDigit low = false := by
        by_contra digits
        rw [Bool.not_eq_false, isDigit, Bool.and_eq_true, List.all_eq_true] at digits
        have underscore : '_' ∉ low := fun member => absurd (digits.2 '_' member) (by decide)
        obtain ⟨equal, -⟩ :=
          (append_cons_inj_right underscore (underscore_notMem_decimal lo)).mp front
        exact same equal.symm
      rw [split, inSpan?_dash name index first, notDigits]
      rfl
    · rw [inSpan?, if_neg begins]

theorem span_of_dash {token : Token} (dash : '-' ∈ token.key) :
    ∃ lo hi, token.index = .span lo hi := by
  obtain ⟨name, index, value⟩ := token
  rw [Token.key] at dash
  cases index with
  | none =>
      rw [keyOf_none] at dash
      exact absurd dash (Ident.notMem (by decide))
  | single i =>
      rw [keyOf_single] at dash
      exact absurd dash (dash_notMem_low name i)
  | span lo hi => exact ⟨lo, hi, rfl⟩

theorem firstSpan?_eq {name : Text} {index : Nat} {entry : Entry} {item : Item}
    (sound : ∀ other ∈ entry, inSpan? name index other.1 = some false ∨
      inSpan? name index other.1 = some true ∧ other.2 = item)
    (complete : ∃ other ∈ entry, inSpan? name index other.1 = some true) :
    firstSpan? name index entry = some (some item) := by
  induction entry with
  | nil =>
      obtain ⟨other, member, -⟩ := complete
      cases member
  | cons first rest inductionHypothesis =>
      rw [List.forall_mem_cons] at sound
      rw [firstSpan?]
      rcases sound.1 with outside | ⟨inside, same⟩
      · rw [outside]
        refine inductionHypothesis sound.2 ?_
        obtain ⟨other, member, inside⟩ := complete
        rcases List.mem_cons.mp member with rfl | later
        · rw [outside] at inside
          cases inside
        · exact ⟨other, later, inside⟩
      · rw [inside, same]
        rfl

/-- What `field_at` gives for a scalar, or for every index of an array. -/
def RecordField.ReadBack (entry : Entry) : RecordField → Prop
  | scalar name value => fieldAt? entry name.text 0 = some (some (.val value.val))
  | array name values _ => ∀ i value, values[i]? = some value →
      fieldAt? entry name.text i = some (some (.val value.val))

section Fields

variable {key : Ident} {record : Record key} {field : RecordField}

/-- The tokens with the key of an index of a field. -/
theorem token_of_key (listed : field ∈ record.fields) {token : Token} {index : Index}
    (member : token ∈ record.tokens) (same : token.key = keyOf field.name.text index.text) :
    token ∈ field.tokens ∧ token.index = index := by
  have names (i : Nat) := Record.apart_of_tokens member listed i
  obtain ⟨name, indices⟩ :=
    @key_injective token { name := field.name, index := index, value := token.value }
      (fun i => (names i).1) (fun i => (names i).2) same
  exact ⟨Record.token_of_name member listed name, indices⟩

theorem token_of_item (listed : field ∈ record.fields) {index : Index} {item : Item}
    (found : (entryOf record.tokens).lookup (keyOf field.name.text index.text) = some item) :
    ∃ token ∈ field.tokens, token.index = index ∧ item = .val token.value.val := by
  have bare : '[' ∉ keyOf field.name.text index.text :=
    bracket_notMem_key { name := field.name, index := index, value := .word field.name }
  obtain ⟨token, member, same, value⟩ := token_of_lookup bare found
  obtain ⟨inside, indices⟩ := token_of_key listed member same
  exact ⟨token, inside, indices, value⟩

theorem readBack_scalar {name : Ident} {value : Written}
    (listed : .scalar name value ∈ record.fields) :
    RecordField.ReadBack (entryOf record.tokens) (.scalar name value) := by
  have missing : (entryOf record.tokens).lookup (name.text ++ '_' :: decimal 0) = none := by
    rw [← keyOf_single]
    rw [Option.eq_none_iff_forall_not_mem]
    intro item found
    obtain ⟨token, inside, index, -⟩ := token_of_item listed found
    rw [List.mem_singleton.mp inside] at index
    cases index
  have member : { name := name, index := .none, value := value } ∈ record.tokens :=
    record.mem_tokens.mpr ⟨_, listed, List.mem_singleton_self _⟩
  have found := lookup_of_token Record.nodup_keys member
  rw [Token.key, keyOf_none] at found
  rw [RecordField.ReadBack, fieldAt?, missing, found]

section Arrays

variable {name : Ident} {values : List Written} {layout : Layout values}
variable {i : Nat} {value : Written}

/-- A token of an array has the element at each of its indices for its value. -/
theorem element_of_holds {token : Token}
    (inside : token ∈ RecordField.tokens (.array name values layout))
    (holds : token.index.Holds i) : values[i]? = some token.value := by
  have found := @value_of_runTokens name 0 i _ token inside (by rwa [Nat.zero_add])
  rwa [layout.whole] at found

theorem exists_holds (layout : Layout values) (element : values[i]? = some value) :
    ∃ token ∈ RecordField.tokens (.array name values layout), token.index.Holds i := by
  have found := @exists_runTokens name 0 i layout.lines.flatten value
    (by rw [layout.whole]; exact element)
  rwa [Nat.zero_add] at found

/-- An item that spans an index of the array has the element there for its value. -/
theorem inSpan?_item (listed : .array name values layout ∈ record.fields)
    (element : values[i]? = some value) {other : Text × Item}
    (member : other ∈ entryOf record.tokens) :
    inSpan? name.text i other.1 = some false ∨
      inSpan? name.text i other.1 = some true ∧ other.2 = .val value.val := by
  obtain ⟨other, item⟩ := other
  by_cases dash : '-' ∈ other
  · obtain ⟨owner, among, rfl, rfl⟩ := token_of_dash member dash
    obtain ⟨lo, hi, index⟩ := span_of_dash dash
    rw [Token.key, index, inSpan?_span]
    by_cases own : owner.name.text = name.text ∧ lo ≤ i ∧ i ≤ hi
    · have inside := Record.token_of_name among listed own.1
      have same := element_of_holds inside (i := i) (by rw [index]; exact own.2)
      rw [decide_eq_true own, Option.some.inj (same.symm.trans element)]
      exact Or.inr ⟨rfl, rfl⟩
    · rw [decide_eq_false own]
      exact Or.inl rfl
  · exact Or.inl (inSpan?_of_no_dash i dash)

theorem readBack_array (listed : .array name values layout ∈ record.fields) :
    RecordField.ReadBack (entryOf record.tokens) (.array name values layout) := by
  intro i value element
  obtain ⟨token, inside, holds⟩ := @exists_holds name values i value layout element
  rw [fieldAt?]
  cases single : (entryOf record.tokens).lookup (name.text ++ '_' :: decimal i) with
  | some item =>
      rw [← keyOf_single] at single
      obtain ⟨other, inside', index, rfl⟩ := token_of_item listed single
      have same := element_of_holds inside' (i := i) (by rw [index]; rfl)
      rw [Option.some.inj (same.symm.trans element)]
  | none =>
      have bare : (entryOf record.tokens).lookup name.text = none := by
        rw [← keyOf_none name.text, Option.eq_none_iff_forall_not_mem]
        intro item found
        obtain ⟨other, inside', index, -⟩ := token_of_item listed found
        exact (name_of_runTokens inside').2 index
      rw [bare]
      refine firstSpan?_eq (fun other member => inSpan?_item listed element member) ?_
      have found := lookup_of_token Record.nodup_keys (record.mem_tokens.mpr ⟨_, listed, inside⟩)
      refine ⟨_, Dict.mem_of_lookup found, ?_⟩
      have own := (name_of_runTokens inside).1
      cases index : token.index with
      | none =>
          rw [index] at holds
          exact holds.elim
      | single j =>
          rw [index] at holds
          rw [Token.key, own, index, keyOf_single, show j = i from holds, single] at found
          cases found
      | span lo hi =>
          rw [index] at holds
          rw [Token.key, own, index, inSpan?_span, decide_eq_true ⟨rfl, holds⟩]

end Arrays

/-- Whichever way an array is printed, each of its elements is found. -/
theorem fieldAt?_rendered {name : Ident} {values : List Written} (rendering : Rendering)
    (listed : .array name values (rendering.layout values) ∈ record.fields)
    (i : Fin values.length) :
    fieldAt? (entryOf record.tokens) name.text i = some (some (.val (values.get i).val)) :=
  readBack_array listed i (values.get i) (List.getElem?_eq_getElem i.isLt)

end Fields

/-- `parse_entries` of printed records gives an entry for each of them in their order, in which
`field_at` finds every scalar and every element of every array. -/
theorem parse_entries_decodes (key : Ident) (indent : Nat) (records : List (Record key)) :
    ∃ entries, parseEntries? (printed indent records) = some entries ∧
      List.Forall₂ (fun record entry => ∀ field ∈ Record.fields record, field.ReadBack entry)
        records entries := by
  refine ⟨_, parseEntries?_printed indent records, ?_⟩
  rw [List.forall₂_map_right_iff, List.forall₂_same]
  intro record _ field listed
  cases field with
  | scalar name value => exact readBack_scalar listed
  | array name values layout => exact readBack_array listed

end OnboxFvt.Dlb.Lt
