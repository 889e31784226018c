import Mathlib.Data.List.DropRight
import Mathlib.Data.List.Flatten
import Mathlib.Data.List.Nodup
import Mathlib.Data.List.Perm.Subperm
import OnboxFvt.Library.Dict
import OnboxFvt.Python.Lines
import OnboxFvt.Python.TextFacts

/-!
# Hashes read line by line

A hash is printed as its fields and values in turn, a line each.  `db_row` and
the line form of `db_hgetall` take the lines two by two; both lose an empty
value that the trimming of the whole text or the dropping of blank lines takes
away.
-/

namespace OnboxFvt.Db

open OnboxFvt.Library
open OnboxFvt.Python

abbrev Row := Dict Text Text

/-- `Result.out`: the standard output without its last line feeds. -/
def resultOut (stdout : Text) : Text :=
  List.rdropWhile (· == '\n') stdout

/-- `dict(zip(items[0::2], items[1::2]))`. -/
def dictOfItems (items : List Text) : Row :=
  Dict.setAll [] (pairs items)

/-- `PlatformState.db_row`. -/
def dbRow (stdout : Text) : Row :=
  dictOfItems (splitlines (resultOut stdout))

/-- `Cli.db_hgetall`; `reprForm` reads an answer that is one `dict` literal. -/
def dbHgetall (reprForm : Text → Row) (stdout : Text) : Row :=
  let out := strip (resultOut stdout)
  if out = [] then []
  else if startsWith ['\x7b'] out then reprForm out
  else dictOfItems ((splitlines out).filter (· ≠ []))

/-- A hash of the data base, in the order its fields are printed. -/
structure Hash where
  entries : Row
  distinct : entries.keys.Nodup
  plain : ∀ item ∈ unpair entries, Plain item

namespace Hash

def items (hash : Hash) : List Text :=
  unpair hash.entries

def printed (hash : Hash) : Text :=
  unlines hash.items

/-- The printed text is not taken for a `dict` literal. -/
def InLineForm (hash : Hash) : Prop :=
  startsWith ['\x7b'] (strip (resultOut hash.printed)) = false

instance (hash : Hash) : Decidable hash.InLineForm :=
  inferInstanceAs (Decidable (_ = _))

/-- The row has the fields of the hash and no others. -/
def ReadAs (hash : Hash) (row : Row) : Prop :=
  ∀ field, row.lookup field = hash.entries.lookup field

/-- The last value is not the empty text. -/
def LastFilled (hash : Hash) : Prop :=
  ∀ value ∈ hash.items.getLast?, value ≠ []

def Filled (hash : Hash) : Prop :=
  ∀ item ∈ hash.items, item ≠ []

/-- Neither the first field begins nor the last value ends with a blank. -/
def Trimmed (hash : Hash) : Prop :=
  (∀ field ∈ hash.items.head?, ∀ c ∈ field.head?, isSpace c = false) ∧
    ∀ value ∈ hash.items.getLast?, ∀ c ∈ value.getLast?, isSpace c = false

end Hash

section Readings

variable (hash : Hash)

theorem readAs_items : hash.ReadAs (dictOfItems hash.items) := by
  intro field
  rw [dictOfItems, Hash.items, pairs_unpair, Dict.setAll_of_nodup (by simpa using hash.distinct),
    List.nil_append]

/-- What was read as the hash has been read from its items, perhaps among others. -/
theorem items_subperm {items : List Text} (read : hash.ReadAs (dictOfItems items)) :
    hash.items.Subperm items := by
  have found : hash.entries ⊆ pairs items := by
    intro entry member
    have same := read entry.1
    rw [dictOfItems, Dict.lookup_setAll, Dict.lookup_of_nodup hash.distinct member,
      List.lookup_nil, Option.or_none] at same
    exact mem_of_lastEntry same
  have distinct : hash.entries.Nodup := List.Nodup.of_map Prod.fst hash.distinct
  obtain ⟨used, reordered, kept⟩ := List.subperm_of_subset distinct found
  refine ⟨unpair used, reordered.flatMap_right _, ?_⟩
  exact (kept.flatMap _).trans (unpair_pairs_begins items).sublist

theorem mem_of_read {items : List Text} (read : hash.ReadAs (dictOfItems items)) :
    ∀ item ∈ hash.items, item ∈ items :=
  (items_subperm hash read).subset

theorem flatten_le {items : List Text} (read : hash.ReadAs (dictOfItems items)) :
    hash.items.flatten.length ≤ items.flatten.length := by
  obtain ⟨used, reordered, kept⟩ := items_subperm hash read
  rw [← reordered.flatten.length_eq]
  exact kept.flatten.length_le

/-! ## What the trimming leaves -/

theorem resultOut_lineFeed (text : Text) : resultOut (text ++ ['\n']) = resultOut text :=
  List.rdropWhile_concat_pos _ _ _ rfl

theorem resultOut_begins (text : Text) : resultOut text <+: text :=
  List.rdropWhile_prefix _ _

/-- A line that is not empty ends the trimmed text. -/
theorem resultOut_filled {line : Text} (filled : line ≠ []) (plain : Plain line) (text : Text) :
    resultOut (text ++ line) = text ++ line := by
  obtain ⟨init, c, rfl⟩ := List.eq_nil_or_concat line |>.resolve_left filled
  have kept : ¬ (c == '\n') = true := by
    intro lineFeed
    have breaks := plain c (by simp)
    rw [eq_of_beq lineFeed] at breaks
    cases breaks
  rw [List.concat_eq_append, ← List.append_assoc]
  exact List.rdropWhile_concat_neg _ _ _ kept

/-- The printed text with its last line apart. -/
theorem printed_concat {init : List Text} {last : Text} (split : hash.items = init ++ [last]) :
    hash.printed = unlines init ++ last ++ ['\n'] := by
  rw [Hash.printed, split, unlines_append, List.append_assoc]
  simp [unlines]

theorem resultOut_printed {init : List Text} {last : Text} (split : hash.items = init ++ [last])
    (filled : last ≠ []) : resultOut hash.printed = unlines init ++ last := by
  have plain : Plain last := hash.plain last (by rw [← Hash.items, split]; simp)
  rw [printed_concat hash split, resultOut_lineFeed, resultOut_filled filled plain]

theorem splitlines_printed {init : List Text} {last : Text} (split : hash.items = init ++ [last])
    (filled : last ≠ []) : splitlines (unlines init ++ last) = hash.items := by
  have plain : ∀ line ∈ init ++ [last], Plain line := by
    rw [← split]
    exact hash.plain
  rw [splitlines_unlines (fun line member => plain line (List.mem_append_left _ member))
    (plain last (by simp)), if_neg filled, split]

/-- Without the text of its last line, a printed text has a line less. -/
theorem length_splitlines_resultOut {lines : List Text} (plain : ∀ line ∈ lines, Plain line) :
    (splitlines (resultOut (unlines lines))).length ≤ lines.length := by
  rcases List.eq_nil_or_concat lines with rfl | ⟨init, last, rfl⟩
  · exact le_refl 0
  · have breaks := filter_unlines plain
    have whole : unlines (init.concat last) = unlines init ++ last ++ ['\n'] := by
      rw [List.concat_eq_append, unlines_append, List.append_assoc]
      simp [unlines]
    rw [whole, List.filter_append, List.length_concat, List.replicate_succ'] at breaks
    have inside := (List.append_inj' breaks rfl).1
    have trimmed := ((resultOut_begins (unlines init ++ last)).sublist.filter isLineBreak).length_le
    have count := length_splitlines_le (resultOut (unlines init ++ last))
    rw [inside, List.length_replicate] at trimmed
    rw [whole, resultOut_lineFeed, List.length_concat]
    omega

/-! ## `db_row` -/

theorem dbRow_readAs_iff : hash.ReadAs (dbRow hash.printed) ↔ hash.LastFilled := by
  rcases List.eq_nil_or_concat hash.items with none | ⟨init, last, split⟩
  · have read := readAs_items hash
    rw [none] at read
    refine ⟨fun _ value member => ?_, fun _ => ?_⟩
    · rw [none] at member
      cases member
    · rw [Hash.printed, none]
      exact read
  · rw [List.concat_eq_append] at split
    have last_filled : hash.LastFilled ↔ last ≠ [] := by
      simp [Hash.LastFilled, split]
    rw [last_filled]
    constructor
    · rintro read rfl
      have plain : ∀ line ∈ init, Plain line := fun line member =>
        hash.plain line (by rw [← Hash.items, split]; exact List.mem_append_left _ member)
      have fewer := length_splitlines_resultOut plain
      have enough := (items_subperm hash read).length_le
      rw [printed_concat hash split, resultOut_lineFeed, List.append_nil, split,
        List.length_append, List.length_singleton] at enough
      omega
    · intro filled
      rw [dbRow, resultOut_printed hash split filled, splitlines_printed hash split filled]
      exact readAs_items hash

/-! ## `db_hgetall` -/

theorem dbHgetall_lineForm (reprForm : Text → Row) (lineForm : hash.InLineForm) :
    dbHgetall reprForm hash.printed =
      dictOfItems ((splitlines (strip (resultOut hash.printed))).filter (· ≠ [])) := by
  rw [dbHgetall]
  split
  next empty =>
    rw [empty]
    rfl
  next => rw [if_neg (by rw [lineForm]; exact Bool.false_ne_true)]

/-- The printed text has the ends of its first field and its last value. -/
theorem ends_iff {init : List Text} {last : Text} (split : hash.items = init ++ [last])
    (filled : hash.Filled) (holds : Char → Prop) :
    ((∀ field ∈ hash.items.head?, ∀ c ∈ field.head?, holds c) ∧
        ∀ value ∈ hash.items.getLast?, ∀ c ∈ value.getLast?, holds c) ↔
      (∀ c ∈ (unlines init ++ last).head?, holds c) ∧
        ∀ c ∈ (unlines init ++ last).getLast?, holds c := by
  have last_filled : last ≠ [] := filled last (by rw [split]; simp)
  have back : (unlines init ++ last).getLast? = last.getLast? :=
    List.getLast?_append_of_ne_nil _ last_filled
  have front : ∀ field ∈ hash.items.head?, (unlines init ++ last).head? = field.head? := by
    intro field leading
    have field_filled : field ≠ [] := filled field (List.mem_of_head? leading)
    cases init with
    | nil =>
        rw [split, List.nil_append, List.head?_cons] at leading
        cases leading
        rfl
    | cons line rest =>
        rw [split, List.cons_append, List.head?_cons] at leading
        cases leading
        rw [unlines, List.flatMap_cons, List.append_assoc, List.append_assoc]
        exact List.head?_append_of_ne_nil _ field_filled
  have nonempty : hash.items ≠ [] := by
    rw [split]
    simp
  obtain ⟨field, rest, first⟩ := List.exists_cons_of_ne_nil nonempty
  have leading : hash.items.head? = some field := by
    rw [first]
    rfl
  have trailing : hash.items.getLast? = some last := by
    rw [split]
    simp
  rw [back, front field leading, leading, trailing]
  simp only [Option.mem_some_iff, forall_eq']

theorem dbHgetall_readAs_iff (reprForm : Text → Row) (lineForm : hash.InLineForm) :
    hash.ReadAs (dbHgetall reprForm hash.printed) ↔ hash.Filled ∧ hash.Trimmed := by
  rw [dbHgetall_lineForm hash reprForm lineForm]
  rcases List.eq_nil_or_concat hash.items with none | ⟨init, last, split⟩
  · have read := readAs_items hash
    rw [none] at read
    simp only [Hash.printed, Hash.Filled, Hash.Trimmed, none]
    exact ⟨fun _ => by simp, fun _ => read⟩
  · rw [List.concat_eq_append] at split
    constructor
    · intro read
      have filled : hash.Filled := fun item member => by
        have token := mem_of_read hash read item member
        simpa using (List.mem_filter.mp token).2
      have last_filled : last ≠ [] := filled last (by rw [split]; simp)
      have counted : ∀ item ∈ hash.items, ∀ c ∈ item, (!isLineBreak c) = true :=
        fun item member c inside => by rw [hash.plain item member c inside]; rfl
      have kept := flatten_le hash read
      rw [List.flatten_filter_ne_nil, flatten_splitlines,
        ← splitlines_printed hash split last_filled, flatten_splitlines,
        resultOut_printed hash split last_filled] at kept
      obtain ⟨front, back⟩ := (ends_iff hash split filled _).mpr (ends_of_strip kept)
      refine ⟨filled, fun field leading c first => ?_, fun value trailing c final => ?_⟩
      · exact front field leading c first
          (counted field (List.mem_of_head? leading) c (List.mem_of_head? first))
      · exact back value trailing c final
          (counted value (List.mem_of_getLast? trailing) c (List.mem_of_getLast? final))
    · rintro ⟨filled, trimmed⟩
      have last_filled : last ≠ [] := filled last (by rw [split]; simp)
      obtain ⟨front, back⟩ := (ends_iff hash split filled _).mp trimmed
      have tokens : hash.items.filter (· ≠ []) = hash.items :=
        List.filter_eq_self.mpr fun item member => by simpa using filled item member
      rw [resultOut_printed hash split last_filled, strip_of_ends front back,
        splitlines_printed hash split last_filled, tokens]
      exact readAs_items hash

end Readings

/-- `db_row` gives a hash back unless its last value is empty, and the line form of
`db_hgetall` unless a field or a value is empty or a blank stands at either end of
the text. -/
theorem line_form_lossless_iff (reprForm : Text → Row) (hash : Hash) :
    (hash.ReadAs (dbRow hash.printed) ↔ hash.LastFilled) ∧
      ((hash.InLineForm → hash.ReadAs (dbHgetall reprForm hash.printed)) ↔
        (hash.InLineForm → hash.Filled ∧ hash.Trimmed)) :=
  ⟨dbRow_readAs_iff hash, forall_congr' fun lineForm => dbHgetall_readAs_iff hash reprForm lineForm⟩

/-- A transceiver row whose `model` and `serial` are not filled in. -/
def unfilledModule : Hash where
  entries := [("model".toList, []), ("type".toList, "QSFP".toList), ("serial".toList, [])]
  distinct := by decide
  plain := by decide

/-- `db_row` drops the last field, and the line form of `db_hgetall` takes the fields
for values. -/
theorem unfilled_fields_lost :
    dbRow unfilledModule.printed =
        [("model".toList, []), ("type".toList, "QSFP".toList)] ∧
      unfilledModule.InLineForm ∧
      dbHgetall (fun _ => []) unfilledModule.printed =
        [("model".toList, "type".toList), ("QSFP".toList, "serial".toList)] ∧
      ¬ unfilledModule.ReadAs (dbRow unfilledModule.printed) ∧
      ¬ unfilledModule.ReadAs (dbHgetall (fun _ => []) unfilledModule.printed) := by
  have row : dbRow unfilledModule.printed =
      [("model".toList, []), ("type".toList, "QSFP".toList)] := by decide
  have hgetall : dbHgetall (fun _ => []) unfilledModule.printed =
      [("model".toList, "type".toList), ("QSFP".toList, "serial".toList)] := by decide
  refine ⟨row, by decide, hgetall, ?_, ?_⟩
  · intro read
    rw [row] at read
    exact absurd (read "serial".toList) (by decide)
  · intro read
    rw [hgetall] at read
    exact absurd (read "model".toList) (by decide)

end OnboxFvt.Db
