import OnboxFvt.Python.Hexadecimal
import OnboxFvt.Python.TextFacts
import OnboxFvt.Verify.Routes

/-!
# MAC addresses in keys

A MAC address is written in letters of either case.  In the key of an FDB entry of ASIC_DB it
stands between two identifiers, and nowhere else in the key are there as many colons.
-/

namespace OnboxFvt.Fdb

open Library Python Verify

/-- A spelling of a MAC address, six octets in hexadecimal digits of either case. -/
structure MacText where
  octets : List (Char × Char)
  six : octets.length = 6
  hex : ∀ octet ∈ octets, isHexDigit octet.1 = true ∧ isHexDigit octet.2 = true

namespace MacText

def parts (mac : MacText) : List Text :=
  mac.octets.map fun octet => [octet.1, octet.2]

def text (mac : MacText) : Text :=
  [':'].intercalate mac.parts

/-- Spellings of one address. -/
def Same (mac other : MacText) : Prop :=
  lower mac.text = lower other.text

instance (mac other : MacText) : Decidable (mac.Same other) :=
  inferInstanceAs (Decidable (_ = _))

theorem isHexDigit_of_mem_parts {mac : MacText} {part : Text} (listed : part ∈ mac.parts) {c : Char}
    (inside : c ∈ part) : isHexDigit c = true := by
  obtain ⟨octet, member, rfl⟩ := List.mem_map.mp listed
  obtain ⟨first, second⟩ := mac.hex octet member
  rcases List.mem_pair.mp inside with rfl | rfl
  · exact first
  · exact second

theorem mem_text {mac : MacText} {c : Char} (member : c ∈ mac.text) :
    c = ':' ∨ isHexDigit c = true := by
  refine (mem_intercalate member).imp_right ?_
  rintro ⟨part, listed, inside⟩
  exact isHexDigit_of_mem_parts listed inside

theorem length_text (mac : MacText) : mac.text.length = 17 := by
  obtain ⟨octets, six, hex⟩ := mac
  match octets, six with
  | [_, _, _, _, _, _], _ => rfl

theorem count_text (mac : MacText) : mac.text.count ':' = 5 := by
  have solid : ∀ part ∈ mac.parts, ':' ∉ part := by
    intro part listed inside
    exact absurd (isHexDigit_of_mem_parts listed inside) (by decide)
  rw [text, count_intercalate solid, parts, List.length_map, mac.six]

theorem ascii_text (mac : MacText) : Ascii mac.text := by
  intro c member
  rcases mem_text member with rfl | digit
  · decide
  · exact toNat_of_isHexDigit digit

theorem upper_text_eq_iff (mac other : MacText) :
    upper mac.text = upper other.text ↔ mac.Same other :=
  upper_eq_iff mac.ascii_text other.ascii_text

theorem length_upper (mac : MacText) : (upper mac.text).length = 17 := by
  rw [upper_of_ascii mac.ascii_text, List.length_map, mac.length_text]

end MacText

/-! ## Characters in upper case -/

theorem upper_plain_ascii : ∀ n < 128,
    ((Char.ofNat n).toUpper = ':' ↔ Char.ofNat n = ':') ∧
      ((Char.ofNat n).toUpper = '"' ↔ Char.ofNat n = '"') := by
  decide

theorem count_upper {text : Text} (ascii : Ascii text) :
    (upper text).count ':' = text.count ':' := by
  rw [upper_of_ascii ascii, List.count_eq_countP, List.count_eq_countP, List.countP_map]
  refine List.countP_congr fun c member => ?_
  have here := (upper_plain_ascii c.toNat (ascii c member)).1
  rw [Char.ofNat_toNat] at here
  simpa using here

theorem quote_notMem_upper {text : Text} (ascii : Ascii text) (unquoted : '"' ∉ text) :
    '"' ∉ upper text := by
  rw [upper_of_ascii ascii]
  intro member
  obtain ⟨c, inside, same⟩ := List.mem_map.mp member
  have here := (upper_plain_ascii c.toNat (ascii c inside)).2
  rw [Char.ofNat_toNat] at here
  exact unquoted (here.mp same ▸ inside)

theorem ascii_oid (number : Nat) : Ascii (oid number) := by
  have start : Ascii oidStart := forall_of_all (by decide)
  intro c member
  rcases List.mem_append.mp member with here | digit
  · exact start c here
  · exact toNat_of_isHexDigit (isHexDigit_of_mem_toDigits digit)

theorem count_oid (number : Nat) : (oid number).count ':' = 1 := by
  have digits : ':' ∉ Nat.toDigits 16 number := by
    intro member
    exact absurd (isHexDigit_of_mem_toDigits member) (by decide)
  rw [oid, List.count_append, List.count_eq_zero.mpr digits]
  decide

/-! ## Entries -/

/-- An FDB entry of ASIC_DB. -/
structure FdbEntry where
  bvid : Nat
  mac : MacText
  switchId : Nat

namespace FdbEntry

/-- `ASIC_STATE:SAI_OBJECT_TYPE_FDB_ENTRY:` and a JSON object, cut at its quotation marks. -/
def parts (entry : FdbEntry) : List Text :=
  ["ASIC_STATE:SAI_OBJECT_TYPE_FDB_ENTRY:\x7b".toList, "bvid".toList, ":".toList, oid entry.bvid,
    ",".toList, "mac".toList, ":".toList, entry.mac.text, ",".toList, "switch_id".toList,
    ":".toList, oid entry.switchId, "\x7d".toList]

def key (entry : FdbEntry) : Text :=
  ['"'].intercalate entry.parts

/-- The parts that are the same in every key. -/
def fixedParts : List Text :=
  ["ASIC_STATE:SAI_OBJECT_TYPE_FDB_ENTRY:\x7b".toList, "bvid".toList, ":".toList, ",".toList,
    "mac".toList, "switch_id".toList, "\x7d".toList]

theorem fixedParts_plain {part : Text} (listed : part ∈ fixedParts) :
    Ascii part ∧ part.count ':' ≤ 2 := by
  have checked : fixedParts.all (fun part =>
      part.all (fun c => decide (c.toNat < 128)) && decide (part.count ':' ≤ 2)) = true := by
    decide
  obtain ⟨ascii, colons⟩ := Bool.and_eq_true_iff.mp (List.all_eq_true.mp checked part listed)
  exact ⟨forall_of_all ascii, of_decide_eq_true colons⟩

/-- Only the MAC address has more than two colons. -/
theorem count_parts {entry : FdbEntry} {part : Text} (listed : part ∈ entry.parts) :
    part = entry.mac.text ∨ Ascii part ∧ part.count ':' ≤ 2 := by
  have kinds : part = entry.mac.text ∨ part = oid entry.bvid ∨ part = oid entry.switchId ∨
      part ∈ fixedParts := by
    simp only [parts, List.mem_cons, List.not_mem_nil, or_false] at listed
    simp only [fixedParts, List.mem_cons, List.not_mem_nil, or_false]
    rcases listed with same | same | same | same | same | same | same | same | same |
      same | same | same | same <;>
      simp only [same, true_or, or_true]
  rcases kinds with own | rfl | rfl | fixed
  · exact Or.inl own
  · exact Or.inr ⟨ascii_oid _, by rw [count_oid]; decide⟩
  · exact Or.inr ⟨ascii_oid _, by rw [count_oid]; decide⟩
  · exact Or.inr (fixedParts_plain fixed)

theorem upper_key (entry : FdbEntry) :
    upper entry.key = ['"'].intercalate (entry.parts.map upper) :=
  upper_intercalate (by decide) entry.parts

/-- A MAC address occurs in the key of an entry only as that of the entry. -/
theorem contains_key_iff (mac : MacText) (entry : FdbEntry) :
    contains (upper mac.text) (upper entry.key) = true ↔ mac.Same entry.mac := by
  rw [contains_iff, upper_key, ← MacText.upper_text_eq_iff]
  constructor
  · intro occurs
    have unquoted : '"' ∉ upper mac.text := by
      refine quote_notMem_upper mac.ascii_text fun member => ?_
      rcases MacText.mem_text member with same | digit
      · cases same
      · exact absurd digit (by decide)
    have nonempty : upper mac.text ≠ [] := by
      intro empty
      have length := mac.length_upper
      rw [empty] at length
      cases length
    obtain ⟨raised, listed, inside⟩ := infix_intercalate unquoted nonempty occurs
    obtain ⟨part, member, rfl⟩ := List.mem_map.mp listed
    rcases count_parts member with rfl | ⟨ascii, few⟩
    · exact inside.eq_of_length (mac.length_upper.trans entry.mac.length_upper.symm)
    · have colons := inside.sublist.count_le ':'
      rw [count_upper mac.ascii_text, count_upper ascii, mac.count_text] at colons
      omega
  · intro same
    refine part_infix_intercalate (List.mem_map.mpr ⟨entry.mac.text, ?_, same.symm⟩)
    simp [parts]

end FdbEntry

end OnboxFvt.Fdb
