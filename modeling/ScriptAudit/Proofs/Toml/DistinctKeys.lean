import Mathlib.Data.List.Nodup
import ScriptAudit.Toml.Reader

/-!
# Distinct keys

A key of a TOML document is given a meaning once. Whatever changes a table while a
document is read adds only keys that are not there yet, so that in the end no table of
the document gives a key twice, at any depth.
-/

namespace ScriptAudit
namespace Toml

/-- Whether a value has no parts. -/
def isScalar : Toml → Bool
  | .array _ | .table _ => false
  | _ => true

/-- No table in a value gives a key twice. -/
inductive HasDistinctKeys : Toml → Prop
  | scalar {value : Toml}
      (flat : value.isScalar = true) :
      HasDistinctKeys value
  | array {items : List Toml}
      (inner : ∀ item ∈ items, HasDistinctKeys item) :
      HasDistinctKeys (.array items)
  | table {fields : List (String × Toml)}
      (distinct : (fields.map Prod.fst).Nodup)
      (inner : ∀ field ∈ fields, HasDistinctKeys field.2) :
      HasDistinctKeys (.table fields)

theorem hasDistinctKeys_table_iff {fields : List (String × Toml)} :
    HasDistinctKeys (.table fields) ↔
      (fields.map Prod.fst).Nodup ∧ ∀ field ∈ fields, field.2.HasDistinctKeys := by
  constructor
  · intro whole
    cases whole with
    | scalar flat => cases flat
    | table distinct inner => exact ⟨distinct, inner⟩
  · rintro ⟨distinct, inner⟩
    exact .table distinct inner

/-- No table in what a key stands for gives a key twice. -/
inductive Item.HasDistinctKeys : Item → Prop
  | value {value : Toml}
      (distinct : value.HasDistinctKeys) :
      Item.HasDistinctKeys (.value value)
  | table {origin : Origin} {entries : Entries}
      (distinct : (entries.map Prod.fst).Nodup)
      (inner : ∀ entry ∈ entries, Item.HasDistinctKeys entry.2) :
      Item.HasDistinctKeys (.table origin entries)
  | tables {rows : List Entries}
      (distinct : ∀ row ∈ rows, (row.map Prod.fst).Nodup)
      (inner : ∀ row ∈ rows, ∀ entry ∈ row, Item.HasDistinctKeys entry.2) :
      Item.HasDistinctKeys (.tables rows)

namespace Entries

/-- No key is there twice, in a table or in the tables within it. -/
structure HaveDistinctKeys (entries : Entries) : Prop where
  distinct : (entries.map Prod.fst).Nodup
  inner : ∀ entry ∈ entries, entry.2.HasDistinctKeys

variable {entries : Entries} {name : String} {item : Item}

theorem mem_of_get?_eq_some (found : entries.get? name = some item) :
    (name, item) ∈ entries := by
  obtain ⟨entry, isFirst, rfl⟩ := Option.map_eq_some_iff.mp found
  have sameName : entry.1 = name := by simpa using List.find?_some isFirst
  rw [← sameName]
  exact List.mem_of_find?_eq_some isFirst

theorem notMem_of_get?_eq_none (absent : entries.get? name = none) :
    name ∉ entries.map Prod.fst := by
  intro member
  obtain ⟨entry, isEntry, rfl⟩ := List.mem_map.mp member
  have different := List.find?_eq_none.mp (Option.map_eq_none_iff.mp absent) entry isEntry
  simp at different

namespace HaveDistinctKeys

theorem nil : HaveDistinctKeys [] where
  distinct := List.nodup_nil
  inner := by simp

theorem of_get?
    (entriesDistinct : entries.HaveDistinctKeys)
    (found : entries.get? name = some item) :
    item.HasDistinctKeys :=
  entriesDistinct.inner _ (mem_of_get?_eq_some found)

/-- A key that is not there yet can be appended. -/
theorem append
    (entriesDistinct : entries.HaveDistinctKeys)
    (absent : name ∉ entries.map Prod.fst)
    (itemDistinct : item.HasDistinctKeys) :
    (entries.append name item).HaveDistinctKeys := by
  constructor
  · rw [Entries.append, List.map_append]
    exact List.nodup_append'.mpr
      ⟨entriesDistinct.distinct, List.nodup_singleton name, by simpa using absent⟩
  · intro entry member
    rcases List.mem_append.mp member with earlier | last
    · exact entriesDistinct.inner entry earlier
    · rwa [List.mem_singleton.mp last]

/-- A key that gets another meaning keeps its name. -/
theorem replace
    (entriesDistinct : entries.HaveDistinctKeys)
    (itemDistinct : item.HasDistinctKeys) :
    (entries.replace name item).HaveDistinctKeys := by
  have sameNames : (entries.replace name item).map Prod.fst = entries.map Prod.fst := by
    rw [Entries.replace, List.map_map]
    refine List.map_congr_left fun entry _ => ?_
    simp only [Function.comp_apply]
    split
    · rename_i same
      exact (eq_of_beq same).symm
    · rfl
  constructor
  · rw [sameNames]
    exact entriesDistinct.distinct
  · intro entry member
    obtain ⟨other, isOther, rfl⟩ := List.mem_map.mp member
    split
    · exact itemDistinct
    · exact entriesDistinct.inner other isOther

theorem filter
    (entriesDistinct : entries.HaveDistinctKeys)
    (keeps : String × Item → Bool) :
    HaveDistinctKeys (List.filter keeps entries) where
  distinct := entriesDistinct.distinct.sublist (List.filter_sublist.map Prod.fst)
  inner entry member := entriesDistinct.inner entry (List.mem_filter.mp member).1

end HaveDistinctKeys
end Entries

theorem Item.table_hasDistinctKeys_iff
    {origin : Origin}
    {entries : Entries} :
    (Item.table origin entries).HasDistinctKeys ↔ entries.HaveDistinctKeys := by
  constructor
  · intro whole
    cases whole with
    | table distinct inner => exact ⟨distinct, inner⟩
  · intro whole
    exact .table whole.distinct whole.inner

theorem Item.tables_hasDistinctKeys_iff {rows : List Entries} :
    (Item.tables rows).HasDistinctKeys ↔ ∀ row ∈ rows, Entries.HaveDistinctKeys row := by
  constructor
  · intro whole row member
    cases whole with
    | tables distinct inner => exact ⟨distinct row member, inner row member⟩
  · intro whole
    exact .tables (fun row member => (whole row member).distinct)
      fun row member => (whole row member).inner

/-! ## Changes of a table -/

namespace Entries

variable {entries result : Entries} {name : String}
  {path current : List String} {value : Toml}

/-- A change that keeps keys distinct where it is made keeps them distinct everywhere.
-/
theorem HaveDistinctKeys.change
    {byDots : Bool}
    {action : Origin → Entries → Option Entries}
    (keeps : ∀ {origin inner changed}, HaveDistinctKeys inner →
      action origin inner = some changed → HaveDistinctKeys changed)
    {origin : Origin}
    (entriesDistinct : entries.HaveDistinctKeys)
    (changed : change byDots action origin entries path = some result) :
    result.HaveDistinctKeys := by
  induction path generalizing origin entries result with
  | nil => exact keeps entriesDistinct changed
  | cons name rest inductionHypothesis =>
      simp only [Entries.change] at changed
      split at changed
      case h_1 absent =>
        obtain ⟨inner, made, rfl⟩ := Option.map_eq_some_iff.mp changed
        exact entriesDistinct.append (notMem_of_get?_eq_none absent)
          (Item.table_hasDistinctKeys_iff.mpr (inductionHypothesis .nil made))
      case h_2 => cases changed
      case h_3 => cases changed
      case h_4 last before found =>
        have rows := Item.tables_hasDistinctKeys_iff.mp (entriesDistinct.of_get? found)
        obtain ⟨inner, made, rfl⟩ := Option.map_eq_some_iff.mp changed
        refine entriesDistinct.replace
          (Item.tables_hasDistinctKeys_iff.mpr fun row member => ?_)
        rcases List.mem_cons.mp member with rfl | earlier
        · exact inductionHypothesis (rows last List.mem_cons_self) made
        · exact rows row (List.mem_cons_of_mem last earlier)
      case h_5 kind table found =>
        split at changed
        · cases changed
        · have tableDistinct :=
            Item.table_hasDistinctKeys_iff.mp (entriesDistinct.of_get? found)
          obtain ⟨inner, made, rfl⟩ := Option.map_eq_some_iff.mp changed
          exact entriesDistinct.replace
            (Item.table_hasDistinctKeys_iff.mpr (inductionHypothesis tableDistinct made))

theorem HaveDistinctKeys.define
    (entriesDistinct : entries.HaveDistinctKeys)
    (valueDistinct : value.HasDistinctKeys)
    (defined : entries.define path name value = some result) :
    result.HaveDistinctKeys := by
  refine entriesDistinct.change (fun innerDistinct acted => ?_) defined
  split at acted
  · cases acted
  · split at acted
    · cases acted
    · rename_i absent
      obtain rfl := Option.some.inj acted
      exact innerDistinct.append (notMem_of_get?_eq_none (by simpa using absent))
        (.value valueDistinct)

theorem HaveDistinctKeys.defineIn
    (entriesDistinct : entries.HaveDistinctKeys)
    (valueDistinct : value.HasDistinctKeys)
    (defined : entries.defineIn current path name value = some result) :
    result.HaveDistinctKeys :=
  entriesDistinct.change
    (fun innerDistinct acted => innerDistinct.define valueDistinct acted) defined

theorem HaveDistinctKeys.openTable
    (entriesDistinct : entries.HaveDistinctKeys)
    (opened : entries.openTable path name = some result) :
    result.HaveDistinctKeys := by
  refine entriesDistinct.change (fun innerDistinct acted => ?_) opened
  split at acted
  case h_1 absent =>
    obtain rfl := Option.some.inj acted
    exact innerDistinct.append (notMem_of_get?_eq_none absent)
      (Item.table_hasDistinctKeys_iff.mpr .nil)
  case h_2 table found =>
    have tableDistinct := Item.table_hasDistinctKeys_iff.mp (innerDistinct.of_get? found)
    obtain rfl := Option.some.inj acted
    -- a table that was named before is taken out and takes its place at the header
    exact (innerDistinct.filter _).append (by simp)
      (Item.table_hasDistinctKeys_iff.mpr tableDistinct)
  case h_3 => cases acted

theorem HaveDistinctKeys.openRow
    (entriesDistinct : entries.HaveDistinctKeys)
    (opened : entries.openRow path name = some result) :
    result.HaveDistinctKeys := by
  refine entriesDistinct.change (fun innerDistinct acted => ?_) opened
  split at acted
  case h_1 absent =>
    obtain rfl := Option.some.inj acted
    exact innerDistinct.append (notMem_of_get?_eq_none absent)
      (Item.tables_hasDistinctKeys_iff.mpr (by simpa using HaveDistinctKeys.nil))
  case h_2 rows found =>
    have rowsDistinct := Item.tables_hasDistinctKeys_iff.mp (innerDistinct.of_get? found)
    obtain rfl := Option.some.inj acted
    refine innerDistinct.replace
      (Item.tables_hasDistinctKeys_iff.mpr fun row member => ?_)
    rcases List.mem_cons.mp member with rfl | earlier
    · exact .nil
    · exact rowsDistinct row earlier
  case h_3 => cases acted

end Entries

/-! ## What keys stand for in the end -/

theorem entriesToToml_eq_map (entries : Entries) :
    entriesToToml entries = entries.map fun entry => (entry.1, entry.2.toToml) := by
  induction entries with
  | nil => rw [entriesToToml, List.map_nil]
  | cons entry entries inductionHypothesis =>
      rw [entriesToToml, inductionHypothesis, entryToToml, List.map_cons]

theorem rowsToToml_eq_append (rows : List Entries) (behind : List Toml) :
    rowsToToml rows behind =
      (rows.map fun row => .table (entriesToToml row)).reverse ++ behind := by
  induction rows generalizing behind with
  | nil => rw [rowsToToml, List.map_nil, List.reverse_nil, List.nil_append]
  | cons row rows inductionHypothesis =>
      rw [rowsToToml, inductionHypothesis]
      simp

theorem map_fst_entriesToToml (entries : Entries) :
    (entriesToToml entries).map Prod.fst = entries.map Prod.fst := by
  rw [entriesToToml_eq_map, List.map_map]
  rfl

theorem table_entriesToToml_hasDistinctKeys
    {entries : Entries}
    (distinct : (entries.map Prod.fst).Nodup)
    (inner : ∀ entry ∈ entries, entry.2.toToml.HasDistinctKeys) :
    HasDistinctKeys (.table (entriesToToml entries)) := by
  refine .table (by rwa [map_fst_entriesToToml]) fun field member => ?_
  rw [entriesToToml_eq_map] at member
  obtain ⟨entry, isEntry, rfl⟩ := List.mem_map.mp member
  exact inner entry isEntry

theorem Item.HasDistinctKeys.toToml
    {item : Item}
    (itemDistinct : item.HasDistinctKeys) :
    item.toToml.HasDistinctKeys := by
  induction itemDistinct with
  | value valueDistinct => rwa [Item.toToml]
  | table distinct _ inductionHypothesis =>
      rw [Item.toToml]
      exact table_entriesToToml_hasDistinctKeys distinct inductionHypothesis
  | tables distinct _ inductionHypothesis =>
      rw [Item.toToml, rowsToToml_eq_append, List.append_nil]
      refine .array fun table member => ?_
      obtain ⟨row, isRow, rfl⟩ := List.mem_map.mp (List.mem_reverse.mp member)
      exact table_entriesToToml_hasDistinctKeys (distinct row isRow)
        (inductionHypothesis row isRow)

theorem Entries.HaveDistinctKeys.toToml
    {entries : Entries}
    (entriesDistinct : entries.HaveDistinctKeys) :
    HasDistinctKeys (.table (entriesToToml entries)) :=
  table_entriesToToml_hasDistinctKeys entriesDistinct.distinct fun entry member =>
    (entriesDistinct.inner entry member).toToml

/-! ## Reading values -/

theorem isScalar_of_wordInteger?
    {number : Int}
    {value : Toml}
    (fits : wordInteger? number = some value) :
    value.isScalar = true := by
  unfold wordInteger? at fits
  split at fits
  · obtain rfl := Option.some.inj fits
    rfl
  · cases fits

theorem isScalar_of_based
    {base : Nat}
    {digits : List Char}
    {value : Toml}
    (read : integer?.based base digits = some value) :
    value.isScalar = true := by
  unfold integer?.based at read
  split at read
  · exact isScalar_of_wordInteger? read
  · cases read

theorem isScalar_of_integer?
    {chars : List Char}
    {value : Toml}
    (read : integer? chars = some value) :
    value.isScalar = true := by
  unfold integer? at read
  split at read
  · exact isScalar_of_based read
  · exact isScalar_of_based read
  · exact isScalar_of_based read
  · dsimp only at read
    split at read
    · exact isScalar_of_wordInteger? read
    · cases read

theorem isScalar_of_decimal?
    {negative : Bool}
    {chars : List Char}
    {value : Toml}
    (read : decimal? negative chars = some value) :
    value.isScalar = true := by
  simp only [decimal?, Option.bind_eq_bind, Option.bind_eq_some_iff] at read
  obtain ⟨digits, _, whole, _, read⟩ := read
  have ends : ∀ {empty : Bool} {rest : List Char} {text? : Int → Option String},
      (if empty then none
        else (exponent? rest).bind fun exponent => (text? exponent).map .float) =
          some value →
      value.isScalar = true := by
    intro empty rest text? given
    split at given
    · cases given
    · obtain ⟨exponent, _, given⟩ := Option.bind_eq_some_iff.mp given
      obtain ⟨text, _, rfl⟩ := Option.map_eq_some_iff.mp given
      rfl
  split at read
  · split at read
    · cases read
    · rw [Option.bind_some] at read
      exact ends read
  · rw [Option.bind_some] at read
    exact ends read

theorem isScalar_of_float?
    {chars : List Char}
    {value : Toml}
    (read : float? chars = some value) :
    value.isScalar = true := by
  unfold float? at read
  dsimp only at read
  split at read
  · obtain rfl := Option.some.inj read
    rfl
  · split at read
    · obtain rfl := Option.some.inj read
      rfl
    · exact isScalar_of_decimal? read

theorem isScalar_of_scalar?
    {chars : List Char}
    {value : Toml}
    (read : scalar? chars = some value) :
    value.isScalar = true := by
  unfold scalar? at read
  split_ifs at read
  · obtain rfl := Option.some.inj read
    rfl
  · obtain rfl := Option.some.inj read
    rfl
  · obtain rfl := Option.some.inj read
    rfl
  · rw [Option.orElse_eq_orElse, Option.orElse_eq_or] at read
    rcases Option.or_eq_some_iff.mp read with whole | ⟨_, fraction⟩
    · exact isScalar_of_integer? whole
    · exact isScalar_of_float? fraction

/-- With some fuel, everything that is read has distinct keys if what was read before
has. -/
structure ReadsDistinctKeys (fuel : Nat) : Prop where
  value {depth : Nat} {chars rest : List Char} {value : Toml} :
    readValue? fuel depth chars = some (value, rest) → value.HasDistinctKeys
  items {depth : Nat} {read : List Toml} {chars rest : List Char} {value : Toml} :
    (∀ item ∈ read, HasDistinctKeys item) →
      readItems? fuel depth read chars = some (value, rest) → value.HasDistinctKeys
  pairs {depth : Nat} {entries : Entries} {chars rest : List Char} {value : Toml} :
    entries.HaveDistinctKeys →
      readPairs? fuel depth entries chars = some (value, rest) → value.HasDistinctKeys

namespace ReadsDistinctKeys

variable {fuel depth : Nat} {chars rest : List Char} {value : Toml}

theorem value_succ
    (reads : ReadsDistinctKeys fuel)
    (found : readValue? (fuel + 1) depth chars = some (value, rest)) :
    value.HasDistinctKeys := by
  unfold readValue? at found
  split at found
  case h_1 | h_2 =>
    obtain ⟨text, _, same⟩ := Option.map_eq_some_iff.mp found
    obtain ⟨rfl, _⟩ := Prod.mk.inj same
    exact .scalar rfl
  case h_3 =>
    split at found
    · cases found
    · exact reads.items (by simp) found
  case h_4 =>
    split at found
    · cases found
    · split at found
      · obtain ⟨rfl, _⟩ := Prod.mk.inj (Option.some.inj found)
        exact .table List.nodup_nil (by simp)
      · exact reads.pairs .nil found
  case h_5 =>
    obtain ⟨scalar, isRead, same⟩ := Option.map_eq_some_iff.mp found
    obtain ⟨rfl, _⟩ := Prod.mk.inj same
    exact .scalar (isScalar_of_scalar? isRead)

theorem items_succ
    {read : List Toml}
    (reads : ReadsDistinctKeys fuel)
    (before : ∀ item ∈ read, HasDistinctKeys item)
    (found : readItems? (fuel + 1) depth read chars = some (value, rest)) :
    value.HasDistinctKeys := by
  unfold readItems? at found
  split at found
  · obtain ⟨rfl, _⟩ := Prod.mk.inj (Option.some.inj found)
    exact .array fun item member => before item (List.mem_reverse.mp member)
  · split at found
    · cases found
    · rename_i item behind isRead
      have also : ∀ other ∈ item :: read, HasDistinctKeys other :=
        List.forall_mem_cons.mpr ⟨reads.value isRead, before⟩
      split at found
      · exact reads.items also found
      · obtain ⟨rfl, _⟩ := Prod.mk.inj (Option.some.inj found)
        exact .array fun other member => also other (List.mem_reverse.mp member)
      · cases found

theorem pairs_succ
    {entries : Entries}
    (reads : ReadsDistinctKeys fuel)
    (entriesDistinct : entries.HaveDistinctKeys)
    (found : readPairs? (fuel + 1) depth entries chars = some (value, rest)) :
    value.HasDistinctKeys := by
  unfold readPairs? at found
  split at found
  · split at found
    · cases found
    · rename_i item behind isRead
      split at found
      · cases found
      · rename_i more defined
        have moreDistinct := entriesDistinct.define (reads.value isRead) defined
        split at found
        · exact reads.pairs moreDistinct found
        · obtain ⟨rfl, _⟩ := Prod.mk.inj (Option.some.inj found)
          exact moreDistinct.toToml
        · cases found
  · cases found

end ReadsDistinctKeys

theorem readsDistinctKeys (fuel : Nat) : ReadsDistinctKeys fuel := by
  induction fuel with
  | zero =>
      constructor
      · intro depth chars rest value found
        rw [readValue?] at found
        cases found
      · intro depth read chars rest value _ found
        rw [readItems?] at found
        cases found
      · intro depth entries chars rest value _ found
        rw [readPairs?] at found
        cases found
  | succ fuel reads => exact ⟨reads.value_succ, reads.items_succ, reads.pairs_succ⟩

/-! ## Reading documents -/

variable {fuel : Nat} {document next : Document} {chars rest : List Char}

/-- A statement keeps the keys of a document distinct. -/
theorem readStatement?_distinct
    (distinct : document.entries.HaveDistinctKeys)
    (found : readStatement? fuel document chars = some (next, rest)) :
    next.entries.HaveDistinctKeys := by
  unfold readStatement? at found
  split at found
  · obtain ⟨rfl, _⟩ := Prod.mk.inj (Option.some.inj found)
    exact distinct
  · obtain ⟨behind, _, same⟩ := Option.map_eq_some_iff.mp found
    obtain ⟨rfl, _⟩ := Prod.mk.inj same
    exact distinct
  · split at found
    · simp only [Option.bind_eq_bind, Option.bind_eq_some_iff] at found
      obtain ⟨entries, opened, behind, _, same⟩ := found
      obtain ⟨rfl, _⟩ := Prod.mk.inj (Option.some.inj same)
      exact distinct.openRow opened
    · cases found
  · split at found
    · simp only [Option.bind_eq_bind, Option.bind_eq_some_iff] at found
      obtain ⟨entries, opened, behind, _, same⟩ := found
      obtain ⟨rfl, _⟩ := Prod.mk.inj (Option.some.inj same)
      exact distinct.openTable opened
    · cases found
  · split at found
    · obtain ⟨rfl, _⟩ := Prod.mk.inj (Option.some.inj found)
      exact distinct
    · split at found
      · simp only [Option.bind_eq_bind, Option.bind_eq_some_iff] at found
        obtain ⟨⟨value, behind⟩, isRead, entries, defined, _, _, same⟩ := found
        obtain ⟨rfl, _⟩ := Prod.mk.inj (Option.some.inj same)
        exact distinct.defineIn ((readsDistinctKeys _).value isRead) defined
      · cases found

/-- All statements together keep the keys of a document distinct. -/
theorem readStatements?_distinct
    (distinct : document.entries.HaveDistinctKeys)
    (found : readStatements? fuel document chars = some next) :
    next.entries.HaveDistinctKeys := by
  induction fuel generalizing document chars with
  | zero =>
      cases chars with
      | nil =>
          obtain rfl := Option.some.inj found
          exact distinct
      | cons char chars => cases found
  | succ fuel inductionHypothesis =>
      cases chars with
      | nil =>
          obtain rfl := Option.some.inj found
          exact distinct
      | cons char chars =>
          simp only [readStatements?] at found
          split at found
          · rename_i between behind isRead
            exact inductionHypothesis (readStatement?_distinct distinct isRead) found
          · cases found

/-- No table of a document gives a key twice. -/
theorem hasDistinctKeys_of_parse?
    {fields : List (String × Toml)}
    (parsed : parse? chars = some fields) :
    HasDistinctKeys (.table fields) := by
  obtain ⟨document, isRead, rfl⟩ := Option.map_eq_some_iff.mp parsed
  exact (readStatements?_distinct .nil isRead).toToml

end Toml
end ScriptAudit
