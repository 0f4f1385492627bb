import Mathlib.Data.List.Basic
import Mathlib.Data.List.DropRight
import Mathlib.Data.List.TakeDrop
import Mathlib.Tactic.SplitIfs
import ScriptAudit.Json.Reader

/-!
# Reading what was written

The reader takes back the indented text of a value: strings with whatever characters,
numbers that are machine words, and arrays and objects of such values. What follows the
text is left alone, as long as it cannot be taken for more digits of a number.
-/

namespace ScriptAudit
namespace Json

/-! ## Strings -/

theorem hexValue?_digitChar :
    ∀ digit < 16, hexValue? (Nat.digitChar digit) = some digit := by
  decide

theorem hexCode_control :
    ∀ code < 32, hexCode code =
      ['0', '0', Nat.digitChar (code / 16), Nat.digitChar (code % 16)] := by
  decide

theorem codeValue?_control
    {code : Nat}
    (control : code < 32) :
    codeValue? '0' '0' (Nat.digitChar (code / 16)) (Nat.digitChar (code % 16)) =
      some code := by
  have zero : hexValue? '0' = some 0 := by decide
  rw [codeValue?, zero, hexValue?_digitChar _ (by omega),
    hexValue?_digitChar _ (by omega)]
  simp only [Option.bind_eq_bind, Option.bind_some, Option.some.injEq]
  omega

theorem readString?_backslash
    {letter char : Char}
    (known : unescape? letter = some char)
    (read rest : List Char) :
    readString? read ('\\' :: letter :: rest) = readString? (char :: read) rest := by
  have noCode : letter ≠ 'u' := by
    rintro rfl
    simp [unescape?] at known
  simp [readString?, known, noCode]

theorem readString?_escapeChar (read rest : List Char) (char : Char) :
    readString? read (escapeChar char ++ rest) = readString? (char :: read) rest := by
  unfold escapeChar
  split_ifs with quote backslash lineFeed carriageReturn tab backspace formFeed control
  · subst quote
    exact readString?_backslash rfl read rest
  · subst backslash
    exact readString?_backslash rfl read rest
  · subst lineFeed
    exact readString?_backslash rfl read rest
  · subst carriageReturn
    exact readString?_backslash rfl read rest
  · subst tab
    exact readString?_backslash rfl read rest
  · subst backspace
    exact readString?_backslash rfl read rest
  · subst formFeed
    exact readString?_backslash rfl read rest
  · have noSurrogate : char.toNat < 0xD800 := by omega
    simp [readString?, hexCode_control _ control, codeValue?_control control, noSurrogate]
  · simp [readString?, backslash, control]

theorem readString?_flatMap_escapeChar (read chars rest : List Char) :
    readString? read (chars.flatMap escapeChar ++ '"' :: rest) =
      some (read.reverse ++ chars, rest) := by
  induction chars generalizing read with
  | nil => simp [readString?]
  | cons char chars inductionHypothesis =>
      rw [List.flatMap_cons, List.append_assoc, readString?_escapeChar,
        inductionHypothesis, List.reverse_cons, List.append_assoc, List.singleton_append]

/-! ## Numbers -/

/-- Whether a text cannot go on with a number in front of it. -/
def EndsNumber (rest : List Char) : Prop :=
  ∀ char ∈ rest.head?, char.isDigit = false ∧ char ≠ '.' ∧ char ≠ 'e' ∧ char ≠ 'E'

theorem foldl_pushWhole_toDigits
    {value : Nat}
    (isWord : value < Number.wordRange) :
    (Nat.toDigits 10 value).foldl Significand.pushWhole {} = { digits := value } := by
  induction value using Nat.base_induction 10 (by decide) with
  | single value isDigit =>
      rw [Nat.toDigits_of_lt_base isDigit]
      simp [Significand.pushWhole, Significand.fits,
        Nat.toNat_digitChar_sub_48_of_lt_ten isDigit, isWord]
  | digit front last isDigit positive inductionHypothesis =>
      rw [← Nat.toDigits_append_toDigits (by decide) positive isDigit, List.foldl_append,
        inductionHypothesis (by omega), Nat.toDigits_of_lt_base isDigit]
      have fits : front * 10 + last < Number.wordRange := by omega
      simp [Significand.pushWhole, Significand.fits,
        Nat.toNat_digitChar_sub_48_of_lt_ten isDigit, fits, Nat.mul_comm]

/-- A number is written without superfluous zeros. -/
theorem head?_toDigits_ne_zero
    {value : Nat}
    (positive : 0 < value) :
    (Nat.toDigits 10 value).head? ≠ some '0' := by
  induction value using Nat.base_induction 10 (by decide) with
  | single value isDigit =>
      rw [Nat.toDigits_of_lt_base isDigit]
      simp
      omega
  | digit front last isDigit frontPositive inductionHypothesis =>
      rw [← Nat.toDigits_append_toDigits (by decide) frontPositive isDigit,
        List.head?_append_of_ne_nil _ Nat.toDigits_ne_nil]
      exact inductionHypothesis frontPositive

theorem not_superfluous_zero (value : Nat) :
    ¬((Nat.toDigits 10 value).length ≠ 1 ∧ (Nat.toDigits 10 value).head? = some '0') := by
  rintro ⟨several, startsWithZero⟩
  rcases Nat.eq_zero_or_pos value with rfl | positive
  · exact several rfl
  · exact head?_toDigits_ne_zero positive startsWithZero

theorem span_toDigits
    (value : Nat)
    {rest : List Char}
    (ends : EndsNumber rest) :
    (Nat.toDigits 10 value ++ rest).span Char.isDigit =
      (Nat.toDigits 10 value, rest) := by
  have digits : ∀ char ∈ Nat.toDigits 10 value, char.isDigit = true := fun char isPart =>
    Nat.isDigit_of_mem_toDigits (by decide) (by decide) isPart
  rw [List.span_eq_takeWhile_dropWhile, List.takeWhile_append_of_pos digits,
    List.dropWhile_append_of_pos digits]
  cases rest with
  | nil => simp
  | cons char rest => simp [(ends char rfl).1]

/-- A machine word is read as this number. -/
theorem readMagnitude?_toDigits
    {value : Nat}
    (isWord : value < Number.wordRange)
    {rest : List Char}
    (ends : EndsNumber rest) :
    readMagnitude? false (Nat.toDigits 10 value ++ rest) = some (.int value, rest) := by
  have noZero := not_superfluous_zero value
  have whole := foldl_pushWhole_toDigits isWord
  have written : Nat.toDigits 10 value ≠ [] := Nat.toDigits_ne_nil
  rw [readMagnitude?, span_toDigits value ends]
  generalize Nat.toDigits 10 value = digits at noZero whole written ⊢
  cases digits with
  | nil => exact absurd rfl written
  | cons first others =>
      cases rest with
      | nil => simp_all [Significand.toJson]
      | cons char rest =>
          obtain ⟨_, noPoint, noSmallExponent, noLargeExponent⟩ := ends char rfl
          simp_all [Significand.toJson]

/-! ## White space -/

@[simp] theorem skipSpace_space (text : List Char) :
    skipSpace (' ' :: text) = skipSpace text := by
  simp [skipSpace]

@[simp] theorem skipSpace_newline (text : List Char) :
    skipSpace ('\n' :: text) = skipSpace text := by
  simp [skipSpace]

@[simp] theorem skipSpace_indentation (depth : Nat) (text : List Char) :
    skipSpace (indentation depth ++ text) = skipSpace text :=
  List.dropWhile_append_of_pos (by simp [indentation])

@[simp] theorem skipSpace_skipSpace (text : List Char) :
    skipSpace (skipSpace text) = skipSpace text :=
  List.dropWhile_idempotent _ text

theorem readValue?_congr
    {text other : List Char}
    (same : skipSpace text = skipSpace other)
    (fuel : Nat) :
    readValue? fuel text = readValue? fuel other := by
  cases fuel with
  | zero => rfl
  | succ fuel => simp only [readValue?, same]

theorem readItems?_congr
    {text other : List Char}
    (same : skipSpace text = skipSpace other)
    (fuel : Nat)
    (read : List Json) :
    readItems? fuel read text = readItems? fuel read other := by
  cases fuel with
  | zero => rfl
  | succ fuel => simp only [readItems?, readValue?_congr same]

theorem readFields?_congr
    {text other : List Char}
    (same : skipSpace text = skipSpace other)
    (fuel : Nat)
    (read : List (String × Json)) :
    readFields? fuel read text = readFields? fuel read other := by
  cases fuel with
  | zero => rfl
  | succ fuel => simp only [readFields?, same]

/-! ## Arrays and objects -/

theorem readValue?_array
    {text : List Char}
    (isOpen : ∀ rest, skipSpace text ≠ ']' :: rest)
    (fuel : Nat) :
    readValue? (fuel + 1) ('[' :: text) = readItems? fuel [] text := by
  rw [← readItems?_congr (skipSpace_skipSpace text)]
  have opening : skipSpace ('[' :: text) = '[' :: text := by simp [skipSpace]
  simp only [readValue?, opening]

theorem readValue?_object
    {text : List Char}
    (isOpen : ∀ rest, skipSpace text ≠ '\x7d' :: rest)
    (fuel : Nat) :
    readValue? (fuel + 1) ('\x7b' :: text) = readFields? fuel [] text := by
  rw [← readFields?_congr (skipSpace_skipSpace text)]
  have opening : skipSpace ('\x7b' :: text) = '\x7b' :: text := by simp [skipSpace]
  simp only [readValue?, opening]

/-- The text of a value is read as this value, whatever follows. -/
def IsReadBack (value : Json) : Prop :=
  ∀ depth fuel rest, (prettyAt depth value).length ≤ fuel → EndsNumber rest →
    readValue? (fuel + 1) (prettyAt depth value ++ rest) = some (value, rest)

theorem IsReadBack.of_length_lt
    {value : Json}
    (readBack : value.IsReadBack)
    {depth fuel : Nat}
    (short : (prettyAt depth value).length < fuel)
    {rest : List Char}
    (ends : EndsNumber rest) :
    readValue? fuel (prettyAt depth value ++ rest) = some (value, rest) := by
  cases fuel with
  | zero => exact absurd short (Nat.not_lt_zero _)
  | succ fuel => exact readBack depth fuel rest (Nat.le_of_lt_succ short) ends

@[simp] theorem prettyItems_eq_map (depth : Nat) (items : List Json) :
    prettyItems depth items = items.map (prettyAt depth) := by
  induction items with
  | nil => rw [prettyItems, List.map_nil]
  | cons item items inductionHypothesis =>
      rw [prettyItems, inductionHypothesis, List.map_cons]

@[simp] theorem prettyFields_eq_map (depth : Nat) (fields : List (String × Json)) :
    prettyFields depth fields = fields.map (prettyField depth) := by
  induction fields with
  | nil => rw [prettyFields, List.map_nil]
  | cons field fields inductionHypothesis =>
      rw [prettyFields, inductionHypothesis, List.map_cons]

/-- What follows the last item or field: the closing bracket on a line of its own. -/
def closed (depth : Nat) (closing : Char) (rest : List Char) : List Char :=
  '\n' :: (indentation depth ++ closing :: rest)

theorem skipSpace_closed
    {closing : Char}
    (known : closing = ']' ∨ closing = '\x7d')
    (depth : Nat)
    (rest : List Char) :
    skipSpace (closed depth closing rest) = closing :: rest := by
  rw [closed, skipSpace_newline, skipSpace_indentation]
  rcases known with rfl | rfl <;> simp [skipSpace]

theorem endsNumber_closed (depth : Nat) (closing : Char) (rest : List Char) :
    EndsNumber (closed depth closing rest) := by
  simp [EndsNumber, closed]

theorem endsNumber_comma (rest : List Char) : EndsNumber (',' :: rest) := by
  simp [EndsNumber]

theorem skipSpace_comma (rest : List Char) : skipSpace (',' :: rest) = ',' :: rest := by
  simp [skipSpace]

theorem separated_cons_cons (depth : Nat) (text next : List Char)
    (texts : List (List Char)) : separated depth (text :: next :: texts) =
      indentation depth ++ (text ++ ',' :: '\n' :: separated depth (next :: texts)) := by
  rw [separated.eq_def]
  simp

/-- A reader of the elements between two brackets, which takes back the texts of
elements, each followed by a comma or by the closing bracket. -/
structure ReadsEach
    (reader : Nat → List α → List Char → Option (Json × List Char))
    (written : α → List Char)
    (closing : Char)
    (result : List α → Json)
    (elements : List α) : Prop where
  skips : ∀ {text other}, skipSpace text = skipSpace other → ∀ fuel read,
    reader fuel read text = reader fuel read other
  last : ∀ element ∈ elements, ∀ fuel read tail rest, (written element).length < fuel →
    EndsNumber tail → skipSpace tail = closing :: rest →
      reader (fuel + 1) read (written element ++ tail) =
        some (result (read.reverse ++ [element]), rest)
  next : ∀ element ∈ elements, ∀ fuel read tail rest, (written element).length < fuel →
    EndsNumber tail → skipSpace tail = ',' :: rest →
      reader (fuel + 1) read (written element ++ tail) =
        reader fuel (element :: read) rest

/-- Elements that are read one by one are read all. -/
theorem ReadsEach.separated
    {reader : Nat → List α → List Char → Option (Json × List Char)}
    {written : α → List Char}
    {closing : Char}
    {result : List α → Json}
    {element : α}
    {elements : List α}
    (reads : ReadsEach reader written closing result (element :: elements))
    (known : closing = ']' ∨ closing = '\x7d')
    {inner fuel : Nat}
    (enough : (separated inner ((element :: elements).map written)).length + 1 < fuel)
    (read : List α)
    (depth : Nat)
    (rest : List Char) :
    reader fuel read
        (Json.separated inner ((element :: elements).map written) ++
          closed depth closing rest) =
      some (result (read.reverse ++ element :: elements), rest) := by
  induction elements generalizing element fuel read with
  | nil =>
      obtain ⟨fuel, rfl⟩ : ∃ less, fuel = less + 1 := ⟨fuel - 1, by omega⟩
      rw [List.map_singleton, Json.separated, List.append_assoc,
        reads.skips (skipSpace_indentation _ _)]
      rw [List.map_singleton, Json.separated, List.length_append] at enough
      exact reads.last element List.mem_cons_self fuel read _ rest (by omega)
        (endsNumber_closed depth closing rest) (skipSpace_closed known depth rest)
  | cons next elements inductionHypothesis =>
      obtain ⟨fuel, rfl⟩ : ∃ less, fuel = less + 1 := ⟨fuel - 1, by omega⟩
      rw [List.map_cons, List.map_cons, separated_cons_cons] at enough ⊢
      simp only [List.length_append, List.length_cons] at enough
      have later : ReadsEach reader written closing result (next :: elements) :=
        ⟨reads.skips, fun other isLater =>
          reads.last other (List.mem_cons_of_mem _ isLater),
          fun other isLater => reads.next other (List.mem_cons_of_mem _ isLater)⟩
      rw [List.append_assoc, reads.skips (skipSpace_indentation _ _), List.append_assoc,
        List.cons_append,
        reads.next element List.mem_cons_self fuel read _ _ (by omega)
          (endsNumber_comma _) (skipSpace_comma _),
        List.cons_append, reads.skips (skipSpace_newline _), ← List.map_cons,
        inductionHypothesis later (by rw [List.map_cons]; omega)]
      simp

theorem readsEach_items
    {items : List Json}
    (readBack : ∀ item ∈ items, item.IsReadBack)
    (inner : Nat) :
    ReadsEach readItems? (prettyAt inner) ']' .array items where
  skips same fuel read := readItems?_congr same fuel read
  last item isItem fuel read tail rest short ends closes := by
    simp [readItems?, (readBack item isItem).of_length_lt short ends, closes]
  next item isItem fuel read tail rest short ends continues := by
    simp [readItems?, (readBack item isItem).of_length_lt short ends, continues]

theorem skipSpace_colon (rest : List Char) : skipSpace (':' :: rest) = ':' :: rest := by
  simp [skipSpace]

theorem prettyField_eq (depth : Nat) (field : String × Json) :
    prettyField depth field = stringText field.1 ++ ':' :: ' ' ::
      prettyAt depth field.2 := by
  obtain ⟨name, value⟩ := field
  rw [prettyField]

/-- A field starts with the quote in front of its name. -/
theorem skipSpace_prettyField
    (inner : Nat)
    (field : String × Json)
    (tail : List Char) :
    skipSpace (prettyField inner field ++ tail) =
      '"' :: (field.1.toList.flatMap escapeChar ++
        '"' :: ':' :: ' ' :: (prettyAt inner field.2 ++ tail)) := by
  simp [prettyField_eq, stringText, skipSpace]

/-- The value of a field is read behind a blank. -/
theorem IsReadBack.of_field
    {field : String × Json}
    (readBack : field.2.IsReadBack)
    {inner fuel : Nat}
    (short : (prettyField inner field).length < fuel)
    {tail : List Char}
    (ends : EndsNumber tail) :
    readValue? fuel (' ' :: (prettyAt inner field.2 ++ tail)) = some (field.2, tail) := by
  have shortValue : (prettyAt inner field.2).length < fuel := by
    simp [prettyField_eq] at short
    omega
  rw [readValue?_congr (skipSpace_space _)]
  exact readBack.of_length_lt shortValue ends

theorem readsEach_fields
    {fields : List (String × Json)}
    (readBack : ∀ field ∈ fields, field.2.IsReadBack)
    (inner : Nat) :
    ReadsEach readFields? (prettyField inner) '\x7d' .object fields where
  skips same fuel read := readFields?_congr same fuel read
  last field isField fuel read tail rest short ends closes := by
    simp [readFields?, skipSpace_prettyField,
      readString?_flatMap_escapeChar, skipSpace_colon,
      (readBack field isField).of_field short ends, closes]
  next field isField fuel read tail rest short ends continues := by
    simp [readFields?, skipSpace_prettyField,
      readString?_flatMap_escapeChar, skipSpace_colon,
      (readBack field isField).of_field short ends, continues]

/-! ## Values -/

/-- A value whose numbers are machine words. -/
inductive IsPlain : Json → Prop
  | null : IsPlain .null
  | bool (value : Bool) : IsPlain (.bool value)
  | word (value : Nat) (isWord : value < Number.wordRange) : IsPlain (.int value)
  | string (value : String) : IsPlain (.string value)
  | array (items : List Json) (plain : ∀ item ∈ items, IsPlain item) :
    IsPlain (.array items)
  | object (fields : List (String × Json)) (plain : ∀ field ∈ fields, IsPlain field.2) :
      IsPlain (.object fields)

theorem isPlain_array_iff {items : List Json} :
    IsPlain (.array items) ↔ ∀ item ∈ items, item.IsPlain := by
  constructor
  · intro plain
    cases plain with
    | array _ plain => exact plain
  · exact IsPlain.array items

theorem isPlain_object_iff {fields : List (String × Json)} :
    IsPlain (.object fields) ↔ ∀ field ∈ fields, field.2.IsPlain := by
  constructor
  · intro plain
    cases plain with
    | object _ plain => exact plain
  · exact IsPlain.object fields

theorem ne_of_isDigit
    {char other : Char}
    (isDigit : char.isDigit = true)
    (isOther : other.isDigit = false) :
    char ≠ other := by
  rintro rfl
  exact Bool.noConfusion (isDigit.symm.trans isOther)

theorem exists_first_digit (value : Nat) :
    ∃ first others, Nat.toDigits 10 value = first :: others ∧ first.isDigit = true := by
  have digits : ∀ char ∈ Nat.toDigits 10 value, char.isDigit = true := fun char isPart =>
    Nat.isDigit_of_mem_toDigits (by decide) (by decide) isPart
  obtain ⟨first, others, written⟩ : ∃ first others,
      Nat.toDigits 10 value = first :: others :=
    List.exists_cons_of_ne_nil Nat.toDigits_ne_nil
  exact ⟨first, others, written, digits first (written ▸ List.mem_cons_self)⟩

theorem skipSpace_digit
    {first : Char}
    (isDigit : first.isDigit = true)
    (rest : List Char) :
    skipSpace (first :: rest) = first :: rest := by
  simp [skipSpace, ne_of_isDigit isDigit]

theorem exists_block
    (depth : Nat)
    (opening closing : Char)
    (texts : List (List Char)) :
    ∃ others, block depth opening closing texts = opening :: others := by
  cases texts with
  | nil => exact ⟨[closing], rfl⟩
  | cons text texts => exact ⟨_, rfl⟩

theorem block_cons_append
    (depth : Nat)
    (opening closing : Char)
    (text : List Char)
    (texts : List (List Char))
    (rest : List Char) :
    block depth opening closing (text :: texts) ++ rest =
      opening :: '\n' :: (separated (depth + 1) (text :: texts) ++
        closed depth closing rest) := by
  simp [block, closed]

/-- A value starts with a character that is neither white space nor closes an array. -/
theorem IsPlain.exists_first
    {value : Json}
    (plain : value.IsPlain)
    (depth : Nat) :
    ∃ first others, prettyAt depth value = first :: others ∧ first ≠ ']' ∧
      ∀ rest, skipSpace (first :: rest) = first :: rest := by
  cases plain with
  | null => exact ⟨'n', _, by rw [prettyAt], by decide, by simp [skipSpace]⟩
  | bool value =>
      cases value with
      | true => exact ⟨'t', _, by rw [prettyAt], by decide, by simp [skipSpace]⟩
      | false => exact ⟨'f', _, by rw [prettyAt], by decide, by simp [skipSpace]⟩
  | word value isWord =>
      obtain ⟨first, others, written, isDigit⟩ := exists_first_digit value
      refine ⟨first, others, ?_, ne_of_isDigit isDigit (by decide),
        skipSpace_digit isDigit⟩
      rw [prettyAt, ← written]
      rfl
  | string value =>
      refine ⟨'"', value.toList.flatMap escapeChar ++ ['"'], ?_, by decide,
        by simp [skipSpace]⟩
      rw [prettyAt, stringText, List.cons_append]
  | array items plain =>
      obtain ⟨others, opens⟩ := exists_block depth '[' ']' (prettyItems (depth + 1) items)
      exact ⟨'[', others, by rw [prettyAt, opens], by decide, by simp [skipSpace]⟩
  | object fields plain =>
      obtain ⟨others, opens⟩ :=
        exists_block depth '\x7b' '\x7d' (prettyFields (depth + 1) fields)
      exact ⟨'\x7b', others, by rw [prettyAt, opens], by decide, by simp [skipSpace]⟩

theorem separated_cons
    (depth : Nat)
    (text : List Char)
    (texts : List (List Char)) :
    ∃ behind, separated depth (text :: texts) = indentation depth ++
      (text ++ behind) := by
  cases texts with
  | nil => exact ⟨[], by simp [separated]⟩
  | cons next texts => exact ⟨_, separated_cons_cons depth text next texts⟩

theorem isReadBack_word
    {value : Nat}
    (isWord : value < Number.wordRange) :
    IsReadBack (.int value) := by
  intro depth fuel rest enough ends
  obtain ⟨first, others, written, isDigit⟩ := exists_first_digit value
  have read := readMagnitude?_toDigits isWord ends
  have text : prettyAt depth (.int value) = Nat.toDigits 10 value := by
    rw [prettyAt]
    rfl
  rw [text]
  rw [written, List.cons_append] at read ⊢
  rw [readValue?, skipSpace_digit isDigit]
  simp [ne_of_isDigit isDigit, read]

theorem isReadBack_array
    {items : List Json}
    (plain : ∀ item ∈ items, item.IsPlain)
    (readBack : ∀ item ∈ items, item.IsReadBack) :
    IsReadBack (.array items) := by
  intro depth fuel rest enough ends
  cases items with
  | nil => simp [prettyAt, readValue?, skipSpace, block]
  | cons item items =>
      rw [prettyAt, prettyItems_eq_map, List.map_cons] at enough ⊢
      have short : (separated (depth + 1) (prettyAt (depth + 1) item ::
          items.map (prettyAt (depth + 1)))).length + 1 < fuel := by
        simp [block] at enough
        omega
      rw [block_cons_append, readValue?_array _ fuel,
        readItems?_congr (skipSpace_newline _), ← List.map_cons]
      · exact (readsEach_items readBack (depth + 1)).separated
          (.inl rfl) short [] depth rest
      · intro behind
        obtain ⟨first, others, written, noBracket, visible⟩ :=
          (plain item List.mem_cons_self).exists_first (depth + 1)
        obtain ⟨tail, text⟩ := separated_cons (depth + 1) (prettyAt (depth + 1) item)
          (items.map (prettyAt (depth + 1)))
        rw [skipSpace_newline, text, List.append_assoc, skipSpace_indentation, written,
          List.cons_append, List.cons_append, visible]
        simp [noBracket]

theorem isReadBack_object
    {fields : List (String × Json)}
    (readBack : ∀ field ∈ fields, field.2.IsReadBack) :
    IsReadBack (.object fields) := by
  intro depth fuel rest enough ends
  cases fields with
  | nil => simp [prettyAt, readValue?, skipSpace, block]
  | cons field fields =>
      rw [prettyAt, prettyFields_eq_map, List.map_cons] at enough ⊢
      have short : (separated (depth + 1) (prettyField (depth + 1) field ::
          fields.map (prettyField (depth + 1)))).length + 1 < fuel := by
        simp [block] at enough
        omega
      rw [block_cons_append, readValue?_object _ fuel,
        readFields?_congr (skipSpace_newline _), ← List.map_cons]
      · exact (readsEach_fields readBack (depth + 1)).separated
          (.inr rfl) short [] depth rest
      · intro behind
        obtain ⟨tail, text⟩ := separated_cons (depth + 1) (prettyField (depth + 1) field)
          (fields.map (prettyField (depth + 1)))
        rw [skipSpace_newline, text, List.append_assoc,
          skipSpace_indentation, List.append_assoc, skipSpace_prettyField]
        simp

/-- The text of a value is read as this value. -/
theorem IsPlain.isReadBack
    {value : Json}
    (plain : value.IsPlain) :
    value.IsReadBack := by
  induction plain with
  | null =>
      intro depth fuel rest enough ends
      simp [prettyAt, readValue?, skipSpace]
  | bool value =>
      intro depth fuel rest enough ends
      cases value <;> simp [prettyAt, readValue?, skipSpace]
  | word value isWord => exact isReadBack_word isWord
  | string value =>
      intro depth fuel rest enough ends
      simp [prettyAt, readValue?, skipSpace, stringText, readString?_flatMap_escapeChar]
  | array items plain readBack => exact isReadBack_array plain readBack
  | object fields plain readBack => exact isReadBack_object readBack

/-- A text that was written is parsed as the value it was written for. -/
theorem IsPlain.parse?_pretty
    {value : Json}
    (plain : value.IsPlain) :
    parse? value.pretty = some value := by
  have read := plain.isReadBack 0 _ [] (Nat.le_refl _) (by simp [EndsNumber])
  rw [List.append_nil] at read
  simp [parse?, pretty, read, skipSpace]

end Json
end ScriptAudit
