import ScriptAudit.Proofs.Catalog.ShortLines
import ScriptAudit.Proofs.Pattern.Wording

/-!
# Requests to other hosts

The rule for requests looks for a call that sends data to an address, and its lookahead
turns down the addresses that go on like the local host. What the rule searches for is
said in terms of the text of a line.
-/

namespace ScriptAudit
namespace Catalog

open Pattern (Regex Line CharClass CharSet)
open Pattern.Regex (word blanks)
open Text (SameLetter smallForm)

/-! ## Calls -/

/-- The methods that send data. -/
def sendingMethods : List (List Char) :=
  ["post".toList, "put".toList, "patch".toList]

/-- What an address begins with. -/
def addressMarks : List (List Char) :=
  ["http://".toList, "https://".toList]

/-- The characters that open a string. -/
def quotes : List Char := ['\'', '"']

/-- The names of the local host. -/
def localNames : List (List Char) :=
  ["localhost".toList, "127.0.0.1".toList]

/-- A text is one of some words in any case. The words are written in small letters. -/
def IsOneOf (words : List (List Char)) (text : List Char) : Prop :=
  text.map smallForm ∈ words

instance (words : List (List Char)) (text : List Char) : Decidable (IsOneOf words text) :=
  inferInstanceAs (Decidable (_ ∈ words))

/-- A text begins with a name of the local host in any case. -/
def BeginsLocal (text : List Char) : Prop :=
  ∃ name ∈ localNames, name <+: text.map smallForm

instance (text : List Char) : Decidable (BeginsLocal text) :=
  inferInstanceAs (Decidable (∃ name ∈ localNames, _))

/-- The text of a call that sends data, up to where the name of the host begins. -/
inductive IsRequest : List Char → Prop
  | intro
      {library method gap inner address : List Char}
      {quote : Char}
      (named : IsOneOf ["requests.".toList] library)
      (sends : IsOneOf sendingMethods method)
      (blank : ∀ char ∈ gap, Text.isBlank char = true)
      (alsoBlank : ∀ char ∈ inner, Text.isBlank char = true)
      (quoted : quote ∈ quotes)
      (addressed : IsOneOf addressMarks address) :
      IsRequest (library ++ (method ++ (gap ++ '(' :: (inner ++ quote :: address))))

/-- A text holds a request to a host whose name does not begin like that of the local
host. -/
def HasOutboundRequest (text : List Char) : Prop :=
  ∃ before request after, text = before ++ (request ++ after) ∧ IsRequest request ∧
    ¬BeginsLocal after

/-! ## The expression -/

/-- The characters that open a string, as a class. -/
def quoteClass : CharClass :=
  .folded (.union (.union .none (.single '\'')) (.single '"'))

/-- The part of the pattern up to the quote. -/
def requestCall : List Regex :=
  word "requests.".toList ++
    .group (some 1) (.oneOf (sendingMethods.map fun method => .seq (word method))) ::
      blanks :: word "(".toList ++ blanks :: [.set (.ofClass quoteClass)]

/-- The part of the pattern for the beginning of an address. -/
def requestAddress : List Regex :=
  word "http".toList ++
    .iterate (.seq (word "s".toList)) 0 (some 1) true :: word "://".toList

/-- What the lookahead turns down. -/
def localHost : Regex :=
  .oneOf (localNames.map fun name => .seq (word name))

/-- The expression that the pattern denotes. -/
def outboundRequest : Regex :=
  .seq
    (requestCall ++
      [.group (some 2) (.seq (requestAddress ++ [.look .ahead true localHost]))])

theorem builtin_outboundRequest :
    PassesOnBuiltin fun id regex => id != "PY-015" || regex.alike outboundRequest := by
  have declared : (⟨"PY-015",
      "requests\\.(post|put|patch)\\s*\\(\\s*['\"](https?://(?!localhost|127\\.0\\.0\\.1))",
      "external data transmission"⟩ : Declaration) ∈ pythonHigh.rules := by
    simp [pythonHigh]
  exact passesOnBuiltin_of_declared (by simp [builtinTables]) declared
    (all_expression?_ofList (by decide +kernel))

theorem spells_word_iff_isOneOf
    {name : List Char}
    (ascii : ∀ letter ∈ name, letter.toNat < 128)
    (small : name.map smallForm = name)
    {text : List Char} :
    (Regex.seq (word name)).Spells text ↔ IsOneOf [name] text := by
  rw [Regex.spells_word_iff ascii, Text.forall₂_sameLetter_iff, small, IsOneOf,
    List.mem_singleton, eq_comm]

theorem spells_oneOf_iff_isOneOf
    {names : List (List Char)}
    (nonempty : names ≠ [])
    (ascii : ∀ name ∈ names, ∀ letter ∈ name, letter.toNat < 128)
    (small : ∀ name ∈ names, name.map smallForm = name)
    {text : List Char} :
    (Regex.oneOf (names.map fun name => .seq (word name))).Spells text ↔
      IsOneOf names text := by
  rw [Regex.spells_oneOf_iff (by simpa using nonempty), IsOneOf]
  constructor
  · rintro ⟨_, isBranch, spelled⟩
    obtain ⟨name, member, rfl⟩ := List.mem_map.mp isBranch
    have isName :=
      (spells_word_iff_isOneOf (ascii name member) (small name member)).mp spelled
    rwa [List.mem_singleton.mp isName]
  · intro member
    exact ⟨_, List.mem_map_of_mem member,
      (spells_word_iff_isOneOf (ascii _ member) (small _ member)).mpr
        (List.mem_singleton.mpr rfl)⟩

theorem contains_quoteClass_iff {char : Char} :
    quoteClass.contains char = true ↔ char ∈ quotes := by
  have members : ∀ member, (CharClass.union (.union .none (.single '\''))
      (.single '"')).contains member = true ↔ member ∈ quotes := by
    intro member
    simp [CharClass.single, CharClass.none, CharClass.contains, quotes, ← Char.toNat_inj]
    omega
  have alone : ∀ member ∈ quotes, ∀ other, SameLetter member other ↔ member = other := by
    intro member isQuote other
    have uncased : ∀ quote ∈ quotes,
        quote ∉ Text.otherForms.map smallForm ∧ quote ∉ Text.otherForms := by decide
    exact Text.sameLetter_iff_eq (uncased member isQuote).1 (uncased member isQuote).2
  rw [quoteClass, CharClass.contains_folded_iff_of_ascii]
  · simp only [members]
    constructor
    · rintro ⟨member, isQuote, same⟩
      exact (alone member isQuote char).mp same ▸ isQuote
    · intro isQuote
      exact ⟨char, isQuote, .refl char⟩
  · intro member contained
    have ascii : ∀ quote ∈ quotes, quote.toNat < 128 := by decide
    exact ascii member ((members member).mp contained)

/-- The parts for an address stand for either beginning of one. -/
theorem spells_requestAddress_iff {text : List Char} :
    (Regex.seq requestAddress).Spells text ↔ IsOneOf addressMarks text := by
  have isScheme : ∀ text, (Regex.seq (word "http".toList)).Spells text ↔
      IsOneOf ["http".toList] text :=
        fun _ => spells_word_iff_isOneOf (by decide) (by decide)
  have isLetter : ∀ text, (Regex.seq (word "s".toList)).Spells text ↔
      IsOneOf ["s".toList] text :=
        fun _ => spells_word_iff_isOneOf (by decide) (by decide)
  have isMark : ∀ text, (Regex.seq (word "://".toList)).Spells text ↔
      IsOneOf ["://".toList] text :=
        fun _ => spells_word_iff_isOneOf (by decide) (by decide)
  simp only [requestAddress, Regex.spells_seq_append, Regex.spells_seq_cons,
    Regex.spells_optional_iff, isScheme, isLetter, isMark, IsOneOf, List.mem_singleton]
  constructor
  · rintro ⟨scheme, _, rfl, isHttp, secure, mark, rfl, rfl | isSecure, isMark⟩
    · simp [addressMarks, isHttp, isMark]
    · simp [addressMarks, isHttp, isSecure, isMark]
  · intro isAddress
    have cases : text.map smallForm = "http".toList ++ ([] ++ "://".toList) ∨
        text.map smallForm = "http".toList ++ ("s".toList ++ "://".toList) := by
      simpa [addressMarks] using isAddress
    rcases cases with plain | secured
    · obtain ⟨scheme, mark, rfl, isHttp, isMark⟩ := List.map_eq_append_iff.mp plain
      exact ⟨scheme, mark, rfl, isHttp, [], mark, rfl, .inl rfl, isMark⟩
    · obtain ⟨scheme, rest, rfl, isHttp, isRest⟩ := List.map_eq_append_iff.mp secured
      obtain ⟨secure, mark, rfl, isSecure, isMark⟩ := List.map_eq_append_iff.mp isRest
      exact ⟨scheme, _, rfl, isHttp, secure, mark, rfl, .inr isSecure, isMark⟩

/-- The parts in front of the lookahead stand for the calls. -/
theorem spells_request_iff {text : List Char} :
    (Regex.seq (requestCall ++ requestAddress)).Spells text ↔ IsRequest text := by
  have isLibrary : ∀ text, (Regex.seq (word "requests.".toList)).Spells text ↔
      IsOneOf ["requests.".toList] text :=
    fun _ => spells_word_iff_isOneOf (by decide) (by decide)
  have isMethod : ∀ text, (Regex.group (some 1)
      (.oneOf (sendingMethods.map fun method => .seq (word method)))).Spells text ↔
        IsOneOf sendingMethods text :=
    fun _ => spells_oneOf_iff_isOneOf (by decide) (by decide) (by decide)
  have opens : ∀ text, (Regex.seq (word "(".toList)).Spells text ↔ text = ['('] :=
    fun _ => Regex.spells_marks_iff (by decide) (by decide)
  have isQuote : ∀ text, (Regex.seq [.set (.ofClass quoteClass)]).Spells text ↔
      ∃ quote, text = [quote] ∧ quote ∈ quotes := by
    intro text
    simp only [Regex.seq, Regex.Spells, CharSet.contains_eq, ← contains_quoteClass_iff]
    exact Iff.rfl
  simp only [requestCall, Regex.spells_seq_append, Regex.spells_seq_cons,
    isLibrary, isMethod, Regex.spells_blanks_iff, opens, isQuote,
    spells_requestAddress_iff]
  constructor
  · rintro ⟨_, address, rfl,
      ⟨_, _, rfl, ⟨library, _, rfl, named, method, _, rfl, sends, gap, _,
      rfl, blank, rfl⟩, inner, _, rfl, alsoBlank, quote, rfl, quoted⟩, addressed⟩
    simpa using IsRequest.intro named sends blank alsoBlank quoted addressed
  · rintro @⟨library, method, gap, inner, address, quote, named, sends,
      blank, alsoBlank, quoted, addressed⟩
    exact ⟨library ++ (method ++ (gap ++ ['('])) ++ (inner ++ [quote]), address, by simp,
      ⟨_, _, rfl, ⟨library, _, rfl, named, method, _, rfl, sends, gap,
        _, rfl, blank, rfl⟩, inner, _, rfl, alsoBlank, quote, rfl, quoted⟩, addressed⟩

/-- The expression of the rule occurs in the lines with a request to another host. -/
theorem occurs_iff_of_alike_outboundRequest
    {regex : Regex}
    {line : Line}
    (same : regex.alike outboundRequest = true) :
    regex.Occurs line ↔ HasOutboundRequest line.toList := by
  have isLocal : ∀ text, localHost.Spells text ↔ IsOneOf localNames text :=
    fun _ => spells_oneOf_iff_isOneOf (by decide) (by decide) (by decide)
  have flat : outboundRequest.Occurs line ↔
      (Regex.seq ((requestCall ++ requestAddress) ++
        [.look .ahead true localHost])).Occurs line := by
    simp only [Regex.Occurs, outboundRequest,
      Regex.matches_seq_group_iff, List.append_assoc]
  rw [Regex.occurs_iff_of_alike same, flat,
    Regex.occurs_seq_look_iff (by decide) (by decide)]
  simp only [spells_request_iff, isLocal]
  have beginsLocal_iff : ∀ after, BeginsLocal after ↔
      ∃ front, IsOneOf localNames front ∧ front <+: after := by
    intro after
    constructor
    · rintro ⟨name, isName, rest, found⟩
      obtain ⟨front, others, rfl, isFront, -⟩ := List.map_eq_append_iff.mp found.symm
      exact ⟨front, by rwa [IsOneOf, isFront], List.prefix_append ..⟩
    · rintro ⟨front, isName, begins⟩
      exact ⟨_, isName, begins.map smallForm⟩
  refine exists_congr fun before => exists_congr fun request => exists_congr fun after =>
    and_congr_right fun _ => and_congr_right fun _ => ?_
  rw [beginsLocal_iff]
  simp only [not_exists, not_and]

/-- The expression of the rule occurs in a line with a request to another host. -/
theorem exists_outboundRequest_expression
    {rule : Rule}
    (isBuiltin : rule ∈ builtin.rules)
    (named : rule.id = "PY-015") :
    ∃ regex, rule.SearchesFor regex ∧
      ∀ {line : Line}, regex.Occurs line ↔ HasOutboundRequest line.toList := by
  obtain ⟨regex, searches, checked⟩ := exists_expression_of_mem_builtin isBuiltin
  have same : regex.alike outboundRequest = true := by
    simpa [named] using checked _ builtin_outboundRequest
  exact ⟨regex, searches, occurs_iff_of_alike_outboundRequest same⟩

end Catalog
end ScriptAudit
