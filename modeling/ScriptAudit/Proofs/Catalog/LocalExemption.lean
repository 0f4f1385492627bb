import ScriptAudit.Proofs.Catalog.OutboundRequest

/-!
# What the exemption of the local host covers

In a line with one call, the beginning of its host decides whether the rule for requests
spares it. Where a call ends is settled by its text, and no other call starts in front
of what stands behind the host. Since only the beginning of a host is looked at, a host
of another name, such as `localhost.io`, goes unnoticed as well.
-/

namespace ScriptAudit
namespace Catalog

open Pattern (Line)
open Text (smallForm)

/-! ## Where a call ends -/

/-- Which of some words a text begins with is settled if none of them begins with
another. -/
theorem IsOneOf.eq_of_append_eq
    {words : List (List Char)}
    {text other after rest : List Char}
    (apart : ∀ word ∈ words, ∀ other ∈ words, word <+: other → word = other)
    (isOneOf : IsOneOf words text)
    (alsoOneOf : IsOneOf words other)
    (same : text ++ after = other ++ rest) :
    text = other ∧ after = rest := by
  have sameLength : text.length = other.length := by
    have begins : text <+: other ++ rest := ⟨after, same⟩
    have forms : text.map smallForm = other.map smallForm := by
      rcases List.prefix_or_prefix_of_prefix begins (List.prefix_append other rest) with
        shorter | longer
      · exact apart _ isOneOf _ alsoOneOf (shorter.map smallForm)
      · exact (apart _ alsoOneOf _ isOneOf (longer.map smallForm)).symm
    simpa using congrArg List.length forms
  exact List.append_inj same sameLength

/-- Where the blanks in front of a mark end is settled. -/
theorem eq_of_gap_append_eq
    {gap other after rest : List Char}
    {mark otherMark : Char}
    (blank : ∀ char ∈ gap, Text.isBlank char = true)
    (alsoBlank : ∀ char ∈ other, Text.isBlank char = true)
    (visible : Text.isBlank mark = false)
    (alsoVisible : Text.isBlank otherMark = false)
    (same : gap ++ mark :: after = other ++ otherMark :: rest) :
    gap = other ∧ mark = otherMark ∧ after = rest := by
  have gapEnds : (gap ++ mark :: after).takeWhile Text.isBlank = gap := by
    rw [List.takeWhile_append_of_pos blank,
      List.takeWhile_cons_of_neg (by simp [visible]), List.append_nil]
  have otherEnds : (other ++ otherMark :: rest).takeWhile Text.isBlank = other := by
    rw [List.takeWhile_append_of_pos alsoBlank,
      List.takeWhile_cons_of_neg (by simp [alsoVisible]), List.append_nil]
  obtain rfl : gap = other := by rw [← gapEnds, same, otherEnds]
  have behind := List.append_cancel_left same
  exact ⟨rfl, List.cons.inj behind⟩

/-- Where a call ends is settled. -/
theorem IsRequest.eq_of_append_eq
    {request other after rest : List Char}
    (isRequest : IsRequest request)
    (alsoRequest : IsRequest other)
    (same : request ++ after = other ++ rest) :
    request = other ∧ after = rest := by
  have visible : ∀ quote ∈ quotes, Text.isBlank quote = false := by decide
  obtain @⟨library, method, gap, inner, address, quote, named, sends,
    blank, innerBlank, quoted, addressed⟩ := isRequest
  obtain @⟨_, _, _, _, _, otherQuote, otherNamed, otherSends, otherBlank, otherInnerBlank,
    otherQuoted, otherAddressed⟩ := alsoRequest
  simp only [List.append_assoc, List.cons_append] at same
  obtain ⟨rfl, behindLibrary⟩ := named.eq_of_append_eq (by decide) otherNamed same
  obtain ⟨rfl, behindMethod⟩ := sends.eq_of_append_eq (by decide) otherSends behindLibrary
  obtain ⟨rfl, -, arguments⟩ :=
    eq_of_gap_append_eq blank otherBlank (by decide) (by decide) behindMethod
  obtain ⟨rfl, rfl, text⟩ := eq_of_gap_append_eq innerBlank otherInnerBlank
    (visible quote quoted) (visible otherQuote otherQuoted) arguments
  obtain ⟨rfl, rfl⟩ := addressed.eq_of_append_eq (by decide) otherAddressed text
  exact ⟨rfl, rfl⟩

/-! ## Where a call starts -/

/-- A call starts with the first letter of its library. -/
theorem IsRequest.exists_cons
    {request : List Char}
    (isRequest : IsRequest request) :
    ∃ first rest, request = first :: rest ∧ smallForm first = 'r' := by
  obtain @⟨library, method, gap, inner, address, quote, named, -⟩ := isRequest
  have letters : library.map smallForm = 'r' :: "equests.".toList :=
    List.mem_singleton.mp named
  obtain ⟨first, rest, rfl, isFirst, -⟩ := List.map_eq_cons_iff.mp letters
  exact ⟨first, _, rfl, isFirst⟩

/-- The characters that end the name of a host or open the arguments of a call. -/
def stops : List Char := ['/', ':', '\'', '"', '(']

theorem smallForm_of_mem_stops {stop : Char} (isStop : stop ∈ stops) :
    smallForm stop = stop := by
  have uncased : ∀ stop ∈ stops, smallForm stop = stop := by decide
  exact uncased stop isStop

theorem not_mem_stops_of_isOneOf
    {words : List (List Char)}
    {text : List Char}
    (clear : ∀ word ∈ words, ∀ char ∈ word, char ∉ stops)
    (isOneOf : IsOneOf words text) :
    ∀ char ∈ text, char ∉ stops := by
  intro char member isStop
  have inWord : char ∈ text.map smallForm :=
    List.mem_map.mpr ⟨char, member, smallForm_of_mem_stops isStop⟩
  exact clear _ isOneOf char inWord isStop

/-- No stop stands in a call up to its parenthesis. -/
theorem IsRequest.exists_opening
    {request : List Char}
    (isRequest : IsRequest request) :
    ∃ opening rest, request = opening ++ '(' :: rest ∧
      ∀ char ∈ opening, char ∉ stops := by
  obtain @⟨library, method, gap, inner, address, quote, named, sends, blank, -⟩ :=
    isRequest
  refine ⟨library ++ (method ++ gap), inner ++ quote :: address, by simp, ?_⟩
  simp only [List.forall_mem_append]
  refine ⟨not_mem_stops_of_isOneOf (by decide) named,
    not_mem_stops_of_isOneOf (by decide) sends, fun char member isStop => ?_⟩
  have visible : ∀ stop ∈ stops, Text.isBlank stop = false := by decide
  exact Bool.noConfusion ((visible char isStop).symm.trans (blank char member))

/-- A request needs the first letter of its library. -/
theorem HasOutboundRequest.exists_letter
    {text : List Char}
    (has : HasOutboundRequest text) :
    ∃ char ∈ text, smallForm char = 'r' := by
  obtain ⟨before, request, after, rfl, isRequest, -⟩ := has
  obtain ⟨first, rest, rfl, isFirst⟩ := isRequest.exists_cons
  exact ⟨first, by simp, isFirst⟩

theorem HasOutboundRequest.append_front
    {back : List Char}
    (front : List Char)
    (has : HasOutboundRequest back) :
    HasOutboundRequest (front ++ back) := by
  obtain ⟨before, request, after, rfl, isRequest, elsewhere⟩ := has
  exact ⟨front ++ before, request, after, by simp, isRequest, elsewhere⟩

/-- A request does not start in the first part of a text if no call starts there. -/
theorem HasOutboundRequest.of_append
    {front back : List Char}
    (noStart : ∀ early late, front = early ++ late → late ≠ [] → ∀ request after,
      IsRequest request → late ++ back ≠ request ++ after)
    (has : HasOutboundRequest (front ++ back)) :
    HasOutboundRequest back := by
  obtain ⟨before, request, after, cut, isRequest, elsewhere⟩ := has
  rcases List.append_eq_append_iff.mp cut
    with ⟨skipped, -, behind⟩ | ⟨late, isFront, behind⟩
  · exact ⟨skipped, request, after, behind, isRequest, elsewhere⟩
  · by_cases nothing : late = []
    · exact ⟨[], request, after, by simpa [nothing] using behind.symm,
        isRequest, elsewhere⟩
    · exact absurd behind.symm
        (noStart before late isFront nothing request after isRequest)

/-- No call starts where its first letter is missing. -/
theorem HasOutboundRequest.of_append_of_unlike
    {front back : List Char}
    (unlike : ∀ char ∈ front, smallForm char ≠ 'r')
    (has : HasOutboundRequest (front ++ back)) :
    HasOutboundRequest back := by
  refine has.of_append fun early late cut something request after isRequest same => ?_
  obtain ⟨first, rest, rfl, isFirst⟩ := isRequest.exists_cons
  obtain ⟨start, others, rfl⟩ := List.exists_cons_of_ne_nil something
  obtain ⟨rfl, -⟩ := List.cons.inj same
  exact unlike start (by simp [cut]) isFirst

/-- No call starts in the name of a host, since the stop behind it comes before the
parenthesis. -/
theorem HasOutboundRequest.of_append_of_host
    {host tail : List Char}
    (isHost : ∀ char ∈ host, char ∉ stops)
    (isTail : ∀ first ∈ tail.head?, first ∈ stops ∧ first ≠ '(')
    (has : HasOutboundRequest (host ++ tail)) :
    HasOutboundRequest tail := by
  refine has.of_append fun early late isFront _ request after isRequest same => ?_
  obtain ⟨opening, rest, rfl, clear⟩ := isRequest.exists_opening
  rw [List.append_assoc, List.cons_append] at same
  -- the call reaches over the stop behind the host, or its parenthesis is in the host
  rcases List.append_eq_append_iff.mp same with ⟨beyond, isOpening, behind⟩ |
    ⟨inside, isLate, behind⟩
  · cases beyond with
    | nil => exact (isTail '(' (by simp [behind])).2 rfl
    | cons first beyond =>
        exact clear first (by simp [isOpening]) (isTail first (by simp [behind])).1
  · cases inside with
    | nil =>
        have starts : tail = '(' :: (rest ++ after) := behind.symm
        exact (isTail '(' (by simp [starts])).2 rfl
    | cons first inside =>
        obtain ⟨rfl, -⟩ := List.cons.inj behind
        exact isHost '(' (by simp [isFront, isLate]) (by decide)

/-! ## Lines with one request -/

/-- A call that sends data to an address. -/
def requestHead (method : List Char) (quote : Char) (address : List Char) : List Char :=
  "requests.".toList ++ (method ++ '(' :: quote :: address)

/-- A line with one call, whose address goes on with the name of a host and a tail. -/
def requestLine
    (method : List Char)
    (quote : Char)
    (address host tail : List Char) : Line :=
  (requestHead method quote address ++ (host ++ tail)).toArray

section RequestLine

variable {method host tail address : List Char} {quote : Char}

theorem isRequest_requestHead
    (isMethod : method ∈ sendingMethods)
    (isQuote : quote ∈ quotes)
    (isAddress : address ∈ addressMarks) :
    IsRequest (requestHead method quote address) := by
  have methods : ∀ method ∈ sendingMethods, IsOneOf sendingMethods method := by decide
  have addresses : ∀ address ∈ addressMarks, IsOneOf addressMarks address := by decide
  have nothing : ∀ char ∈ ([] : List Char), Text.isBlank char = true := by simp
  exact IsRequest.intro (by decide) (methods method isMethod) nothing nothing isQuote
    (addresses address isAddress)

/-- A request to another host is one whose host does not begin like a local one, or it
stands behind the host. -/
theorem hasOutboundRequest_requestHead_iff
    (isMethod : method ∈ sendingMethods)
    (isQuote : quote ∈ quotes)
    (isAddress : address ∈ addressMarks)
    {rest : List Char} :
    HasOutboundRequest (requestHead method quote address ++ rest) ↔
      ¬BeginsLocal rest ∨ HasOutboundRequest rest := by
  have isRequest := isRequest_requestHead isMethod isQuote isAddress
  constructor
  · rintro ⟨before, request, after, cut, alsoRequest, elsewhere⟩
    cases before with
    | nil =>
        obtain ⟨-, rfl⟩ := isRequest.eq_of_append_eq alsoRequest cut
        exact .inl elsewhere
    | cons first before =>
        have unlike : ∀ method ∈ sendingMethods, ∀ quote ∈ quotes,
            ∀ address ∈ addressMarks, ∀ char ∈ (requestHead method quote address).tail,
              smallForm char ≠ 'r' := by
          decide
        have behind : (requestHead method quote address).tail ++ rest =
            before ++ (request ++ after) := (List.cons.inj cut).2
        refine .inr (HasOutboundRequest.of_append_of_unlike
          (unlike method isMethod quote isQuote address isAddress) ?_)
        exact ⟨before, request, after, behind, alsoRequest, elsewhere⟩
  · rintro (elsewhere | has)
    · exact ⟨[], _, rest, rfl, isRequest, elsewhere⟩
    · exact has.append_front _

/-- In front of a character that is in no local name, the beginning of a host is
settled. -/
theorem beginsLocal_append_iff
    (foreign : ∀ first ∈ tail.head?, ∀ name ∈ localNames, smallForm first ∉ name) :
    BeginsLocal (host ++ tail) ↔ BeginsLocal host := by
  constructor
  · rintro ⟨name, isName, begins⟩
    rw [List.map_append] at begins
    rcases List.prefix_or_prefix_of_prefix begins (List.prefix_append _ _)
      with within | beyond
    · exact ⟨name, isName, within⟩
    · -- a name longer than the host would have to go on with the foreign character
      obtain ⟨others, rfl⟩ := beyond
      cases others with
      | nil => exact ⟨_, isName, by simp⟩
      | cons form others =>
          have formBegins : form :: others <+: tail.map smallForm :=
            (List.prefix_append_right_inj _).mp begins
          obtain ⟨behind, forms⟩ := formBegins
          obtain ⟨first, rest, rfl, isForm, -⟩ := List.map_eq_cons_iff.mp forms.symm
          exact absurd (by simp [isForm]) (foreign first rfl _ isName)
  · rintro ⟨name, isName, begins⟩
    exact ⟨name, isName, by simpa using begins.trans (List.prefix_append _ _)⟩

theorem smallForm_notMem_localNames_of_mem_stops
    {stop : Char}
    (isStop : stop ∈ stops) :
    ∀ name ∈ localNames, smallForm stop ∉ name := by
  have clear : ∀ stop ∈ stops, ∀ name ∈ localNames, stop ∉ name := by decide
  rw [smallForm_of_mem_stops isStop]
  exact clear stop isStop

/-- In a line with one request, that request or what stands behind its host decides. -/
theorem hasOutboundRequest_requestLine_iff
    (isMethod : method ∈ sendingMethods)
    (isQuote : quote ∈ quotes)
    (isAddress : address ∈ addressMarks)
    (isHost : ∀ char ∈ host, char ∉ stops)
    (isTail : ∀ first ∈ tail.head?, first ∈ ['/', ':', quote]) :
    HasOutboundRequest (requestLine method quote address host tail).toList ↔
      ¬BeginsLocal host ∨ HasOutboundRequest tail := by
  have tailStops : ∀ first ∈ tail.head?, first ∈ stops ∧ first ≠ '(' := by
    have amongStops : ∀ quote ∈ quotes, ∀ first ∈ ['/', ':', quote],
        first ∈ stops ∧ first ≠ '(' := by decide
    exact fun first isFirst => amongStops quote isQuote first (isTail first isFirst)
  rw [requestLine, hasOutboundRequest_requestHead_iff isMethod isQuote isAddress,
    beginsLocal_append_iff fun first isFirst =>
      smallForm_notMem_localNames_of_mem_stops (tailStops first isFirst).1]
  refine or_congr_right ⟨fun has => has.of_append_of_host isHost tailStops, fun has => ?_⟩
  exact has.append_front host

end RequestLine

/-! ## The rule -/

/-- Whether a character may stand in the name of a host. -/
def isHostChar (char : Char) : Bool :=
  Text.isWord char || char = '.' || char = '-'

theorem not_mem_stops_of_isHostChar
    {char : Char}
    (isHost : isHostChar char = true) :
    char ∉ stops := by
  have noHost : ∀ stop ∈ stops, isHostChar stop = false := by decide
  intro isStop
  exact Bool.noConfusion ((noHost char isStop).symm.trans isHost)

/-- The rule for requests matches a line with one call exactly if the host does not
begin like the local one, if a request to another host follows, or if the search is
given up. So a host whose name merely begins like the local one is spared as well. -/
theorem outboundRequest_spares_local_beginnings
    {rule : Rule}
    {method host tail address : List Char}
    {quote : Char}
    (isBuiltin : rule ∈ builtin.rules)
    (named : rule.id = "PY-015")
    (isMethod : method ∈ sendingMethods)
    (isQuote : quote ∈ quotes)
    (isAddress : address ∈ addressMarks)
    (isHost : ∀ char ∈ host, isHostChar char = true)
    (isTail : ∀ first ∈ tail.head?, first ∈ ['/', ':', quote]) :
    rule.pattern.isMatch (requestLine method quote address host tail) = true ↔
      ¬BeginsLocal host ∨ HasOutboundRequest tail ∨
        rule.GivesUpOn (requestLine method quote address host tail) := by
  obtain ⟨regex, searches, occurs_iff⟩ :=
    exists_outboundRequest_expression isBuiltin named
  rw [searches.isMatch_iff, occurs_iff, ← or_assoc]
  exact or_congr_left (hasOutboundRequest_requestLine_iff isMethod isQuote isAddress
    (fun char member => not_mem_stops_of_isHostChar (isHost char member)) isTail)

/-- A request to a host that is not local. -/
def Sample.remote : Line :=
  requestLine "post".toList '\'' "https://".toList "example.org".toList "/')".toList

theorem outboundRequest_spares_local_beginnings_remote :
    ∃ rule ∈ builtin.rules, rule.id = "PY-015" ∧ ¬BeginsLocal "example.org".toList ∧
      rule.pattern.isMatch Sample.remote = true := by
  have known : "PY-015" ∈ builtinIds := by decide
  obtain ⟨rule, isBuiltin, named⟩ := exists_builtin_of_id known
  have elsewhere : ¬BeginsLocal "example.org".toList := by decide +kernel
  exact ⟨rule, isBuiltin, named, elsewhere,
    (outboundRequest_spares_local_beginnings isBuiltin named (by decide)
      (by decide) (by decide) (by decide +kernel) (by decide)).mpr (.inl elsewhere)⟩

/-- A request to a host whose name begins like the local one. -/
def Sample.localBeginning : Line :=
  requestLine "put".toList '"' "http://".toList "localhost.io".toList "/x\")".toList

/-- The host is not the local one, but the rule does not match the line. -/
theorem outboundRequest_misses_localBeginning :
    "put".toList ∈ sendingMethods ∧ '"' ∈ quotes ∧ "http://".toList ∈ addressMarks ∧
      (∀ char ∈ "localhost.io".toList, isHostChar char = true) ∧
      ¬IsOneOf localNames "localhost.io".toList ∧
      (∀ first ∈ "/x\")".toList.head?, first ∈ ['/', ':', '"']) ∧
      ∃ rule ∈ builtin.rules, rule.id = "PY-015" ∧
        rule.pattern.isMatch Sample.localBeginning = false := by
  have isMethod : "put".toList ∈ sendingMethods := by decide
  have isQuote : '"' ∈ quotes := by decide
  have isAddress : "http://".toList ∈ addressMarks := by decide
  have isHost : ∀ char ∈ "localhost.io".toList, isHostChar char = true := by
    decide +kernel
  have isTail : ∀ first ∈ "/x\")".toList.head?, first ∈ ['/', ':', '"'] := by decide
  refine ⟨isMethod, isQuote, isAddress, isHost, by decide +kernel, isTail, ?_⟩
  have known : "PY-015" ∈ builtinIds := by decide
  obtain ⟨rule, isBuiltin, named⟩ := exists_builtin_of_id known
  obtain ⟨regex, searches, occurs_iff⟩ :=
    exists_outboundRequest_expression isBuiltin named
  have searched : ¬rule.GivesUpOn Sample.localBeginning :=
    not_givesUpOn_of_short isBuiltin (by decide +kernel)
  have begins : BeginsLocal "localhost.io".toList := by decide +kernel
  have nothingBehind : ¬HasOutboundRequest "/x\")".toList := by
    intro has
    obtain ⟨char, member, isLetter⟩ := has.exists_letter
    have unlike : ∀ char ∈ "/x\")".toList, smallForm char ≠ 'r' := by decide +kernel
    exact unlike char member isLetter
  refine ⟨rule, isBuiltin, named, Bool.eq_false_iff.mpr fun found => ?_⟩
  rw [searches.isMatch_iff_of_searched searched, occurs_iff, Sample.localBeginning,
    hasOutboundRequest_requestLine_iff isMethod isQuote isAddress
      (fun char member => not_mem_stops_of_isHostChar (isHost char member)) isTail]
        at found
  exact found.elim (fun elsewhere => elsewhere begins) nothingBehind

end Catalog
end ScriptAudit
