import ScriptAudit.Proofs.Catalog.LocalExemption

/-!
# Calls on one line are judged separately

The first letter of its library stands nowhere else in a call, so two calls on a line
never overlap, and it stands in no name of the local host, so the text in front of a
call reads the same without the call. A call to the local host therefore hides no other
call on its line: what the rule finds is what it would find in front of that call or
behind it.
-/

namespace ScriptAudit
namespace Catalog

open Pattern (Line)
open Text (smallForm)

/-! ## Calls do not overlap -/

theorem smallForm_ne_of_isOneOf
    {words : List (List Char)}
    {text : List Char}
    {letter : Char}
    (clear : ∀ word ∈ words, letter ∉ word)
    (isOneOf : IsOneOf words text) :
    ∀ char ∈ text, smallForm char ≠ letter := by
  rintro char member rfl
  exact clear _ isOneOf (List.mem_map_of_mem member)

theorem smallForm_ne_of_isBlank
    {char : Char}
    (blank : Text.isBlank char = true) :
    smallForm char ≠ 'r' := by
  intro isLetter
  have same : Text.SameLetter char 'r' := isLetter
  have visible : Text.isBlank 'r' = false := by decide
  exact Bool.noConfusion ((blank.symm.trans (Text.isBlank_congr same)).trans visible)

/-- Behind its first character a call does not hold the first letter of its library. -/
theorem IsRequest.unlike_tail
    {request : List Char}
    (isRequest : IsRequest request) :
    ∀ char ∈ request.tail, smallForm char ≠ 'r' := by
  obtain @⟨library, method, gap, inner, address, quote, named, sends,
    blank, alsoBlank, quoted, addressed⟩ := isRequest
  have letters : library.map smallForm = 'r' :: "equests.".toList :=
    List.mem_singleton.mp named
  obtain ⟨first, rest, rfl, -, isRest⟩ := List.map_eq_cons_iff.mp letters
  have others : IsOneOf ["equests.".toList] rest := List.mem_singleton.mpr isRest
  have quoteUnlike : ∀ quote ∈ quotes, smallForm quote ≠ 'r' := by decide
  simp only [List.cons_append, List.tail_cons, List.forall_mem_append,
    List.forall_mem_cons]
  exact ⟨smallForm_ne_of_isOneOf (by decide) others,
    smallForm_ne_of_isOneOf (by decide) sends,
    fun char member => smallForm_ne_of_isBlank (blank char member), by decide,
    fun char member => smallForm_ne_of_isBlank (alsoBlank char member),
    quoteUnlike quote quoted, smallForm_ne_of_isOneOf (by decide) addressed⟩

/-- A call that starts in front of another one ends in front of it, or is the same. -/
theorem IsRequest.eq_or_exists_of_append_eq
    {request call late behind after : List Char}
    (isRequest : IsRequest request)
    (isCall : IsRequest call)
    (same : request ++ behind = late ++ (call ++ after)) :
    (request = call ∧ behind = after) ∨
      ∃ between, late = request ++ between ∧ behind = between ++ (call ++ after) := by
  rcases List.append_eq_append_iff.mp same with ⟨between, isLate, isBehind⟩ |
    ⟨shared, isStart, isRest⟩
  · exact .inr ⟨between, isLate, isBehind⟩
  · cases shared with
    | nil => exact .inr ⟨[], by simpa using isStart.symm, by simpa using isRest.symm⟩
    | cons first shared =>
        cases late with
        | nil => exact .inl (isRequest.eq_of_append_eq isCall same)
        | cons other late =>
            -- the other call would start with a letter inside of this one
            obtain ⟨start, rest, rfl, isLetter⟩ := isCall.exists_cons
            obtain ⟨rfl, -⟩ := List.cons.inj isRest
            exact absurd isLetter (isRequest.unlike_tail _ (by simp [isStart]))

/-! ## A call to the local host -/

section LocalCall

variable {before call after : List Char}

/-- In front of a call, the beginning of a host is settled. -/
theorem beginsLocal_append_call_iff
    {host : List Char}
    (isCall : IsRequest call) :
    BeginsLocal (host ++ (call ++ after)) ↔ BeginsLocal host := by
  obtain ⟨first, rest, rfl, isLetter⟩ := isCall.exists_cons
  refine beginsLocal_append_iff fun char isFirst => ?_
  obtain rfl : first = char := Option.some.inj isFirst
  rw [isLetter]
  decide

theorem HasOutboundRequest.append_call
    (isCall : IsRequest call)
    (has : HasOutboundRequest before) :
    HasOutboundRequest (before ++ (call ++ after)) := by
  obtain ⟨front, request, host, rfl, isRequest, elsewhere⟩ := has
  exact ⟨front, request, host ++ (call ++ after), by simp, isRequest,
    fun begins => elsewhere ((beginsLocal_append_call_iff isCall).mp begins)⟩

/-- A call to the local host adds nothing to the requests in front of it and behind it,
and takes nothing away from them. -/
theorem hasOutboundRequest_localCall_iff
    (isCall : IsRequest call)
    (isLocal : BeginsLocal after) :
    HasOutboundRequest (before ++ (call ++ after)) ↔
      HasOutboundRequest before ∨ HasOutboundRequest after := by
  constructor
  · rintro ⟨front, request, host, cut, isRequest, elsewhere⟩
    rcases List.append_eq_append_iff.mp cut
      with ⟨skipped, -, same⟩ | ⟨late, isFront, same⟩
    · cases skipped with
      | nil =>
          obtain ⟨-, rfl⟩ := isCall.eq_of_append_eq isRequest same
          exact absurd isLocal elsewhere
      | cons first skipped =>
          obtain ⟨start, rest, rfl, -⟩ := isCall.exists_cons
          have behind : rest ++ after = skipped ++ (request ++ host) :=
            (List.cons.inj same).2
          exact .inr (HasOutboundRequest.of_append_of_unlike isCall.unlike_tail
            ⟨skipped, request, host, behind, isRequest, elsewhere⟩)
    · rcases isRequest.eq_or_exists_of_append_eq isCall same with ⟨-, rfl⟩ |
        ⟨between, rfl, rfl⟩
      · exact absurd isLocal elsewhere
      · refine .inl ⟨front, request, between, isFront, isRequest,
          fun begins => elsewhere ?_⟩
        exact (beginsLocal_append_call_iff isCall).mpr begins
  · rintro (has | has)
    · exact has.append_call isCall
    · exact (has.append_front call).append_front before

end LocalCall

/-! ## The rule -/

/-- The rule for requests matches a line if some call on it is followed by another host
than the local one, whatever other calls there are. A call to the local host makes no
difference: the rule matches the line if there is a request in front of that call or
behind it, or if the search is given up. -/
theorem outboundRequest_judges_calls_separately
    {rule : Rule}
    (isBuiltin : rule ∈ builtin.rules)
    (named : rule.id = "PY-015")
    (line : Line) :
    (¬rule.GivesUpOn line →
      (rule.pattern.isMatch line = true ↔ HasOutboundRequest line.toList)) ∧
      ∀ before call after, line.toList = before ++ (call ++ after) → IsRequest call →
        BeginsLocal after →
        (rule.pattern.isMatch line = true ↔
          HasOutboundRequest before ∨ HasOutboundRequest after ∨
          rule.GivesUpOn line) := by
  obtain ⟨regex, searches, occurs_iff⟩ :=
    exists_outboundRequest_expression isBuiltin named
  refine ⟨fun searched => ?_, fun before call after cut isCall isLocal => ?_⟩
  · rw [searches.isMatch_iff_of_searched searched, occurs_iff]
  · rw [searches.isMatch_iff, occurs_iff, cut,
      hasOutboundRequest_localCall_iff isCall isLocal, or_assoc]

/-- A call to the local host. -/
def Sample.localCall : Line :=
  requestLine "put".toList '"' "http://".toList "localhost".toList "/a\")".toList

/-- A call to the local host and one to another host behind it. -/
def Sample.twoCalls : Line :=
  requestLine "put".toList '"' "http://".toList "localhost".toList
    ("/a\"); ".toList ++
      (requestHead "post".toList '\'' "https://".toList ++ "example.org')".toList))

theorem outboundRequest_judges_calls_separately_hidden :
    ∃ rule ∈ builtin.rules, rule.id = "PY-015" ∧ ¬rule.GivesUpOn Sample.localCall ∧
      rule.pattern.isMatch Sample.localCall = false ∧
      rule.pattern.isMatch Sample.twoCalls = true := by
  have known : "PY-015" ∈ builtinIds := by decide
  obtain ⟨rule, isBuiltin, named⟩ := exists_builtin_of_id known
  have isCall : IsRequest (requestHead "put".toList '"' "http://".toList) :=
    isRequest_requestHead (by decide) (by decide) (by decide)
  have alsoCall : IsRequest (requestHead "post".toList '\'' "https://".toList) :=
    isRequest_requestHead (by decide) (by decide) (by decide)
  have isLocal : ∀ tail, BeginsLocal ("localhost".toList ++ tail) := fun tail =>
    ⟨"localhost".toList, by decide, by rw [List.map_append]; exact List.prefix_append _ _⟩
  have searched : ¬rule.GivesUpOn Sample.localCall :=
    not_givesUpOn_of_short isBuiltin (by decide)
  have nothing : ¬HasOutboundRequest Sample.localCall.toList := by
    rw [Sample.localCall, requestLine, ← List.nil_append (requestHead _ _ _ ++ _),
      hasOutboundRequest_localCall_iff isCall (isLocal _)]
    have unlike : ∀ char ∈ "localhost".toList ++ "/a\")".toList,
        smallForm char ≠ 'r' := by
      decide
    rintro (has | has) <;> obtain ⟨char, member, isLetter⟩ := has.exists_letter
    · cases member
    · exact unlike char member isLetter
  have elsewhere : ¬BeginsLocal "example.org')".toList := by decide
  have has : HasOutboundRequest ("localhost".toList ++ ("/a\"); ".toList ++
      (requestHead "post".toList '\'' "https://".toList ++ "example.org')".toList))) :=
    ((HasOutboundRequest.append_front _
      ⟨[], _, _, rfl, alsoCall, elsewhere⟩).append_front _)
  refine ⟨rule, isBuiltin, named, searched, Bool.eq_false_iff.mpr fun found => ?_, ?_⟩
  · exact nothing
      (((outboundRequest_judges_calls_separately isBuiltin named _).1 searched).mp found)
  · exact ((outboundRequest_judges_calls_separately isBuiltin named _).2 [] _ _ rfl isCall
      (isLocal _)).mpr (.inr (.inl has))

end Catalog
end ScriptAudit
