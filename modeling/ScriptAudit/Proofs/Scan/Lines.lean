import ScriptAudit.Proofs.Scan.Order
import ScriptAudit.Proofs.Text.Utf8

/-!
# The lines of a file

A file is decoded as a whole and then cut into lines. It might as well be cut at its
line feeds first and decoded chunk by chunk: octets that cannot be read disturb no other
line, and a line has the number that the line feeds before it give.
-/

namespace ScriptAudit
namespace Scan

open Text (Octets lineFeed decodeLossy IsPiece)

/-- The chunks of a file between its line feeds. -/
def chunks (octets : Octets) : List Octets :=
  Text.splitAt (· == lineFeed) octets

/-- The finding of a rule in a chunk that is decoded on its own, if the rule matches it.
-/
def chunkFinding? (name : String) (rule : Rule) (chunk : Octets × Nat) : Option Finding :=
  let line := decodeLossy chunk.1
  if rule.pattern.isMatch line.toArray then
    some (.matched name chunk.2 rule.id rule.description rule.tier.severity line)
  else none

/-- The findings in the chunks of a file, rule by rule. -/
def chunkFindings
    (rules : RuleSet)
    (name : String)
    (octets : Octets)
    (language : Language) : List Finding :=
  (rules.rulesFor language).flatMap fun rule =>
    ((chunks octets).zipIdx 1).filterMap (chunkFinding? name rule)

variable {rules : RuleSet} {name : String} {language : Language}

theorem hitsOf_chunks (rule : Rule) (octets : Octets) :
    (hitsOf (numberedLines (decodeLossy octets)) rule).map (Hit.finding name) =
      ((chunks octets).zipIdx 1).filterMap (chunkFinding? name rule) := by
  rw [numberedLines, Text.lines_decodeLossy, ← chunks, List.map_map,
    List.zipIdx_map, hitsOf, List.map_filterMap, List.filterMap_map]
  congr 1
  funext numbered
  obtain ⟨chunk, number⟩ := numbered
  cases isMatch : (rule.pattern.verdict (decodeLossy chunk).toArray).isMatch <;>
    simp [chunkFinding?, Pattern.Compiled.isMatch, isMatch, Hit.finding]

/-- Scanning a file is scanning its chunks. -/
theorem content_decodeLossy (octets : Octets) :
    content rules name (decodeLossy octets) language =
      chunkFindings rules name octets language := by
  simp only [content, hits, chunkFindings, List.map_flatMap, hitsOf_chunks]

/-- The findings in the chunks, each with what stands around its chunk. -/
theorem mem_chunkFindings_iff
    {octets : Octets}
    {finding : Finding} :
    finding ∈ chunkFindings rules name octets language ↔
      ∃ before chunk behind, IsPiece (· == lineFeed) octets before chunk behind ∧
        ∃ rule ∈ rules.rulesFor language,
          rule.pattern.isMatch (decodeLossy chunk).toArray = true ∧
          finding = .matched name (before.count lineFeed + 1) rule.id rule.description
            rule.tier.severity (decodeLossy chunk) := by
  simp only [← content_decodeLossy, mem_content_iff, mem_numberedLines_iff,
    Text.lines_decodeLossy, List.getElem?_map, Option.map_eq_some_iff]
  constructor
  · rintro ⟨rule, applied, _, _, ⟨index, _, ⟨chunk, found, rfl⟩, rfl, rfl⟩, isMatch, rfl⟩
    obtain ⟨before, behind, isPiece, counted⟩ := Text.exists_isPiece found
    refine ⟨before, chunk, behind, isPiece, rule, applied, isMatch, ?_⟩
    rw [List.count, counted]
  · rintro ⟨before, chunk, behind, isPiece, rule, applied, isMatch, rfl⟩
    exact ⟨rule, applied, _, _, ⟨_, _, ⟨chunk, isPiece.getElem?_splitAt, rfl⟩, rfl, rfl⟩,
      isMatch, rfl⟩

/-- The findings on a well-formed line are those of its very characters. -/
theorem mem_chunkFindings_encode_iff
    {octets before behind : Octets}
    {chars : List Char}
    (isPiece : IsPiece (· == lineFeed) octets before (Text.encode chars) behind)
    {finding : Finding} :
    finding ∈ chunkFindings rules name octets language ∧
        finding.line = some (before.count lineFeed + 1) ↔
      ∃ rule ∈ rules.rulesFor language, rule.pattern.isMatch chars.toArray = true ∧
        finding = .matched name (before.count lineFeed + 1) rule.id rule.description
          rule.tier.severity chars := by
  rw [mem_chunkFindings_iff]
  constructor
  · rintro ⟨⟨front, chunk, rest, isChunk, rule, applied, isMatch, rfl⟩, numbered⟩
    have counts : front.count lineFeed = before.count lineFeed := by
      simpa [Finding.matched] using numbered
    have sameChunk : chunk = Text.encode chars := by
      have found := isChunk.getElem?_splitAt
      rw [← List.count, counts, List.count, isPiece.getElem?_splitAt] at found
      exact (Option.some.inj found).symm
    subst sameChunk
    rw [Text.decodeLossy_encode] at isMatch
    exact ⟨rule, applied, isMatch, by rw [counts, Text.decodeLossy_encode]⟩
  · rintro ⟨rule, applied, isMatch, rfl⟩
    refine ⟨⟨before, _, behind, isPiece, rule, applied, ?_, ?_⟩, rfl⟩
    · rwa [Text.decodeLossy_encode]
    · rw [Text.decodeLossy_encode]

/-- Scanning a file gives what its chunks between line feeds give, each decoded and
matched as one line of its own. So the number of a line is one more than the number of
line feeds before it, and the findings on a well-formed line are those of its very
characters, whatever stands on the other lines. -/
theorem file_scans_chunks
    (tree : FileTree)
    (rules : RuleSet)
    (path : Path)
    (name : String)
    (language : Language) :
    file tree rules path name language =
        (tree.read path).map (chunkFindings rules name · language) ∧
      ∀ octets finding,
        (finding ∈ chunkFindings rules name octets language ↔
          ∃ before chunk behind, IsPiece (· == lineFeed) octets before chunk behind ∧
            ∃ rule ∈ rules.rulesFor language,
              rule.pattern.isMatch (decodeLossy chunk).toArray = true ∧
              finding = .matched name (before.count lineFeed + 1) rule.id rule.description
                rule.tier.severity (decodeLossy chunk)) ∧
        ∀ before chars behind,
          IsPiece (· == lineFeed) octets before (Text.encode chars) behind →
          (finding ∈ chunkFindings rules name octets language ∧
              finding.line = some (before.count lineFeed + 1) ↔
            ∃ rule ∈ rules.rulesFor language, rule.pattern.isMatch chars.toArray = true ∧
              finding = .matched name (before.count lineFeed + 1) rule.id rule.description
                rule.tier.severity chars) := by
  refine ⟨?_, fun octets finding => ⟨mem_chunkFindings_iff, ?_⟩⟩
  · simp only [file, content_decodeLossy]
  · intro before chars behind isPiece
    exact mem_chunkFindings_encode_iff isPiece

end Scan
end ScriptAudit
