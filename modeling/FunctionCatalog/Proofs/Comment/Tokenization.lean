import FunctionCatalog.Comment.Attachment
import FunctionCatalog.Proofs.Text.Runs
import Mathlib.Logic.ExistsUnique

/-!
# How a text is cut into tokens

The tokens of a comment's text are its runs of ASCII letters and digits, with gaps between them that
have none. There is one such cut of a text, and the tokens are what it says they are. A gap that is
put between two texts keeps their tokens apart, so the tokens of the whole are those of the parts.

## Main results

* `commentTokens_eq_iff` — the tokens are the runs of the cut.
* `commentTokens_append_gap` — texts with a gap between them have the tokens of both.
* `commentTokens_maximalRuns` — both, with the cut being the only one, and what no token holds.
-/

namespace FunctionCatalog

/-- The tokens of a text are the runs of its cut. -/
theorem commentTokens_eq_iff {text : List Char} {tokens : List String} :
    commentTokens text = tokens ↔ ConsistsOf isTokenChar tokens text :=
  runs_eq_iff

/-- Texts with a gap between them have the tokens of both. -/
theorem commentTokens_append_gap {gap : List Char} (hNonempty : gap ≠ [])
    (hGap : ∀ c ∈ gap, isTokenChar c = false) (front back : List Char) :
    commentTokens (front ++ gap ++ back) = commentTokens front ++ commentTokens back := by
  rw [commentTokens, List.append_assoc, runs_append_gap hNonempty hGap, List.map_append]
  rfl

/-- A token is made of ASCII letters and digits. -/
theorem isTokenChar_of_mem_commentTokens {text : List Char} {token : String}
    (hToken : token ∈ commentTokens text) : ∀ c ∈ token.toList, isTokenChar c = true := by
  obtain ⟨run, hRun, rfl⟩ := List.mem_map.1 hToken
  rw [String.toList_ofList]
  exact keep_of_mem_runs run hRun

/-- **Tokens are the maximal runs of ASCII letters and digits**: they are what any cut of the text
into such runs and gaps says, and there is exactly one. No token holds a mark that separates the
fields, the items or the records in a file of lines. A gap between two texts adds no token and keeps
the others apart. -/
theorem commentTokens_maximalRuns (text : List Char) :
    (∀ tokens : List String, commentTokens text = tokens ↔
      ∃ start pieces, IsCut isTokenChar start pieces text ∧
        tokens.map String.toList = pieces.map Prod.fst) ∧
    (∃! cut : List Char × List (List Char × List Char), IsCut isTokenChar cut.1 cut.2 text) ∧
    (∀ token ∈ commentTokens text, ∀ c ∈ ['|', ',', '\n'], c ∉ token.toList) ∧
    ∀ gap back : List Char, gap ≠ [] → (∀ c ∈ gap, isTokenChar c = false) →
      commentTokens (text ++ gap ++ back) = commentTokens text ++ commentTokens back := by
  refine ⟨fun tokens => commentTokens_eq_iff, ?_, ?_, ?_⟩
  · obtain ⟨start, pieces, hCut⟩ := exists_isCut isTokenChar text
    refine ⟨(start, pieces), hCut, fun other hOther => ?_⟩
    obtain ⟨hStart, hPieces⟩ := hOther.unique hCut
    exact Prod.ext hStart hPieces
  · intro token hToken c hMark hMem
    have hChar := isTokenChar_of_mem_commentTokens hToken c hMem
    simp only [List.mem_cons, List.not_mem_nil, or_false] at hMark
    rcases hMark with rfl | rfl | rfl <;> exact absurd hChar (by decide)
  · intro gap back hNonempty hGap
    exact commentTokens_append_gap hNonempty hGap text back

/-- A letter beyond ASCII ends a token. -/
example : commentTokens "/* caféé, v2 */".toList = ["caf", "v2"] := by decide

end FunctionCatalog
