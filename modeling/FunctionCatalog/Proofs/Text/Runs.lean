import FunctionCatalog.Proofs.CType.Brackets
import FunctionCatalog.Proofs.Text.Characters

/-!
# Texts cut into runs and gaps

A text is cut in one way only into runs of characters with a property and the gaps between them, if
no run is empty and no gap between two runs is. The runs of the text are those of the cut, so
nothing else has to be known about a text that is given by its runs and gaps.

## Main results

* `exists_isCut` — every text can be cut.
* `IsCut.unique` — there is one cut only.
* `runs_eq_iff`, `words_eq_iff` — the runs of a text are those of its cut, and so are its words.
-/

namespace FunctionCatalog

/-- A text is a gap followed by runs, each with the gap behind it. A run is made of characters with
`keep`, and it is not empty. A gap has no such character, and only the first and the last one may be
empty. -/
structure IsCut (keep : Char → Bool) (start : List Char) (pieces : List (List Char × List Char))
    (text : List Char) : Prop where
  /-- The text is made up of the gaps and the runs. -/
  text_eq : text = start ++ pieces.flatMap fun piece => piece.1 ++ piece.2
  /-- The gap at the start has no character of runs. -/
  start_apart : ∀ c ∈ start, keep c = false
  /-- Runs are not empty. -/
  run_ne_nil : ∀ piece ∈ pieces, piece.1 ≠ []
  /-- Runs are made of characters of runs. -/
  run_keep : ∀ piece ∈ pieces, ∀ c ∈ piece.1, keep c = true
  /-- The gaps behind runs have no character of runs. -/
  gap_apart : ∀ piece ∈ pieces, ∀ c ∈ piece.2, keep c = false
  /-- Gaps between two runs are not empty. -/
  gap_ne_nil : ∀ piece ∈ pieces.dropLast, piece.2 ≠ []

/-- A run ends in front of a character that runs are not made of, and at the end of a text. -/
theorem runs_append_apart {keep : Char → Bool} {run behind : List Char} (hRun : run ≠ [])
    (hKeep : ∀ c ∈ run, keep c = true) (hBehind : ∀ c ∈ behind.head?, keep c = false) :
    runs keep (run ++ behind) = run :: runs keep behind := by
  cases behind with
  | nil =>
      rw [List.append_nil, runs_eq_singleton hRun hKeep]
      rfl
  | cons c behind =>
      have hApart : keep c = false := hBehind c rfl
      rw [runs_append_cons hApart, runs_eq_singleton hRun hKeep, runs_cons hApart]
      rfl

namespace IsCut

variable {keep : Char → Bool} {start start' run gap text : List Char}
  {pieces pieces' : List (List Char × List Char)}

private theorem of_gap (hStart : ∀ c ∈ start, keep c = false) : IsCut keep start [] start where
  text_eq := by simp
  start_apart := hStart
  run_ne_nil := by simp
  run_keep := by simp
  gap_apart := by simp
  gap_ne_nil := by simp

/-- A run in front of a text that starts with a gap, unless it is empty. -/
theorem cons (hCut : IsCut keep gap pieces text) (hGap : pieces ≠ [] → gap ≠ [])
    (hRun : run ≠ []) (hKeep : ∀ c ∈ run, keep c = true) (hStart : ∀ c ∈ start, keep c = false) :
    IsCut keep start ((run, gap) :: pieces) (start ++ (run ++ text)) where
  text_eq := by simp [hCut.text_eq]
  start_apart := hStart
  run_ne_nil := List.forall_mem_cons.2 ⟨hRun, hCut.run_ne_nil⟩
  run_keep := List.forall_mem_cons.2 ⟨hKeep, hCut.run_keep⟩
  gap_apart := List.forall_mem_cons.2 ⟨hCut.start_apart, hCut.gap_apart⟩
  gap_ne_nil := by
    cases pieces with
    | nil => simp
    | cons piece pieces =>
        rw [List.dropLast_cons_cons]
        exact List.forall_mem_cons.2 ⟨hGap (List.cons_ne_nil piece pieces), hCut.gap_ne_nil⟩

/-- What is behind the first run of a text. -/
theorem exists_behind (hCut : IsCut keep start ((run, gap) :: pieces) text) :
    ∃ behind, text = start ++ (run ++ behind) ∧ IsCut keep gap pieces behind ∧
      (pieces ≠ [] → gap ≠ []) := by
  obtain ⟨-, hRuns⟩ := List.forall_mem_cons.1 hCut.run_ne_nil
  obtain ⟨-, hKeep⟩ := List.forall_mem_cons.1 hCut.run_keep
  obtain ⟨hGap, hGaps⟩ := List.forall_mem_cons.1 hCut.gap_apart
  have hBetween : (pieces ≠ [] → gap ≠ []) ∧ ∀ piece ∈ pieces.dropLast, piece.2 ≠ [] := by
    cases pieces with
    | nil => simp
    | cons piece pieces =>
        have hAll := hCut.gap_ne_nil
        rw [List.dropLast_cons_cons] at hAll
        obtain ⟨hFirst, hRest⟩ := List.forall_mem_cons.1 hAll
        exact ⟨fun _ => hFirst, hRest⟩
  refine ⟨gap ++ pieces.flatMap fun piece => piece.1 ++ piece.2, ?_, ?_, hBetween.1⟩
  · simpa using hCut.text_eq
  · exact ⟨rfl, hGap, hRuns, hKeep, hGaps, hBetween.2⟩

/-- A run ends where the gap behind it begins. -/
theorem head?_apart (hCut : IsCut keep gap pieces text) (hGap : pieces ≠ [] → gap ≠ []) :
    ∀ c ∈ text.head?, keep c = false := by
  cases gap with
  | nil =>
      obtain rfl : pieces = [] := not_not.1 fun hPieces => hGap hPieces rfl
      simp [hCut.text_eq]
  | cons d gap =>
      intro c hHead
      rw [hCut.text_eq, List.cons_append, List.head?_cons, Option.mem_some] at hHead
      exact hCut.start_apart c (hHead ▸ List.mem_cons_self)

/-- Behind the gap at the start, a run begins. -/
theorem head?_keep (hCut : IsCut keep start pieces text) :
    ∀ c ∈ (pieces.flatMap fun piece => piece.1 ++ piece.2).head?, keep c = true := by
  cases pieces with
  | nil => simp
  | cons piece pieces =>
      obtain ⟨c, run, hRun⟩ := List.exists_cons_of_ne_nil
        (hCut.run_ne_nil piece List.mem_cons_self)
      have hKeep := hCut.run_keep piece List.mem_cons_self c (hRun ▸ List.mem_cons_self)
      simpa [hRun] using hKeep

/-- The gap at the start ends where the first run begins. -/
theorem start_unique (hCut : IsCut keep start pieces text)
    (hCut' : IsCut keep start' pieces' text) :
    start = start' ∧
      (pieces.flatMap fun piece => piece.1 ++ piece.2) =
        pieces'.flatMap fun piece => piece.1 ++ piece.2 :=
  append_inj_of_mark (by simpa using hCut.start_apart) (by simpa using hCut'.start_apart)
    hCut.head?_keep hCut'.head?_keep (hCut.text_eq.symm.trans hCut'.text_eq)

/-- A text is cut in one way only. -/
theorem unique (hCut : IsCut keep start pieces text) (hCut' : IsCut keep start' pieces' text) :
    start = start' ∧ pieces = pieces' := by
  induction pieces generalizing start start' pieces' text with
  | nil =>
      obtain ⟨hStart, hRest⟩ := hCut.start_unique hCut'
      cases pieces' with
      | nil => exact ⟨hStart, rfl⟩
      | cons piece pieces' =>
          have hRun := hCut'.run_ne_nil piece List.mem_cons_self
          exact absurd hRest.symm (by simp [hRun])
  | cons piece pieces ih =>
      obtain ⟨rfl, hRest⟩ := hCut.start_unique hCut'
      cases pieces' with
      | nil =>
          have hRun := hCut.run_ne_nil piece List.mem_cons_self
          exact absurd hRest (by simp [hRun])
      | cons piece' pieces' =>
          obtain ⟨behind, hText, hBehind, hGap⟩ := hCut.exists_behind
          obtain ⟨behind', hText', hBehind', hGap'⟩ := hCut'.exists_behind
          -- the run ends where the gap behind it begins
          obtain ⟨hRun, rfl⟩ := append_inj_of_mark
            (by simpa using hCut.run_keep piece List.mem_cons_self)
            (by simpa using hCut'.run_keep piece' List.mem_cons_self)
            (hBehind.head?_apart hGap) (hBehind'.head?_apart hGap')
            (List.append_cancel_left (hText.symm.trans hText'))
          obtain ⟨hGaps, rfl⟩ := ih hBehind hBehind'
          exact ⟨rfl, by rw [Prod.ext hRun hGaps]⟩

/-- The runs of a text are those of its cut. -/
theorem runs_eq (hCut : IsCut keep start pieces text) : runs keep text = pieces.map Prod.fst := by
  induction pieces generalizing start text with
  | nil =>
      obtain rfl : text = start := by simpa using hCut.text_eq
      exact runs_eq_nil hCut.start_apart
  | cons piece pieces ih =>
      obtain ⟨behind, rfl, hBehind, hGap⟩ := hCut.exists_behind
      rw [runs_gap hCut.start_apart, runs_append_apart (hCut.run_ne_nil piece List.mem_cons_self)
        (hCut.run_keep piece List.mem_cons_self) (hBehind.head?_apart hGap), ih hBehind]
      rfl

end IsCut

/-- Every text can be cut into runs and gaps. -/
theorem exists_isCut (keep : Char → Bool) (text : List Char) :
    ∃ start pieces, IsCut keep start pieces text := by
  induction text with
  | nil => exact ⟨[], [], .of_gap (by simp)⟩
  | cons c text ih =>
      obtain ⟨start, pieces, hCut⟩ := ih
      cases hChar : keep c with
      | false =>
          refine ⟨c :: start, pieces, { hCut with text_eq := ?_, start_apart := ?_ }⟩
          · rw [hCut.text_eq, List.cons_append]
          · exact List.forall_mem_cons.2 ⟨hChar, hCut.start_apart⟩
      | true =>
          have hOne : [c] ≠ [] ∧ ∀ d ∈ [c], keep d = true := by simpa using hChar
          by_cases hGap : pieces ≠ [] → start ≠ []
          · exact ⟨[], _, hCut.cons hGap hOne.1 hOne.2 (by simp)⟩
          · -- the character goes on the run that the text begins with
            obtain ⟨hPieces, rfl⟩ : pieces ≠ [] ∧ start = [] := by simpa using hGap
            obtain ⟨piece, pieces, rfl⟩ := List.exists_cons_of_ne_nil hPieces
            obtain ⟨behind, rfl, hBehind, hBetween⟩ := hCut.exists_behind
            have hKeep := hCut.run_keep piece List.mem_cons_self
            exact ⟨[], _, hBehind.cons hBetween (List.cons_ne_nil c piece.1)
              (List.forall_mem_cons.2 ⟨hChar, hKeep⟩) (by simp)⟩

/-- The runs of a text hold all of its characters that runs are made of. -/
theorem flatten_runs (keep : Char → Bool) (text : List Char) :
    (runs keep text).flatten = text.filter keep := by
  obtain ⟨start, pieces, hCut⟩ := exists_isCut keep text
  have hStart : start.filter keep = [] :=
    List.filter_eq_nil_iff.2 fun c hMem => by simp [hCut.start_apart c hMem]
  rw [hCut.runs_eq, hCut.text_eq, List.filter_append, hStart, List.nil_append, List.filter_flatMap,
    ← List.flatMap_def]
  refine List.flatMap_congr fun piece hPiece => ?_
  rw [List.filter_append, List.filter_eq_self.2 (hCut.run_keep piece hPiece),
    List.filter_eq_nil_iff.2 fun c hMem => by simp [hCut.gap_apart piece hPiece c hMem],
    List.append_nil]

/-- A text consists of runs with gaps between them, and maybe at its ends. -/
def ConsistsOf (keep : Char → Bool) (list : List String) (text : List Char) : Prop :=
  ∃ start pieces, IsCut keep start pieces text ∧ list.map String.toList = pieces.map Prod.fst

/-- The runs of a text are those that it consists of. -/
theorem runs_eq_iff {keep : Char → Bool} {text : List Char} {list : List String} :
    (runs keep text).map String.ofList = list ↔ ConsistsOf keep list text := by
  constructor
  · rintro rfl
    obtain ⟨start, pieces, hCut⟩ := exists_isCut keep text
    exact ⟨start, pieces, hCut, by simp [hCut.runs_eq, Function.comp_def]⟩
  · rintro ⟨start, pieces, hCut, hList⟩
    rw [hCut.runs_eq, ← hList, List.map_map]
    simp [Function.comp_def]

theorem toList_join_words (text : String) :
    (String.join (words text)).toList = text.toList.filter (!isWhiteSpace ·) := by
  rw [String.toList_join, words, List.flatMap_map]
  simp [← flatten_runs, List.flatMap_def]

/-- A text is made up of words, with white space between them, and maybe at its ends. -/
def IsSpaced (list : List String) (text : String) : Prop :=
  ConsistsOf (!isWhiteSpace ·) list text.toList

theorem words_eq_iff {text : String} {list : List String} :
    words text = list ↔ IsSpaced list text :=
  runs_eq_iff

end FunctionCatalog
