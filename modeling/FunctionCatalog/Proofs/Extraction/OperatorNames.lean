import FunctionCatalog.Proofs.Extraction.FunctionRecord
import FunctionCatalog.Proofs.Text.Runs
import FunctionCatalog.Proofs.TypeName.NormalForm
import Mathlib

/-!
# Names of overloaded operators

An operator is declared as the word `operator` followed by the operator's tokens, and white space
may stand in front of each of them. A name has the characters of the declared one other than white
space, so operators with different tokens have different names, and it is its own name.

An operator that is made of symbols has one name, whatever white space there is. An operator that is
a keyword is set apart by one blank, and so are brackets behind the keyword if there is white space
in front of them: `new[]` has two names, and no other operator has more than one.

## Main results

* `filter_functionName` — names differ from the declared ones in white space only.
* `functionName_functionName` — names are their own names.
* `OverloadedOperator.functionName_of_written` — the names of operators in every layout.
* `OverloadedOperator.functionName_new_brackets` — two names for one operator.
-/

namespace FunctionCatalog

/-! ## Names and white space -/

/-- White space goes on no identifier. -/
theorem not_identifier_of_isWhiteSpace {c : Char} (hWhite : isWhiteSpace c = true) :
    isAlphanumeric c = false ∧ c ≠ '_' := by
  constructor
  · by_contra hChar
    rw [Bool.not_eq_false] at hChar
    exact Bool.false_ne_true
      ((NormalSpelling.isWhiteSpace_of_isAlphanumeric hChar).symm.trans hWhite)
  · rintro rfl
    exact absurd hWhite (by decide)

/-- The first character that is not white space. -/
theorem head?_trimStart (text : List Char) :
    (trimStart text).head? = (text.filter (!isWhiteSpace ·)).head? := by
  rw [List.head?_filter, List.find?_eq_head?_dropWhile_not, trimStart]
  simp

/-- Whether the first character of a text that is not white space is a letter. -/
def opensWithLetter (text : List Char) : Bool :=
  ((text.filter (!isWhiteSpace ·)).head?.map isAlphabetic).getD false

/-- The name of an operator, by what follows the word `operator`: the words of a keyword are set
apart by single blanks, and those of symbols are put together. -/
theorem toList_functionName_of_body {raw : String} {body : List Char}
    (hRaw : raw.toList = "operator".toList ++ body)
    (hBody : ∃ c ∈ body.head?, isAlphanumeric c = false ∧ c ≠ '_') :
    (functionName raw).toList = "operator".toList ++
      if opensWithLetter body then ' ' :: [' '].intercalate (runs (!isWhiteSpace ·) body)
      else body.filter (!isWhiteSpace ·) := by
  obtain ⟨c, hHead, hChar, hUnderscore⟩ := hBody
  obtain ⟨rest, rfl⟩ := List.head?_eq_some_iff.mp hHead
  have hNoIdentifier : ¬ (isAlphanumeric c || c == '_') = true := by simp [hChar, hUnderscore]
  have hSpaced := toList_intercalate_words (String.ofList (c :: rest))
  have hJoined := toList_join_words (String.ofList (c :: rest))
  rw [String.toList_ofList] at hSpaced hJoined
  rw [functionName, List.isPrefixOf?_eq_some_iff_append_eq.mpr hRaw.symm]
  dsimp only
  rw [if_neg hNoIdentifier, head?_trimStart, ← opensWithLetter]
  split
  · rw [String.toList_append, hSpaced]
    rfl
  · rw [String.toList_append, hJoined]

private theorem isWord_operator : IsWord "operator" := by
  rw [IsWord]
  simp
  decide

/-- A name without white space is its own name. -/
theorem functionName_of_isWord {raw : String} (hWord : IsWord raw) : functionName raw = raw := by
  by_cases hOperator : IsOperatorText raw
  · obtain ⟨c, rest, hRaw, hBody⟩ := hOperator
    have hChars : ∀ d ∈ c :: rest, (!isWhiteSpace d) = true := fun d hMem => by
      rw [hWord d (hRaw ▸ List.mem_append_right _ hMem)]
      rfl
    have hAll : (c :: rest).filter (!isWhiteSpace ·) = c :: rest := List.filter_eq_self.mpr hChars
    have hNoLetter : ¬ opensWithLetter (c :: rest) = true := by
      have hSymbol : isAlphabetic c = false := (Bool.or_eq_false_iff.mp hBody.1).1
      simp [opensWithLetter, hAll, hSymbol]
    apply String.toList_injective
    rw [toList_functionName_of_body hRaw ⟨c, rfl, hBody⟩, if_neg hNoLetter, hAll, hRaw]
  · exact functionName_of_not_isOperatorText hOperator

/-- A name has the characters of the declared one other than white space. -/
theorem filter_functionName (raw : String) :
    (functionName raw).toList.filter (!isWhiteSpace ·) = raw.toList.filter (!isWhiteSpace ·) := by
  by_cases hOperator : IsOperatorText raw
  · obtain ⟨c, rest, hRaw, hBody⟩ := hOperator
    rw [toList_functionName_of_body hRaw ⟨c, rfl, hBody⟩, hRaw, List.filter_append,
      List.filter_append, List.append_cancel_left_eq]
    split
    · have hAlike : NormalSpelling.SpacedAlike (c :: rest) _ :=
        NormalSpelling.spacedAlike_runsFrom [] (c :: rest)
      exact hAlike.filter_eq.symm
    · rw [List.filter_filter]
      simp only [Bool.and_self]
  · rw [functionName_of_not_isOperatorText hOperator]

/-- Names are their own names. -/
theorem functionName_functionName (raw : String) :
    functionName (functionName raw) = functionName raw := by
  by_cases hOperator : IsOperatorText raw
  · obtain ⟨c, rest, hRaw, hBody⟩ := hOperator
    have hSame := filter_functionName raw
    have hName := toList_functionName_of_body hRaw ⟨c, rfl, hBody⟩
    split at hName
    · next hLetter =>
        -- the words of the name are those of the declared name, and the first is a keyword still
        rw [hName, hRaw, List.filter_append, List.filter_append] at hSame
        have hRuns : runs (!isWhiteSpace ·)
            (' ' :: [' '].intercalate (runs (!isWhiteSpace ·) (c :: rest))) =
              runs (!isWhiteSpace ·) (c :: rest) := by
          rw [runs_cons rfl]
          exact runs_intercalate rfl fun run hMem =>
            ⟨ne_nil_of_mem_runs run hMem, keep_of_mem_runs run hMem⟩
        apply String.toList_injective
        rw [toList_functionName_of_body hName ⟨' ', rfl, not_identifier_of_isWhiteSpace rfl⟩,
          opensWithLetter, List.append_cancel_left hSame, ← opensWithLetter, if_pos hLetter, hRuns,
          hName]
    · refine functionName_of_isWord ?_
      rw [IsWord, hName]
      exact List.forall_mem_append.mpr
        ⟨isWord_operator, fun d hMem => by simpa using List.of_mem_filter hMem⟩
  · rw [functionName_of_not_isOperatorText hOperator, functionName_of_not_isOperatorText hOperator]

/-! ## Operators and their tokens -/

/-- The tokens of the operators that allocate and release arrays. -/
def arrayOperators : List (List String) :=
  [["new", "[", "]"], ["delete", "[", "]"]]

/-- The tokens of the operators that can be overloaded, those of literals apart. An operator that
has two spellings is listed with both. -/
def operatorTokens : List (List String) :=
  (["+", "-", "*", "/", "%", "^", "&", "|", "~", "!", "=", "<", ">", "+=", "-=", "*=", "/=", "%=",
    "^=", "&=", "|=", "<<", ">>", ">>=", "<<=", "==", "!=", "<=", ">=", "<=>", "&&", "||", "++",
    "--", ",", "->*", "->", "new", "delete", "co_await", "and", "and_eq", "bitand", "bitor",
    "compl", "not", "not_eq", "or", "or_eq", "xor", "xor_eq"].map fun token => [token]) ++
  [["(", ")"], ["[", "]"]] ++ arrayOperators

/-- Characters that go on no identifier. -/
def punctuation : CodePoints :=
  [(0x21, 0x2F), (0x3A, 0x40), (0x5B, 0x5E), (0x7B, 0x7E)]

/-- The small letters of ASCII. -/
def smallLetters : CodePoints :=
  [(0x61, 0x7A)]

/-- Whether the first token of a list begins with a character of a set. -/
def opensWith (ranges : CodePoints) (list : List String) : Bool :=
  (String.join list).toList.head?.any ranges.contains

private theorem opensWith_iff {ranges : CodePoints} {list : List String} :
    opensWith ranges list = true ↔
      ∃ c ∈ (String.join list).toList.head?, ranges.contains c = true := by
  rw [opensWith, Option.any_eq_true]
  rfl

set_option maxRecDepth 100000 in
/-- A keyword of the table is the only token, unless the operator is one for arrays. The other
operators are made of symbols. -/
theorem of_listed : ∀ list ∈ operatorTokens,
    (∀ token ∈ list, IsWord token ∧ token ≠ "") ∧ (String.join list).toList.head? ≠ some '"' ∧
    (opensWith smallLetters list = true ∧ (list ∈ arrayOperators ∨ list.length = 1) ∨
      opensWith punctuation list = true ∧ list ∉ arrayOperators) := by
  decide

private theorem nodup_operatorTokens : (operatorTokens.map String.join).Nodup := by
  simp [operatorTokens, arrayOperators]

set_option maxRecDepth 100000 in
private theorem isAlphanumeric_of_punctuation {c : Char} (h : punctuation.contains c = true) :
    isAlphanumeric c = false := by
  by_contra hChar
  rw [Bool.not_eq_false] at hChar
  have hOther : punctuation.contains c = false :=
    NormalSpelling.contains_eq_false_of_isAlphanumeric (by decide) (by decide) hChar
  exact Bool.false_ne_true (hOther.symm.trans h)

private theorem isAlphabetic_of_smallLetters {c : Char} (h : smallLetters.contains c = true) :
    isAlphabetic c = true := by
  obtain ⟨range, hRange, hIn⟩ := CodePoints.contains_iff.mp h
  obtain rfl := List.mem_singleton.mp hRange
  have hTable : (0x61, 0x7A) ∈ alphabetic := List.mem_cons_of_mem _ List.mem_cons_self
  exact CodePoints.contains_iff.mpr ⟨_, hTable, hIn⟩

/-- An operator, as far as its tokens go. -/
inductive OverloadedOperator where
  /-- An operator of the table. -/
  | listed (list : List String) (hListed : list ∈ operatorTokens)
  /-- The operator of literals with a suffix. -/
  | literal (suffix : String) (hWord : IsWord suffix) (hNonempty : suffix ≠ "")

namespace OverloadedOperator

/-- The tokens behind the word `operator`. -/
def tokens : OverloadedOperator → List String
  | listed list _ => list
  | literal suffix _ _ => ["\"\"", suffix]

/-- Whether the first token is a keyword, which needs white space in front of it. -/
def isKeyword (op : OverloadedOperator) : Bool :=
  opensWithLetter (String.join op.tokens).toList

private theorem isWord_of_mem_tokens (op : OverloadedOperator) :
    ∀ token ∈ op.tokens, IsWord token ∧ token ≠ "" := by
  cases op with
  | listed list hListed => exact (of_listed list hListed).1
  | literal suffix hWord hNonempty =>
      exact List.forall_mem_cons.mpr
        ⟨by decide, List.forall_mem_singleton.mpr ⟨hWord, hNonempty⟩⟩

private theorem isWord_join (op : OverloadedOperator) : IsWord (String.join op.tokens) := by
  intro c hMem
  rw [String.toList_join, List.mem_flatMap] at hMem
  obtain ⟨token, hToken, hMem⟩ := hMem
  exact (op.isWord_of_mem_tokens token hToken).1 c hMem

/-- An operator begins with a letter if it is a keyword, and it has no other tokens then, unless it
is an operator for arrays. Otherwise it begins with a symbol. -/
theorem cases_tokens (op : OverloadedOperator) :
    opensWith smallLetters op.tokens = true ∧
        (op.tokens ∈ arrayOperators ∨ op.tokens.length = 1) ∨
      opensWith punctuation op.tokens = true ∧ op.tokens ∉ arrayOperators := by
  cases op with
  | listed list hListed => exact (of_listed list hListed).2.2
  | literal suffix hWord hNonempty =>
      refine .inr ⟨?_, by simp [tokens, arrayOperators]⟩
      have hQuote : punctuation.contains '"' = true := by decide
      simpa [opensWith, tokens] using hQuote

private theorem isKeyword_eq {op : OverloadedOperator} {c : Char}
    (hHead : c ∈ (String.join op.tokens).toList.head?) : op.isKeyword = isAlphabetic c := by
  rw [isKeyword, opensWithLetter, op.isWord_join.filter_eq, Option.mem_def.mp hHead]
  rfl

private theorem isKeyword_of_smallLetters {op : OverloadedOperator}
    (hLetter : opensWith smallLetters op.tokens = true) : op.isKeyword = true := by
  obtain ⟨c, hHead, hChar⟩ := opensWith_iff.mp hLetter
  rw [isKeyword_eq hHead, isAlphabetic_of_smallLetters hChar]

/-- What begins with a symbol is no keyword, and goes on no identifier. -/
theorem exists_head_of_punctuation {op : OverloadedOperator}
    (hSymbol : opensWith punctuation op.tokens = true) :
    op.isKeyword = false ∧ ∃ c ∈ (String.join op.tokens).toList.head?,
      isAlphanumeric c = false ∧ c ≠ '_' := by
  obtain ⟨c, hHead, hChar⟩ := opensWith_iff.mp hSymbol
  have hAlphanumeric := isAlphanumeric_of_punctuation hChar
  refine ⟨(isKeyword_eq hHead).trans (Bool.or_eq_false_iff.mp hAlphanumeric).1, c, hHead,
    hAlphanumeric, ?_⟩
  rintro rfl
  exact absurd hChar (by decide)

private theorem isKeyword_of_arrayOperators {op : OverloadedOperator}
    (h : op.tokens ∈ arrayOperators) :
    op.isKeyword = true := by
  rcases op.cases_tokens with ⟨hLetter, -⟩ | ⟨-, hOther⟩
  · exact isKeyword_of_smallLetters hLetter
  · exact absurd h hOther

/-- A keyword is the only token, unless the operator is one for arrays. -/
theorem exists_eq_singleton {op : OverloadedOperator} (hKeyword : op.isKeyword = true)
    (hOther : op.tokens ∉ arrayOperators) : ∃ token, op.tokens = [token] := by
  rcases op.cases_tokens with ⟨-, hArray | hLength⟩ | ⟨hSymbol, -⟩
  · exact absurd hArray hOther
  · exact List.length_eq_one_iff.mp hLength
  · exact absurd ((exists_head_of_punctuation hSymbol).1.symm.trans hKeyword) Bool.false_ne_true

private theorem join_tokens_ne_empty (op : OverloadedOperator) : String.join op.tokens ≠ "" := by
  intro hEmpty
  rcases op.cases_tokens with ⟨hLetter, -⟩ | ⟨hSymbol, -⟩
  · simp [opensWith, hEmpty] at hLetter
  · simp [opensWith, hEmpty] at hSymbol

/-- Different operators have different characters. -/
theorem eq_of_join_eq {op op' : OverloadedOperator}
    (hSame : String.join op.tokens = String.join op'.tokens) : op = op' := by
  have hNoQuote {list : List String} (hListed : list ∈ operatorTokens) (suffix : String) :
      String.join list ≠ String.join ["\"\"", suffix] := by
    intro hLiteral
    refine (of_listed list hListed).2.1 ?_
    simp [hLiteral]
  cases op with
  | listed list hListed =>
      cases op' with
      | listed list' hListed' =>
          obtain rfl : list = list' :=
            List.inj_on_of_nodup_map nodup_operatorTokens hListed hListed' hSame
          rfl
      | literal suffix' _ _ => exact absurd hSame (hNoQuote hListed suffix')
  | literal suffix _ _ =>
      cases op' with
      | listed list' hListed' => exact absurd hSame.symm (hNoQuote hListed' suffix)
      | literal suffix' _ _ =>
          obtain rfl : suffix = suffix' := by simpa [tokens] using hSame
          rfl

end OverloadedOperator

/-! ## Tokens and white space -/

/-- A text of tokens, each with the white space in front of it. -/
def spacedText (pieces : List (List Char × String)) : List Char :=
  pieces.flatMap fun piece => piece.1 ++ piece.2.toList

/-- A token with a blank in place of the white space in front of it, if there is any. -/
def blankGap (piece : List Char × String) : List Char × String :=
  (if piece.1.isEmpty then [] else [' '], piece.2)

variable {pieces pieces' : List (List Char × String)}

@[simp] theorem spacedText_cons (piece : List Char × String) (pieces : List (List Char × String)) :
    spacedText (piece :: pieces) = piece.1 ++ (piece.2.toList ++ spacedText pieces) := by
  simp [spacedText]

/-- White space makes no difference to the other characters of the tokens. -/
theorem filter_spacedText (hGaps : ∀ piece ∈ pieces, ∀ c ∈ piece.1, isWhiteSpace c = true)
    (hTokens : ∀ piece ∈ pieces, IsWord piece.2) :
    (spacedText pieces).filter (!isWhiteSpace ·) =
      (String.join (pieces.map Prod.snd)).toList := by
  rw [spacedText, List.filter_flatMap, String.toList_join, List.flatMap_map]
  refine List.flatMap_congr fun piece hPiece => ?_
  have hGap : piece.1.filter (!isWhiteSpace ·) = [] :=
    List.filter_eq_nil_iff.mpr fun c hMem => by simp [hGaps piece hPiece c hMem]
  rw [List.filter_append, hGap, (hTokens piece hPiece).filter_eq, List.nil_append]

/-- The words of a text with single blanks between them are the tokens, with a blank where there is
white space. -/
theorem intercalate_runs_spacedText {run : List Char} (hRun : run ≠ [])
    (hWord : ∀ c ∈ run, isWhiteSpace c = false)
    (hGaps : ∀ piece ∈ pieces, ∀ c ∈ piece.1, isWhiteSpace c = true)
    (hTokens : ∀ piece ∈ pieces, IsWord piece.2 ∧ piece.2 ≠ "") :
    [' '].intercalate (runs (!isWhiteSpace ·) (run ++ spacedText pieces)) =
      run ++ spacedText (pieces.map blankGap) := by
  induction pieces generalizing run with
  | nil =>
      have hOnly : runs (!isWhiteSpace ·) run = [run] :=
        runs_eq_singleton hRun fun c hMem => by simp [hWord c hMem]
      simp [spacedText, hOnly]
  | cons piece pieces ih =>
      obtain ⟨gap, token⟩ := piece
      obtain ⟨hGap, hOtherGaps⟩ := List.forall_mem_cons.mp hGaps
      obtain ⟨⟨hToken, hNonempty⟩, hOtherTokens⟩ := List.forall_mem_cons.mp hTokens
      have hChars : token.toList ≠ [] := mt String.toList_eq_nil_iff.mp hNonempty
      cases gap with
      | nil =>
          -- the token goes on the run in front of it
          have hLonger := ih (List.append_ne_nil_of_left_ne_nil hRun token.toList)
            (List.forall_mem_append.mpr ⟨hWord, hToken⟩) hOtherGaps hOtherTokens
          simpa [spacedText, blankGap] using hLonger
      | cons c gap =>
          have hApart : ∀ d ∈ c :: gap, (!isWhiteSpace d) = false := fun d hMem => by
            rw [hGap d hMem]
            rfl
          have hOnly : runs (!isWhiteSpace ·) run = [run] :=
            runs_eq_singleton hRun fun d hMem => by simp [hWord d hMem]
          have hBehind := ih hChars hToken hOtherGaps hOtherTokens
          rw [spacedText_cons, runs_append_gap (List.cons_ne_nil c gap) hApart, hOnly]
          cases hRuns : runs (!isWhiteSpace ·) (token.toList ++ spacedText pieces) with
          | nil => simp [hRuns, hChars] at hBehind
          | cons next others =>
              rw [hRuns] at hBehind
              rw [List.singleton_append, List.intercalate_cons_cons, hBehind]
              simp [blankGap]

/-- What stands in front of the tokens is seen in their text if it is blanks. -/
theorem spacedText_blankGap_inj (hSame : pieces.map Prod.snd = pieces'.map Prod.snd)
    (hTokens : ∀ piece ∈ pieces, IsWord piece.2 ∧ piece.2 ≠ "") :
    spacedText (pieces.map blankGap) = spacedText (pieces'.map blankGap) ↔
      pieces.map (·.1.isEmpty) = pieces'.map (·.1.isEmpty) := by
  induction pieces generalizing pieces' with
  | nil =>
      obtain rfl : pieces' = [] := by simpa using hSame.symm
      simp
  | cons piece pieces ih =>
      obtain ⟨gap, token⟩ := piece
      cases pieces' with
      | nil => simp at hSame
      | cons piece' pieces' =>
          obtain ⟨gap', token'⟩ := piece'
          obtain ⟨rfl, hOthers⟩ : token = token' ∧ pieces.map Prod.snd = pieces'.map Prod.snd := by
            simpa using hSame
          obtain ⟨⟨hToken, hNonempty⟩, hOtherTokens⟩ := List.forall_mem_cons.mp hTokens
          obtain ⟨c, rest, hChars⟩ :=
            List.exists_cons_of_ne_nil (mt String.toList_eq_nil_iff.mp hNonempty)
          have hBlank : c ≠ ' ' := by
            rintro rfl
            exact absurd (hToken ' ' (hChars ▸ List.mem_cons_self)) (by decide)
          cases gap <;> cases gap' <;>
            simp [blankGap, hChars, hBlank, hBlank.symm, ih hOthers hOtherTokens]

/-! ## Names of operators -/

namespace OverloadedOperator

/-- A text is the word `operator` followed by the tokens of an operator, each with white space in
front of it, or none. -/
structure IsWritten (op : OverloadedOperator) (pieces : List (List Char × String)) (raw : String) :
    Prop where
  /-- The text is made up of the white space and the tokens. -/
  text_eq : raw.toList = "operator".toList ++ spacedText pieces
  /-- The tokens are those of the operator. -/
  tokens_eq : pieces.map Prod.snd = op.tokens
  /-- There is nothing else but white space in front of them. -/
  gap_white : ∀ piece ∈ pieces, ∀ c ∈ piece.1, isWhiteSpace c = true
  /-- A keyword is set apart. -/
  keyword_apart : op.isKeyword = true → ∀ piece ∈ pieces.head?, piece.1 ≠ []

namespace IsWritten

variable {op op' : OverloadedOperator} {raw raw' : String}

private theorem isWord_token (hWritten : op.IsWritten pieces raw) :
    ∀ piece ∈ pieces, IsWord piece.2 ∧ piece.2 ≠ "" := by
  intro piece hPiece
  refine op.isWord_of_mem_tokens piece.2 ?_
  rw [← hWritten.tokens_eq]
  exact List.mem_map_of_mem hPiece

theorem filter_eq (hWritten : op.IsWritten pieces raw) :
    (spacedText pieces).filter (!isWhiteSpace ·) = (String.join op.tokens).toList := by
  have hWords : ∀ piece ∈ pieces, IsWord piece.2 := fun piece hPiece =>
    (hWritten.isWord_token piece hPiece).1
  rw [filter_spacedText hWritten.gap_white hWords, hWritten.tokens_eq]

private theorem opensWithLetter_eq (hWritten : op.IsWritten pieces raw) :
    opensWithLetter (spacedText pieces) = op.isKeyword := by
  rw [opensWithLetter, hWritten.filter_eq, isKeyword, opensWithLetter, op.isWord_join.filter_eq]

private theorem exists_cons (hWritten : op.IsWritten pieces raw) :
    ∃ piece rest, pieces = piece :: rest := by
  refine List.exists_cons_of_ne_nil ?_
  rintro rfl
  exact op.join_tokens_ne_empty (by simp [← hWritten.tokens_eq])

/-- The word `operator` ends where the word does. -/
theorem exists_head (hWritten : op.IsWritten pieces raw) :
    ∃ c ∈ (spacedText pieces).head?, isAlphanumeric c = false ∧ c ≠ '_' := by
  obtain ⟨⟨gap, token⟩, rest, rfl⟩ := hWritten.exists_cons
  cases gap with
  | cons c gap =>
      have hWhite : isWhiteSpace c = true :=
        hWritten.gap_white _ List.mem_cons_self c List.mem_cons_self
      exact ⟨c, by simp, not_identifier_of_isWhiteSpace hWhite⟩
  | nil =>
      rcases op.cases_tokens with ⟨hLetter, -⟩ | ⟨hSymbol, -⟩
      · exact absurd rfl (hWritten.keyword_apart (isKeyword_of_smallLetters hLetter) _ rfl)
      · obtain ⟨-, c, hHead, hChar⟩ := exists_head_of_punctuation hSymbol
        refine ⟨c, ?_, hChar⟩
        have hNonempty := (hWritten.isWord_token _ List.mem_cons_self).2
        obtain ⟨d, chars, hChars⟩ :=
          List.exists_cons_of_ne_nil (mt String.toList_eq_nil_iff.mp hNonempty)
        rw [← hWritten.tokens_eq] at hHead
        simpa [hChars] using hHead

/-- The name of an operator, in every layout. -/
theorem toList_functionName (hWritten : op.IsWritten pieces raw) :
    (functionName raw).toList = "operator".toList ++
      if op.isKeyword then spacedText (pieces.map blankGap)
      else (String.join op.tokens).toList := by
  rw [toList_functionName_of_body hWritten.text_eq hWritten.exists_head,
    hWritten.opensWithLetter_eq, hWritten.filter_eq, List.append_cancel_left_eq]
  split
  · next hKeyword =>
      obtain ⟨⟨gap, token⟩, rest, rfl⟩ := hWritten.exists_cons
      obtain ⟨hGap, hGaps⟩ := List.forall_mem_cons.mp hWritten.gap_white
      obtain ⟨⟨hToken, hNonempty⟩, hTokens⟩ := List.forall_mem_cons.mp hWritten.isWord_token
      have hApart : gap ≠ [] := hWritten.keyword_apart hKeyword _ rfl
      have hStart : ∀ c ∈ gap, (!isWhiteSpace c) = false := fun c hMem => by
        rw [hGap c hMem]
        rfl
      rw [spacedText_cons, runs_gap hStart,
        intercalate_runs_spacedText (mt String.toList_eq_nil_iff.mp hNonempty) hToken hGaps hTokens]
      simp [blankGap, hApart]
  · rfl

/-- Operators with one name are the same operator. -/
theorem eq_of_functionName_eq (hWritten : op.IsWritten pieces raw)
    (hWritten' : op'.IsWritten pieces' raw') (hSame : functionName raw = functionName raw') :
    op = op' := by
  have hFilter := filter_functionName raw
  rw [hSame, filter_functionName raw', hWritten.text_eq, hWritten'.text_eq, List.filter_append,
    List.filter_append, hWritten.filter_eq, hWritten'.filter_eq] at hFilter
  exact (eq_of_join_eq (String.toList_injective (List.append_cancel_left hFilter))).symm

private theorem isEmpty_of_singleton (hWritten : op.IsWritten pieces raw)
    (hKeyword : op.isKeyword = true) {token : String} (hOnly : op.tokens = [token]) :
    pieces.map (·.1.isEmpty) = [false] := by
  obtain ⟨piece, rest, rfl⟩ := hWritten.exists_cons
  have hTokens := hWritten.tokens_eq
  rw [hOnly, List.map_cons, List.cons.injEq, List.map_eq_nil_iff] at hTokens
  have hApart : piece.1 ≠ [] := hWritten.keyword_apart hKeyword piece rfl
  simp [hTokens.2, hApart]

/-- Two layouts of an operator give one name, unless it is an operator for arrays: then white space
has to be in front of the same tokens. -/
theorem functionName_eq_iff (hWritten : op.IsWritten pieces raw)
    (hWritten' : op.IsWritten pieces' raw') :
    functionName raw = functionName raw' ↔
      (op.tokens ∈ arrayOperators → pieces.map (·.1.isEmpty) = pieces'.map (·.1.isEmpty)) := by
  rw [← String.toList_inj, hWritten.toList_functionName, hWritten'.toList_functionName,
    List.append_cancel_left_eq]
  split
  · next hKeyword =>
      rw [spacedText_blankGap_inj (hWritten.tokens_eq.trans hWritten'.tokens_eq.symm)
        hWritten.isWord_token]
      by_cases hArray : op.tokens ∈ arrayOperators
      · simp [hArray]
      · obtain ⟨token, hOnly⟩ := exists_eq_singleton hKeyword hArray
        rw [hWritten.isEmpty_of_singleton hKeyword hOnly,
          hWritten'.isEmpty_of_singleton hKeyword hOnly]
        simp
  · next hSymbol =>
      have hOther : op.tokens ∉ arrayOperators := fun hArray =>
        hSymbol (isKeyword_of_arrayOperators hArray)
      simp [hOther]

end IsWritten

end OverloadedOperator

/-- The name in a record is that of the declared name. -/
theorem name_of_functionRecord? {source : Bytes} {naming : Naming} {before : List Node}
    {owner declarator name : Node} {chain : List DeclaratorOperator} {raw : String}
    {record : FunctionRecord} (hDeclares : Declares source naming declarator chain (some name))
    (hText : name.text? source = some raw)
    (hRecord : functionRecord? source naming before owner declarator = some record) :
    record.name = functionName raw := by
  obtain ⟨declaration, recordName, types, hRead, hFunction, rfl⟩ :=
    functionRecord?_eq_some_iff.mp hRecord
  obtain ⟨type, specifier, read, -, -, hReadDeclarator, rfl⟩ := ofNodes?_eq_some_iff.mp hRead
  obtain ⟨declared, text, -, -, -, -, hName, -, hDeclaredText, -, rfl, -⟩ :=
    Declaration.function?_eq_some_iff.mp hFunction
  obtain ⟨other, hOther, -, hMeans⟩ := hDeclares.read
  obtain rfl : other = read := Option.some.inj (hOther.symm.trans hReadDeclarator)
  obtain ⟨kind, hKind⟩ := hDeclares.name_kind name rfl
  have hDeclaredName : other.name? = some ⟨kind, some raw⟩ := by
    rw [hMeans.name?_eq]
    simp [Node.declaredName?, hKind, hText]
  obtain rfl : ⟨kind, some raw⟩ = declared := Option.some.inj (hDeclaredName.symm.trans hName)
  obtain rfl : raw = text := Option.some.inj hDeclaredText
  rfl

namespace OverloadedOperator

/-- **Names of operators and white space**: two texts of operators give one name if and only if the
operators have the same tokens and, if these are `new[]` or `delete[]`, white space is in front of
the same ones of them. So all other operators have one name, however they are laid out. The name is
made of the symbols alone; a keyword is set apart by one blank, and so is what follows it after
white space. It is its own name, as every name is, and records are called by it. -/
theorem functionName_of_written {op op' : OverloadedOperator} {raw raw' : String}
    (hWritten : op.IsWritten pieces raw) (hWritten' : op'.IsWritten pieces' raw') :
    (functionName raw = functionName raw' ↔ op = op' ∧
      (op.tokens ∈ arrayOperators →
        pieces.map (·.1.isEmpty) = pieces'.map (·.1.isEmpty))) ∧
    ((functionName raw).toList = "operator".toList ++
      if op.isKeyword then spacedText (pieces.map blankGap)
      else (String.join op.tokens).toList) ∧
    (∀ text : String, functionName (functionName text) = functionName text) ∧
    ∀ (source : Bytes) (naming : Naming) (before : List Node) (owner declarator name : Node)
      (chain : List DeclaratorOperator) (record : FunctionRecord),
      Declares source naming declarator chain (some name) → name.text? source = some raw →
      functionRecord? source naming before owner declarator = some record →
      record.name = functionName raw := by
  refine ⟨⟨fun hSame => ?_, ?_⟩, hWritten.toList_functionName, functionName_functionName, ?_⟩
  · obtain rfl := hWritten.eq_of_functionName_eq hWritten' hSame
    exact ⟨rfl, (hWritten.functionName_eq_iff hWritten').mp hSame⟩
  · rintro ⟨rfl, hGaps⟩
    exact (hWritten.functionName_eq_iff hWritten').mpr hGaps
  · intro source naming before owner declarator name chain record hDeclares hText hRecord
    exact name_of_functionRecord? hDeclares hText hRecord

/-- The operator of literals in kilometres is written on one line, or on two. -/
theorem functionName_of_written_literal :
    let op : OverloadedOperator := .literal "_km" (by decide) (by decide)
    op.IsWritten [([' '], "\"\""), ([' '], "_km")] "operator \"\" _km" ∧
      op.IsWritten [(['\n'], "\"\""), ([], "_km")] "operator\n\"\"_km" ∧
      functionName "operator \"\" _km" = functionName "operator\n\"\"_km" := by
  intro op
  have hSymbol : op.isKeyword ≠ true :=
    Bool.eq_false_iff.mp (exists_head_of_punctuation (by decide)).1
  have hWritten : op.IsWritten [([' '], "\"\""), ([' '], "_km")] "operator \"\" _km" :=
    ⟨rfl, rfl, by simp; decide, fun hKeyword => absurd hKeyword hSymbol⟩
  have hWritten' : op.IsWritten [(['\n'], "\"\""), ([], "_km")] "operator\n\"\"_km" :=
    ⟨rfl, rfl, by simp; decide, fun hKeyword => absurd hKeyword hSymbol⟩
  have hNames := (functionName_of_written hWritten hWritten').1
  exact ⟨hWritten, hWritten', hNames.mpr ⟨rfl, fun hArray => absurd hArray (by decide)⟩⟩

/-- The operator `new[]` has two names. -/
theorem functionName_new_brackets :
    let op : OverloadedOperator := .listed ["new", "[", "]"] (by decide)
    op.IsWritten [([' '], "new"), ([], "["), ([], "]")] "operator new[]" ∧
      op.IsWritten [([' '], "new"), ([' '], "["), ([], "]")] "operator new []" ∧
      functionName "operator new[]" ≠ functionName "operator new []" := by
  intro op
  have hWritten : op.IsWritten [([' '], "new"), ([], "["), ([], "]")] "operator new[]" :=
    ⟨rfl, rfl, by simp; decide, by simp⟩
  have hWritten' : op.IsWritten [([' '], "new"), ([' '], "["), ([], "]")] "operator new []" :=
    ⟨rfl, rfl, by simp; decide, by simp⟩
  refine ⟨hWritten, hWritten', fun hSame => ?_⟩
  have hGaps := (hWritten.functionName_eq_iff hWritten').mp hSame (by decide)
  simp at hGaps

end OverloadedOperator

end FunctionCatalog
