import FunctionCatalog.Extraction.Walk
import FunctionCatalog.Proofs.Comment.Tokenization
import FunctionCatalog.Proofs.TypeName.BuiltinWords
import FunctionCatalog.TypeName.Aliases
import Mathlib

/-!
# Names on one line

A declaration may be broken over lines wherever white space is allowed, and a configured spelling
may hold any white space. What is made of such a text is on one line nevertheless, because it is
put together again of the words of the text: the normal form of a spelling, the canonical name of
a builtin type, the name of an operator. The tokens of a comment are words.

## Main results

* `oneLine_normalizeSpelling`, `oneLine_canonicalBuiltin` — names of types, whatever their text is.
* `TypeAliases.oneLine_resolve?` — what configured and library names stand for.
* `oneLine_functionName` — names of functions.
* `isWord_of_mem_commentTokens` — tokens of comments.
-/

namespace FunctionCatalog

/-! ## Spelled-out names -/

namespace NormalSpelling

private theorem mem_of_mem_dropBlanks {written : List Char} {c : Char}
    (hMem : c ∈ dropBlanks written) :
    c ∈ written :=
  (List.dropWhile_sublist _).mem hMem

/-- A step writes its character or a blank, or nothing. -/
theorem mem_of_mem_write {written : List Char} {c d : Char} (hMem : d ∈ write written c) :
    d ∈ written ∨ d = c ∨ d = ' ' := by
  unfold write at hMem
  split at hMem
  · next hComma =>
      rw [hComma]
      rcases List.mem_cons.mp hMem with hBlank | hMem
      · exact .inr (.inr hBlank)
      · rcases List.mem_cons.mp hMem with hSelf | hMem
        · exact .inr (.inl hSelf)
        · exact .inl (mem_of_mem_dropBlanks hMem)
  · split at hMem
    · rcases List.mem_cons.mp hMem with hSelf | hMem
      · exact .inr (.inl hSelf)
      · exact .inl (mem_of_mem_dropBlanks hMem)
    · split at hMem
      · exact .inl hMem
      · rcases List.mem_cons.mp hMem with hSelf | hMem
        · exact .inr (.inl hSelf)
        · exact .inl hMem

private theorem mem_of_mem_foldl_write {text written : List Char} {d : Char}
    (hMem : d ∈ text.foldl write written) : d ∈ written ∨ d ∈ text ∨ d = ' ' := by
  induction text generalizing written with
  | nil => exact .inl hMem
  | cons c rest ih =>
      rw [List.foldl_cons] at hMem
      rcases ih hMem with hWrite | hRest | hBlank
      · rcases mem_of_mem_write hWrite with hWritten | hSelf | hBlank
        · exact .inl hWritten
        · exact .inr (.inl (hSelf ▸ List.mem_cons_self))
        · exact .inr (.inr hBlank)
      · exact .inr (.inl (List.mem_cons_of_mem _ hRest))
      · exact .inr (.inr hBlank)

end NormalSpelling

theorem oneLine_words_joined (text : String) : OneLine (" ".intercalate (words text)) :=
  oneLine_intercalate (by decide) fun word hWord => (isWord_of_mem_words word hWord).oneLine

/-- Normal forms are on one line, whatever white space there was. -/
theorem oneLine_normalizeSpelling (text : String) : OneLine (normalizeSpelling text) := by
  refine oneLine_ofList.mpr fun c hMem hWhite => ?_
  rw [List.mem_reverse] at hMem
  rcases NormalSpelling.mem_of_mem_foldl_write (NormalSpelling.mem_of_mem_dropBlanks hMem) with
    hNothing | hText | hBlank
  · simp at hNothing
  · exact oneLine_words_joined text c hText hWhite
  · exact hBlank

/-! ## Builtin types -/

namespace BuiltinWords

private theorem oneLine_integerName (ws : BuiltinWords) : OneLine ws.integerName := by
  have hSizes : ∀ size ∈ ["short", "long long", "long", "int"], OneLine size := by decide
  exact hSizes ws.integerName ws.integerName_mem

private theorem oneLine_name {ws : BuiltinWords} (hBase : ∀ base ∈ ws.base?, OneLine base) :
    OneLine ws.name := by
  have hUnsigned : OneLine "unsigned " := by decide
  unfold name
  split
  · split
    · exact oneLine_append.mpr ⟨hUnsigned, ws.oneLine_integerName⟩
    · exact ws.oneLine_integerName
  · next base hSome =>
      have hLine := hBase base hSome
      split
      · decide
      · split
        · decide
        · split
          · decide
          · split
            · exact oneLine_append.mpr ⟨hUnsigned, hLine⟩
            · exact hLine

end BuiltinWords

/-- The canonical name of a builtin type is on one line, however its words are broken over lines. -/
theorem oneLine_canonicalBuiltin (text : String) : OneLine (canonicalBuiltin text) :=
  BuiltinWords.oneLine_name fun base hBase =>
    (BuiltinWords.isBase_of_base?_ofWords isWord_of_mem_words ne_empty_of_mem_words base
      hBase).isWord.oneLine

/-! ## Library types -/

private theorem oneLine_libraryAlias? {lang : Language} {name spelling : String}
    (hAlias : libraryAlias? lang name = some spelling) : OneLine spelling := by
  unfold libraryAlias? at hAlias
  split at hAlias
  all_goals cases lang <;> first | cases hAlias; decide | cases hAlias

namespace TypeAliases

/-- The spellings are on one line. -/
def IsOneLine (aliases : TypeAliases) : Prop :=
  ∀ name spelling, (name, spelling) ∈ aliases.entries → OneLine spelling

theorem isOneLine_ofList (overrides : List (String × String)) : (ofList overrides).IsOneLine := by
  intro name spelling hMem
  obtain ⟨⟨other, text⟩, -, hEntry⟩ := List.mem_map.mp hMem
  rw [← (Prod.mk.inj hEntry).2]
  exact oneLine_normalizeSpelling text

/-- What a name stands for is on one line. -/
theorem oneLine_resolve? {aliases : TypeAliases} (hAliases : aliases.IsOneLine) {lang : Language}
    {name spelling : String} (hResolve : aliases.resolve? lang name = some spelling) :
    OneLine spelling := by
  unfold resolve? at hResolve
  split at hResolve
  · next configured hLookup =>
      obtain ⟨front, back, hEntries, -⟩ := List.lookup_eq_some_iff.mp hLookup
      have hMem : (name, configured) ∈ aliases.entries := by simp [hEntries]
      rw [← Option.some.inj hResolve]
      exact hAliases name configured hMem
  · exact oneLine_libraryAlias? hResolve

end TypeAliases

/-! ## Names of functions -/

/-- The text of the name of an operator is `operator` and a character that goes on no identifier. -/
def IsOperatorText (text : String) : Prop :=
  ∃ c rest, text.toList = "operator".toList ++ c :: rest ∧ isAlphanumeric c = false ∧ c ≠ '_'

private theorem isPrefixOf?_of_isOperatorText {raw : String} (hRaw : IsOperatorText raw) :
    ∃ c rest, "operator".toList.isPrefixOf? raw.toList = some (c :: rest) ∧
      (isAlphanumeric c || c == '_') = false := by
  obtain ⟨c, rest, hText, hChar, hUnderscore⟩ := hRaw
  refine ⟨c, rest, List.isPrefixOf?_eq_some_iff_append_eq.mpr hText.symm, ?_⟩
  rw [hChar, beq_eq_false_iff_ne.mpr hUnderscore]
  rfl

/-- The name of an operator is put together of words. -/
theorem oneLine_functionName_of_isOperatorText {raw : String} (hRaw : IsOperatorText raw) :
    OneLine (functionName raw) := by
  obtain ⟨c, rest, hPrefix, hSymbol⟩ := isPrefixOf?_of_isOperatorText hRaw
  have hSymbols : ∀ symbol ∈ words (String.ofList (c :: rest)), OneLine symbol :=
    fun symbol hMem => (isWord_of_mem_words symbol hMem).oneLine
  rw [functionName, hPrefix]
  dsimp only
  rw [if_neg (Bool.eq_false_iff.mp hSymbol)]
  split
  · exact oneLine_append.mpr ⟨by decide, oneLine_words_joined _⟩
  · exact oneLine_append.mpr ⟨by decide, oneLine_join hSymbols⟩

/-- Every other name is left as it is. -/
theorem functionName_of_not_isOperatorText {raw : String} (hRaw : ¬ IsOperatorText raw) :
    functionName raw = raw := by
  unfold functionName
  split
  · next c rest hPrefix =>
      rw [if_pos]
      by_contra hChar
      rw [Bool.not_eq_true, Bool.or_eq_false_iff, beq_eq_false_iff_ne] at hChar
      exact hRaw ⟨c, rest, (List.isPrefixOf?_eq_some_iff_append_eq.mp hPrefix).symm, hChar⟩
  · rfl

theorem oneLine_functionName {raw : String} (hRaw : IsWord raw ∨ IsOperatorText raw) :
    OneLine (functionName raw) := by
  by_cases hOperator : IsOperatorText raw
  · exact oneLine_functionName_of_isOperatorText hOperator
  · rw [functionName_of_not_isOperatorText hOperator]
    exact (hRaw.resolve_right hOperator).oneLine

/-! ## Comments -/

private theorem isWhiteSpace_of_isAlphanum {c : Char} (hChar : c.isAlphanum = true) :
    isWhiteSpace c = false := by
  simp only [Char.isAlphanum, Char.isAlpha, Char.isUpper, Char.isLower, Char.isDigit,
    Bool.or_eq_true, Bool.and_eq_true, decide_eq_true_eq, UInt32.le_iff_toNat_le,
    ge_iff_le] at hChar
  change ((65 ≤ c.toNat ∧ c.toNat ≤ 90) ∨ (97 ≤ c.toNat ∧ c.toNat ≤ 122)) ∨
    (48 ≤ c.toNat ∧ c.toNat ≤ 57) at hChar
  rw [Bool.eq_false_iff]
  intro hWhite
  obtain ⟨range, hRange, hLow, hHigh⟩ := CodePoints.contains_iff.mp hWhite
  -- the white space of ASCII ends at the blank, and the rest begins behind ASCII
  have hApart : range.2 ≤ 0x20 ∨ 0x80 ≤ range.1 :=
    (show ∀ range ∈ whiteSpace, range.2 ≤ 0x20 ∨ 0x80 ≤ range.1 by decide) range hRange
  omega

theorem isWord_of_mem_commentTokens {text : List Char} :
    ∀ token ∈ commentTokens text, IsWord token := by
  intro token hToken c hMem
  exact isWhiteSpace_of_isAlphanum (isTokenChar_of_mem_commentTokens hToken c hMem)

end FunctionCatalog
