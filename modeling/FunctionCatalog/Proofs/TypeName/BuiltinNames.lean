import FunctionCatalog.Proofs.Text.Runs
import FunctionCatalog.Proofs.TypeName.BuiltinWords
import Mathlib

/-!
# The canonical names of builtin types

A name that is put together of words says what the words said, so it is its own canonical name.
Where the words name one base at most, it makes no difference in which order they stand, whether
there is an `int`, and how often there is a word that only sets a flag. Then a spelling of `signed`
makes a difference too only if there is none yet and the type is a `char` without `unsigned`.

## Main results

* `BuiltinWords.name_words_name` — a name is the name of its own words.
* `BuiltinWords.ofWords_of_edited` — what makes no difference to words.
* `canonicalBuiltin_canonicalForm` — both, for texts.
-/

namespace FunctionCatalog

/-- The words that name no base. -/
def builtinKeywords : List String :=
  ["unsigned", "signed", "__signed", "__signed__", "short", "long", "int"]

namespace BuiltinWord

private theorem ofString_eq_base_iff {word : String} :
    ofString word = .base word ↔ word ∉ builtinKeywords := by
  unfold ofString
  split <;> simp_all [builtinKeywords]

private theorem ofString_eq_unsigned_iff {word : String} :
    ofString word = .unsigned ↔ word = "unsigned" := by
  unfold ofString
  split <;> simp_all

end BuiltinWord

namespace BuiltinWords

private theorem mem_bases_iff_not_mem_keywords {list : List String} {word : String} :
    word ∈ bases list ↔ word ∈ list ∧ word ∉ builtinKeywords := by
  rw [mem_bases_iff, BuiltinWord.ofString_eq_base_iff]

/-! ## Words that make no difference -/

/-- All words of a list that are no keywords are the same. -/
def NamesOneBase (list : List String) : Prop :=
  ∀ word ∈ list, word ∉ builtinKeywords → ∀ other ∈ list, other ∉ builtinKeywords → word = other

/-- A change of a list of words that makes no difference if it names one base. -/
inductive WordEdit : List String → List String → Prop where
  /-- The words are put in another order. -/
  | reordered {list list' : List String} (hPerm : list.Perm list') : WordEdit list list'
  /-- An `int` is added. -/
  | int {list : List String} : WordEdit list ("int" :: list)
  /-- One more `unsigned` or `short`, or one more spelling of `signed`, is added. -/
  | repeated {list : List String} {word present : String} (hPresent : present ∈ list)
    (hSame : BuiltinWord.ofString word = BuiltinWord.ofString present)
    (hFlag : BuiltinWord.ofString word ∈ [.unsigned, .short, .signed]) :
    WordEdit list (word :: list)

section Edits

variable {list list' : List String}

private theorem namesOneBase_iff :
    NamesOneBase list ↔ ∀ base ∈ bases list, ∀ other ∈ bases list, base = other := by
  simp only [NamesOneBase, mem_bases_iff_not_mem_keywords, and_imp]

private theorem bases_cons_of_keyword {word : String}
    (hKeyword : (BuiltinWord.ofString word).base? = none) (list : List String) :
    bases (word :: list) = bases list := by
  rw [bases, meanings, List.map_cons, List.filterMap_cons_none hKeyword]
  rfl

/-- The base of words that name one is any of those that they name. -/
theorem getLast?_bases_eq_some_iff (hBase : NamesOneBase list) {base : String} :
    (bases list).getLast? = some base ↔ base ∈ bases list := by
  constructor
  · exact List.mem_of_getLast?
  · intro hMem
    have hNonempty := List.ne_nil_of_mem hMem
    have hLast := namesOneBase_iff.1 hBase base hMem _ (List.getLast_mem hNonempty)
    exact hLast ▸ List.getLast?_eq_some_getLast hNonempty

/-- What the words of a list say does not depend on their order if they name one base. -/
theorem ofWords_of_perm (hPerm : list.Perm list') (hBase : NamesOneBase list) :
    ofWords list = ofWords list' := by
  have hMeanings : (meanings list).Perm (meanings list') := hPerm.map _
  have hBases : (bases list).Perm (bases list') := hMeanings.filterMap _
  have hSame : bases list = bases list' := by
    rw [namesOneBase_iff] at hBase
    cases hList : bases list with
    | nil => exact (List.nil_perm.1 (hList ▸ hBases)).symm
    | cons base rest =>
        have hAll : bases list = List.replicate (bases list).length base :=
          List.eq_replicate_of_mem fun other hMem => hBase other hMem base (by simp [hList])
        rw [← hList]
        rw [hAll] at hBases ⊢
        exact List.replicate_perm.1 hBases
  exact ofWords_congr (hMeanings.filter _) (by rw [hSame])

/-- What makes no difference to words that name one base leaves one base, and says the same. -/
theorem WordEdit.ofWords_eq (hEdit : WordEdit list list') :
    (NamesOneBase list ↔ NamesOneBase list') ∧
      (NamesOneBase list → ofWords list = ofWords list') := by
  cases hEdit with
  | reordered hPerm =>
      refine ⟨?_, ofWords_of_perm hPerm⟩
      simp only [NamesOneBase, hPerm.mem_iff]
  | int =>
      rw [namesOneBase_iff, namesOneBase_iff, bases_cons_of_keyword rfl]
      refine ⟨Iff.rfl, fun _ => ?_⟩
      rw [BuiltinWords.ofWords_eq, BuiltinWords.ofWords_eq, bases_cons_of_keyword rfl]
      simp [meanings, BuiltinWord.ofString]
  | @repeated word present hPresent hSame hFlag =>
      have hKeyword : (BuiltinWord.ofString word).base? = none := by
        simp only [List.mem_cons, List.not_mem_nil, or_false] at hFlag
        rcases hFlag with hFlag | hFlag | hFlag <;> rw [hFlag] <;> rfl
      have hMem : BuiltinWord.ofString word ∈ meanings list :=
        List.mem_map.2 ⟨present, hPresent, hSame.symm⟩
      have hMeanings : meanings (word :: list) = BuiltinWord.ofString word :: meanings list := rfl
      rw [namesOneBase_iff, namesOneBase_iff, bases_cons_of_keyword hKeyword]
      refine ⟨Iff.rfl, fun _ => ?_⟩
      rw [BuiltinWords.ofWords_eq, BuiltinWords.ofWords_eq, bases_cons_of_keyword hKeyword,
        hMeanings]
      generalize BuiltinWord.ofString word = meaning at hFlag hMem
      simp only [List.mem_cons, List.not_mem_nil, or_false] at hFlag
      rcases hFlag with rfl | rfl | rfl <;> simp [hMem]

/-- Words that name one base say the same whatever is changed that makes no difference. -/
theorem ofWords_of_edited (hEdited : Relation.EqvGen WordEdit list list') :
    (NamesOneBase list ↔ NamesOneBase list') ∧
      (NamesOneBase list → ofWords list = ofWords list') := by
  induction hEdited with
  | rel _ _ hEdit => exact hEdit.ofWords_eq
  | refl _ => exact ⟨Iff.rfl, fun _ => rfl⟩
  | symm _ _ _ ih => exact ⟨ih.1.symm, fun hBase => (ih.2 (ih.1.2 hBase)).symm⟩
  | trans _ _ _ _ _ ih hNext =>
      exact ⟨ih.1.trans hNext.1, fun hBase => (ih.2 hBase).trans (hNext.2 (ih.1.1 hBase))⟩

end Edits

/-! ## One more spelling of `signed` -/

/-- A spelling of `signed` sets a flag. -/
theorem ofWords_cons_signed {word : String} (hSigned : BuiltinWord.ofString word = .signed)
    (list : List String) : ofWords (word :: list) = { ofWords list with isSigned := true } := by
  have hMeanings : meanings (word :: list) = .signed :: meanings list := by
    rw [meanings, List.map_cons, hSigned]
    rfl
  rw [ofWords_eq, ofWords_eq, hMeanings, bases_cons_of_keyword (by rw [hSigned]; rfl)]
  simp

/-- The flag changes the name of a `char` that is neither signed nor unsigned yet, and no other. -/
theorem name_signed_ne_iff (ws : BuiltinWords) :
    BuiltinWords.name { ws with isSigned := true } ≠ ws.name ↔
      ws.base? = some "char" ∧ ws.isUnsigned = false ∧ ws.isSigned = false := by
  constructor
  · intro hDiffers
    have hChar : ws.base? = some "char" := by
      by_contra hOther
      exact hDiffers (name_congr rfl rfl rfl rfl fun hBase => absurd hBase hOther)
    refine ⟨hChar, ?_, ?_⟩ <;> rw [Bool.eq_false_iff] <;> intro hFlag
    · exact hDiffers (by simp [name, hChar, hFlag])
    · exact hDiffers (name_congr rfl rfl rfl rfl fun _ => hFlag.symm)
  · rintro ⟨hBase, hUnsigned, hSigned⟩
    simp [name, hBase, hUnsigned, hSigned]

/-! ## Names of names -/

/-- A name is the name of its own words. -/
theorem name_words_name {ws : BuiltinWords} (hBase : ∀ base ∈ ws.base?, IsBase base) :
    (ofWords (words ws.name)).name = ws.name := by
  cases hSome : ws.base? with
  | none =>
      have hName : ws.name = if ws.isUnsigned then "unsigned " ++ ws.integerName
          else ws.integerName := by rw [name, hSome]
      have hSizes : ∀ size ∈ ["short", "long long", "long", "int"],
          (ofWords (words ("unsigned " ++ size))).name = "unsigned " ++ size ∧
            (ofWords (words size)).name = size := by decide
      obtain ⟨hUnsigned, hPlain⟩ := hSizes ws.integerName ws.integerName_mem
      rw [hName]
      split
      · exact hUnsigned
      · exact hPlain
  | some base =>
      have hBase := hBase base hSome
      have hOfString := hBase.ofString_eq
      rcases name_of_base hSome with hName | ⟨rfl, hName⟩ | ⟨rfl, hName⟩ | hName
      · have hWords : words ("unsigned " ++ base) = ["unsigned", base] :=
          hBase.words_append "unsigned"
        have hSays : ofWords ["unsigned", base] = { isUnsigned := true, base? := some base } := by
          have hUnsigned : BuiltinWord.ofString "unsigned" = .unsigned := rfl
          simp [ofWords, hOfString, hUnsigned, add]
        rw [hName, hWords, hSays]
        by_cases hChar : base = "char" <;> simp [name, hChar]
      · rw [hName]
        decide
      · rw [hName]
        decide
      · have hSays : ofWords [base] = { base? := some base } := by
          simp [ofWords, hOfString, add]
        rw [hName, words_eq_singleton hBase.isWord hBase.ne_empty, hSays]
        simp [name]

end BuiltinWords

open BuiltinWords

private theorem canonicalBuiltin_of_isSpaced {list : List String} {text : String}
    (hText : IsSpaced list text) : canonicalBuiltin text = (ofWords list).name := by
  rw [canonicalBuiltin, words_eq_iff.2 hText]

/-- The canonical name of a text is its own canonical name. -/
theorem canonicalBuiltin_canonicalBuiltin (text : String) :
    canonicalBuiltin (canonicalBuiltin text) = canonicalBuiltin text :=
  name_words_name (isBase_of_base?_ofWords isWord_of_mem_words ne_empty_of_mem_words)

/-- **The canonical name of a builtin type is a canonical form**: it is its own canonical name. If
the words of a text name one base at most, neither their order and the white space between them nor
an `int` or a word that says once more what is said already makes a difference. One more spelling of
`signed` makes one only if the type is a `char` that nothing says to be signed or unsigned. -/
theorem canonicalBuiltin_canonicalForm :
    (∀ text, canonicalBuiltin (canonicalBuiltin text) = canonicalBuiltin text) ∧
    ∀ (list : List String) (text : String), NamesOneBase list → IsSpaced list text →
      (∀ list' text', Relation.EqvGen WordEdit list list' → IsSpaced list' text' →
        canonicalBuiltin text' = canonicalBuiltin text) ∧
      ∀ word list' text', BuiltinWord.ofString word = .signed → list'.Perm (word :: list) →
        IsSpaced list' text' →
        (canonicalBuiltin text' ≠ canonicalBuiltin text ↔
          "char" ∈ list ∧ "unsigned" ∉ list ∧
            ∀ other ∈ list, BuiltinWord.ofString other ≠ .signed) := by
  refine ⟨canonicalBuiltin_canonicalBuiltin, fun list text hBase hText => ⟨?_, ?_⟩⟩
  · intro list' text' hEdited hText'
    rw [canonicalBuiltin_of_isSpaced hText, canonicalBuiltin_of_isSpaced hText',
      (ofWords_of_edited hEdited).2 hBase]
  · intro word list' text' hSigned hPerm hText'
    have hBase' : NamesOneBase (word :: list) := by
      rwa [namesOneBase_iff, bases_cons_of_keyword (by rw [hSigned]; rfl), ← namesOneBase_iff]
    rw [canonicalBuiltin_of_isSpaced hText, canonicalBuiltin_of_isSpaced hText',
      ← ofWords_of_perm hPerm.symm hBase', ofWords_cons_signed hSigned, name_signed_ne_iff,
      ofWords_eq]
    refine and_congr ?_ (and_congr ?_ ?_)
    · rw [getLast?_bases_eq_some_iff hBase, mem_bases_iff_not_mem_keywords]
      exact and_iff_left (by decide)
    · simp [meanings, BuiltinWord.ofString_eq_unsigned_iff]
    · simp [meanings]

example : canonicalBuiltin "long  int unsigned" = "unsigned long" := by decide

end FunctionCatalog
