import FunctionCatalog.Proofs.Text.Characters
import FunctionCatalog.TypeName.Builtin
import Mathlib

/-!
# What the words of a builtin type say

The words of a builtin type are keywords and bases: `unsigned`, `signed`, `short`, `long` and `int`
are keywords, and every other word is a base. Of the keywords it counts which ones there are, and
how often there is a `long`; of the bases the last one counts. So the order of the keywords makes no
difference, `int` says nothing, and `signed` says something of `char` alone.

The name that is made of the words ends in the base, so a base is found again in the name, and no
two bases have a name in common.

## Main results

* `BuiltinWords.ofWords_eq` — what a list of words says.
* `BuiltinWords.name_ofWords_of_perm` — the name depends on the significant words, in any order.
* `BuiltinWords.base?_eq_of_name_eq` — words with the same name have the same base.
-/

namespace FunctionCatalog

/-- The base that a word names. -/
def BuiltinWord.base? : BuiltinWord → Option String
  | base word => some word
  | unsigned | signed | short | long | int => none

private theorem BuiltinWord.eq_of_ofString {word base : String}
    (hBase : BuiltinWord.ofString word = .base base) : base = word := by
  unfold BuiltinWord.ofString at hBase
  split at hBase
  all_goals first | cases hBase; rfl | cases hBase

namespace BuiltinWords

/-- What the words of a list say, one by one. -/
def meanings (list : List String) : List BuiltinWord :=
  list.map .ofString

/-- The words of a list that are no keywords. -/
def bases (list : List String) : List String :=
  (meanings list).filterMap (·.base?)

/-- What the keywords of a list say. -/
def keywords (list : List String) : List BuiltinWord :=
  (meanings list).filter (·.base?.isNone)

@[simp] theorem meanings_append (front back : List String) :
    meanings (front ++ back) = meanings front ++ meanings back :=
  List.map_append

@[simp] theorem bases_append (front back : List String) :
    bases (front ++ back) = bases front ++ bases back := by
  rw [bases, meanings_append, List.filterMap_append]
  rfl

@[simp] theorem keywords_append (front back : List String) :
    keywords (front ++ back) = keywords front ++ keywords back := by
  rw [keywords, meanings_append, List.filter_append]
  rfl

theorem mem_bases_iff {list : List String} {base : String} :
    base ∈ bases list ↔ base ∈ list ∧ BuiltinWord.ofString base = .base base := by
  simp only [bases, meanings, List.mem_filterMap, List.mem_map, exists_exists_and_eq_and]
  constructor
  · rintro ⟨word, hMem, hBase⟩
    cases hWord : BuiltinWord.ofString word with
    | base other =>
        rw [hWord] at hBase
        obtain rfl := Option.some.inj hBase
        obtain rfl := BuiltinWord.eq_of_ofString hWord
        exact ⟨hMem, hWord⟩
    | unsigned | signed | short | long | int =>
        rw [hWord] at hBase
        contradiction
  · rintro ⟨hMem, hWord⟩
    exact ⟨base, hMem, by rw [hWord]; rfl⟩

/-! ## What a list of words says -/

/-- Of the keywords it counts which ones there are, and how often there is a `long`. The last base
counts. -/
theorem ofWords_eq (list : List String) :
    ofWords list =
      { isUnsigned := decide (.unsigned ∈ meanings list)
        isSigned := decide (.signed ∈ meanings list)
        isShort := decide (.short ∈ meanings list)
        longs := (meanings list).count .long
        base? := (bases list).getLast? } := by
  induction list using List.reverseRecOn with
  | nil => rfl
  | append_singleton list word ih =>
      have hLast : ofWords (list ++ [word]) = (ofWords list).add (.ofString word) := by
        rw [ofWords, List.foldl_append]
        rfl
      rw [hLast, ih, bases_append, meanings_append]
      have hMeanings : meanings [word] = [BuiltinWord.ofString word] := rfl
      have hBases : bases [word] = (BuiltinWord.ofString word).base?.toList := by
        rw [bases, hMeanings]
        cases BuiltinWord.ofString word <;> rfl
      rw [hMeanings, hBases]
      cases BuiltinWord.ofString word <;> simp [add, BuiltinWord.base?]

theorem base?_ofWords (list : List String) : (ofWords list).base? = (bases list).getLast? := by
  rw [ofWords_eq]

/-- Keywords in the same numbers and the same last base say the same. -/
theorem ofWords_congr {list list' : List String}
    (hKeywords : (keywords list).Perm (keywords list'))
    (hBase : (bases list).getLast? = (bases list').getLast?) : ofWords list = ofWords list' := by
  have hMem (keyword : BuiltinWord) (hKeyword : keyword.base? = none) :
      keyword ∈ meanings list ↔ keyword ∈ meanings list' := by
    have hIff := hKeywords.mem_iff (a := keyword)
    simpa [keywords, List.mem_filter, hKeyword] using hIff
  have hCount : (meanings list).count .long = (meanings list').count .long := by
    have hSame := hKeywords.count_eq .long
    rwa [keywords, keywords, List.count_filter rfl, List.count_filter rfl] at hSame
  rw [ofWords_eq, ofWords_eq, hCount, hBase, decide_eq_decide.mpr (hMem .unsigned rfl),
    decide_eq_decide.mpr (hMem .signed rfl), decide_eq_decide.mpr (hMem .short rfl)]

/-! ## The name -/

/-- Whether a type is signed makes a difference to the name of `char` alone. -/
theorem name_congr {ws ws' : BuiltinWords} (hUnsigned : ws.isUnsigned = ws'.isUnsigned)
    (hShort : ws.isShort = ws'.isShort) (hLongs : ws.longs = ws'.longs)
    (hBase : ws.base? = ws'.base?)
    (hSigned : ws.base? = some "char" → ws.isSigned = ws'.isSigned) : ws.name = ws'.name := by
  have hInteger : ws.integerName = ws'.integerName := by
    rw [integerName, hShort, hLongs, integerName]
  cases hSome : ws.base? with
  | none =>
      have hSome' := hBase.symm.trans hSome
      simp only [name, hSome, hSome', hUnsigned, hInteger]
  | some base =>
      have hSome' := hBase.symm.trans hSome
      by_cases hChar : base = "char"
      · have hSame := hSigned (by rw [hSome, hChar])
        simp only [name, hSome, hSome', hUnsigned, hLongs, hSame]
      · simp only [name, hSome, hSome', hUnsigned, hLongs, hChar, false_and, if_false]

/-- The words that make a difference to the name: all but `int`, and but `signed` if there is no
`char`. -/
def significant (list : List String) : List BuiltinWord :=
  (meanings list).filter fun word => word != .int && (word != .signed || list.contains "char")

/-- The name depends on the significant words, in any order, if there is one base at most. -/
theorem name_ofWords_of_perm {list list' : List String}
    (hPerm : (significant list).Perm (significant list')) (hBases : (bases list).length ≤ 1) :
    (ofWords list).name = (ofWords list').name := by
  have hMem (word : BuiltinWord) (hInt : word ≠ .int) (hSigned : word ≠ .signed) :
      word ∈ meanings list ↔ word ∈ meanings list' := by
    have hIff := hPerm.mem_iff (a := word)
    simpa [significant, List.mem_filter, hInt, hSigned] using hIff
  have hCount : (meanings list).count .long = (meanings list').count .long := by
    have hSame := hPerm.count_eq .long
    rwa [significant, significant, List.count_filter rfl, List.count_filter rfl] at hSame
  have hFilter (list : List String) : bases list = (significant list).filterMap (·.base?) := by
    rw [bases, significant, List.filterMap_filter]
    refine List.filterMap_congr fun word _ => ?_
    cases word <;> simp [BuiltinWord.base?]
  have hSameBases : bases list = bases list' := by
    have hBasesPerm : (bases list).Perm (bases list') := by
      rw [hFilter, hFilter]
      exact hPerm.filterMap _
    generalize bases list = front at hBases hBasesPerm
    match front, hBases with
    | [], _ => exact (List.nil_perm.mp hBasesPerm).symm
    | [base], _ => exact List.singleton_perm.mp hBasesPerm
  have hChar (list : List String) : (bases list).getLast? = some "char" → "char" ∈ list :=
    fun hLast => (mem_bases_iff.mp (List.mem_of_getLast? hLast)).1
  refine name_congr ?_ ?_ ?_ ?_ ?_
  all_goals rw [ofWords_eq, ofWords_eq]
  · exact decide_eq_decide.mpr (hMem .unsigned nofun nofun)
  · exact decide_eq_decide.mpr (hMem .short nofun nofun)
  · exact hCount
  · rw [hSameBases]
  · intro hLast
    have hHere := hChar list hLast
    have hThere := hChar list' (hSameBases ▸ hLast)
    have hIff := hPerm.mem_iff (a := .signed)
    refine decide_eq_decide.mpr ?_
    simpa [significant, List.mem_filter, hHere, hThere] using hIff

/-! ## The base is found again -/

/-- A base, as it stands in a text. -/
structure IsBase (word : String) : Prop where
  isWord : IsWord word
  ne_empty : word ≠ ""
  ofString_eq : BuiltinWord.ofString word = .base word

theorem keywords_eq_nil {list : List String} (hBases : ∀ word ∈ list, IsBase word) :
    keywords list = [] := by
  rw [keywords, meanings, List.filter_eq_nil_iff]
  intro meaning hMem
  obtain ⟨word, hWord, rfl⟩ := List.mem_map.mp hMem
  simp [(hBases word hWord).ofString_eq, BuiltinWord.base?]

theorem isBase_of_base?_ofWords {list : List String} (hWords : ∀ word ∈ list, IsWord word)
    (hNonempty : ∀ word ∈ list, word ≠ "") : ∀ base ∈ (ofWords list).base?, IsBase base := by
  intro base hBase
  rw [base?_ofWords] at hBase
  obtain ⟨hMem, hWord⟩ := mem_bases_iff.mp (List.mem_of_getLast? hBase)
  exact ⟨hWords base hMem, hNonempty base hMem, hWord⟩

theorem integerName_mem (ws : BuiltinWords) :
    ws.integerName ∈ ["short", "long long", "long", "int"] := by
  unfold integerName
  split
  · decide
  · split
    · decide
    · split <;> decide

/-- A base behind a blank is a word of its own. -/
theorem IsBase.words_append {base : String} (hBase : IsBase base) (front : String) :
    words (front ++ " " ++ base) = words front ++ [base] := by
  have hBlank : ∀ c ∈ [' '], isWhiteSpace c = true :=
    List.forall_mem_singleton.mpr (by decide)
  have hText : front ++ " " ++ base = String.ofList (front.toList ++ ([' '] ++ base.toList)) :=
    String.toList_injective (by simp)
  rw [hText, words_append_gap (List.cons_ne_nil ' ' []) hBlank, String.ofList_toList,
    String.ofList_toList, words_eq_singleton hBase.isWord hBase.ne_empty]

/-- The name of a type with a base is the base with one keyword in front at most. -/
theorem name_of_base {ws : BuiltinWords} {base : String} (hSome : ws.base? = some base) :
    ws.name = "unsigned " ++ base ∨ base = "char" ∧ ws.name = "signed " ++ base ∨
      base = "double" ∧ ws.name = "long " ++ base ∨ ws.name = base := by
  simp only [name, hSome]
  split
  · next hChar =>
      obtain ⟨rfl, -⟩ := hChar
      exact .inl rfl
  · split
    · next hChar =>
        obtain ⟨rfl, -⟩ := hChar
        exact .inr (.inl ⟨rfl, rfl⟩)
    · split
      · next hDouble =>
          obtain ⟨rfl, -⟩ := hDouble
          exact .inr (.inr (.inl ⟨rfl, rfl⟩))
      · split
        · exact .inl rfl
        · exact .inr (.inr (.inr rfl))

/-- In front of the base, a name has keywords at most. -/
theorem exists_words_name {ws : BuiltinWords} {base : String} (hSome : ws.base? = some base)
    (hBase : IsBase base) : ∃ front, words ws.name = front ++ [base] := by
  rcases name_of_base hSome with hName | ⟨-, hName⟩ | ⟨-, hName⟩ | hName <;> rw [hName]
  · exact ⟨_, hBase.words_append "unsigned"⟩
  · exact ⟨_, hBase.words_append "signed"⟩
  · exact ⟨_, hBase.words_append "long"⟩
  · exact ⟨[], words_eq_singleton hBase.isWord hBase.ne_empty⟩

/-- The base of a name is the base of the words that it is the name of. -/
theorem base?_words_name {ws : BuiltinWords} (hBase : ∀ base ∈ ws.base?, IsBase base) :
    (ofWords (words ws.name)).base? = ws.base? := by
  rw [base?_ofWords]
  cases hSome : ws.base? with
  | some base =>
      have hBase := hBase base hSome
      obtain ⟨front, hWords⟩ := exists_words_name hSome hBase
      have hLast : bases [base] = [base] := by
        simp [bases, meanings, hBase.ofString_eq, BuiltinWord.base?]
      rw [hWords, bases_append, hLast, List.getLast?_append]
      rfl
  | none =>
      have hName : ws.name = if ws.isUnsigned then "unsigned " ++ ws.integerName
          else ws.integerName := by rw [name, hSome]
      have hSizes : ∀ size ∈ ["short", "long long", "long", "int"],
          (bases (words ("unsigned " ++ size))).getLast? = none ∧
            (bases (words size)).getLast? = none := by decide
      obtain ⟨hUnsigned, hPlain⟩ := hSizes ws.integerName ws.integerName_mem
      rw [hName]
      split
      · exact hUnsigned
      · exact hPlain

/-- Words with the same name have the same base. -/
theorem base?_eq_of_name_eq {ws ws' : BuiltinWords} (hBase : ∀ base ∈ ws.base?, IsBase base)
    (hBase' : ∀ base ∈ ws'.base?, IsBase base) (hSame : ws.name = ws'.name) :
    ws.base? = ws'.base? := by
  rw [← base?_words_name hBase, hSame, base?_words_name hBase']

end BuiltinWords

end FunctionCatalog
