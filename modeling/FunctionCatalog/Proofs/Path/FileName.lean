import FunctionCatalog.Config.Basic
import FunctionCatalog.Path
import FunctionCatalog.Proofs.Record.Delimiters
import Mathlib

/-!
# Names of files in paths

A path is cut at its slashes, so the parts of a path below a directory are the parts of the
directory and the name. The name is what the path names then, however the directory is written, and
a grammar is chosen by nothing else.

## Main results

* `splitOn_singleton` — cutting a text at a character is cutting the list of its characters.
* `Path.fileName?_join` — the name of a file below a directory.
* `Path.isFileName_of_fileName?` — what a name is that a path can end in.
* `Path.extension?_eq_some_iff` — where a path has which extension.
* `Config.languageFor?_eq` — paths to the same file name are read by the same grammar.
-/

namespace FunctionCatalog

/-! ## Cutting at one character -/

section SplitOn

open String

/-- What is still cut when a piece of the text has been read. -/
theorem splitOnAux_singleton (separator : Char) (start piece rest : List Char)
    (found : List String) :
    splitOnAux (ofList (start ++ piece ++ rest)) (singleton separator) ⟨utf8Len start⟩
        ⟨utf8Len start + utf8Len piece⟩ 0 found =
      found.reverse ++ (rest.splitOnPPrepend (· == separator) piece.reverse).map ofList := by
  induction rest generalizing start piece found with
  | nil =>
      have hEnd := (atEnd_of_valid (start ++ piece) []).2 rfl
      rw [utf8Len_append] at hEnd
      rw [splitOnAux.eq_1, if_pos hEnd]
      simpa using extract_of_valid start piece []
  | cons c rest ih =>
      have hEnd := (atEnd_of_valid (start ++ piece) (c :: rest)).not.2 (List.cons_ne_nil c rest)
      have hHead := get_of_valid (start ++ piece) (c :: rest)
      have hNext := next_of_valid (start ++ piece) c rest
      rw [utf8Len_append] at hEnd hHead hNext
      have hSeparator : Pos.Raw.get (singleton separator) 0 = separator := by
        simpa using get_of_valid [] [separator]
      rw [splitOnAux.eq_1, if_neg hEnd, hHead, hSeparator, hNext, List.headD_cons]
      by_cases hFound : c = separator
      · subst hFound
        have hSeparatorNext : Pos.Raw.next (singleton c) 0 = ⟨c.utf8Size⟩ := by
          simpa using next_of_valid [] c []
        have hSeparatorEnd : Pos.Raw.atEnd (singleton c) ⟨c.utf8Size⟩ = true := by
          simpa using atEnd_of_valid [c] []
        have hBack : (⟨utf8Len start + utf8Len piece + c.utf8Size⟩ : Pos.Raw).unoffsetBy
            ⟨c.utf8Size⟩ = ⟨utf8Len start + utf8Len piece⟩ := by
          simp [Pos.Raw.unoffsetBy]
        have hPiece := extract_of_valid start piece (c :: rest)
        have hRest := ih (start ++ piece ++ [c]) [] (ofList piece :: found)
        simp only [beq_self_eq_true, if_true, hSeparatorNext, hSeparatorEnd, hBack, hPiece]
        simpa [Nat.add_assoc, List.splitOnPPrepend_cons_eq_if] using hRest
      · have hBack : (⟨utf8Len start + utf8Len piece⟩ : Pos.Raw).unoffsetBy 0 =
            ⟨utf8Len start + utf8Len piece⟩ := by
          simp [Pos.Raw.unoffsetBy]
        have hRest := ih start (piece ++ [c]) found
        rw [if_neg (by simpa using hFound), hBack, hNext]
        simpa [Nat.add_assoc, List.splitOnPPrepend_cons_eq_if, hFound] using hRest

/-- Cutting a text at a character is cutting the list of its characters. -/
theorem splitOn_singleton (separator : Char) (text : String) :
    text.splitOn (singleton separator) = piecesAt separator text := by
  have hSeparator : (singleton separator == "") = false := by
    rw [beq_eq_false_iff_ne]
    intro hEmpty
    simpa using congrArg String.toList hEmpty
  have hAll := splitOnAux_singleton separator [] [] text.toList []
  rw [splitOn, if_neg (by simp [hSeparator])]
  simpa [piecesAt, List.splitOn_eq_splitOnP] using hAll

end SplitOn

/-- The pieces on both sides of a separator. -/
theorem piecesAt_append (separator : Char) (front back : String) :
    piecesAt separator (front ++ String.singleton separator ++ back) =
      piecesAt separator front ++ piecesAt separator back := by
  simp only [piecesAt, String.toList_append, String.toList_singleton, List.append_assoc,
    List.singleton_append, List.splitOn_eq_splitOnP]
  have hSplit := List.splitOnP_append_cons (p := (· == separator)) front.toList back.toList
    (beq_self_eq_true separator)
  rw [hSplit, List.map_append]

private theorem piecesAt_of_not_mem {separator : Char} {text : String}
    (h : separator ∉ text.toList) :
    piecesAt separator text = [text] := by
  have hOne := piecesAt_joinedBy (List.cons_ne_nil text []) (List.forall_mem_singleton.2 h)
  rwa [joinedBy_singleton] at hOne

namespace Path

/-! ## Parts -/

theorem parts_eq (path : Path) : path.parts = piecesAt '/' path.text :=
  splitOn_singleton '/' path.text

/-- A name that a path can end in, as the name of what it leads to. -/
structure IsFileName (name : String) : Prop where
  not_empty : name ≠ ""
  not_here : name ≠ "."
  not_parent : name ≠ ".."
  no_slash : '/' ∉ name.toList

theorem isFileName_of_fileName? {path : Path} {name : String} (h : path.fileName? = some name) :
    IsFileName name := by
  obtain ⟨hLast, hParent⟩ := Option.filter_eq_some_iff.1 h
  obtain ⟨hMem, hPart⟩ := List.mem_filter.1 (List.mem_of_getLast? hLast)
  rw [Bool.and_eq_true, bne_iff_ne, bne_iff_ne] at hPart
  rw [parts_eq] at hMem
  exact ⟨hPart.1, hPart.2, by simpa using hParent, not_mem_of_mem_piecesAt hMem⟩

/-- The parts of a path below a directory. The last part of the directory is left out where the
directory is written with a slash at its end. -/
theorem exists_parts_join (directory : Path) {name : String} (h : IsFileName name) :
    ∃ front, (directory.join name).parts = front ++ [name] := by
  have hOne : piecesAt '/' name = [name] := piecesAt_of_not_mem h.no_slash
  unfold join
  split
  · exact ⟨[], by rw [parts_eq, hOne, List.nil_append]⟩
  · split
    · next hSlash =>
        have hSuffix := String.Slice.endsWith_string_iff.1 hSlash
        rw [String.copy_toSlice] at hSuffix
        obtain ⟨front, hFront⟩ := hSuffix
        have hText : directory.text = String.ofList front ++ String.singleton '/' := by
          refine String.toList_injective ?_
          simp [← hFront]
        exact ⟨_, by rw [parts_eq, hText, piecesAt_append, hOne]⟩
    · have hParts := piecesAt_append '/' directory.text name
      rw [hOne] at hParts
      exact ⟨_, (parts_eq _).trans hParts⟩

/-- The name of a file below a directory, however the directory is written. -/
theorem fileName?_join (directory : Path) {name : String} (h : IsFileName name) :
    (directory.join name).fileName? = some name := by
  obtain ⟨front, hParts⟩ := directory.exists_parts_join h
  have hPart : (name != "" && name != ".") = true := by
    simp [h.not_empty, h.not_here]
  rw [fileName?, hParts, List.filter_append, List.filter_singleton, hPart]
  simp [h.not_parent]

/-! ## Extensions -/

/-- The extension of a name follows its last dot, if something stands in front of that dot. -/
theorem extensionOf?_eq_some_iff {name x : List Char} :
    extensionOf? name = some x ↔ ∃ stem, stem ≠ [] ∧ '.' ∉ x ∧ name = stem ++ '.' :: x := by
  constructor
  · intro hExtension
    have hSplit := List.takeWhile_append_dropWhile (p := (· != '.')) (l := name.reverse)
    unfold extensionOf? at hExtension
    split at hExtension
    · next dot c front hRest =>
        obtain rfl := Option.some.inj hExtension
        obtain rfl : dot = '.' := by
          have hHead := List.head?_dropWhile_not (· != '.') name.reverse
          simpa [hRest] using hHead
        refine ⟨(c :: front).reverse, by simp, fun hMem => ?_, ?_⟩
        · have hDot := List.mem_takeWhile_imp (List.mem_reverse.1 hMem)
          simp at hDot
        · rw [hRest] at hSplit
          have hName := congrArg List.reverse hSplit.symm
          rw [List.reverse_reverse] at hName
          refine hName.trans ?_
          simp
    · simp at hExtension
  · rintro ⟨stem, hStem, hDot, rfl⟩
    have hName : (stem ++ '.' :: x).reverse = x.reverse ++ '.' :: stem.reverse := by simp
    have hBehind : ∀ c ∈ x.reverse, (c != '.') = true := by
      intro c hMem
      rw [bne_iff_ne]
      rintro rfl
      exact hDot (List.mem_reverse.1 hMem)
    obtain ⟨c, front, hFront⟩ := List.exists_cons_of_ne_nil (List.reverse_ne_nil_iff.2 hStem)
    rw [extensionOf?, hName, List.dropWhile_append_of_pos hBehind,
      List.takeWhile_append_of_pos hBehind, hFront]
    simp

theorem extension?_eq_some_iff {path : Path} {x : List Char} :
    path.extension? = some x ↔ ∃ stem, stem ≠ [] ∧ '.' ∉ x ∧
      path.fileName? = some (String.ofList (stem ++ '.' :: x)) := by
  rw [extension?, Option.bind_eq_some_iff]
  constructor
  · rintro ⟨name, hName, hExtension⟩
    obtain ⟨stem, hStem, hDot, hText⟩ := extensionOf?_eq_some_iff.1 hExtension
    exact ⟨stem, hStem, hDot, by rw [hName, ← hText, String.ofList_toList]⟩
  · rintro ⟨stem, hStem, hDot, hName⟩
    refine ⟨_, hName, extensionOf?_eq_some_iff.2 ⟨stem, hStem, hDot, ?_⟩⟩
    rw [String.toList_ofList]

end Path

/-- Paths to the same file name are read by the same grammar. -/
theorem Config.languageFor?_eq (config : Config) {path other : Path}
    (h : path.fileName? = other.fileName?) :
    config.languageFor? path = config.languageFor? other := by
  rw [languageFor?, languageFor?, Path.extension?, Path.extension?, h]

end FunctionCatalog
