import FunctionCatalog.Extraction.File
import FunctionCatalog.Proofs.Path.FileName
import FunctionCatalog.Proofs.Text.Lowercase

/-!
# Which extensions take effect

The extension of a file is put into lower case, all of it, but in the configured ones only the case
of ASCII letters is passed over. So a configured extension with a capital letter beyond ASCII is
never met, not even by files that have the very same extension. All other ones are met by the
extensions with the same lower case. Files are read as if the former were not configured at all.

## Main results

* `Config.languageOfExtension?_eq` — files are read by the extensions that take effect.
* `Config.extractFile_eq_unsupported_iff` — when the extension of a file is not supported.
* `Config.languageFor?_stated_iff` — when a file is read by the grammar that the configuration
  states for it.
-/

namespace FunctionCatalog

/-- An extension that files can be read by: it has no capital letter beyond ASCII. -/
def IsEffective (listed : String) : Prop :=
  ∀ c ∈ listed.toList, Lowercase.isWideCapital c = false

instance (listed : String) : Decidable (IsEffective listed) :=
  List.decidableBAll (fun c => Lowercase.isWideCapital c = false) listed.toList

/-- An extension is in a list, as it is or up to the case of letters. -/
def IsListed (extensions : List String) (x : List Char) : Prop :=
  ∃ listed ∈ extensions, lowercase listed.toList = lowercase x

instance (extensions : List String) (x : List Char) : Decidable (IsListed extensions x) :=
  List.decidableBEx (fun listed : String => lowercase listed.toList = lowercase x) extensions

private theorem isListed_of_mem {extensions : List String} {listed : String}
    (hMem : listed ∈ extensions) :
    IsListed extensions listed.toList :=
  ⟨listed, hMem, rfl⟩

/-- The extensions of a list that take effect. -/
def effective (extensions : List String) : List String :=
  extensions.filter (IsEffective ·)

private theorem mem_effective {extensions : List String} {listed : String} :
    listed ∈ effective extensions ↔ listed ∈ extensions ∧ IsEffective listed := by
  simp [effective]

private theorem IsListed.of_effective {extensions : List String} {x : List Char}
    (hListed : IsListed (effective extensions) x) : IsListed extensions x := by
  obtain ⟨listed, hMem, hSame⟩ := hListed
  exact ⟨listed, (mem_effective.1 hMem).1, hSame⟩

/-- The language that two lists of extensions state for an extension. -/
def statedLanguage? (c cpp : List String) (x : List Char) : Option Language :=
  if IsListed c x then some .c else if IsListed cpp x then some .cpp else none

namespace Config

/-- A list has an extension in lower case if one that takes effect has the same lower case. -/
theorem lists_lowercase_iff {extensions : List String} {x : List Char} :
    lists extensions (lowercase x) = true ↔ IsListed (effective extensions) x := by
  rw [lists, List.any_eq_true]
  constructor
  · rintro ⟨listed, hMem, hSame⟩
    obtain ⟨hEffective, hLower⟩ := equalUpToAsciiCase_lowercase_iff.1 hSame
    exact ⟨listed, mem_effective.2 ⟨hMem, hEffective⟩, hLower⟩
  · rintro ⟨listed, hMem, hLower⟩
    obtain ⟨hListed, hEffective⟩ := mem_effective.1 hMem
    exact ⟨listed, hListed, equalUpToAsciiCase_lowercase_iff.2 ⟨hEffective, hLower⟩⟩

/-- Files are read by the extensions that take effect. -/
theorem languageOfExtension?_eq (config : Config) (x : List Char) :
    config.languageOfExtension? x =
      statedLanguage? (effective config.extensions.c) (effective config.extensions.cpp) x := by
  simp only [languageOfExtension?, lists_lowercase_iff, statedLanguage?]

variable {config : Config} {path : Path}

/-- The extension of a file is not supported if no grammar reads files with it. -/
theorem extractFile_eq_unsupported_iff {source : Source} :
    config.extractFile path source = .error (.unsupportedExtension path) ↔
      config.languageFor? path = none := by
  cases hLanguage : config.languageFor? path with
  | none => simp [extractFile, hLanguage]
  | some lang =>
      cases hTree : source.tree? with
      | none => simp [extractFile, hLanguage, hTree]
      | some root =>
          simp only [extractFile, hLanguage, hTree]
          repeat' split
          all_goals simp

/-- The same holds for the file at a path, whatever is there. -/
theorem extractPath_eq_unsupported_iff {tree : FileTree} :
    config.extractPath tree path = .error (.unsupportedExtension path) ↔
      config.languageFor? path = none := by
  unfold extractPath
  split
  · simp_all
  · split
    · simp_all
    · exact extractFile_eq_unsupported_iff

/-- **A configured extension takes effect unless it has a capital letter beyond ASCII**: the
extension is what follows the last dot of a file's name, and the file is read by the extensions that
take effect, those of C first. So it is read by the language that the configuration states if, where
a list has the extension up to the case of letters, one that takes effect does. A file whose
extension is written as a configured one that takes effect is supported. -/
theorem languageFor?_stated_iff {x : List Char} (hExtension : path.extension? = some x) :
    let c := config.extensions.c
    let cpp := config.extensions.cpp
    (∃ stem, stem ≠ [] ∧ '.' ∉ x ∧ path.fileName? = some (String.ofList (stem ++ '.' :: x))) ∧
    config.languageFor? path = statedLanguage? (effective c) (effective cpp) x ∧
    (config.languageFor? path = statedLanguage? c cpp x ↔
      (IsListed c x → IsListed (effective c) x) ∧
        (¬ IsListed c x → IsListed cpp x → IsListed (effective cpp) x)) ∧
    ∀ listed ∈ c ++ cpp, IsEffective listed → listed.toList = x →
      (∀ source, config.extractFile path source ≠ .error (.unsupportedExtension path)) ∧
        ∀ tree, config.extractPath tree path ≠ .error (.unsupportedExtension path) := by
  intro c cpp
  have hLanguage : config.languageFor? path = statedLanguage? (effective c) (effective cpp) x := by
    rw [languageFor?, hExtension, Option.bind_some, languageOfExtension?_eq]
  refine ⟨Path.extension?_eq_some_iff.1 hExtension, hLanguage, ?_, ?_⟩
  · rw [hLanguage, statedLanguage?, statedLanguage?]
    have hC : IsListed (effective c) x → IsListed c x := .of_effective
    have hCpp : IsListed (effective cpp) x → IsListed cpp x := .of_effective
    by_cases hListed : IsListed c x
    · by_cases hTakes : IsListed (effective c) x
      · simp [hListed, hTakes]
      · by_cases hOther : IsListed (effective cpp) x <;> simp [hListed, hTakes, hOther]
    · have hNone := mt hC hListed
      by_cases hOther : IsListed cpp x
      · by_cases hTakes : IsListed (effective cpp) x <;> simp [hListed, hNone, hOther, hTakes]
      · simp [hListed, hNone, hOther, mt hCpp hOther]
  · rintro listed hListed hEffective rfl
    have hSome : config.languageFor? path ≠ none := by
      rw [hLanguage, statedLanguage?]
      rcases List.mem_append.1 hListed with hMem | hMem
      · rw [if_pos (isListed_of_mem (mem_effective.2 ⟨hMem, hEffective⟩))]
        exact Option.some_ne_none _
      · rw [if_pos (isListed_of_mem (mem_effective.2 ⟨hMem, hEffective⟩))]
        split <;> exact Option.some_ne_none _
    exact ⟨fun source hError => hSome (extractFile_eq_unsupported_iff.1 hError),
      fun tree hError => hSome (extractPath_eq_unsupported_iff.1 hError)⟩

/-- A file with the extension `É` is read by `é`, and not by `É`. -/
theorem languageFor?_stated_accented :
    let config : Config := { extensions := { c := ["É", "c"], cpp := ["é"] } }
    let path : Path := ⟨"a.É"⟩
    path.extension? = some ['É'] ∧ config.languageFor? path = some .cpp ∧
      config.languageFor? path ≠
        statedLanguage? config.extensions.c config.extensions.cpp ['É'] := by
  intro config path
  have hExtension : path.extension? = some ['É'] := by cbv
  obtain ⟨-, hLanguage, hStated, -⟩ := @languageFor?_stated_iff config path ['É'] hExtension
  refine ⟨hExtension, hLanguage.trans (by decide +kernel), fun hSame => ?_⟩
  exact absurd ((hStated.1 hSame).1 (by decide +kernel)) (by decide +kernel)

/-- A file with a capital letter beyond ASCII in its extension is not supported, although the very
same extension is configured. -/
theorem languageFor?_capital_unmet :
    let config : Config := { extensions := { c := ["Ä"] } }
    let path : Path := ⟨"a.Ä"⟩
    path.extension? = some ['Ä'] ∧
      statedLanguage? config.extensions.c config.extensions.cpp ['Ä'] = some .c ∧
      config.languageFor? path = none ∧
      ∀ source, config.extractFile path source = .error (.unsupportedExtension path) := by
  intro config path
  have hExtension : path.extension? = some ['Ä'] := by cbv
  have hNone : config.languageFor? path = none := by
    rw [languageFor?, hExtension]
    decide +kernel
  exact ⟨hExtension, by decide +kernel, hNone, fun _ => extractFile_eq_unsupported_iff.2 hNone⟩

end Config

end FunctionCatalog
