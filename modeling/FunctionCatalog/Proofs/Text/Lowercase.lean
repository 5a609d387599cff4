import FunctionCatalog.Config.Basic
import FunctionCatalog.Proofs.Text.Ascii
import Mathlib

/-!
# Texts in lower case

A text in lower case has no letter with another lower case: what the table gives for a letter is in
no range of the table again. So it is the same as another text up to the case of ASCII letters only
if that text has no capital letter beyond ASCII, and then if their lower case is the same.

## Main results

* `Lowercase.isFixed_of_mem_ofChar` — the lower case of a letter has no other lower case.
* `Lowercase.lowercase_of_narrow` — where capital letters are ASCII, lowering them is enough.
* `equalUpToAsciiCase_lowercase_iff` — which texts are the same as one in lower case up to the case
  of ASCII letters.
-/

namespace FunctionCatalog

namespace Lowercase

/-- Whether a character is its own lower case, in every place. -/
def isFixed (c : Char) : Bool :=
  c != 'Σ' && ofChar c == [c]

/-- Whether a character beyond ASCII has another lower case, as capital letters have. -/
def isWideCapital (c : Char) : Bool :=
  decide (0x80 ≤ c.toNat) && !isFixed c

private theorem isFixed_iff {c : Char} : isFixed c = true ↔ c ≠ 'Σ' ∧ ofChar c = [c] := by
  simp [isFixed]

/-! ## The table -/

/-- The code point of a member's lower case. -/
def Run.image (run : Run) (code : Nat) : Nat :=
  (code + run.shift).toNat

/-- Whether no lower case of a member of a run is a member of another run: it lies outside or, where
every other character is one, between the members. -/
def Run.leaves (run other : Run) : Bool :=
  Nat.blt (run.image run.last) other.first || Nat.blt other.last (run.image run.first) ||
    other.step == 2 && (run.step == 2 || run.first == run.last) &&
      (run.image run.first + other.first) % 2 == 1

/-- Whether lower case of the members of a run is made of characters, among them neither of the two
special cases. -/
def Run.isProper (run : Run) : Bool :=
  decide (0 ≤ run.first + run.shift) && Nat.blt (run.image run.last) 0x110000 &&
    [(0xD800, 0xDFFF), (0x130, 0x130), (0x3A3, 0x3A3)].all fun range =>
      Nat.blt (run.image run.last) range.1 || Nat.blt range.2 (run.image run.first)

private theorem isProper_of_mem_simple : ∀ run ∈ simple, run.isProper = true :=
  List.all_eq_true.1 (by decide +kernel)

private theorem leaves_of_mem_simple :
    ∀ run ∈ simple, ∀ other ∈ simple, run.leaves other = true := by
  have hAll : (simple.all fun run => simple.all run.leaves) = true := by decide +kernel
  exact fun run hRun => List.all_eq_true.1 (List.all_eq_true.1 hAll run hRun)

theorem Run.contains_iff {run : Run} {code : Nat} :
    run.contains code = true ↔
      run.first ≤ code ∧ code ≤ run.last ∧ (code - run.first) % run.step = 0 := by
  simp [contains, and_assoc]

/-- The lower case of a member of a run is a member of no run that it leaves. -/
theorem Run.contains_image_eq_false {run other : Run} {code : Nat} (hRun : run.isProper = true)
    (hLeaves : run.leaves other = true) (hMem : run.contains code = true) :
    other.contains (run.image code) = false := by
  obtain ⟨hFirst, hLast, hStep⟩ := contains_iff.1 hMem
  rw [Bool.eq_false_iff]
  intro hOther
  obtain ⟨hOtherFirst, hOtherLast, hOtherStep⟩ := contains_iff.1 hOther
  simp only [isProper, Bool.and_eq_true, decide_eq_true_eq] at hRun
  simp only [leaves, Bool.or_eq_true, Bool.and_eq_true, beq_iff_eq, Nat.blt_eq] at hLeaves
  have hLow := hRun.1.1
  unfold image at *
  rcases hLeaves with (hBelow | hAbove) | ⟨⟨hOtherTwo, hTwo | hOne⟩, hOdd⟩
  · omega
  · omega
  · rw [hOtherTwo] at hOtherStep
    rw [hTwo] at hStep
    omega
  · rw [hOtherTwo] at hOtherStep
    omega

/-- The lower case of a member of a run is a character, and none of the two special cases. -/
theorem Run.image_proper {run : Run} {code : Nat} (hRun : run.isProper = true)
    (hMem : run.contains code = true) :
    (run.image code).isValidChar ∧ run.image code ≠ 0x130 ∧ run.image code ≠ 0x3A3 := by
  obtain ⟨hFirst, hLast, -⟩ := contains_iff.1 hMem
  simp only [isProper, List.all_cons, List.all_nil, Bool.and_eq_true, Bool.or_eq_true,
    decide_eq_true_eq, Nat.blt_eq] at hRun
  obtain ⟨⟨hLow, hHigh⟩, hSurrogates, hDotted, hSigma, -⟩ := hRun
  have hAbove : run.image run.first ≤ run.image code := by
    unfold image
    omega
  have hBelow : run.image code ≤ run.image run.last := by
    unfold image
    omega
  rw [Nat.isValidChar]
  omega

/-! ## Characters -/

private theorem ofChar_eq_self {c : Char} (hDotted : c ≠ 'İ')
    (hNone : ∀ run ∈ simple, run.contains c.toNat = false) : ofChar c = [c] := by
  have hFind : simple.find? (·.contains c.toNat) = none :=
    List.find?_eq_none.2 fun run hRun => by simp [hNone run hRun]
  simp [ofChar, hDotted, hFind]

/-- What the table gives for a letter has no other lower case. -/
theorem isFixed_image {run : Run} (hRun : run ∈ simple) {code : Nat}
    (hMem : run.contains code = true) : isFixed (Char.ofNat (run.image code)) = true := by
  have hProper := isProper_of_mem_simple run hRun
  obtain ⟨hValid, hDotted, hSigma⟩ := Run.image_proper hProper hMem
  have hCode : (Char.ofNat (run.image code)).toNat = run.image code :=
    Utf8.toNat_ofNat_of_valid hValid
  refine isFixed_iff.2 ⟨fun hSame => hSigma ?_, ofChar_eq_self (fun hSame => hDotted ?_) ?_⟩
  · rw [← hCode, hSame]
    rfl
  · rw [← hCode, hSame]
    rfl
  · intro other hOther
    rw [hCode]
    exact Run.contains_image_eq_false hProper (leaves_of_mem_simple run hRun other hOther) hMem

/-- The lower case of a letter has no other lower case. -/
theorem isFixed_of_mem_ofChar {c : Char} : ∀ d ∈ ofChar c, isFixed d = true := by
  have hSigma : simple.any (·.contains 'Σ'.toNat) = true := by decide +kernel
  unfold ofChar
  split
  · refine List.all_eq_true.1 ?_
    decide +kernel
  · next hDotted =>
      cases hFind : simple.find? (·.contains c.toNat) with
      | some run =>
          have hMem := List.mem_of_find?_eq_some hFind
          have hContains := List.find?_some hFind
          exact List.forall_mem_singleton.2 (isFixed_image hMem hContains)
      | none =>
          have hNone : ∀ run ∈ simple, run.contains c.toNat = false := by
            simpa using List.find?_eq_none.1 hFind
          refine List.forall_mem_singleton.2 (isFixed_iff.2 ⟨?_, ofChar_eq_self hDotted hNone⟩)
          rintro rfl
          obtain ⟨run, hRun, hContains⟩ := List.any_eq_true.1 hSigma
          exact Bool.false_ne_true ((hNone run hRun).symm.trans hContains)

/-! ## Texts -/

/-- A text in lower case has no capital letters. -/
theorem isFixed_of_mem_after {before text : List Char} :
    ∀ d ∈ after before text, isFixed d = true := by
  induction text generalizing before with
  | nil => simp [after]
  | cons c rest ih =>
      rw [after, List.forall_mem_append]
      refine ⟨?_, ih⟩
      split
      · have hForms : isFixed 'ς' = true ∧ isFixed 'σ' = true := by decide +kernel
        split
        · simpa using hForms.1
        · simpa using hForms.2
      · exact isFixed_of_mem_ofChar

private theorem isFixed_of_mem_lowercase {text : List Char} :
    ∀ d ∈ lowercase text, isFixed d = true :=
  isFixed_of_mem_after

/-! ## ASCII -/

private theorem toLower_of_wide {c : Char} (hWide : 0x80 ≤ c.toNat) : c.toLower = c := by
  have hValue : 0x80 ≤ c.val.toNat := hWide
  rw [Char.toLower, dif_neg]
  rw [ge_iff_le, UInt32.le_iff_toNat_le, UInt32.le_iff_toNat_le]
  rintro ⟨-, hUpper⟩
  have hLast : 'Z'.val.toNat = 90 := rfl
  omega

private theorem ofChar_of_ascii {c : Char} (hAscii : c.toNat < 0x80) : ofChar c = [c.toLower] := by
  have hAll : ∀ n < 0x80, ofChar (Char.ofNat n) = [(Char.ofNat n).toLower] := by decide +kernel
  have hChar := hAll c.toNat hAscii
  rwa [Char.ofNat_toNat] at hChar

private theorem toLower_of_isFixed {c : Char} (hFixed : isFixed c = true) : c.toLower = c := by
  by_cases hAscii : c.toNat < 0x80
  · have hSame := (ofChar_of_ascii hAscii).symm.trans (isFixed_iff.1 hFixed).2
    exact List.singleton_inj.1 hSame
  · exact toLower_of_wide (by omega)

/-- A character that is its own lower case once ASCII letters are lowered is no capital letter
beyond ASCII. -/
theorem isWideCapital_eq_false {c : Char} (hFixed : isFixed c.toLower = true) :
    isWideCapital c = false := by
  by_cases hWide : 0x80 ≤ c.toNat
  · rw [toLower_of_wide hWide] at hFixed
    simp [isWideCapital, hFixed]
  · simp [isWideCapital, hWide]

private theorem after_of_narrow {before text : List Char}
    (hText : ∀ c ∈ text, isWideCapital c = false) : after before text = text.map Char.toLower := by
  induction text generalizing before with
  | nil => rfl
  | cons c rest ih =>
      obtain ⟨hFirst, hRest⟩ := List.forall_mem_cons.1 hText
      have hSigma : c ≠ 'Σ' := by
        rintro rfl
        exact absurd hFirst (by decide)
      have hChar : ofChar c = [c.toLower] := by
        by_cases hWide : 0x80 ≤ c.toNat
        · have hFixed : isFixed c = true := by simpa [isWideCapital, hWide] using hFirst
          rw [toLower_of_wide hWide, (isFixed_iff.1 hFixed).2]
        · exact ofChar_of_ascii (by omega)
      rw [after, if_neg hSigma, hChar, ih hRest]
      rfl

/-- Where capital letters are ASCII, lowering them is enough. -/
theorem lowercase_of_narrow {text : List Char} (hText : ∀ c ∈ text, isWideCapital c = false) :
    lowercase text = text.map Char.toLower :=
  after_of_narrow hText

end Lowercase

/-- A text is the same as one in lower case up to the case of ASCII letters if and only if it has no
capital letter beyond ASCII and the same lower case. -/
theorem equalUpToAsciiCase_lowercase_iff {text other : List Char} :
    equalUpToAsciiCase text (lowercase other) = true ↔
      (∀ c ∈ text, Lowercase.isWideCapital c = false) ∧ lowercase text = lowercase other := by
  have hLowered : (lowercase other).map Char.toLower = lowercase other :=
    (List.map_congr_left fun d hMem =>
      Lowercase.toLower_of_isFixed (Lowercase.isFixed_of_mem_lowercase d hMem)).trans
        (List.map_id' _)
  rw [equalUpToAsciiCase, beq_iff_eq, hLowered]
  constructor
  · intro hSame
    have hNarrow : ∀ c ∈ text, Lowercase.isWideCapital c = false := by
      intro c hMem
      have hLower : c.toLower ∈ lowercase other := by
        rw [← hSame]
        exact List.mem_map_of_mem hMem
      exact Lowercase.isWideCapital_eq_false (Lowercase.isFixed_of_mem_lowercase _ hLower)
    exact ⟨hNarrow, (Lowercase.lowercase_of_narrow hNarrow).trans hSame⟩
  · rintro ⟨hNarrow, hSame⟩
    rw [← hSame, Lowercase.lowercase_of_narrow hNarrow]

end FunctionCatalog
