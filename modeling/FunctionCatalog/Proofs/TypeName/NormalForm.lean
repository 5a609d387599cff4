import FunctionCatalog.Proofs.TypeName.OneLine
import FunctionCatalog.Text.Alphabetic
import Mathlib

/-!
# The normal form of a spelling

White space makes a difference in two places only: it keeps two words apart, and it must not come
between them elsewhere. Everywhere else, that is at the ends, beside other white space or a comma,
behind an opening bracket and in front of a closing one, it may be added or removed, and texts that
differ in nothing else are spaced alike. A spelling and its normal form are spaced alike, and texts
that are spaced alike have one normal form, so the normal form says exactly how far two spellings
agree.

The text is read once, with a look back at what has been written. What carries the proofs is what
the written text looks like at any time (`IsSettled`), and that it goes on as if it had been spaced
in any other way (`normalized_respaced`).

## Main results

* `normalized_eq_of_spacedAlike` — texts that are spaced alike have one normal form.
* `spacedAlike_normalized` — a text and its normal form are spaced alike.
* `isNormal_normalized` — white space in a normal form.
* `normalized_apart` — words that are set apart stay so, by one blank.
* `normalizeSpelling_normalForm` — all of it, for spellings.
-/

namespace FunctionCatalog

namespace NormalSpelling

/-! ## White space that makes no difference -/

/-- Whether no blank follows a character in a normal form. -/
def isOpening (c : Char) : Bool :=
  c == '<' || c == '(' || c == '['

/-- Whether no blank stands in front of a character in a normal form, a comma apart. -/
def isClosing (c : Char) : Bool :=
  c == '>' || c == ')' || c == ']'

/-- A place in a text where white space makes no difference, by what stands in front of it or by
what follows. At the ends of a text there is nothing. -/
def IsFree (front back : List Char) : Prop :=
  (∀ c ∈ front.getLast?, isWhiteSpace c = true ∨ c = ',' ∨ isOpening c = true) ∨
    ∀ c ∈ back.head?, isWhiteSpace c = true ∨ c = ',' ∨ isClosing c = true

/-- A text with white space added where it makes no difference. -/
inductive Respaced : List Char → List Char → Prop where
  | add {front gap back : List Char} (hPlace : IsFree front back)
    (hGap : ∀ c ∈ gap, isWhiteSpace c = true) : Respaced (front ++ back) (front ++ (gap ++ back))

/-- Texts that differ at most in white space that makes no difference. -/
def SpacedAlike : List Char → List Char → Prop :=
  Relation.EqvGen Respaced

/-- White space in a normal form. -/
structure IsNormal (text : List Char) : Prop where
  /-- It is blanks. -/
  eq_blank : ∀ c ∈ text, isWhiteSpace c = true → c = ' '
  /-- There is none at the start. -/
  head_ne : text.head? ≠ some ' '
  /-- There is none at the end. -/
  last_ne : text.getLast? ≠ some ' '
  /-- A blank is followed by no other one, and by no comma or closing bracket. -/
  after_blank : ∀ c, [' ', c] <:+: text → c ≠ ' ' ∧ c ≠ ',' ∧ isClosing c = false
  /-- No blank follows an opening bracket. -/
  before_blank : ∀ c, [c, ' '] <:+: text → isOpening c = false
  /-- A blank follows every comma, unless a comma, a closing bracket or nothing does. -/
  after_comma : ∀ c, [',', c] <:+: text → c = ' ' ∨ c = ',' ∨ isClosing c = true

namespace SpacedAlike

variable {a b c front gap back : List Char}

theorem refl (a : List Char) : SpacedAlike a a :=
  Relation.EqvGen.refl a

theorem symm (h : SpacedAlike a b) : SpacedAlike b a :=
  Relation.EqvGen.symm _ _ h

theorem trans (h : SpacedAlike a b) (hNext : SpacedAlike b c) : SpacedAlike a c :=
  Relation.EqvGen.trans _ _ _ h hNext

theorem add (hPlace : IsFree front back) (hGap : ∀ c ∈ gap, isWhiteSpace c = true) :
    SpacedAlike (front ++ back) (front ++ (gap ++ back)) :=
  .rel _ _ (.add hPlace hGap)

/-- What stands behind white space is spaced alike whatever stands in front. -/
theorem prepend {white : Char} (hWhite : isWhiteSpace white = true) (front : List Char)
    (h : SpacedAlike a b) : SpacedAlike (front ++ white :: a) (front ++ white :: b) := by
  induction h with
  | refl a => exact .refl _
  | symm _ _ _ ih => exact ih.symm
  | trans _ _ _ _ _ ih hNext => exact ih.trans hNext
  | rel _ _ hStep =>
      obtain ⟨hPlace, hGap⟩ := hStep
      next start gap back =>
        have hBehind : IsFree (front ++ white :: start) back := by
          refine hPlace.imp_left fun hStart c hLast => ?_
          cases start with
          | nil =>
              rw [List.getLast?_concat] at hLast
              exact .inl (Option.mem_some.1 hLast ▸ hWhite)
          | cons d rest => exact hStart c (by simpa using hLast)
        have hAdd := add hBehind hGap
        simpa using hAdd

end SpacedAlike

/-! ## Reading blank by blank -/

/-- A character with a blank in place of white space. -/
def blanked (c : Char) : Char :=
  if isWhiteSpace c then ' ' else c

/-- What is written of a text that is read character by character. -/
def written (text : List Char) : List Char :=
  (text.map blanked).foldl write []

/-- The normal form of a text that is read character by character. -/
def normalized (text : List Char) : List Char :=
  (dropBlanks (written text)).reverse

private theorem isWhiteSpace_of_isOpening {c : Char} (h : isOpening c = true) :
    isWhiteSpace c = false := by
  simp only [isOpening, Bool.or_eq_true, beq_iff_eq] at h
  rcases h with (rfl | rfl) | rfl <;> rfl

private theorem isWhiteSpace_of_isClosing {c : Char} (h : isClosing c = true) :
    isWhiteSpace c = false := by
  simp only [isClosing, Bool.or_eq_true, beq_iff_eq] at h
  rcases h with (rfl | rfl) | rfl <;> rfl

private theorem blanked_of_white {c : Char} (h : isWhiteSpace c = true) : blanked c = ' ' :=
  if_pos h

private theorem blanked_of_not_white {c : Char} (h : isWhiteSpace c = false) : blanked c = c :=
  if_neg (by simp [h])

private theorem written_append (front back : List Char) :
    written (front ++ back) = (back.map blanked).foldl write (written front) := by
  rw [written, List.map_append, List.foldl_append, written]

/-! ### Writing one character -/

@[simp] theorem dropBlanks_blank (state : List Char) :
    dropBlanks (' ' :: state) = dropBlanks state := by
  simp [dropBlanks]

private theorem dropBlanks_of_ne {c : Char} (h : c ≠ ' ') (state : List Char) :
    dropBlanks (c :: state) = c :: state := by
  simp [dropBlanks, h]

private theorem head?_dropBlanks (state : List Char) : (dropBlanks state).head? ≠ some ' ' := by
  induction state with
  | nil => simp [dropBlanks]
  | cons c rest ih =>
      by_cases hBlank : c = ' '
      · rwa [hBlank, dropBlanks_blank]
      · simpa [dropBlanks_of_ne hBlank] using hBlank

@[simp] theorem write_comma (state : List Char) :
    write state ',' = ' ' :: ',' :: dropBlanks state :=
  rfl

private theorem write_closing {c : Char} (h : isClosing c = true) (state : List Char) :
    write state c = c :: dropBlanks state := by
  simp only [isClosing, Bool.or_eq_true, beq_iff_eq] at h
  rcases h with (rfl | rfl) | rfl <;> rfl

private theorem write_blank_admitted {state : List Char} (h : admitsBlank state = true) :
    write state ' ' = ' ' :: state := by
  simp [write, h]

private theorem write_blank_refused {state : List Char} (h : admitsBlank state = false) :
    write state ' ' = state := by
  simp [write, h]

private theorem write_other {c : Char} (hComma : c ≠ ',') (hClosing : isClosing c = false)
    (hBlank : c ≠ ' ')
    (state : List Char) : write state c = c :: state := by
  simp only [isClosing, Bool.or_eq_false_iff, beq_eq_false_iff_ne] at hClosing
  simp [write, hComma, hClosing, hBlank]

/-- What is done with a character. -/
theorem write_cases (state : List Char) (c : Char) :
    (c = ',' ∧ write state c = ' ' :: ',' :: dropBlanks state) ∨
      (isClosing c = true ∧ write state c = c :: dropBlanks state) ∨
      (c = ' ' ∧ admitsBlank state = false ∧ write state c = state) ∨
      (c = ' ' ∧ admitsBlank state = true ∧ write state c = ' ' :: state) ∨
      (c ≠ ' ' ∧ c ≠ ',' ∧ isClosing c = false ∧ write state c = c :: state) := by
  by_cases hComma : c = ','
  · subst hComma
    exact .inl ⟨rfl, write_comma state⟩
  cases hClosing : isClosing c with
  | true => exact .inr (.inl ⟨rfl, write_closing hClosing state⟩)
  | false =>
      by_cases hBlank : c = ' '
      · subst hBlank
        cases hAdmits : admitsBlank state with
        | true => exact .inr (.inr (.inr (.inl ⟨rfl, rfl, write_blank_admitted hAdmits⟩)))
        | false => exact .inr (.inr (.inl ⟨rfl, rfl, write_blank_refused hAdmits⟩))
      · exact .inr (.inr (.inr (.inr
          ⟨hBlank, hComma, rfl, write_other hComma hClosing hBlank state⟩)))

/-- No blank is admitted behind a blank, a comma or an opening bracket. -/
theorem admitsBlank_write (state : List Char) {c : Char}
    (h : c = ' ' ∨ c = ',' ∨ isOpening c = true) : admitsBlank (write state c) = false := by
  rcases h with rfl | rfl | hOpening
  · cases hAdmits : admitsBlank state with
    | true => rw [write_blank_admitted hAdmits]; rfl
    | false => rw [write_blank_refused hAdmits, hAdmits]
  · rfl
  · simp only [isOpening, Bool.or_eq_true, beq_iff_eq] at hOpening
    rcases hOpening with (rfl | rfl) | rfl <;> rfl

/-! ### White space that is read -/

private theorem foldl_write_gap_refused {gap state : List Char}
    (hGap : ∀ c ∈ gap, isWhiteSpace c = true) (h : admitsBlank state = false) :
    (gap.map blanked).foldl write state = state := by
  induction gap with
  | nil => rfl
  | cons c rest ih =>
      obtain ⟨hFirst, hRest⟩ := List.forall_mem_cons.1 hGap
      rw [List.map_cons, List.foldl_cons, blanked_of_white hFirst, write_blank_refused h, ih hRest]

/-- White space is read as one blank. -/
theorem foldl_write_gap {gap : List Char} (hNonempty : gap ≠ [])
    (hGap : ∀ c ∈ gap, isWhiteSpace c = true) (state : List Char) :
    (gap.map blanked).foldl write state = write state ' ' := by
  obtain ⟨c, rest, rfl⟩ := List.exists_cons_of_ne_nil hNonempty
  obtain ⟨hFirst, hRest⟩ := List.forall_mem_cons.1 hGap
  rw [List.map_cons, List.foldl_cons, blanked_of_white hFirst]
  exact foldl_write_gap_refused hRest (admitsBlank_write state (.inl rfl))

/-- Behind a place where white space makes no difference because of what stands in front, no blank
is admitted. -/
theorem admitsBlank_written {front : List Char}
    (h : ∀ c ∈ front.getLast?, isWhiteSpace c = true ∨ c = ',' ∨ isOpening c = true) :
    admitsBlank (written front) = false := by
  rcases List.eq_nil_or_concat front with rfl | ⟨start, last, rfl⟩
  · rfl
  · rw [List.concat_eq_append] at h ⊢
    rw [written_append]
    refine admitsBlank_write _ ?_
    rcases h last (by simp) with hWhite | rfl | hOpening
    · exact .inl (blanked_of_white hWhite)
    · exact .inr (.inl rfl)
    · rw [blanked_of_not_white (isWhiteSpace_of_isOpening hOpening)]
      exact .inr (.inr hOpening)

/-- A blank is forgotten in front of white space, a comma, a closing bracket and the end. -/
theorem dropBlanks_foldl_write_blank {back : List Char}
    (h : ∀ c ∈ back.head?, isWhiteSpace c = true ∨ c = ',' ∨ isClosing c = true)
    (state : List Char) :
    dropBlanks ((back.map blanked).foldl write (write state ' ')) =
      dropBlanks ((back.map blanked).foldl write state) := by
  cases hAdmits : admitsBlank state with
  | false => rw [write_blank_refused hAdmits]
  | true =>
      cases back with
      | nil => rw [write_blank_admitted hAdmits]; simp
      | cons c rest =>
          rw [List.map_cons, List.foldl_cons, List.foldl_cons]
          congr 2
          rcases h c rfl with hWhite | rfl | hClosing
          · rw [blanked_of_white hWhite]
            exact write_blank_refused (admitsBlank_write state (.inl rfl))
          · rw [write_blank_admitted hAdmits]
            simp [blanked_of_not_white (show isWhiteSpace ',' = false from rfl)]
          · rw [write_blank_admitted hAdmits,
              blanked_of_not_white (isWhiteSpace_of_isClosing hClosing), write_closing hClosing,
              write_closing hClosing, dropBlanks_blank]

theorem normalized_respaced {a b : List Char} (h : Respaced a b) : normalized a = normalized b := by
  obtain ⟨hPlace, hGap⟩ := h
  next front gap back =>
    rw [normalized, normalized, written_append, written_append, List.map_append, List.foldl_append]
    rcases hPlace with hFront | hBack
    · rw [foldl_write_gap_refused hGap (admitsBlank_written hFront)]
    · by_cases hNonempty : gap = []
      · rw [hNonempty]
        rfl
      · rw [foldl_write_gap hNonempty hGap, dropBlanks_foldl_write_blank hBack]

/-- Texts that are spaced alike have one normal form. -/
theorem normalized_eq_of_spacedAlike {a b : List Char} (h : SpacedAlike a b) :
    normalized a = normalized b := by
  induction h with
  | rel _ _ hStep => exact normalized_respaced hStep
  | refl _ => rfl
  | symm _ _ _ ih => exact ih.symm
  | trans _ _ _ _ _ ih hNext => exact ih.trans hNext

/-! ## What is written is spaced alike -/

private theorem isWhiteSpace_blank : ∀ c ∈ [' '], isWhiteSpace c = true :=
  List.forall_mem_singleton.2 rfl

namespace SpacedAlike

/-- White space may be replaced by a blank. -/
theorem white_blank {white : Char} (hWhite : isWhiteSpace white = true) (front back : List Char) :
    SpacedAlike (front ++ white :: back) (front ++ ' ' :: back) := by
  have hBoth : SpacedAlike (front ++ white :: back) (front ++ ([' '] ++ white :: back)) :=
    .add (.inr fun c hHead => .inl (Option.mem_some.1 hHead ▸ hWhite)) isWhiteSpace_blank
  have hOne : SpacedAlike ((front ++ [' ']) ++ back) ((front ++ [' ']) ++ ([white] ++ back)) := by
    refine .add (.inl fun c hLast => .inl ?_) (by simpa using hWhite)
    obtain rfl : ' ' = c := by simpa using hLast
    rfl
  refine hBoth.trans ?_
  simpa using hOne.symm

/-- The characters other than white space are the same. -/
theorem filter_eq {a b : List Char} (h : SpacedAlike a b) :
    a.filter (!isWhiteSpace ·) = b.filter (!isWhiteSpace ·) := by
  induction h with
  | refl _ => rfl
  | symm _ _ _ ih => exact ih.symm
  | trans _ _ _ _ _ ih hNext => exact ih.trans hNext
  | rel _ _ hStep =>
      obtain ⟨-, hGap⟩ := hStep
      next front gap back =>
        have hNone : gap.filter (!isWhiteSpace ·) = [] :=
          List.filter_eq_nil_iff.2 fun c hMem => by simp [hGap c hMem]
        simp [hNone]

/-- Blanks at the end of what is written may be dropped if none is needed in front of the rest. -/
theorem dropBlanks {back : List Char}
    (h : ∀ c ∈ back.head?, isWhiteSpace c = true ∨ c = ',' ∨ isClosing c = true)
    (state : List Char) :
    SpacedAlike (state.reverse ++ back) ((dropBlanks state).reverse ++ back) := by
  induction state with
  | nil => exact .refl _
  | cons c rest ih =>
      by_cases hBlank : c = ' '
      · subst hBlank
        rw [dropBlanks_blank]
        have hOne : SpacedAlike (rest.reverse ++ back) (rest.reverse ++ ([' '] ++ back)) :=
          .add (.inr h) isWhiteSpace_blank
        refine .trans ?_ ih
        simpa using hOne.symm
      · rw [dropBlanks_of_ne hBlank]
        exact .refl _

end SpacedAlike

/-- Where no blank is admitted, white space makes no difference. -/
theorem isFree_of_not_admitsBlank {state : List Char} (h : admitsBlank state = false)
    (back : List Char) : IsFree state.reverse back := by
  refine .inl fun c hLast => ?_
  cases state with
  | nil => simp at hLast
  | cons last rest =>
      obtain rfl : last = c := by simpa using hLast
      simp only [admitsBlank, Bool.not_eq_false', Bool.or_eq_true, beq_iff_eq] at h
      rcases h with ((rfl | rfl) | rfl) | rfl
      · exact .inl rfl
      all_goals exact .inr (.inr rfl)

/-- Reading one character changes nothing else than white space that makes no difference. -/
theorem spacedAlike_write (state : List Char) (c : Char) (rest : List Char) :
    SpacedAlike (state.reverse ++ c :: rest) ((write state (blanked c)).reverse ++ rest) := by
  cases hWhite : isWhiteSpace c with
  | true =>
      rw [blanked_of_white hWhite]
      cases hAdmits : admitsBlank state with
      | true =>
          rw [write_blank_admitted hAdmits]
          simpa using SpacedAlike.white_blank hWhite state.reverse rest
      | false =>
          rw [write_blank_refused hAdmits]
          have hGap : ∀ d ∈ [c], isWhiteSpace d = true := by simpa using hWhite
          exact (SpacedAlike.add (isFree_of_not_admitsBlank hAdmits rest) hGap).symm
  | false =>
      rw [blanked_of_not_white hWhite]
      rcases write_cases state c with
        ⟨rfl, hWrite⟩ | ⟨hClosing, hWrite⟩ | ⟨rfl, -, -⟩ | ⟨rfl, -, -⟩ | ⟨-, -, -, hWrite⟩
      · rw [hWrite]
        refine (SpacedAlike.dropBlanks (by simp) state).trans ?_
        have hAdd : SpacedAlike (((dropBlanks state).reverse ++ [',']) ++ rest)
            (((dropBlanks state).reverse ++ [',']) ++ ([' '] ++ rest)) := by
          refine .add (.inl fun d hLast => .inr (.inl ?_)) isWhiteSpace_blank
          obtain rfl : ',' = d := by simpa using hLast
          rfl
        simpa using hAdd
      · rw [hWrite]
        have hDrop : SpacedAlike (state.reverse ++ c :: rest)
            ((dropBlanks state).reverse ++ c :: rest) :=
          .dropBlanks (by simp [hClosing]) state
        simpa using hDrop
      · exact absurd hWhite (by decide)
      · exact absurd hWhite (by decide)
      · rw [hWrite]
        simpa using SpacedAlike.refl (state.reverse ++ c :: rest)

private theorem spacedAlike_foldl_write (state text : List Char) :
    SpacedAlike (state.reverse ++ text) ((text.map blanked).foldl write state).reverse := by
  induction text generalizing state with
  | nil => simpa using SpacedAlike.refl state.reverse
  | cons c rest ih => exact (spacedAlike_write state c rest).trans (ih (write state (blanked c)))

private theorem spacedAlike_written (text : List Char) : SpacedAlike text (written text).reverse :=
  spacedAlike_foldl_write [] text

/-- A text and its normal form are spaced alike. -/
theorem spacedAlike_normalized (text : List Char) : SpacedAlike text (normalized text) := by
  have hEnd : SpacedAlike ((written text).reverse ++ []) (normalized text ++ []) :=
    .dropBlanks (by simp) (written text)
  rw [List.append_nil, List.append_nil] at hEnd
  exact (spacedAlike_written text).trans hEnd

/-! ## What is written is in normal form -/

/-- What may stand behind what. -/
def MayFollow (next last : Char) : Prop :=
  (last = ' ' → next ≠ ' ' ∧ next ≠ ',' ∧ isClosing next = false) ∧
    (next = ' ' → isOpening last = false) ∧
      (last = ',' → next = ' ' ∨ next = ',' ∨ isClosing next = true)

/-- What is written at any time, up to blanks that are still to be dropped: neighbours go together,
and there is no blank at the start. -/
structure IsSettled (state : List Char) : Prop where
  eq_blank : ∀ c ∈ state, isWhiteSpace c = true → c = ' '
  chain : state.IsChain MayFollow
  last_ne : state.getLast? ≠ some ' '

namespace IsSettled

variable {state : List Char}

theorem nil : IsSettled [] :=
  ⟨by simp, .nil, by simp⟩

theorem dropBlanks (h : IsSettled state) : IsSettled (dropBlanks state) := by
  have hSuffix : NormalSpelling.dropBlanks state <:+ state := List.dropWhile_suffix _
  refine ⟨fun c hMem => h.eq_blank c (hSuffix.mem hMem), h.chain.suffix hSuffix, ?_⟩
  obtain ⟨front, hFront⟩ := hSuffix
  have hLast := h.last_ne
  rw [← hFront, List.getLast?_append] at hLast
  intro hBlank
  simp [hBlank] at hLast

/-- A character may be written behind one that it may follow. -/
theorem cons (h : IsSettled state) {c : Char} (hWhite : isWhiteSpace c = true → c = ' ')
    (hFollows : ∀ last ∈ state.head?, MayFollow c last) (hStart : state = [] → c ≠ ' ') :
    IsSettled (c :: state) := by
  refine ⟨List.forall_mem_cons.2 ⟨hWhite, h.eq_blank⟩, List.isChain_cons.2 ⟨hFollows, h.chain⟩, ?_⟩
  cases state with
  | nil => simpa using hStart rfl
  | cons last rest => simpa using h.last_ne

/-- Writing goes on from what is settled and does not end in a comma, and comes to such again. -/
theorem write (h : IsSettled state) (hEnd : state.head? ≠ some ',') {c : Char}
    (hWhite : isWhiteSpace c = true → c = ' ') :
    IsSettled (write state c) ∧ (write state c).head? ≠ some ',' := by
  have hDropped : ∀ last ∈ (NormalSpelling.dropBlanks state).head?, last ≠ ' ' := by
    rintro last hLast rfl
    exact head?_dropBlanks state hLast
  rcases write_cases state c with ⟨rfl, hWrite⟩ | ⟨hClosing, hWrite⟩ | ⟨rfl, -, hWrite⟩ |
    ⟨rfl, hAdmits, hWrite⟩ | ⟨hBlank, hComma, hClosing, hWrite⟩ <;> rw [hWrite]
  · have hOne : IsSettled (',' :: NormalSpelling.dropBlanks state) :=
      h.dropBlanks.cons (by decide)
        (fun last hLast => ⟨fun hBlank => absurd hBlank (hDropped last hLast), by simp,
          fun _ => .inr (.inl rfl)⟩) (by simp)
    refine ⟨hOne.cons (by decide) (fun last hLast => ?_) (by simp), by simp⟩
    obtain rfl : ',' = last := by simpa using hLast
    exact ⟨by decide, by decide, by decide⟩
  · have hSolid : c ≠ ' ' ∧ c ≠ ',' := by
      constructor <;> rintro rfl <;> exact absurd hClosing (by decide)
    refine ⟨h.dropBlanks.cons hWhite (fun last hLast => ?_) (fun _ => hSolid.1), by simp [hSolid.2]⟩
    exact ⟨fun hBlank => absurd hBlank (hDropped last hLast), fun hBlank => absurd hBlank hSolid.1,
      fun _ => .inr (.inr hClosing)⟩
  · exact ⟨h, hEnd⟩
  · refine ⟨h.cons hWhite (fun last hLast => ?_) fun hNil => ?_, by simp⟩
    · cases state with
      | nil => simp at hLast
      | cons first rest =>
          obtain rfl : first = last := by simpa using hLast
          simp only [admitsBlank, Bool.not_eq_true', Bool.or_eq_false_iff,
            beq_eq_false_iff_ne] at hAdmits
          obtain ⟨⟨⟨hBlank, hAngle⟩, hRound⟩, hSquare⟩ := hAdmits
          refine ⟨fun h => absurd h hBlank, fun _ => ?_, fun h => absurd (by simp [h]) hEnd⟩
          simp [isOpening, hAngle, hRound, hSquare]
    · simp [hNil, admitsBlank] at hAdmits
  · refine ⟨h.cons hWhite (fun last hLast => ?_) (fun _ => hBlank), by simpa using hComma⟩
    exact ⟨fun _ => ⟨hBlank, hComma, hClosing⟩, fun h => absurd h hBlank,
      fun h => absurd (h ▸ hLast) hEnd⟩

private theorem foldl_write (h : IsSettled state) (hEnd : state.head? ≠ some ',')
    (text : List Char) :
    IsSettled ((text.map blanked).foldl NormalSpelling.write state) := by
  induction text generalizing state with
  | nil => exact h
  | cons c rest ih =>
      have hWhite : isWhiteSpace (blanked c) = true → blanked c = ' ' := by
        unfold blanked
        split <;> simp_all
      exact ih (h.write hEnd hWhite).1 (h.write hEnd hWhite).2

end IsSettled

/-- White space in a normal form. -/
theorem isNormal_normalized (text : List Char) : IsNormal (normalized text) := by
  have hSettled : IsSettled (dropBlanks (written text)) :=
    (IsSettled.nil.foldl_write (by simp) text).dropBlanks
  have hPair : ∀ last next, [last, next] <:+: normalized text → MayFollow next last := by
    intro last next hInfix
    have hChain : (normalized text).IsChain fun last next => MayFollow next last :=
      List.isChain_reverse.2 hSettled.chain
    simpa using hChain.infix hInfix
  refine
    { eq_blank := fun c hMem => hSettled.eq_blank c (List.mem_reverse.1 hMem)
      head_ne := ?_
      last_ne := ?_
      after_blank := fun c hInfix => (hPair ' ' c hInfix).1 rfl
      before_blank := fun c hInfix => (hPair c ' ' hInfix).2.1 rfl
      after_comma := fun c hInfix => (hPair ',' c hInfix).2.2 rfl }
  · rw [normalized, List.head?_reverse]
    exact hSettled.last_ne
  · rw [normalized, List.getLast?_reverse]
    exact head?_dropBlanks (written text)

/-! ## Words that are set apart -/

/-- Whether a character stands for itself in a normal form, wherever it is. -/
def isPlain (c : Char) : Bool :=
  !(isWhiteSpace c || c == ',' || isOpening c || isClosing c)

private theorem isPlain_iff {c : Char} :
    isPlain c = true ↔
      isWhiteSpace c = false ∧ c ≠ ',' ∧ isOpening c = false ∧ isClosing c = false := by
  simp [isPlain, and_assoc]

private theorem ne_blank_of_isPlain {c : Char} (h : isPlain c = true) : c ≠ ' ' := by
  rintro rfl
  exact absurd (isPlain_iff.1 h).1 (by decide)

theorem contains_eq_false_of_isAlphanumeric {others : CodePoints}
    (hLetters : ∀ range ∈ alphabetic, ∀ other ∈ others, range.2 < other.1 ∨ other.2 < range.1)
    (hNumbers : ∀ range ∈ numeric, ∀ other ∈ others, range.2 < other.1 ∨ other.2 < range.1)
    {c : Char} (h : isAlphanumeric c = true) : others.contains c = false := by
  rcases Bool.or_eq_true_iff.1 h with hLetter | hNumber
  · exact CodePoints.contains_eq_false_of_apart hLetters hLetter
  · exact CodePoints.contains_eq_false_of_apart hNumbers hNumber

/-- Letters and numbers are not white space. -/
theorem isWhiteSpace_of_isAlphanumeric {c : Char} (h : isAlphanumeric c = true) :
    isWhiteSpace c = false :=
  contains_eq_false_of_isAlphanumeric (by decide +kernel) (by decide +kernel) h

/-- Letters and numbers are none of the characters beside which white space makes no difference. -/
theorem not_mem_of_isAlphanumeric {c : Char} (h : isAlphanumeric c = true) :
    c ∉ [',', '<', '(', '[', '>', ')', ']'] := by
  have hOutside :
      CodePoints.contains [(40, 41), (44, 44), (60, 60), (62, 62), (91, 91), (93, 93)] c = false :=
    contains_eq_false_of_isAlphanumeric (by decide +kernel) (by decide +kernel) h
  have hInside : [',', '<', '(', '[', '>', ')', ']'].all
      (CodePoints.contains [(40, 41), (44, 44), (60, 60), (62, 62), (91, 91), (93, 93)]) =
        true := by
    decide
  intro hMem
  exact Bool.false_ne_true (hOutside.symm.trans (List.all_eq_true.1 hInside c hMem))

/-- A character of identifiers stands for itself. -/
theorem isPlain_of_identifier {c : Char} (h : (isAlphanumeric c || c == '_') = true) :
    isPlain c = true := by
  rcases Bool.or_eq_true_iff.1 h with hLetter | hLine
  · have hOther := not_mem_of_isAlphanumeric hLetter
    simp only [List.mem_cons, List.not_mem_nil, or_false, not_or] at hOther
    simp [isPlain, isOpening, isClosing, isWhiteSpace_of_isAlphanumeric hLetter, hOther]
  · obtain rfl : c = '_' := by simpa using hLine
    decide

/-- A blank is dropped at the end only. -/
theorem exists_dropBlanks_eq {c : Char} (hBlank : c ≠ ' ') (state more : List Char) :
    ∃ kept, dropBlanks (more ++ c :: state) = kept ++ c :: state := by
  induction more with
  | nil => exact ⟨[], dropBlanks_of_ne hBlank state⟩
  | cons d rest ih =>
      by_cases hDrop : d = ' '
      · rw [hDrop, List.cons_append, dropBlanks_blank]
        exact ih
      · exact ⟨d :: rest, dropBlanks_of_ne hDrop _⟩

/-- Writing goes on behind a character other than a blank. -/
theorem exists_foldl_write_eq {c : Char} (hBlank : c ≠ ' ') (state text : List Char) :
    ∃ more, text.foldl write (c :: state) = more ++ c :: state := by
  suffices hFrom : ∀ more, ∃ more', text.foldl write (more ++ c :: state) = more' ++ c :: state from
    hFrom []
  induction text with
  | nil => exact fun more => ⟨more, rfl⟩
  | cons d rest ih =>
      intro more
      obtain ⟨kept, hKept⟩ := exists_dropBlanks_eq hBlank state more
      rcases write_cases (more ++ c :: state) d with ⟨-, hWrite⟩ | ⟨-, hWrite⟩ | ⟨-, -, hWrite⟩ |
        ⟨-, -, hWrite⟩ | ⟨-, -, -, hWrite⟩ <;> rw [List.foldl_cons, hWrite]
      · rw [hKept]
        exact ih (' ' :: ',' :: kept)
      · rw [hKept]
        exact ih (d :: kept)
      · exact ih more
      · exact ih (' ' :: more)
      · exact ih (d :: more)

/-- Plain characters are written one after the other. -/
theorem foldl_write_plain {text : List Char} (hText : ∀ c ∈ text, isPlain c = true)
    (state : List Char) : (text.map blanked).foldl write state = text.reverse ++ state := by
  induction text generalizing state with
  | nil => rfl
  | cons c rest ih =>
      obtain ⟨hFirst, hRest⟩ := List.forall_mem_cons.1 hText
      obtain ⟨hWhite, hComma, -, hClosing⟩ := isPlain_iff.1 hFirst
      rw [List.map_cons, List.foldl_cons, blanked_of_not_white hWhite,
        write_other hComma hClosing (ne_blank_of_isPlain hFirst), ih hRest, List.reverse_cons,
        List.append_assoc, List.singleton_append]

/-- Between plain characters, white space is written as one blank. -/
theorem written_apart (front : List Char) {left gap right : List Char} (hLeft : left ≠ [])
    (hLeftPlain : ∀ c ∈ left, isPlain c = true) (hRightPlain : ∀ c ∈ right, isPlain c = true)
    (hNonempty : gap ≠ []) (hGap : ∀ c ∈ gap, isWhiteSpace c = true) :
    written (front ++ (left ++ (gap ++ right))) =
      right.reverse ++ ' ' :: (left.reverse ++ written front) := by
  have hAdmits : admitsBlank (left.reverse ++ written front) = true := by
    obtain ⟨last, start, hLast⟩ := List.exists_cons_of_ne_nil (List.reverse_ne_nil_iff.2 hLeft)
    have hPlain := hLeftPlain last (List.mem_reverse.1 (by simp [hLast]))
    obtain ⟨-, -, hOpening, -⟩ := isPlain_iff.1 hPlain
    simp only [isOpening, Bool.or_eq_false_iff, beq_eq_false_iff_ne] at hOpening
    rw [hLast]
    simp [admitsBlank, hOpening, ne_blank_of_isPlain hPlain]
  rw [written_append, List.map_append, List.foldl_append, List.map_append, List.foldl_append,
    foldl_write_plain hLeftPlain, foldl_write_gap hNonempty hGap, write_blank_admitted hAdmits,
    foldl_write_plain hRightPlain]

/-- Words that are set apart by white space stay so, by one blank. -/
theorem normalized_apart {front left gap right back : List Char} (hLeft : left ≠ [])
    (hRight : right ≠ []) (hLeftPlain : ∀ c ∈ left, isPlain c = true)
    (hRightPlain : ∀ c ∈ right, isPlain c = true) (hNonempty : gap ≠ [])
    (hGap : ∀ c ∈ gap, isWhiteSpace c = true) :
    ∃ front' back', normalized (front ++ (left ++ (gap ++ right)) ++ back) =
        front' ++ (left ++ ' ' :: right) ++ back' ∧
      front'.filter (!isWhiteSpace ·) = front.filter (!isWhiteSpace ·) ∧
      back'.filter (!isWhiteSpace ·) = back.filter (!isWhiteSpace ·) := by
  obtain ⟨last, start, hLast⟩ := List.exists_cons_of_ne_nil (List.reverse_ne_nil_iff.2 hRight)
  have hBlank : last ≠ ' ' :=
    ne_blank_of_isPlain (hRightPlain last (List.mem_reverse.1 (by simp [hLast])))
  have hWritten := written_apart front hLeft hLeftPlain hRightPlain hNonempty hGap
  -- what follows is written behind the second word, and blanks are dropped behind it only
  obtain ⟨more, hMore⟩ := exists_foldl_write_eq hBlank
    (start ++ ' ' :: (left.reverse ++ written front)) (back.map blanked)
  obtain ⟨kept, hKept⟩ := exists_dropBlanks_eq hBlank
    (start ++ ' ' :: (left.reverse ++ written front)) more
  have hNormal : normalized (front ++ (left ++ (gap ++ right)) ++ back) =
      (written front).reverse ++ (left ++ ' ' :: right) ++ kept.reverse := by
    rw [normalized, written_append, hWritten, hLast, List.cons_append, hMore, hKept,
      ← List.cons_append, ← hLast]
    simp
  have hFront : (written front).reverse.filter (!isWhiteSpace ·) =
      front.filter (!isWhiteSpace ·) := (spacedAlike_written front).filter_eq.symm
  refine ⟨(written front).reverse, kept.reverse, hNormal, hFront, ?_⟩
  have hAll := (spacedAlike_normalized (front ++ (left ++ (gap ++ right)) ++ back)).filter_eq
  have hNone : gap.filter (!isWhiteSpace ·) = [] :=
    List.filter_eq_nil_iff.2 fun c hMem => by simp [hGap c hMem]
  have hOne : [' '].filter (!isWhiteSpace ·) = [] := rfl
  rw [hNormal, ← List.singleton_append (x := ' ')] at hAll
  simp only [List.filter_append, hFront, hNone, hOne, List.nil_append] at hAll
  exact (List.append_cancel_left hAll).symm

/-! ## Texts and their words -/

/-- A text and its words that are joined by blanks are spaced alike. -/
theorem spacedAlike_runsFrom (run text : List Char) :
    SpacedAlike (run ++ text)
      ([' '].intercalate (runsFrom (!isWhiteSpace ·) run text)) := by
  induction run, text using runsFrom.induct (!isWhiteSpace ·) with
  | case1 run hEmpty =>
      simpa [runsFrom, List.isEmpty_iff.1 hEmpty] using SpacedAlike.refl []
  | case2 run hEmpty => simpa [runsFrom, hEmpty] using SpacedAlike.refl run
  | case3 run c rest hKeep ih => simpa [runsFrom, hKeep] using ih
  | case4 run c rest hKeep hEmpty ih =>
      have hGap : ∀ d ∈ [c], isWhiteSpace d = true := by simpa using hKeep
      have hStart : SpacedAlike ([] ++ rest) ([] ++ ([c] ++ rest)) :=
        .add (.inl (by simp)) hGap
      rw [runsFrom, if_neg hKeep, if_pos hEmpty, List.isEmpty_iff.1 hEmpty]
      exact hStart.symm.trans ih
  | case5 run c rest hKeep hEmpty ih =>
      have hWhite : isWhiteSpace c = true := by simpa using hKeep
      rw [runsFrom, if_neg hKeep, if_neg hEmpty]
      refine (SpacedAlike.white_blank hWhite run rest).trans ?_
      refine (SpacedAlike.prepend rfl run ih).trans ?_
      cases hWords : runsFrom (!isWhiteSpace ·) [] rest with
      | nil =>
          have hEnd : SpacedAlike (run ++ []) (run ++ ([' '] ++ [])) :=
            .add (.inr (by simp)) isWhiteSpace_blank
          simpa using hEnd.symm
      | cons next others => simpa using SpacedAlike.refl _

end NormalSpelling

open NormalSpelling

private theorem toList_normalizeSpelling (text : String) :
    (normalizeSpelling text).toList = normalized text.toList := by
  have hSame : (" ".intercalate (words text)).toList.map blanked =
      (" ".intercalate (words text)).toList := by
    refine (List.map_congr_left fun c hMem => ?_).trans (List.map_id _)
    cases hWhite : isWhiteSpace c with
    | true => rw [blanked_of_white hWhite, oneLine_words_joined text c hMem hWhite, id]
    | false => rw [blanked_of_not_white hWhite, id]
  have hAlike : SpacedAlike text.toList ([' '].intercalate (runs (!isWhiteSpace ·) text.toList)) :=
    spacedAlike_runsFrom [] text.toList
  rw [normalized_eq_of_spacedAlike hAlike, ← toList_intercalate_words, normalized, written, hSame,
    normalizeSpelling,
    String.toList_ofList]

/-- The normal form of a spelling has the same characters other than white space, has white space
only where a normal form has, keeps words apart that are set apart, is its own normal form, and is
the normal form of exactly the spellings that differ in nothing but white space that makes no
difference. -/
theorem normalizeSpelling_normalForm (text : String) :
    (normalizeSpelling text).toList.filter (!isWhiteSpace ·) =
        text.toList.filter (!isWhiteSpace ·) ∧
      IsNormal (normalizeSpelling text).toList ∧
      (∀ front left gap right back : List Char,
        text.toList = front ++ (left ++ (gap ++ right)) ++ back →
        left ≠ [] → (∀ c ∈ left, (isAlphanumeric c || c == '_') = true) →
        right ≠ [] → (∀ c ∈ right, (isAlphanumeric c || c == '_') = true) →
        gap ≠ [] → (∀ c ∈ gap, isWhiteSpace c = true) →
        ∃ front' back', (normalizeSpelling text).toList =
            front' ++ (left ++ ' ' :: right) ++ back' ∧
          front'.filter (!isWhiteSpace ·) = front.filter (!isWhiteSpace ·) ∧
          back'.filter (!isWhiteSpace ·) = back.filter (!isWhiteSpace ·)) ∧
      normalizeSpelling (normalizeSpelling text) = normalizeSpelling text ∧
      ∀ other : String, normalizeSpelling other = normalizeSpelling text ↔
        SpacedAlike text.toList other.toList := by
  have hAlike := spacedAlike_normalized text.toList
  refine ⟨?_, ?_, ?_, ?_, fun other => ⟨fun hSame => ?_, fun hOther => ?_⟩⟩
  · rw [toList_normalizeSpelling]
    exact hAlike.filter_eq.symm
  · rw [toList_normalizeSpelling]
    exact isNormal_normalized text.toList
  · intro front left gap right back hText hLeft hLeftWord hRight hRightWord hNonempty hGap
    rw [toList_normalizeSpelling, hText]
    exact normalized_apart hLeft hRight (fun c hMem => isPlain_of_identifier (hLeftWord c hMem))
      (fun c hMem => isPlain_of_identifier (hRightWord c hMem)) hNonempty hGap
  · refine String.toList_injective ?_
    rw [toList_normalizeSpelling, toList_normalizeSpelling]
    exact (normalized_eq_of_spacedAlike hAlike).symm
  · have hOther := spacedAlike_normalized other.toList
    rw [← toList_normalizeSpelling, hSame, toList_normalizeSpelling] at hOther
    exact hAlike.trans hOther.symm
  · refine String.toList_injective ?_
    rw [toList_normalizeSpelling, toList_normalizeSpelling]
    exact (normalized_eq_of_spacedAlike hOther).symm

example : normalizeSpelling " std::map<  int\n,int >" = "std::map<int, int>" := by decide

end FunctionCatalog
