import FunctionCatalog.Proofs.LinkageGuard.Masking

/-!
# What masking takes from a source

A masked line begins with the opening or the closing of a linkage block. What follows is one comment
for the search, which goes on to the last end of a comment on the line. For the language, a comment
is over at the nearest end, so there may be code between two comments on the line, and it is masked
with them.

## Main results

* `maskLinkageGuards_masks_mark` — comments apart, a masked line is its mark, unless code stands
  between two of its comments.
* `maskLinkageGuards_masks_code` — code between two comments is masked.
-/

namespace FunctionCatalog

namespace LinkageGuard

variable {bytes : Bytes}

/-! ## Lines without their comments -/

mutual

/-- A line without its comments. A comment reaches to the end of the line or to the nearest end
mark. -/
def withoutComments : Bytes → Bytes
  | [] => []
  | 0x2F :: 0x2F :: _ => []
  | 0x2F :: 0x2A :: text => behindComment text
  | b :: rest => b :: withoutComments rest

/-- What is left, without comments, behind the end of the comment that the bytes begin in. -/
def behindComment : Bytes → Bytes
  | [] => []
  | 0x2A :: 0x2F :: rest => withoutComments rest
  | _ :: rest => behindComment rest

end

private theorem withoutComments_append {front : Bytes} (hFront : 0x2F ∉ front) (back : Bytes) :
    withoutComments (front ++ back) = front ++ withoutComments back := by
  induction front with
  | nil => rfl
  | cons b rest ih =>
      have hByte : b ≠ 0x2F := fun hSame => hFront (hSame ▸ List.mem_cons_self)
      have hRest := ih fun hMem => hFront (List.mem_cons_of_mem _ hMem)
      rw [List.cons_append, withoutComments, hRest, List.cons_append]
      · exact fun _ hSame _ => hByte hSame
      · exact fun _ hSame _ => hByte hSame

private theorem not_mem_slash_of_blank (hBlank : ∀ b ∈ bytes, isBlank b) : 0x2F ∉ bytes :=
  fun hMem => absurd (hBlank _ hMem) (by decide)

private theorem withoutComments_of_blank (hBlank : ∀ b ∈ bytes, isBlank b) :
    withoutComments bytes = bytes := by
  have hAppend := withoutComments_append (not_mem_slash_of_blank hBlank) []
  rwa [List.append_nil, withoutComments, List.append_nil] at hAppend

/-- A comment is over at its nearest end. -/
theorem exists_commentEnd (hEnds : ascii "*/" <:+: bytes) :
    ∃ inner rest, bytes = inner ++ ascii "*/" ++ rest ∧ ¬ ascii "*/" <:+: inner ∧
      behindComment bytes = withoutComments rest := by
  induction bytes using List.rec with
  | nil => exact absurd hEnds (by decide)
  | cons b rest ih =>
      by_cases hHere : ascii "*/" <+: b :: rest
      · obtain ⟨back, hBack⟩ := hHere
        refine ⟨[], back, hBack.symm, by decide, ?_⟩
        rw [← hBack]
        exact behindComment.eq_2 back
      · have hLater := (List.infix_cons_iff.1 hEnds).resolve_left hHere
        obtain ⟨inner, back, rfl, hInner, hBehind⟩ := ih hLater
        refine ⟨b :: inner, back, rfl, ?_, ?_⟩
        · rw [List.infix_cons_iff]
          rintro (hPrefix | hInfix)
          · exact hHere (hPrefix.trans ⟨ascii "*/" ++ back, by simp⟩)
          · exact hInner hInfix
        · rw [behindComment, hBehind]
          rintro more rfl hMore
          exact hHere ⟨more, by rw [hMore]; rfl⟩

/-- Two ends of comments are at the same place, or one is over before the other begins. -/
theorem commentEnd_append_eq {front back rest : Bytes}
    (hSame : ascii "*/" ++ back = front ++ (ascii "*/" ++ rest)) :
    front = [] ∧ back = rest ∨
      ∃ between, front = ascii "*/" ++ between ∧ back = between ++ (ascii "*/" ++ rest) := by
  match front, hSame with
  | [], hSame => exact .inl ⟨rfl, List.append_cancel_left hSame⟩
  | [_], hSame => exact absurd (List.cons.inj (List.cons.inj hSame).2).1 (by decide)
  | b :: b' :: between, hSame =>
      obtain ⟨hStar, hSame⟩ := List.cons.inj hSame
      obtain ⟨hSlash, hBack⟩ := List.cons.inj hSame
      exact .inr ⟨between, by rw [← hStar, ← hSlash]; rfl, hBack⟩

/-- Behind a comment that is over before the last end of a comment, another one ends. -/
theorem eq_or_commentEnd {text blank inner rest : Bytes}
    (hSame : text ++ ascii "*/" ++ blank = inner ++ ascii "*/" ++ rest)
    (hInner : ¬ ascii "*/" <:+: inner) : rest = blank ∨ ascii "*/" <:+: rest := by
  rw [List.append_assoc, List.append_assoc, List.append_eq_append_iff] at hSame
  rcases hSame with ⟨more, rfl, hMore⟩ | ⟨more, rfl, hMore⟩
  · obtain ⟨-, rfl⟩ | ⟨between, rfl, -⟩ := commentEnd_append_eq hMore
    · exact .inl rfl
    · exact absurd ⟨text, between, List.append_assoc ..⟩ hInner
  · obtain ⟨-, rfl⟩ | ⟨between, -, rfl⟩ := commentEnd_append_eq hMore
    · exact .inl rfl
    · exact .inr ⟨between, blank, List.append_assoc ..⟩

/-! ## Marks -/

/-- Whether bytes open or close a linkage block, and nothing else. -/
inductive IsBlockMark : Bytes → Prop
  /-- The opening, for either language. -/
  | opening {gap behind : Bytes} {linkage : String}
    (hLinkage : linkage = "\"C\"" ∨ linkage = "\"C++\"") (hSome : gap ≠ [])
    (hGap : ∀ b ∈ gap, isBlank b) (hBehind : ∀ b ∈ behind, isBlank b) :
    IsBlockMark (ascii "extern" ++ gap ++ ascii linkage ++ behind ++ ascii "\x7b")
  /-- The closing. -/
  | closing : IsBlockMark (ascii "\x7d")

/-- Whether bytes are a mark with blanks around it. -/
def IsBareMark (line : Bytes) : Prop :=
  ∃ front mark back, (∀ b ∈ front, isBlank b) ∧ IsBlockMark mark ∧ (∀ b ∈ back, isBlank b) ∧
    line = front ++ mark ++ back

/-- The bytes that are no blanks. -/
def solid (line : Bytes) : Bytes :=
  line.filter (!isBlank ·)

private theorem solid_append (front back : Bytes) :
    solid (front ++ back) = solid front ++ solid back :=
  List.filter_append ..

private theorem solid_eq_nil_iff : solid bytes = [] ↔ ∀ b ∈ bytes, isBlank b := by
  simp [solid, List.filter_eq_nil_iff]

/-- Blanks apart, there are three marks. -/
theorem IsBlockMark.solid_eq {mark : Bytes} (h : IsBlockMark mark) :
    solid mark = ascii "\x7d" ∨ solid mark = ascii "extern\"C\"\x7b" ∨
      solid mark = ascii "extern\"C++\"\x7b" := by
  cases h with
  | closing => exact .inl rfl
  | opening hLinkage hSome hGap hBehind =>
      rw [solid_append, solid_append, solid_append, solid_append, solid_eq_nil_iff.2 hGap,
        solid_eq_nil_iff.2 hBehind]
      rcases hLinkage with rfl | rfl
      · exact .inr (.inl rfl)
      · exact .inr (.inr rfl)

/-- No mark is the start of another. -/
theorem IsBlockMark.eq_nil_of_solid {mark mark' : Bytes} (h : IsBlockMark mark)
    (h' : IsBlockMark mark') {more : Bytes} (hSame : solid mark ++ more = solid mark') :
    more = [] := by
  rcases h.solid_eq with hMark | hMark | hMark <;>
    rcases h'.solid_eq with hMark' | hMark' | hMark' <;>
    rw [hMark, hMark'] at hSame <;> simp_all [ascii]

private theorem not_mem_slash_of_isBlockMark {mark : Bytes} (h : IsBlockMark mark) :
    0x2F ∉ mark := by
  intro hMem
  have hSolid : 0x2F ∈ solid mark := List.mem_filter.2 ⟨hMem, rfl⟩
  rcases h.solid_eq with hMark | hMark | hMark <;>
  · rw [hMark] at hSolid
    exact absurd hSolid (by decide)

/-- What stands behind a mark is blank if the mark stands alone. -/
theorem isBareMark_append_iff {front mark code : Bytes} (hFront : ∀ b ∈ front, isBlank b)
    (hMark : IsBlockMark mark) :
    IsBareMark (front ++ mark ++ code) ↔ ∀ b ∈ code, isBlank b := by
  constructor
  · rintro ⟨front', mark', back, hFront', hMark', hBack, hSame⟩
    have hSolid := congrArg solid hSame
    simp only [solid_append, solid_eq_nil_iff.2 hFront, solid_eq_nil_iff.2 hFront',
      solid_eq_nil_iff.2 hBack, List.nil_append, List.append_nil] at hSolid
    exact solid_eq_nil_iff.1 (hMark.eq_nil_of_solid hMark' hSolid)
  · exact fun hCode => ⟨front, mark, code, hFront, hMark, hCode, rfl⟩

/-- Behind the quote there is the name of a language, which may have the plus signs. -/
theorem exists_linkage {behind : Bytes} (h : afterOptional "++" bytes = ascii "\"" ++ behind) :
    ∃ linkage, (linkage = "\"C\"" ∨ linkage = "\"C++\"") ∧
      ascii "\"C" ++ bytes = ascii linkage ++ behind := by
  rw [afterOptional] at h
  cases hPlus : after? "++" bytes with
  | none =>
      rw [hPlus, Option.getD_none] at h
      exact ⟨_, .inl rfl, by rw [h]; rfl⟩
  | some rest =>
      rw [hPlus, Option.getD_some] at h
      exact ⟨_, .inr rfl, by rw [after?_eq_some_iff.1 hPlus, h]; rfl⟩

private theorem isBlockMark_of_afterBlockMark? {rest : Bytes}
    (h : afterBlockMark? bytes = some rest) :
    ∃ mark, IsBlockMark mark ∧ bytes = mark ++ rest := by
  rw [afterBlockMark?] at h
  split at h
  · next hClose =>
      obtain rfl := Option.some.inj h
      exact ⟨_, .closing, after?_eq_some_iff.1 hClose⟩
  · simp only [Option.bind_eq_bind, Option.bind_eq_some_iff, after?_eq_some_iff,
      afterBlanks?_eq_some_iff] at h
    obtain ⟨_, rfl, _, ⟨b, more, rfl, hBlank, hMore⟩, language, rfl, quoted, hQuoted, hBrace⟩ := h
    obtain ⟨linkage, hLinkage, hLanguage⟩ := exists_linkage hQuoted
    obtain ⟨gap, hGap, hGapMore⟩ := exists_blanks more
    obtain ⟨behind, hBehind, hBehindQuoted⟩ := exists_blanks quoted
    have hSome : b :: gap ≠ [] := List.cons_ne_nil _ _
    have hBlanks : ∀ c ∈ b :: gap, isBlank c := List.forall_mem_cons.2 ⟨hBlank, hGap⟩
    refine ⟨_, .opening hLinkage hSome hBlanks hBehind, ?_⟩
    rw [hGapMore, hMore, hLanguage, hBehindQuoted, hBrace]
    simp

/-! ## Masked lines -/

/-- Without comments, what may stand behind a mark is blank, unless a comment is over before another
one ends. -/
theorem withoutComments_of_isBlankOrComment (h : isBlankOrComment bytes) :
    (∀ b ∈ withoutComments bytes, isBlank b) ∨
      ∃ gap text code, (∀ b ∈ gap, isBlank b) ∧ ¬ ascii "*/" <:+: text ∧ ascii "*/" <:+: code ∧
        bytes = gap ++ ascii "/*" ++ text ++ ascii "*/" ++ code ∧
        withoutComments bytes = gap ++ withoutComments code := by
  obtain ⟨gap, hGap, hBytes⟩ := exists_blanks bytes
  have hWithout : withoutComments bytes = gap ++ withoutComments (skipBlanks bytes) := by
    rw [← withoutComments_append (not_mem_slash_of_blank hGap), ← hBytes]
  rw [isBlankOrComment, Bool.or_eq_true, Bool.or_eq_true, List.isEmpty_iff, Option.any_eq_true,
    Option.any_eq_true] at h
  rcases h with (hNil | ⟨text, hLine, -⟩) | ⟨text, hSpan, -⟩
  · left
    rw [hWithout, hNil, withoutComments, List.append_nil]
    exact hGap
  · left
    rw [hWithout, after?_eq_some_iff.1 hLine, show withoutComments (ascii "//" ++ text) = [] from
      withoutComments.eq_2 text, List.append_nil]
    exact hGap
  · obtain ⟨span, hAfter, hBefore⟩ := Option.bind_eq_some_iff.1 hSpan
    obtain ⟨blank, hBlank, rfl⟩ := beforeCommentEnd?_eq_some_iff.1 hBefore
    rw [after?_eq_some_iff] at hAfter
    have hEnds : ascii "*/" <:+: text ++ 0x2A :: 0x2F :: blank :=
      ⟨text, blank, List.append_assoc ..⟩
    obtain ⟨inner, rest, hSame, hInner, hBehind⟩ := exists_commentEnd hEnds
    have hSpanRest : withoutComments (skipBlanks bytes) = withoutComments rest := by
      rw [hAfter, ← hBehind]
      exact withoutComments.eq_3 _
    rw [hSpanRest] at hWithout
    have hSame' : text ++ ascii "*/" ++ blank = inner ++ ascii "*/" ++ rest :=
      (List.append_assoc ..).trans hSame
    rcases eq_or_commentEnd hSame' hInner with rfl | hCode
    · left
      rw [hWithout, withoutComments_of_blank hBlank]
      exact fun b hMem => (List.mem_append.1 hMem).elim (hGap b) (hBlank b)
    · refine .inr ⟨gap, inner, rest, hGap, hInner, hCode, ?_, hWithout⟩
      rw [hBytes, hAfter, hSame]
      simp only [List.append_assoc]

private theorem marksBlock_of_masked {list : List Bytes} {number : Nat} {line : Bytes}
    (hLine : list[number]? = some line) (hMasked : (maskedLines list)[number]? ≠ some line) :
    marksBlock line ∧ (maskedLines list)[number]? = some (blankLine line) := by
  rw [maskedLines, List.getElem?_mapIdx, hLine, Option.map_some] at hMasked ⊢
  rw [maskedLine] at hMasked ⊢
  split at hMasked
  · next hGuard =>
      obtain ⟨hNumber, hGuard⟩ := hGuard
      obtain ⟨_, middle, _, _, hMiddle, _, _, hMarks, _⟩ := guardsFirst_drop_iff.1 hGuard
      rw [Nat.sub_add_cancel (Nat.pos_of_ne_zero hNumber), hLine] at hMiddle
      obtain rfl := Option.some.inj hMiddle
      exact ⟨hMarks, by rw [if_pos ⟨hNumber, hGuard⟩]⟩
  · exact absurd rfl hMasked

end LinkageGuard

open LinkageGuard

/-- A masked line is filled with blanks. It begins with a mark. Without its comments it is that mark
alone, exactly if nothing else is left behind the mark; and something can be left only where a
comment is over and, behind it, another one ends. -/
theorem maskLinkageGuards_masks_mark {source : Bytes} {number : Nat} {line : Bytes}
    (hLine : (lines source)[number]? = some line)
    (hMasked : (lines (maskLinkageGuards source))[number]? ≠ some line) :
    (lines (maskLinkageGuards source))[number]? = some (blankLine line) ∧
      ∃ front mark behind, (∀ b ∈ front, isBlank b) ∧ IsBlockMark mark ∧
        withoutReturn line = front ++ mark ++ behind ∧
        withoutComments (withoutReturn line) = front ++ mark ++ withoutComments behind ∧
        (IsBareMark (withoutComments (withoutReturn line)) ↔
          ∀ b ∈ withoutComments behind, isBlank b) ∧
        (¬ IsBareMark (withoutComments (withoutReturn line)) →
          ∃ gap text code, (∀ b ∈ gap, isBlank b) ∧ ¬ ascii "*/" <:+: text ∧
            ascii "*/" <:+: code ∧ behind = gap ++ ascii "/*" ++ text ++ ascii "*/" ++ code ∧
            withoutComments behind = gap ++ withoutComments code) := by
  rw [lines_maskLinkageGuards] at hMasked ⊢
  obtain ⟨hMarks, hBlanks⟩ := marksBlock_of_masked hLine hMasked
  obtain ⟨behind, hBehind, hRest⟩ := (Option.any_eq_true _ _).1 hMarks
  obtain ⟨mark, hMark, hSkip⟩ := isBlockMark_of_afterBlockMark? hBehind
  obtain ⟨front, hFront, hFrontLine⟩ := exists_blanks (withoutReturn line)
  have hText : withoutReturn line = front ++ mark ++ behind := by
    rw [List.append_assoc, ← hSkip, ← hFrontLine]
  have hSlash : 0x2F ∉ front ++ mark := by
    rw [List.mem_append, not_or]
    exact ⟨not_mem_slash_of_blank hFront, not_mem_slash_of_isBlockMark hMark⟩
  have hWithout :
      withoutComments (withoutReturn line) = front ++ mark ++ withoutComments behind := by
    rw [hText, withoutComments_append hSlash]
  have hBare : IsBareMark (withoutComments (withoutReturn line)) ↔
      ∀ b ∈ withoutComments behind, isBlank b := by
    rw [hWithout, isBareMark_append_iff hFront hMark]
  refine ⟨hBlanks, front, mark, behind, hFront, hMark, hText, hWithout, hBare, fun hNot => ?_⟩
  exact (withoutComments_of_isBlankOrComment hRest).resolve_left (mt hBare.2 hNot)

/-- One comment behind the mark leaves the mark alone. -/
theorem maskLinkageGuards_masks_mark_one_comment :
    let line := ascii "extern \"C\" \x7b /* open */"
    let source := unlines [ascii "#ifdef __cplusplus", line, ascii "#endif", []]
    (lines (maskLinkageGuards source))[1]? = some (blankLine line) ∧
      withoutComments (withoutReturn line) = ascii "extern \"C\" \x7b " ∧
      IsBareMark (withoutComments (withoutReturn line)) := by
  intro line source
  have hLine : (lines source)[1]? = some line := by rfl
  have hMasked : (lines (maskLinkageGuards source))[1]? ≠ some line := by
    rw [lines_maskLinkageGuards]
    decide
  obtain ⟨hBlanks, front, mark, behind, hFront, hMark, hText, hWithout, hBare, hCode⟩ :=
    maskLinkageGuards_masks_mark hLine hMasked
  refine ⟨hBlanks, by rfl, Classical.byContradiction fun hNot => ?_⟩
  obtain ⟨gap, text, code, -, -, hEnd, rfl, -⟩ := hCode hNot
  -- the line has two slashes, and two ends of comments behind a start would have three
  have hSlashes : (withoutReturn line).count 0x2F = 2 := by rfl
  have hOne : ∀ word ∈ ["/*", "*/"], (ascii word).count 0x2F = 1 := by decide
  have hLast := hEnd.sublist.count_le 0x2F
  rw [hText] at hSlashes
  simp only [List.count_append, hOne _ List.mem_cons_self,
    hOne _ (List.mem_cons_of_mem _ List.mem_cons_self)] at hSlashes hLast
  omega

/-- The declaration between the two comments of `extern "C" { /* a */ int f(void); /* b */` is
masked. -/
theorem maskLinkageGuards_masks_code :
    let line := ascii "extern \"C\" \x7b /* a */ int f(void); /* b */"
    let source := unlines [ascii "#ifdef __cplusplus", line, ascii "#endif", []]
    (lines source)[1]? = some line ∧
      (lines (maskLinkageGuards source))[1]? = some (List.replicate line.length 0x20) ∧
      withoutComments line = ascii "extern \"C\" \x7b  int f(void); " ∧
      ¬ IsBareMark (withoutComments line) := by
  intro line source
  have hWithout : withoutComments line = ascii "extern \"C\" \x7b  int f(void); " := by rfl
  have hBlank : ∀ b ∈ ascii " ", isBlank b := List.all_eq_true.1 (by decide)
  have hMark : IsBlockMark (ascii "extern \"C\" \x7b") :=
    @IsBlockMark.opening (ascii " ") (ascii " ") "\"C\"" (.inl rfl) (by decide) hBlank hBlank
  refine ⟨by rfl, ?_, hWithout, ?_⟩
  · rw [lines_maskLinkageGuards]
    rfl
  · rw [hWithout]
    have hNot : ¬ ∀ b ∈ ascii "  int f(void); ", isBlank b := mt List.all_eq_true.2 (by decide)
    have hNothing : ∀ b ∈ ([] : Bytes), isBlank b := nofun
    exact mt (isBareMark_append_iff hNothing hMark).1 hNot

end FunctionCatalog
