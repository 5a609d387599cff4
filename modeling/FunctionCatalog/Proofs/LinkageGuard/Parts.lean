import FunctionCatalog.Proofs.LinkageGuard.Lines
import FunctionCatalog.Proofs.Text.Pattern

/-!
# The lines that patterns describe

The pattern of a guard says what its lines look like, and a line can also be read from the left
without any search. Blanks may be given back in a search, but there is nothing that could use them:
behind them stands a word that begins with no blank, or a comment, or the end of the line. So
reading from the left finds what the search finds.

## Main results

* `describes_opening` — the first line of a guard, with its end.
* `describes_marked` — the middle line of a guard, without its end.
* `afterDirective?_eq_some_iff` — the last line of a guard, as far as it matters.
-/

namespace FunctionCatalog

namespace LinkageGuard

open Pattern

variable {goal : Bytes → Prop} {bytes : Bytes}

/-! ## Words and blanks -/

theorem after?_eq_some_iff {word : String} {rest : Bytes} :
    after? word bytes = some rest ↔ bytes = ascii word ++ rest := by
  rw [after?, List.isPrefixOf?_eq_some_iff_append_eq, eq_comm]

private theorem leads_word (text : String) (hAscii : IsAscii text) :
    (word text).Leads goal bytes ↔ ∃ rest, after? text bytes = some rest ∧ goal rest := by
  simp only [Leads, describes_word hAscii, after?_eq_some_iff]
  constructor
  · rintro ⟨_, back, hBytes, rfl, hGoal⟩
    exact ⟨back, hBytes, hGoal⟩
  · rintro ⟨rest, hBytes, hGoal⟩
    exact ⟨_, rest, hBytes, rfl, hGoal⟩

/-- Whether a word begins with something else than a blank. -/
def IsFirm (word : String) : Prop :=
  ((ascii word).head?.map isBlank) = some false

private theorem skipBlanks_of_after? {word : String} (hFirm : IsFirm word) {rest : Bytes}
    (h : after? word bytes = some rest) : skipBlanks bytes = bytes := by
  rw [after?_eq_some_iff] at h
  rw [IsFirm] at hFirm
  cases hWord : ascii word with
  | nil => simp [hWord] at hFirm
  | cons b more =>
      rw [hWord] at hFirm h
      rw [h, List.cons_append, skipBlanks, List.dropWhile_cons_of_neg]
      simpa using hFirm

theorem skipBlanks_append {front : Bytes} (hFront : ∀ b ∈ front, isBlank b) (back : Bytes) :
    skipBlanks (front ++ back) = skipBlanks back :=
  List.dropWhile_append_of_pos hFront

theorem exists_blanks (bytes : Bytes) :
    ∃ front, (∀ b ∈ front, isBlank b) ∧ bytes = front ++ skipBlanks bytes :=
  ⟨bytes.takeWhile isBlank, fun _ hMem => List.all_eq_true.1 List.all_takeWhile _ hMem,
    List.takeWhile_append_dropWhile.symm⟩

private theorem skipBlanks_skipBlanks (bytes : Bytes) :
    skipBlanks (skipBlanks bytes) = skipBlanks bytes := by
  obtain ⟨front, hFront, hBytes⟩ := exists_blanks bytes
  exact ((congrArg skipBlanks hBytes).trans (skipBlanks_append hFront _)).symm

private theorem describes_blanks : blanks.Describes bytes ↔ ∀ b ∈ bytes, isBlank b := by
  constructor
  · rintro ⟨chars, hDecode, hChars⟩ b hMem
    have hAscii : ∀ c ∈ chars, c.toNat < 0x80 := by
      intro c hChar
      have hBlank := hChars c hChar
      simp only [Bool.or_eq_true, beq_iff_eq] at hBlank
      rcases hBlank with rfl | rfl <;> decide
    rw [Utf8.eq_map_of_decode hDecode hAscii] at hMem
    obtain ⟨c, hChar, rfl⟩ := List.mem_map.1 hMem
    have hBlank := hChars c hChar
    simp only [Bool.or_eq_true, beq_iff_eq] at hBlank
    rcases hBlank with rfl | rfl <;> decide
  · intro hBlanks
    have hCases : ∀ b ∈ bytes, b = 0x20 ∨ b = 0x09 := by simpa [isBlank] using hBlanks
    refine ⟨_, Utf8.decode_of_ascii fun b hMem => ?_, ?_⟩
    · rcases hCases b hMem with rfl | rfl <;> decide
    · intro c hChar
      obtain ⟨b, hMem, rfl⟩ := List.mem_map.1 hChar
      rcases hCases b hMem with rfl | rfl <;> decide

/-- Blanks in front of something that begins with none are all the blanks there are. -/
theorem leads_blanks (hFirm : ∀ rest, goal rest → skipBlanks rest = rest) :
    blanks.Leads goal bytes ↔ goal (skipBlanks bytes) := by
  constructor
  · rintro ⟨front, back, rfl, hFront, hGoal⟩
    rwa [skipBlanks_append (describes_blanks.1 hFront), hFirm back hGoal]
  · intro hGoal
    obtain ⟨front, hFront, hBytes⟩ := exists_blanks bytes
    exact ⟨front, _, hBytes, describes_blanks.2 hFront, hGoal⟩

private theorem leads_blanks_word (text : String) (hAscii : IsAscii text)
    (hFirm : IsFirm text) :
    blanks.Leads ((word text).Leads goal) bytes ↔
      ∃ rest, after? text (skipBlanks bytes) = some rest ∧ goal rest := by
  rw [leads_blanks, leads_word _ hAscii]
  intro rest hWord
  obtain ⟨_, hRest, -⟩ := (leads_word _ hAscii).1 hWord
  exact skipBlanks_of_after? hFirm hRest

/-- Blanks make no difference in front of something that does not mind them. -/
theorem leads_blanks_of_iff (hSame : ∀ rest, goal (skipBlanks rest) ↔ goal rest) :
    blanks.Leads goal bytes ↔ goal bytes := by
  constructor
  · rintro ⟨front, back, rfl, hFront, hGoal⟩
    rwa [← hSame, skipBlanks_append (describes_blanks.1 hFront), hSame]
  · exact fun hGoal => ⟨[], bytes, rfl, describes_blanks.2 (by simp), hGoal⟩

theorem afterBlanks?_eq_some_iff {rest : Bytes} :
    afterBlanks? bytes = some rest ↔
      ∃ b more, bytes = b :: more ∧ isBlank b ∧ skipBlanks more = rest := by
  cases bytes with
  | nil => simp [afterBlanks?]
  | cons b more => simp [afterBlanks?]

private theorem leads_someBlanks (hFirm : ∀ rest, goal rest → skipBlanks rest = rest) :
    someBlanks.Leads goal bytes ↔ ∃ rest, afterBlanks? bytes = some rest ∧ goal rest := by
  simp only [someBlanks, leads_both, leads_congr fun _ => leads_blanks hFirm,
    afterBlanks?_eq_some_iff]
  constructor
  · rintro ⟨front, back, rfl, ⟨c, hDecode, hBlank⟩, hGoal⟩
    simp only [Bool.or_eq_true, beq_iff_eq] at hBlank
    have hAscii : c.toNat < 0x80 := by
      rcases hBlank with rfl | rfl <;> decide
    rw [Utf8.eq_map_of_decode hDecode (by simpa using hAscii)]
    refine ⟨_, ⟨_, back, rfl, ?_, rfl⟩, hGoal⟩
    rcases hBlank with rfl | rfl <;> decide
  · rintro ⟨_, ⟨b, more, rfl, hBlank, rfl⟩, hGoal⟩
    have hCases : b = 0x20 ∨ b = 0x09 := by simpa [isBlank] using hBlank
    refine ⟨[b], more, rfl, ⟨Char.ofNat b.toNat, ?_, ?_⟩, hGoal⟩
    · rcases hCases with rfl | rfl <;> decide
    · rcases hCases with rfl | rfl <;> decide

private theorem leads_directive {name : String} (hAscii : IsAscii name)
    (hFirm : IsFirm name) {rest : List Pattern} :
    (inTurn (blanks :: word "#" :: blanks :: word name :: rest)).Leads goal bytes ↔
      ∃ left, afterDirective? name bytes = some left ∧ (inTurn rest).Leads goal left := by
  rw [leads_inTurn_cons, leads_inTurn_cons, leads_inTurn_cons, leads_inTurn_cons,
    leads_blanks_word _ (by rfl) (by rfl)]
  simp only [leads_blanks_word _ hAscii hFirm, afterDirective?, Option.bind_eq_some_iff]
  constructor
  · rintro ⟨middle, hHash, left, hName, hGoal⟩
    exact ⟨left, ⟨middle, hHash, hName⟩, hGoal⟩
  · rintro ⟨left, ⟨middle, hHash, hName⟩, hGoal⟩
    exact ⟨middle, hHash, left, hName, hGoal⟩

/-! ## Comments -/

private theorem describes_lineText : lineText.Describes bytes ↔ isCommentText bytes := by
  have hFeed : ∀ {chars}, Utf8.decode bytes = some chars → (0x0A ∈ bytes ↔ '\n' ∈ chars) :=
    fun hDecode => Utf8.mem_iff_of_decode (n := 0x0A) hDecode (by decide)
  have hReturn : ∀ {chars}, Utf8.decode bytes = some chars → (0x0D ∈ bytes ↔ '\r' ∈ chars) :=
    fun hDecode => Utf8.mem_iff_of_decode (n := 0x0D) hDecode (by decide)
  have hBytes : (bytes.all fun b => b != 0x0D && b != 0x0A) ↔ 0x0D ∉ bytes ∧ 0x0A ∉ bytes := by
    simp only [List.all_eq_true, Bool.and_eq_true, bne_iff_ne]
    exact ⟨fun h => ⟨fun hMem => (h _ hMem).1 rfl, fun hMem => (h _ hMem).2 rfl⟩,
      fun ⟨hNoReturn, hNoFeed⟩ b hMem =>
        ⟨fun hSame => hNoReturn (hSame ▸ hMem), fun hSame => hNoFeed (hSame ▸ hMem)⟩⟩
  rw [isCommentText, Bool.and_eq_true, hBytes, Option.isSome_iff_exists]
  constructor
  · rintro ⟨chars, hDecode, hChars⟩
    rw [hFeed hDecode, hReturn hDecode]
    exact ⟨⟨chars, hDecode⟩, fun hMem => by simpa using hChars _ hMem,
      fun hMem => by simpa using hChars _ hMem⟩
  · rintro ⟨⟨chars, hDecode⟩, hNoReturn, hNoFeed⟩
    rw [hReturn hDecode] at hNoReturn
    rw [hFeed hDecode] at hNoFeed
    refine ⟨chars, hDecode, fun c hMem => ?_⟩
    rw [Bool.and_eq_true, bne_iff_ne, bne_iff_ne]
    exact ⟨fun hSame => hNoReturn (hSame ▸ hMem), fun hSame => hNoFeed (hSame ▸ hMem)⟩

private theorem isBlankOrComment_skipBlanks (bytes : Bytes) :
    isBlankOrComment (skipBlanks bytes) = isBlankOrComment bytes := by
  rw [isBlankOrComment, skipBlanks_skipBlanks, isBlankOrComment]

private theorem skipBlanks_eq_nil_iff : skipBlanks bytes = [] ↔ ∀ b ∈ bytes, isBlank b := by
  constructor
  · intro hNil
    obtain ⟨front, hFront, hBytes⟩ := exists_blanks bytes
    rw [hNil, List.append_nil] at hBytes
    exact hBytes ▸ hFront
  · intro hBlank
    have hSkip := skipBlanks_append hBlank []
    rwa [List.append_nil] at hSkip

private theorem leads_blanks_nil : blanks.Leads (· = []) = fun source => skipBlanks source = [] :=
  funext fun _ => propext (leads_blanks fun _ hNil => hNil ▸ rfl)

/-- Blanks behind a comment to the end of the line belong to the comment. -/
theorem leads_lineText_blanks :
    lineText.Leads (fun rest => skipBlanks rest = []) bytes ↔ isCommentText bytes := by
  constructor
  · rintro ⟨front, back, rfl, hFront, hBack⟩
    rw [describes_lineText] at hFront
    rw [skipBlanks_eq_nil_iff] at hBack
    have hCases : ∀ b ∈ back, b = 0x20 ∨ b = 0x09 := by simpa [isBlank] using hBack
    have hAscii : ∀ b ∈ back, b < 0x80 := fun b hMem => by
      rcases hCases b hMem with rfl | rfl <;> decide
    have hLine : (back.all fun b => b != 0x0D && b != 0x0A) := List.all_eq_true.2 fun b hMem => by
      rcases hCases b hMem with rfl | rfl <;> decide
    obtain ⟨hText, hAll⟩ := Bool.and_eq_true_iff.1 hFront
    obtain ⟨chars, hDecode⟩ := Option.isSome_iff_exists.1 hText
    rw [isCommentText, Utf8.decode_append hDecode, Utf8.decode_of_ascii hAscii, List.all_append,
      hAll, hLine]
    rfl
  · exact fun hText => ⟨bytes, [], (List.append_nil _).symm, describes_lineText.2 hText, rfl⟩

theorem beforeCommentEnd?_eq_some_iff {text : Bytes} :
    beforeCommentEnd? bytes = some text ↔
      ∃ blank, (∀ b ∈ blank, isBlank b) ∧ bytes = text ++ 0x2A :: 0x2F :: blank := by
  constructor
  · intro h
    rw [beforeCommentEnd?] at h
    split at h
    · next rest hSkip =>
        obtain rfl := Option.some.inj h
        obtain ⟨front, hFront, hBytes⟩ := exists_blanks bytes.reverse
        rw [hSkip, List.reverse_eq_iff] at hBytes
        exact ⟨front.reverse, fun b hMem => hFront b (List.mem_reverse.1 hMem), by
          simp [hBytes]⟩
    · simp at h
  · rintro ⟨blank, hBlank, rfl⟩
    have hReverse : (text ++ 0x2A :: 0x2F :: blank).reverse =
        blank.reverse ++ 0x2F :: 0x2A :: text.reverse := by
      simp
    have hSkip : skipBlanks (text ++ 0x2A :: 0x2F :: blank).reverse =
        0x2F :: 0x2A :: text.reverse := by
      rw [hReverse, skipBlanks_append fun b hMem => hBlank b (List.mem_reverse.1 hMem)]
      rfl
    rw [beforeCommentEnd?, hSkip]
    exact congrArg some text.reverse_reverse

/-- The end of a comment is the last one on the line. -/
theorem leads_lineText_end :
    lineText.Leads ((word "*/").Leads fun rest => skipBlanks rest = []) bytes ↔
      (beforeCommentEnd? bytes).any isCommentText := by
  have hEnd : ∀ back, (word "*/").Leads (fun rest => skipBlanks rest = []) back ↔
      ∃ blank, (∀ b ∈ blank, isBlank b) ∧ back = 0x2A :: 0x2F :: blank := fun back => by
    rw [leads_word _ (by rfl)]
    simp only [after?_eq_some_iff, skipBlanks_eq_nil_iff]
    exact ⟨fun ⟨blank, hBack, hBlank⟩ => ⟨blank, hBlank, hBack⟩,
      fun ⟨blank, hBlank, hBack⟩ => ⟨blank, hBack, hBlank⟩⟩
  simp only [Leads, describes_lineText] at hEnd ⊢
  simp only [hEnd, Option.any_eq_true, beforeCommentEnd?_eq_some_iff]
  constructor
  · rintro ⟨text, _, rfl, hText, blank, hBlank, rfl⟩
    exact ⟨text, ⟨blank, hBlank, rfl⟩, hText⟩
  · rintro ⟨text, ⟨blank, hBlank, rfl⟩, hText⟩
    exact ⟨text, _, rfl, hText, blank, hBlank, rfl⟩

private theorem leads_comment :
    comment.Leads (fun rest => skipBlanks rest = []) bytes ↔
      (after? "//" bytes).any isCommentText ∨
        ((after? "/*" bytes).bind beforeCommentEnd?).any isCommentText := by
  simp only [comment, leads_either, leads_inTurn_cons, leads_inTurn_nil]
  rw [leads_word _ (by rfl), leads_word _ (by rfl)]
  simp only [leads_lineText_blanks, leads_lineText_end, Option.any_eq_true,
    Option.bind_eq_some_iff]
  refine or_congr_right ?_
  constructor
  · rintro ⟨rest, hRest, text, hText, hComment⟩
    exact ⟨text, ⟨rest, hRest, hText⟩, hComment⟩
  · rintro ⟨text, ⟨rest, hRest, hText⟩, hComment⟩
    exact ⟨rest, hRest, text, hText, hComment⟩

private theorem describes_lineRest : lineRest.Describes bytes ↔ isBlankOrComment bytes := by
  have hFirm : ∀ rest, comment.Leads (fun rest => skipBlanks rest = []) rest →
      skipBlanks rest = rest := by
    intro rest hComment
    rw [leads_comment] at hComment
    simp only [Option.any_eq_true, Option.bind_eq_some_iff] at hComment
    obtain ⟨_, hAfter, -⟩ | ⟨_, ⟨_, hAfter, -⟩, -⟩ := hComment
    · exact skipBlanks_of_after? (by rfl) hAfter
    · exact skipBlanks_of_after? (by rfl) hAfter
  rw [describes_iff_leads]
  simp only [lineRest, leads_inTurn_cons, leads_inTurn_nil, leads_optional, leads_blanks_nil]
  rw [leads_or, leads_blanks hFirm, leads_comment,
    leads_blanks_of_iff fun rest => by rw [skipBlanks_skipBlanks]]
  simp only [isBlankOrComment, Bool.or_eq_true, List.isEmpty_iff]
  tauto

private theorem leads_lineRest :
    lineRest.Leads (· = []) = fun rest => isBlankOrComment rest = true :=
  funext fun _ => propext (describes_iff_leads.symm.trans describes_lineRest)

/-! ## Conditions and block marks -/

/-- Words that begin differently are not found at the same place. -/
theorem after?_eq_none {found other : String} {b b' : UInt8} (hFound : (ascii found).head? = some b)
    (hOther : (ascii other).head? = some b') (hNe : b ≠ b') {rest : Bytes}
    (h : after? found bytes = some rest) : after? other bytes = none := by
  rw [after?_eq_some_iff] at h
  cases hAfter : after? other bytes with
  | none => rfl
  | some rest' =>
      rw [after?_eq_some_iff, h] at hAfter
      have hHead := congrArg List.head? hAfter
      rw [List.head?_append, List.head?_append, hFound, hOther] at hHead
      exact absurd (Option.some.inj hHead) hNe

/-- Where there are blanks, there is no word. -/
theorem afterBlanks?_eq_none {word : String} (hFirm : IsFirm word) {rest : Bytes}
    (h : after? word bytes = some rest) : afterBlanks? bytes = none := by
  have hSkip := skipBlanks_of_after? hFirm h
  cases bytes with
  | nil => rfl
  | cons b more =>
      cases hBlank : isBlank b with
      | false => simp [afterBlanks?, hBlank]
      | true =>
          rw [skipBlanks, List.dropWhile_cons_of_pos hBlank] at hSkip
          have hLength := (List.dropWhile_sublist isBlank (l := more)).length_le
          rw [hSkip, List.length_cons] at hLength
          omega

/-- A word that may be missing is there wherever it is found, if what is behind it cannot begin with
it. -/
theorem leads_optional_word {text : String} (hAscii : IsAscii text)
    (hNot : ∀ rest, goal rest → after? text rest = none) :
    (optional (word text)).Leads goal bytes ↔ goal (afterOptional text bytes) := by
  simp only [leads_optional, leads_word _ hAscii, afterOptional]
  cases hAfter : after? text bytes with
  | none => simp
  | some rest =>
      have hGoal : ¬ goal bytes := fun hGoal => by simp [hNot bytes hGoal] at hAfter
      simp [hGoal]

private theorem leads_someBlanks_word (text : String) (hAscii : IsAscii text)
    (hFirm : IsFirm text) :
    someBlanks.Leads ((word text).Leads goal) bytes ↔
      ∃ rest, (afterBlanks? bytes).bind (after? text) = some rest ∧ goal rest := by
  rw [leads_someBlanks]
  · simp only [leads_word _ hAscii, Option.bind_eq_some_iff]
    constructor
    · rintro ⟨middle, hBlanks, rest, hWord, hGoal⟩
      exact ⟨rest, ⟨middle, hBlanks, hWord⟩, hGoal⟩
    · rintro ⟨rest, ⟨middle, hBlanks, hWord⟩, hGoal⟩
      exact ⟨middle, hBlanks, rest, hWord, hGoal⟩
  · intro rest hWord
    obtain ⟨_, hRest, -⟩ := (leads_word _ hAscii).1 hWord
    exact skipBlanks_of_after? hFirm hRest

private theorem leads_optional_plus :
    (optional (word "++")).Leads ((word "\"").Leads goal) bytes ↔
      ∃ rest, after? "\"" (afterOptional "++" bytes) = some rest ∧ goal rest := by
  rw [leads_optional_word (by rfl), leads_word _ (by rfl)]
  intro rest hWord
  obtain ⟨_, hRest, -⟩ := (leads_word _ (by rfl)).1 hWord
  exact after?_eq_none rfl rfl (by decide) hRest

private theorem leads_blockMark :
    blockMark.Leads goal bytes ↔ ∃ rest, afterBlockMark? bytes = some rest ∧ goal rest := by
  simp only [blockMark, leads_either, leads_inTurn_cons, leads_inTurn_nil]
  rw [leads_word _ (by rfl), leads_word _ (by rfl)]
  simp only [leads_someBlanks_word "\"C" (by rfl) (by rfl), leads_optional_plus,
    leads_blanks_word "\x7b" (by rfl) (by rfl)]
  rw [afterBlockMark?]
  cases hClose : after? "\x7d" bytes with
  | some rest =>
      have hOpen : after? "extern" bytes = none := after?_eq_none rfl rfl (by decide) hClose
      simp [hOpen]
  | none =>
      simp only [Option.bind_eq_some_iff, Option.bind_eq_bind, reduceCtorEq, false_and,
        exists_false, or_false]
      constructor
      · rintro ⟨_, hExtern, _, ⟨_, hBlanks, hC⟩, _, hQuote, rest, hBrace, hGoal⟩
        exact ⟨rest, ⟨_, hExtern, _, hBlanks, _, hC, _, hQuote, hBrace⟩, hGoal⟩
      · rintro ⟨rest, ⟨_, hExtern, _, hBlanks, _, hC, _, hQuote, hBrace⟩, hGoal⟩
        exact ⟨_, hExtern, _, ⟨_, hBlanks, hC⟩, _, hQuote, rest, hBrace, hGoal⟩

/-- Blanks and a word that may be missing, in front of something that minds no blanks. -/
theorem leads_blanks_optional {text : String} (hAscii : IsAscii text)
    (hFirm : IsFirm text) (hSame : ∀ rest, goal (skipBlanks rest) ↔ goal rest)
    (hNot : ∀ rest, goal rest → after? text rest = none) :
    blanks.Leads ((optional (word text)).Leads goal) bytes ↔
      goal (afterOptional text (skipBlanks bytes)) := by
  simp only [leads_congr fun _ => leads_optional_word hAscii hNot]
  constructor
  · rintro ⟨front, back, rfl, hFront, hGoal⟩
    rw [skipBlanks_append (describes_blanks.1 hFront)]
    cases hAfter : after? text back with
    | some rest => rwa [skipBlanks_of_after? hFirm hAfter]
    | none =>
        have hSkip : goal (skipBlanks back) := by
          rwa [afterOptional, hAfter, Option.getD_none, ← hSame] at hGoal
        rwa [afterOptional, hNot _ hSkip, Option.getD_none]
  · intro hGoal
    obtain ⟨front, hFront, hBytes⟩ := exists_blanks bytes
    exact ⟨front, _, hBytes, describes_blanks.2 hFront, hGoal⟩

private theorem isBlankOrComment_of_after? {rest : Bytes} (h : after? ")" bytes = some rest) :
    isBlankOrComment bytes = false := by
  have hSkip : skipBlanks bytes = bytes := skipBlanks_of_after? (by rfl) h
  have hLine : after? "//" bytes = none := after?_eq_none rfl rfl (by decide) h
  have hSpan : after? "/*" bytes = none := after?_eq_none rfl rfl (by decide) h
  have hBytes : bytes ≠ [] := by
    rw [after?_eq_some_iff] at h
    exact h ▸ List.cons_ne_nil _ _
  simp [isBlankOrComment, hSkip, hLine, hSpan, hBytes]

private theorem leads_closing :
    blanks.Leads ((optional (word ")")).Leads fun rest => isBlankOrComment rest = true) bytes ↔
      isBlankOrComment (afterOptional ")" (skipBlanks bytes)) := by
  refine leads_blanks_optional (by rfl) (by rfl)
    (fun rest => by rw [isBlankOrComment_skipBlanks]) fun rest hRest => ?_
  cases hAfter : after? ")" rest with
  | none => rfl
  | some more => exact absurd hRest (by simp [isBlankOrComment_of_after? hAfter])

private theorem leads_parenthesis :
    blanks.Leads
        ((optional (word "(")).Leads (blanks.Leads ((word "__cplusplus").Leads goal))) bytes ↔
      ∃ rest, after? "__cplusplus" (skipBlanks (afterOptional "(" (skipBlanks bytes))) = some rest ∧
        goal rest := by
  have hWord : ∀ rest, blanks.Leads ((word "__cplusplus").Leads goal) rest ↔
      ∃ left, after? "__cplusplus" (skipBlanks rest) = some left ∧ goal left :=
    fun _ => leads_blanks_word _ (by rfl) (by rfl)
  rw [leads_blanks_optional (by rfl) (by rfl), hWord]
  · exact fun rest => by rw [hWord, hWord, skipBlanks_skipBlanks]
  · intro rest hRest
    obtain ⟨left, hLeft, -⟩ := (hWord rest).1 hRest
    cases hAfter : after? "(" rest with
    | none => rfl
    | some more =>
        rw [skipBlanks_of_after? (by rfl) hAfter] at hLeft
        have hNone : after? "(" rest = none := after?_eq_none rfl rfl (by decide) hLeft
        exact absurd hNone (by simp [hAfter])

private theorem leads_condition :
    condition.Leads (fun rest => isBlankOrComment rest = true) bytes ↔
      (afterCondition? bytes).any isBlankOrComment := by
  simp only [condition, leads_either, leads_inTurn_cons, leads_inTurn_nil, leads_closing,
    leads_word "def" (by rfl),
    leads_someBlanks_word "__cplusplus" (by rfl) (by rfl),
    leads_someBlanks_word "defined" (by rfl) (by rfl), leads_parenthesis]
  rw [afterCondition?]
  cases hDef : after? "def" bytes with
  | some rest =>
      have hBlanks : afterBlanks? bytes = none := afterBlanks?_eq_none (by rfl) hDef
      simp [hBlanks, Option.any_eq_true]
  | none =>
      simp only [Option.any_eq_true, Option.bind_eq_some_iff, Option.bind_eq_bind, reduceCtorEq,
        false_and, exists_false, false_or, Option.some.injEq]
      constructor
      · rintro ⟨_, ⟨_, hBlanks, hDefined⟩, _, hName, hRest⟩
        exact ⟨_, ⟨_, hBlanks, _, hDefined, _, hName, rfl⟩, hRest⟩
      · rintro ⟨_, ⟨_, hBlanks, _, hDefined, _, hName, rfl⟩, hRest⟩
        exact ⟨_, ⟨_, hBlanks, hDefined⟩, _, hName, hRest⟩

/-! ## The lines of a guard -/

/-- The first line of a guard, without its end. -/
private def openingLine : Pattern :=
  inTurn [blanks, word "#", blanks, word "if", condition, lineRest]

private theorem describes_openingLine :
    openingLine.Describes bytes ↔
      ((afterDirective? "if" bytes).bind afterCondition?).any isBlankOrComment := by
  rw [describes_iff_leads, openingLine, leads_directive (by rfl) (by rfl)]
  simp only [leads_inTurn_cons, leads_inTurn_nil, leads_lineRest, leads_condition,
    Option.any_eq_true, Option.bind_eq_some_iff]
  constructor
  · rintro ⟨_, hDirective, _, hCondition, hRest⟩
    exact ⟨_, ⟨_, hDirective, hCondition⟩, hRest⟩
  · rintro ⟨_, ⟨_, hDirective, hCondition⟩, hRest⟩
    exact ⟨_, hDirective, _, hCondition, hRest⟩

private theorem skipBlanks_of_afterBlockMark? {rest : Bytes}
    (h : afterBlockMark? bytes = some rest) :
    skipBlanks bytes = bytes := by
  rw [afterBlockMark?] at h
  split at h
  · next hClose => exact skipBlanks_of_after? (by rfl) hClose
  · obtain ⟨_, hExtern, -⟩ := Option.bind_eq_some_iff.1 h
    exact skipBlanks_of_after? (by rfl) hExtern

theorem describes_marked :
    marked.Describes bytes ↔ (afterBlockMark? (skipBlanks bytes)).any isBlankOrComment := by
  rw [describes_iff_leads, marked]
  simp only [leads_inTurn_cons, leads_inTurn_nil, leads_lineRest]
  rw [leads_blanks, leads_blockMark, Option.any_eq_true]
  intro rest hMark
  obtain ⟨left, hLeft, -⟩ := leads_blockMark.1 hMark
  exact skipBlanks_of_afterBlockMark? hLeft

/-- The directive with a name, up to the name. -/
def directive (name : String) : Pattern :=
  inTurn [blanks, word "#", blanks, word name]

theorem afterDirective?_eq_some_iff {name : String} (hAscii : IsAscii name)
    (hFirm : IsFirm name) {rest : Bytes} :
    afterDirective? name bytes = some rest ↔
      ∃ front, bytes = front ++ rest ∧ (directive name).Describes front := by
  have hLeads :
      (directive name).Leads (· = rest) bytes ↔ afterDirective? name bytes = some rest := by
    rw [directive, leads_directive hAscii hFirm]
    simp
  rw [← hLeads]
  constructor
  · rintro ⟨front, _, hBytes, hFront, rfl⟩
    exact ⟨front, hBytes, hFront⟩
  · rintro ⟨front, hBytes, hFront⟩
    exact ⟨front, rest, hBytes, hFront, rfl⟩

private theorem describes_lineEnd :
    lineEnd.Describes bytes ↔ bytes = [0x0A] ∨ bytes = [0x0D, 0x0A] := by
  rw [describes_iff_leads]
  simp only [lineEnd, leads_inTurn_cons, leads_inTurn_nil, leads_optional]
  rw [leads_word _ (by rfl), leads_word _ (by rfl)]
  simp only [leads_word "\n" (by rfl), after?_eq_some_iff]
  constructor
  · rintro (⟨_, rfl, _, rfl, rfl⟩ | ⟨_, rfl, rfl⟩)
    · exact .inr rfl
    · exact .inl rfl
  · rintro (rfl | rfl)
    · exact .inr ⟨_, rfl, rfl⟩
    · exact .inl ⟨_, rfl, _, rfl, rfl⟩

theorem withoutReturn_append_return (line : Bytes) : withoutReturn (line ++ [0x0D]) = line := by
  simp [withoutReturn]

theorem withoutReturn_of_not_mem {line : Bytes} (h : 0x0D ∉ line) : withoutReturn line = line :=
  if_neg fun hLast => h (List.mem_of_getLast? hLast)

theorem withoutReturn_append (line : Bytes) :
    withoutReturn line ++ [0x0D] = line ∨ withoutReturn line = line := by
  rw [withoutReturn]
  split
  · next hLast => exact .inl (List.dropLast_append_getLast? _ hLast)
  · exact .inr rfl

theorem exists_line_of_lineEnd {text ending : Bytes} (hReturn : 0x0D ∉ text) (hFeed : 0x0A ∉ text)
    (hEnd : lineEnd.Describes ending) :
    ∃ line, text ++ ending = line ++ [0x0A] ∧ 0x0A ∉ line ∧ withoutReturn line = text := by
  rcases describes_lineEnd.1 hEnd with rfl | rfl
  · exact ⟨text, rfl, hFeed, withoutReturn_of_not_mem hReturn⟩
  · exact ⟨text ++ [0x0D], by simp, by simp [hFeed], withoutReturn_append_return text⟩

theorem exists_lineEnd_of_line (line : Bytes) :
    ∃ ending, lineEnd.Describes ending ∧ line ++ [0x0A] = withoutReturn line ++ ending := by
  rcases withoutReturn_append line with hEnd | hEnd
  · refine ⟨[0x0D, 0x0A], describes_lineEnd.2 (.inr rfl), ?_⟩
    calc line ++ [0x0A]
        = (withoutReturn line ++ [0x0D]) ++ [0x0A] := by rw [hEnd]
      _ = withoutReturn line ++ [0x0D, 0x0A] := List.append_assoc ..
  · exact ⟨[0x0A], describes_lineEnd.2 (.inl rfl), by rw [hEnd]⟩

theorem describes_opening :
    opening.Describes bytes ↔ ∃ line, bytes = line ++ [0x0A] ∧ 0x0A ∉ line ∧ asksForCpp line := by
  have hSplit : opening.Leads (· = []) = openingLine.Leads ((inTurn [lineEnd]).Leads (· = [])) :=
    leads_inTurn_append [blanks, word "#", blanks, word "if", condition, lineRest] [lineEnd]
  rw [describes_iff_leads, hSplit, leads_inTurn_cons, leads_inTurn_nil,
    leads_congr fun _ => describes_iff_leads.symm]
  constructor
  · rintro ⟨text, ending, rfl, hText, hEnd⟩
    have hReturn : 0x0D ∉ text := not_mem_of_rejects (n := 0x0D) (by decide) (by rfl) hText
    have hFeed : 0x0A ∉ text := not_mem_of_rejects (n := 0x0A) (by decide) (by rfl) hText
    obtain ⟨line, hLine, hNot, rfl⟩ := exists_line_of_lineEnd hReturn hFeed hEnd
    exact ⟨line, hLine, hNot, describes_openingLine.1 hText⟩
  · rintro ⟨line, rfl, -, hAsks⟩
    obtain ⟨ending, hEnd, hLine⟩ := exists_lineEnd_of_line line
    exact ⟨withoutReturn line, ending, hLine, describes_openingLine.2 hAsks, hEnd⟩

end LinkageGuard

end FunctionCatalog
