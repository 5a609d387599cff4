import FunctionCatalog.Proofs.Comment.Attachment
import FunctionCatalog.Proofs.Comment.Tokenization
import FunctionCatalog.Proofs.Text.Ascii

/-!
# Tokens of an attached comment

A comment begins with a slash, and between two comments there are only blanks. So no token reaches
from one member of a run into another, and the tokens of the run are those of its members. No
character reaches from one into another either: a member that is no text spoils the run.

## Main results

* `Item.commentTokens_eq_flatMap` — the tokens of a run are those of its members, in order.
* `Item.commentTokens_eq_nil` — a member that is no text leaves no tokens.
-/

namespace FunctionCatalog

/-! ## Tokens of texts -/

/-- No token reaches over what is no letter and no digit. -/
theorem commentTokens_append_cons {c : Char} (hSeparates : isTokenChar c = false)
    (front back : List Char) :
    commentTokens (front ++ c :: back) = commentTokens front ++ commentTokens back := by
  rw [commentTokens, runs_append_cons hSeparates, List.map_append]
  rfl

private theorem commentTokens_cons {c : Char} (hSeparates : isTokenChar c = false)
    (back : List Char) :
    commentTokens (c :: back) = commentTokens back :=
  commentTokens_append_cons hSeparates [] back

/-- What separates tokens adds none. -/
theorem commentTokens_joined {gap : List Char} (hGap : ∀ c ∈ gap, isTokenChar c = false) {c : Char}
    (hSeparates : isTokenChar c = false) (front back : List Char) :
    commentTokens (front ++ (gap ++ c :: back)) =
      commentTokens front ++ commentTokens (c :: back) := by
  have hAll : ∀ d ∈ gap ++ [c], isTokenChar d = false :=
    List.forall_mem_append.2 ⟨hGap, List.forall_mem_singleton.2 hSeparates⟩
  have hJoined := commentTokens_append_gap (by simp) hAll front back
  rw [commentTokens_cons hSeparates, ← hJoined, List.append_assoc, List.append_assoc,
    List.singleton_append]

/-! ## Bytes between comments -/

theorem Bytes.slice_append {source : Bytes} {start middle stop : Nat} (hStart : start ≤ middle)
    (hStop : middle ≤ stop) :
    Bytes.slice source start middle ++ Bytes.slice source middle stop =
      Bytes.slice source start stop := by
  have hLength : stop - start = (middle - start) + (stop - middle) := by omega
  have hMiddle : start + (middle - start) = middle := by omega
  rw [Bytes.slice, Bytes.slice, Bytes.slice, hLength, List.take_add, List.drop_drop, hMiddle]

private theorem isAsciiBlank_cases {b : UInt8} (h : isAsciiBlank b) :
    b < 0x80 ∧ isTokenChar (Char.ofNat b.toNat) = false := by
  simp only [isAsciiBlank, Bool.or_eq_true, beq_iff_eq] at h
  rcases h with (((rfl | rfl) | rfl) | rfl) | rfl <;> decide

private theorem exists_text_of_isBlankBetween {source : Bytes} {start stop : Nat}
    (h : Bytes.IsBlankBetween source start stop) :
    ∃ gap, Utf8.decode (Bytes.slice source start stop) = some gap ∧
      ∀ c ∈ gap, isTokenChar c = false := by
  refine ⟨_, Utf8.decode_of_ascii fun b hMem => (isAsciiBlank_cases (h b hMem)).1, fun c hMem => ?_⟩
  obtain ⟨b, hByte, rfl⟩ := List.mem_map.1 hMem
  exact (isAsciiBlank_cases (h b hByte)).2

private theorem decode_slash (rest : Bytes) :
    Utf8.decode (0x2F :: rest) = (Utf8.decode rest).map ('/' :: ·) := by
  have hSlash : Utf8.decode [0x2F] = some ['/'] := rfl
  exact Utf8.decode_append hSlash

/-- What is no text stays none in front of a gap and a slash: the next byte is ASCII. -/
theorem decode_gap_eq_none {source front : Bytes} {start stop : Nat}
    (hFront : Utf8.decode front = none) (hGap : Bytes.IsBlankBetween source start stop)
    (back : Bytes) :
    Utf8.decode (front ++ (Bytes.slice source start stop ++ 0x2F :: back)) = none := by
  have hNone : ∀ b : UInt8, b < 0x80 → ∀ more, Utf8.decode (front ++ b :: more) = none :=
    fun _ hByte => Utf8.decodeFrom_append_eq_none Utf8.Position.isWide_boundary hFront hByte
  cases hBytes : Bytes.slice source start stop with
  | nil => exact hNone _ (by decide) back
  | cons b more =>
      have hBlank : isAsciiBlank b := hGap b (by simp [hBytes])
      exact hNone b (isAsciiBlank_cases hBlank).1 _

namespace Node

/-! ## Runs -/

/-- The tokens of a comment by itself. -/
def tokens (source : Bytes) (comment : Node) : List String :=
  ((Utf8.decode (comment.bytes source)).map FunctionCatalog.commentTokens).getD []

section Run

variable {source : Bytes} {next start stop : Nat} {run : List Node}

/-- A run is its earlier members, a gap, and its last member. -/
theorem slice_span_cons (source : Bytes) {last earlier : Node} {rest : List Node}
    (hOrder : LieInFront next (last :: earlier :: rest))
    (hSpan : span? (last :: earlier :: rest) = some (start, stop)) :
    span? (earlier :: rest) = some (start, earlier.stop) ∧
      Bytes.slice source start stop = Bytes.slice source start earlier.stop ++
        (Bytes.slice source earlier.stop last.start ++ last.bytes source) := by
  obtain ⟨hLast, -, hRest⟩ := hOrder
  have hGap := hRest.2.1
  rw [span?_cons_cons] at hSpan
  obtain ⟨⟨first, middle⟩, hEarlier, hSame⟩ := Option.map_eq_some_iff.1 hSpan
  obtain ⟨rfl, rfl⟩ := Prod.mk.inj hSame
  obtain rfl : middle = earlier.stop := by
    simp only [span?, List.head?_cons, Option.bind_eq_bind, Option.bind_some,
      Option.bind_eq_some_iff, Option.some.injEq, Prod.mk.injEq] at hEarlier
    obtain ⟨_, -, -, hStop⟩ := hEarlier
    exact hStop.symm
  have hStart := (span?_bounds hRest (List.prefix_refl _) hEarlier).1
  refine ⟨hEarlier, ?_⟩
  rw [bytes, Bytes.slice_append hGap hLast, Bytes.slice_append hStart (Nat.le_trans hGap hLast)]

private theorem span?_singleton (comment : Node) :
    span? [comment] = some (comment.start, comment.stop) :=
  rfl

/-- The text of a run has the tokens of its members. -/
theorem exists_text_of_span (hOrder : LieInFront next run)
    (hGaps : run.IsChain fun later earlier => Bytes.IsBlankBetween source earlier.stop later.start)
    (hSlash : ∀ comment ∈ run, (comment.bytes source).head? = some 0x2F)
    (hText : ∀ comment ∈ run, Utf8.decode (comment.bytes source) ≠ none)
    (hSpan : span? run = some (start, stop)) :
    ∃ text, Utf8.decode (Bytes.slice source start stop) = some text ∧
      FunctionCatalog.commentTokens text = run.reverse.flatMap (tokens source) := by
  induction run generalizing next stop with
  | nil => simp [span?] at hSpan
  | cons last rest ih =>
      obtain ⟨hSlashLast, hSlashRest⟩ := List.forall_mem_cons.1 hSlash
      obtain ⟨hTextLast, hTextRest⟩ := List.forall_mem_cons.1 hText
      obtain ⟨lastText, hLast⟩ := Option.ne_none_iff_exists'.1 hTextLast
      cases rest with
      | nil =>
          rw [span?_singleton] at hSpan
          obtain ⟨rfl, rfl⟩ := Prod.mk.inj (Option.some.inj hSpan)
          exact ⟨lastText, hLast, by simp [tokens, hLast]⟩
      | cons earlier rest =>
          obtain ⟨hGap, hGaps⟩ := List.isChain_cons_cons.1 hGaps
          obtain ⟨hRestSpan, hSlice⟩ := slice_span_cons source hOrder hSpan
          obtain ⟨text, hDecode, hTokens⟩ := ih hOrder.2.2 hGaps hSlashRest hTextRest hRestSpan
          obtain ⟨gap, hGapText, hGapTokens⟩ := exists_text_of_isBlankBetween hGap
          obtain ⟨back, hBack⟩ := List.head?_eq_some_iff.1 hSlashLast
          rw [hBack, decode_slash] at hLast
          obtain ⟨backText, hBackText, rfl⟩ := Option.map_eq_some_iff.1 hLast
          have hLastTokens :
              tokens source last = FunctionCatalog.commentTokens ('/' :: backText) := by
            rw [tokens, hBack, decode_slash, hBackText]
            rfl
          refine ⟨text ++ (gap ++ '/' :: backText), ?_, ?_⟩
          · rw [hSlice, Utf8.decode_append hDecode, Utf8.decode_append hGapText, hBack,
              decode_slash, hBackText]
            rfl
          · rw [commentTokens_joined hGapTokens rfl, hTokens, ← hLastTokens,
              List.reverse_cons (a := last), List.flatMap_append, List.flatMap_singleton]

private theorem decode_span_eq_none (hOrder : LieInFront next run)
    (hGaps : run.IsChain fun later earlier => Bytes.IsBlankBetween source earlier.stop later.start)
    (hSlash : ∀ comment ∈ run, (comment.bytes source).head? = some 0x2F)
    (hNot : ∃ comment ∈ run, Utf8.decode (comment.bytes source) = none)
    (hSpan : span? run = some (start, stop)) :
    Utf8.decode (Bytes.slice source start stop) = none := by
  induction run generalizing next stop with
  | nil => simp [span?] at hSpan
  | cons last rest ih =>
      obtain ⟨hSlashLast, hSlashRest⟩ := List.forall_mem_cons.1 hSlash
      obtain ⟨back, hBack⟩ := List.head?_eq_some_iff.1 hSlashLast
      cases rest with
      | nil =>
          rw [span?_singleton] at hSpan
          obtain ⟨rfl, rfl⟩ := Prod.mk.inj (Option.some.inj hSpan)
          simpa [bytes] using hNot
      | cons earlier rest =>
          obtain ⟨hGap, hGaps⟩ := List.isChain_cons_cons.1 hGaps
          obtain ⟨hRestSpan, hSlice⟩ := slice_span_cons source hOrder hSpan
          rw [hSlice, hBack]
          by_cases hEarlier : ∃ comment ∈ earlier :: rest, Utf8.decode (comment.bytes source) = none
          · exact decode_gap_eq_none (ih hOrder.2.2 hGaps hSlashRest hEarlier hRestSpan) hGap back
          · have hTexts : ∀ comment ∈ earlier :: rest, Utf8.decode (comment.bytes source) ≠ none :=
              fun comment hMem hNone => hEarlier ⟨comment, hMem, hNone⟩
            obtain ⟨text, hDecode, -⟩ :=
              exists_text_of_span hOrder.2.2 hGaps hSlashRest hTexts hRestSpan
            obtain ⟨gap, hGapText, -⟩ := exists_text_of_isBlankBetween hGap
            have hLast : Utf8.decode (0x2F :: back) = none := by
              obtain ⟨comment, hMem, hNone⟩ := hNot
              rcases List.mem_cons.1 hMem with rfl | hMem
              · rwa [hBack] at hNone
              · exact absurd hNone (hTexts comment hMem)
            rw [Utf8.decode_append hDecode, Utf8.decode_append hGapText, hLast]
            rfl

end Run

end Node

/-! ## Items -/

namespace Item

variable {source : Bytes} {low high : Nat} {item : Item}

private theorem isChain_attachedRun (source : Bytes) (item : Item) :
    (item.attachedRun source).IsChain fun later earlier =>
      Bytes.IsBlankBetween source earlier.stop later.start :=
  Node.isRun_attachedRun.blank_between.imp fun _ _ h => h.1

/-- The tokens of an attached comment are those of its members, in order. -/
theorem commentTokens_eq_flatMap (hItem : item.LiesIn low high)
    (hSlash : ∀ comment ∈ item.attachedRun source, (comment.bytes source).head? = some 0x2F)
    (hText : ∀ comment ∈ item.attachedRun source, Utf8.decode (comment.bytes source) ≠ none) :
    item.node.commentTokens source item.before =
      (item.attachedRun source).reverse.flatMap (Node.tokens source) := by
  rw [Node.commentTokens, attachedComment?_eq]
  cases hRange : item.commentRange? source with
  | none =>
      have hNone : item.attachedRun source = [] := Node.span?_eq_none_iff.1 hRange
      rw [hNone]
      rfl
  | some range =>
      obtain ⟨text, hDecode, hTokens⟩ := Node.exists_text_of_span (lieInFront_attachedRun hItem)
        (isChain_attachedRun source item) hSlash hText hRange
      rw [Option.map_some, Option.bind_some, hDecode]
      exact hTokens

/-- A member that is no text leaves no tokens. -/
theorem commentTokens_eq_nil (hItem : item.LiesIn low high)
    (hSlash : ∀ comment ∈ item.attachedRun source, (comment.bytes source).head? = some 0x2F)
    (hNot : ∃ comment ∈ item.attachedRun source, Utf8.decode (comment.bytes source) = none) :
    item.node.commentTokens source item.before = [] := by
  rw [Node.commentTokens, attachedComment?_eq]
  cases hRange : item.commentRange? source with
  | none => rfl
  | some range =>
      have hNone := Node.decode_span_eq_none (lieInFront_attachedRun hItem)
        (isChain_attachedRun source item) hSlash hNot hRange
      rw [Option.map_some, Option.bind_some, hNone]

end Item

end FunctionCatalog
