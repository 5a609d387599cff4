import FunctionCatalog.Proofs.Tree.Layout
import Mathlib.Data.List.Chain

/-!
# The run of comments in front of a node

The comments attached to a node are found by going back from it, one sibling at a time. What they
are can be said without that: a run of comments in front of a node has blanks between its members
and behind them, at most one line end between two members, and no member that belongs to the item
before it. The comments that are found are the longest such run. While going back, nothing is read
but ranges of the source.

## Main results

* `Node.isRun_attachedRun`, `Node.IsRun.prefix_attachedRun` — the run that is found is the longest.
* `Node.attachedComment?_eq` — what is attached reaches from the start of its first member to the
  end of its last.
* `Item.checkedComment?_eq` — no range that is read ends before it starts or behind the source.
-/

namespace FunctionCatalog

/-! ## Ranges of a source -/

/-- The bytes from `start` to just before `stop`, if that is a range of the source. -/
def Bytes.slice? (source : Bytes) (start stop : Nat) : Option Bytes :=
  if start ≤ stop ∧ stop ≤ source.length then some (Bytes.slice source start stop) else none

/-- Whether there is nothing but white space from `start` to just before `stop`. -/
def Bytes.IsBlankBetween (source : Bytes) (start stop : Nat) : Prop :=
  ∀ b ∈ Bytes.slice source start stop, isAsciiBlank b

private theorem Bytes.slice?_eq_some {source : Bytes} {start stop : Nat} (hOrder : start ≤ stop)
    (hStop : stop ≤ source.length) :
    Bytes.slice? source start stop = some (Bytes.slice source start stop) :=
  if_pos ⟨hOrder, hStop⟩

namespace Node

/-! ## Runs -/

/-- Whether nodes, the last one first, are a run of comments that may be attached in front of offset
`next`, after the siblings `before`. -/
structure IsRun (source : Bytes) (next : Nat) (before run : List Node) : Prop where
  /-- The run is made of the nearest siblings. -/
  nearest : run <+: before
  /-- There are only comments in the run. -/
  comments : ∀ comment ∈ run, comment.kind = .comment
  /-- There is nothing but white space behind the run. -/
  blank_behind : ∀ last ∈ run.head?, Bytes.IsBlankBetween source last.stop next
  /-- There is nothing but white space between members, with no blank line in it. -/
  blank_between : run.IsChain fun later earlier =>
    Bytes.IsBlankBetween source earlier.stop later.start ∧
      (Bytes.slice source earlier.stop later.start).count 0x0A ≤ 1
  /-- No member belongs to the item before it. -/
  untrailed : ∀ (number : Nat) (comment : Node), run[number]? = some comment →
    comment.isTrailing source (before.drop (number + 1)) = false

/-- Whether nodes are a run as it goes on at offset `next`; `hasMember` says whether a comment of
the run follows. -/
def GoesOn (source : Bytes) (hasMember : Bool) (next : Nat) (before run : List Node) : Prop :=
  IsRun source next before run ∧
    (hasMember → ∀ last ∈ run.head?, (Bytes.slice source last.stop next).count 0x0A ≤ 1)

variable {source : Bytes} {hasMember : Bool} {next : Nat} {before run : List Node}

private theorem goesOn_nil : GoesOn source hasMember next before [] :=
  ⟨⟨List.nil_prefix, by simp, by simp, .nil, by simp⟩, by simp⟩

theorem joinsRun_iff {comment : Node} :
    comment.joinsRun source before next hasMember ↔
      comment.kind = .comment ∧ Bytes.IsBlankBetween source comment.stop next ∧
        (hasMember → (Bytes.slice source comment.stop next).count 0x0A ≤ 1) ∧
        comment.isTrailing source before = false := by
  simp only [joinsRun, Bool.and_eq_true, beq_iff_eq, Bytes.IsBlankBetween, List.all_eq_true,
    Bool.not_eq_true', Bool.and_eq_false_iff, decide_eq_false_iff_not, Nat.not_lt, and_assoc]
  cases hasMember <;> simp

/-- No run goes on behind a sibling that is no comment. -/
theorem attachedRun_of_not_comment {node : Node} (hKind : node.kind ≠ .comment) :
    attachedRun source hasMember next (node :: before) = [] := by
  rw [attachedRun, if_neg]
  exact fun hJoins => hKind (joinsRun_iff.1 hJoins).1

/-- A run goes on by one member at a time. -/
theorem GoesOn.cons {comment : Node} (hJoins : comment.joinsRun source before next hasMember)
    (h : GoesOn source true comment.start before run) :
    GoesOn source hasMember next (comment :: before) (comment :: run) := by
  obtain ⟨hComment, hBehind, hLines, hTrailed⟩ := joinsRun_iff.1 hJoins
  obtain ⟨hRun, hRunLines⟩ := h
  refine ⟨?_, fun hMember last hLast => ?_⟩
  · exact
      { nearest := List.cons_prefix_cons.2 ⟨rfl, hRun.nearest⟩
        comments := List.forall_mem_cons.2 ⟨hComment, hRun.comments⟩
        blank_behind := fun last hLast => Option.some.inj hLast ▸ hBehind
        blank_between := List.isChain_cons.2
          ⟨fun last hLast => ⟨hRun.blank_behind last hLast, hRunLines rfl last hLast⟩,
            hRun.blank_between⟩
        untrailed := fun number member hMember => by
          cases number with
          | zero => exact Option.some.inj hMember ▸ hTrailed
          | succ number => exact hRun.untrailed number member hMember }
  · obtain rfl := Option.some.inj hLast
    exact hLines hMember

private theorem goesOn_cons_iff {comment comment' : Node} :
    GoesOn source hasMember next (comment :: before) (comment' :: run) ↔
      comment' = comment ∧ comment.joinsRun source before next hasMember ∧
        GoesOn source true comment.start before run := by
  constructor
  · rintro ⟨hRun, hLines⟩
    obtain ⟨rfl, hNearest⟩ := List.cons_prefix_cons.1 hRun.nearest
    obtain ⟨hComment, hComments⟩ := List.forall_mem_cons.1 hRun.comments
    obtain ⟨hNext, hBetween⟩ := List.isChain_cons.1 hRun.blank_between
    have hBehind : Bytes.IsBlankBetween source comment'.stop next := hRun.blank_behind _ rfl
    have hTrailed : comment'.isTrailing source before = false := hRun.untrailed 0 _ rfl
    refine ⟨rfl, joinsRun_iff.2 ⟨hComment, hBehind, fun hMember => hLines hMember _ rfl, hTrailed⟩,
      ?_, fun _ last hLast => (hNext last hLast).2⟩
    exact
      { nearest := hNearest
        comments := hComments
        blank_behind := fun last hLast => (hNext last hLast).1
        blank_between := hBetween
        untrailed := fun number member hMember => hRun.untrailed (number + 1) member hMember }
  · rintro ⟨rfl, hJoins, h⟩
    exact h.cons hJoins

private theorem goesOn_attachedRun :
    GoesOn source hasMember next before (attachedRun source hasMember next before) := by
  induction before generalizing hasMember next with
  | nil => exact goesOn_nil
  | cons comment before ih =>
      rw [attachedRun]
      split
      · next hJoins => exact ih.cons hJoins
      · exact goesOn_nil

theorem GoesOn.prefix_attachedRun (h : GoesOn source hasMember next before run) :
    run <+: attachedRun source hasMember next before := by
  induction before generalizing hasMember next run with
  | nil => exact h.1.nearest
  | cons comment before ih =>
      cases run with
      | nil => exact List.nil_prefix
      | cons comment' run =>
          obtain ⟨rfl, hJoins, hRun⟩ := goesOn_cons_iff.1 h
          rw [attachedRun, if_pos hJoins]
          exact List.cons_prefix_cons.2 ⟨rfl, ih hRun⟩

/-- What is attached is a run. -/
theorem isRun_attachedRun : IsRun source next before (attachedRun source false next before) :=
  goesOn_attachedRun.1

/-- No run is longer than what is attached. -/
theorem IsRun.prefix_attachedRun (h : IsRun source next before run) :
    run <+: attachedRun source false next before :=
  GoesOn.prefix_attachedRun ⟨h, by simp⟩

/-! ## What a run reaches over -/

/-- The range from the start of the first member of a run to the end of its last. -/
def span? (run : List Node) : Option (Nat × Nat) := do
  let first ← run.getLast?
  let last ← run.head?
  some (first.start, last.stop)

theorem span?_cons_cons (last earlier : Node) (rest : List Node) :
    span? (last :: earlier :: rest) =
      (span? (earlier :: rest)).map fun range => (range.1, last.stop) := by
  simp [span?, List.getLast?_eq_some_getLast]

theorem span?_eq_none_iff : span? run = none ↔ run = [] := by
  cases run with
  | nil => simp [span?]
  | cons last rest => simp [span?, List.getLast?_eq_some_getLast]

theorem attachedComment?_eq (source : Bytes) (before : List Node) (node : Node) :
    node.attachedComment? source before =
      (span? (attachedRun source false node.start before)).map fun range =>
        Bytes.slice source range.1 range.2 := by
  rw [attachedComment?]
  split
  · next hNone => simp [span?, hNone]
  · next last rest hRun =>
      simp [span?, hRun, List.getLast?_eq_some_getLast, List.getLastD_eq_getLast?]

/-! ## Reading ranges only -/

/-- The comments attached in front of offset `next`, if nothing is read on the way but ranges of the
source. -/
def checkedRun? (source : Bytes) (hasMember : Bool) (next : Nat) : List Node → Option (List Node)
  | [] => some []
  | comment :: before =>
    if comment.kind == .comment then
      (Bytes.slice? source comment.stop next).bind fun gap =>
        if gap.all isAsciiBlank && !(hasMember && 1 < gap.count 0x0A)
            && !comment.isTrailing source before then
          (checkedRun? source true comment.start before).map (comment :: ·)
        else some []
    else some []

/-- Nothing is read but ranges of the source. -/
theorem checkedRun?_eq (hNext : next ≤ source.length) (hBefore : LieInFront next before) :
    checkedRun? source hasMember next before = some (attachedRun source hasMember next before) := by
  induction before generalizing hasMember next with
  | nil => rfl
  | cons comment before ih =>
      obtain ⟨hOrder, hStop, hBefore⟩ := hBefore
      have hRest : checkedRun? source true comment.start before =
          some (attachedRun source true comment.start before) := ih (by omega) hBefore
      rw [checkedRun?, attachedRun, joinsRun, Bytes.slice?_eq_some hStop hNext, Option.bind_some,
        hRest]
      cases hKind : comment.kind == .comment with
      | false => rfl
      | true =>
          rw [if_pos rfl, Bool.true_and]
          split <;> rfl

end Node

/-! ## Items -/

namespace Item

/-- The comments attached to an item, the last one first. -/
def attachedRun (source : Bytes) (item : Item) : List Node :=
  Node.attachedRun source false item.node.start item.before

/-- The range of the comment attached to an item. -/
def commentRange? (source : Bytes) (item : Item) : Option (Nat × Nat) :=
  Node.span? (item.attachedRun source)

/-- The comment attached to an item, or none, if nothing is read on the way but ranges of the
source. -/
def checkedComment? (source : Bytes) (item : Item) : Option (Option Bytes) :=
  (Node.checkedRun? source false item.node.start item.before).bind fun run =>
    match Node.span? run with
    | none => some none
    | some (start, stop) => (Bytes.slice? source start stop).map some

theorem attachedComment?_eq (source : Bytes) (item : Item) :
    item.node.attachedComment? source item.before =
      (item.commentRange? source).map fun range => Bytes.slice source range.1 range.2 :=
  Node.attachedComment?_eq source item.before item.node

end Item

namespace Node

variable {source : Bytes} {next : Nat} {before run : List Node}

/-- The first member of a run comes before its last. -/
theorem span?_bounds (hBefore : LieInFront next before) (hRun : run <+: before) {start stop : Nat}
    (hSpan : span? run = some (start, stop)) :
    start ≤ stop ∧ stop ≤ next ∧ ∃ first ∈ run, first.start = start := by
  cases run with
  | nil => simp [span?] at hSpan
  | cons last rest =>
      obtain ⟨more, rfl⟩ := hRun
      obtain ⟨first, hFirst⟩ :=
        Option.isSome_iff_exists.1 (List.getLast?_isSome.2 (List.cons_ne_nil last rest))
      simp only [span?, hFirst, List.head?_cons, Option.bind_eq_bind, Option.bind_some,
        Option.some.injEq, Prod.mk.injEq] at hSpan
      obtain ⟨rfl, rfl⟩ := hSpan
      have hMem := List.mem_of_getLast? hFirst
      obtain ⟨hOrder, hStop, hRest⟩ := hBefore
      refine ⟨?_, hStop, first, hMem, rfl⟩
      rcases List.mem_cons.1 hMem with rfl | hMem
      · exact hOrder
      · obtain ⟨hFirstOrder, hFirstStop⟩ := hRest.mem (List.mem_append_left more hMem)
        omega

/-- No member of a run begins before the first. -/
theorem span?_start_le (hRun : LieInFront next run) {range : Nat × Nat}
    (hSpan : span? run = some range) {member : Node} (hMember : member ∈ run) :
    range.1 ≤ member.start := by
  induction run generalizing next range member with
  | nil => exact absurd hMember List.not_mem_nil
  | cons last rest ih =>
      obtain ⟨-, -, hRest⟩ := hRun
      cases rest with
      | nil =>
          obtain rfl := Option.some.inj hSpan
          obtain rfl := List.mem_singleton.1 hMember
          exact Nat.le_refl _
      | cons earlier rest =>
          rw [span?_cons_cons] at hSpan
          obtain ⟨range, hEarlier, rfl⟩ := Option.map_eq_some_iff.1 hSpan
          have hRange : ∀ member ∈ earlier :: rest, range.1 ≤ member.start :=
            fun _ hMember => ih hRest hEarlier hMember
          rcases List.mem_cons.1 hMember with rfl | hMember
          · exact Nat.le_trans (hRange earlier List.mem_cons_self)
              (Nat.le_trans hRest.1 hRest.2.1)
          · exact hRange member hMember

end Node

namespace Item

variable {source : Bytes} {low high : Nat} {item : Item}

theorem attachedRun_isPrefix (source : Bytes) (item : Item) :
    item.attachedRun source <+: item.before :=
  Node.isRun_attachedRun.nearest

theorem lieInFront_attachedRun (hItem : item.LiesIn low high) :
    Node.LieInFront item.node.start (item.attachedRun source) :=
  hItem.before.of_isPrefix (attachedRun_isPrefix source item)

/-- The comment attached to an item lies in front of it, as far back as its siblings do. -/
theorem commentRange?_bounds (hItem : item.LiesIn low high) {start stop : Nat}
    (hRange : item.commentRange? source = some (start, stop)) :
    low ≤ start ∧ start ≤ stop ∧ stop ≤ item.node.start := by
  have hPrefix := attachedRun_isPrefix source item
  obtain ⟨hOrder, hStop, first, hFirst, rfl⟩ := Node.span?_bounds hItem.before hPrefix hRange
  exact ⟨hItem.low_le_start first (hPrefix.subset hFirst), hOrder, hStop⟩

/-- The comment attached to an item is found by reading nothing but ranges of the source. -/
theorem checkedComment?_eq (hItem : item.LiesIn low high) (hHigh : high ≤ source.length) :
    item.checkedComment? source = some (item.node.attachedComment? source item.before) := by
  have hStart := hItem.node.start_le_stop
  have hStop := hItem.node.stop_le_high
  rw [checkedComment?, Node.checkedRun?_eq (by omega) hItem.before, Option.bind_some,
    attachedComment?_eq, commentRange?, attachedRun]
  split
  · next hNone => rw [hNone, Option.map_none]
  · next start stop hRange =>
      obtain ⟨-, hOrder, hLast⟩ := commentRange?_bounds hItem hRange
      rw [hRange, Bytes.slice?_eq_some hOrder (by omega)]
      rfl

end Item

end FunctionCatalog
