import FunctionCatalog.LinkageGuard
import Mathlib.Data.List.Basic

/-!
# Guards by lines

Cut at its line feeds, a source is a list of lines, and a guard is three lines in a row. Whether a
line can be the first, the middle or the last of them is seen from the line alone, by reading it
from the left. A line that can be the first can be neither of the others, so guards have no line in
common.
-/

namespace FunctionCatalog

namespace LinkageGuard

/-! ## Reading a line from the left -/

/-- The bytes of an ASCII text. -/
def ascii (text : String) : Bytes :=
  text.toList.map fun c => UInt8.ofNat c.toNat

/-- Whether a byte is a blank or a tab. -/
def isBlank (b : UInt8) : Bool :=
  b == 0x20 || b == 0x09

/-- The bytes without the blanks at their start. -/
def skipBlanks (line : Bytes) : Bytes :=
  line.dropWhile isBlank

/-- What follows one or more blanks. -/
def afterBlanks? : Bytes → Option Bytes
  | [] => none
  | b :: rest => if isBlank b then some (skipBlanks rest) else none

/-- What follows a word that the bytes start with. -/
def after? (word : String) (line : Bytes) : Option Bytes :=
  (ascii word).isPrefixOf? line

/-- What follows a word, or the bytes as they are if they do not start with it. -/
def afterOptional (word : String) (line : Bytes) : Bytes :=
  (after? word line).getD line

/-- What follows the name of a directive. -/
def afterDirective? (name : String) (line : Bytes) : Option Bytes :=
  (after? "#" (skipBlanks line)).bind fun rest => after? name (skipBlanks rest)

/-- Whether bytes are text that may stand in a comment on one line. -/
def isCommentText (bytes : Bytes) : Bool :=
  (Utf8.decode bytes).isSome && bytes.all fun b => b != 0x0D && b != 0x0A

/-- What precedes the end of a comment, behind which there are only blanks. -/
def beforeCommentEnd? (bytes : Bytes) : Option Bytes :=
  match skipBlanks bytes.reverse with
  | 0x2F :: 0x2A :: text => some text.reverse
  | _ => none

/-- Whether bytes are blank apart from one comment. -/
def isBlankOrComment (bytes : Bytes) : Bool :=
  (skipBlanks bytes).isEmpty || (after? "//" (skipBlanks bytes)).any isCommentText
    || ((after? "/*" (skipBlanks bytes)).bind beforeCommentEnd?).any isCommentText

/-- What follows the condition that only C++ meets, behind the letters `if`. -/
def afterCondition? (line : Bytes) : Option Bytes :=
  match after? "def" line with
  | some rest => (afterBlanks? rest).bind (after? "__cplusplus")
  | none => do
    let rest ← after? "defined" (← afterBlanks? line)
    let rest ← after? "__cplusplus" (skipBlanks (afterOptional "(" (skipBlanks rest)))
    some (afterOptional ")" (skipBlanks rest))

/-- What follows the opening or the closing of a linkage block. -/
def afterBlockMark? (line : Bytes) : Option Bytes :=
  match after? "\x7d" line with
  | some rest => some rest
  | none => do
    let rest ← after? "\"C" (← afterBlanks? (← after? "extern" line))
    let rest ← after? "\"" (afterOptional "++" rest)
    after? "\x7b" (skipBlanks rest)

/-! ## The lines of a guard -/

/-- A line without the carriage return at its end. -/
def withoutReturn (line : Bytes) : Bytes :=
  if line.getLast? = some 0x0D then line.dropLast else line

/-- Whether a line is a directive that asks for C++. -/
def asksForCpp (line : Bytes) : Bool :=
  ((afterDirective? "if" (withoutReturn line)).bind afterCondition?).any isBlankOrComment

/-- Whether a line only opens or closes a linkage block. -/
def marksBlock (line : Bytes) : Bool :=
  (afterBlockMark? (skipBlanks (withoutReturn line))).any isBlankOrComment

/-- Whether a line starts with the directive that ends a conditional. -/
def endsConditional (line : Bytes) : Bool :=
  (afterDirective? "endif" line).isSome

/-- Whether there is a guard at the front of the given lines. -/
def guardsFirst : List Bytes → Bool
  | first :: middle :: last :: _ => asksForCpp first && marksBlock middle && endsConditional last
  | _ => false

/-- A line of blanks in place of the given one. A carriage return at its end stays. -/
def blankLine (line : Bytes) : Bytes :=
  List.replicate (withoutReturn line).length 0x20 ++ line.drop (withoutReturn line).length

/-- The line with a number, which becomes a line of blanks in the middle of a guard. -/
def maskedLine (list : List Bytes) (number : Nat) (line : Bytes) : Bytes :=
  if number ≠ 0 ∧ guardsFirst (list.drop (number - 1)) then blankLine line else line

/-- The given lines, with the middle line of each guard filled with blanks. -/
def maskedLines (list : List Bytes) : List Bytes :=
  list.mapIdx (maskedLine list)

/-! ## Lines and sources -/

/-- The lines of a source, without the line ends between them. -/
def lines : Bytes → List Bytes
  | [] => [[]]
  | b :: rest =>
    match lines rest with
    | [] => [[b]]
    | line :: more => if b = 0x0A then [] :: line :: more else (b :: line) :: more

/-- A source from its lines. -/
def unlines (list : List Bytes) : Bytes :=
  List.intercalate [0x0A] list

theorem lines_ne_nil (bytes : Bytes) : lines bytes ≠ [] := by
  cases bytes with
  | nil => exact List.cons_ne_nil _ _
  | cons b rest =>
      rw [lines]
      split
      · exact List.cons_ne_nil _ _
      · split <;> exact List.cons_ne_nil _ _

/-- What has no line feed in it belongs to the line that follows. -/
theorem lines_append {front back line : Bytes} {more : List Bytes} (hFront : 0x0A ∉ front)
    (hBack : lines back = line :: more) : lines (front ++ back) = (front ++ line) :: more := by
  induction front with
  | nil => exact hBack
  | cons b rest ih =>
      have hByte : b ≠ 0x0A := fun h => hFront (h ▸ List.mem_cons_self)
      have hRest : 0x0A ∉ rest := fun h => hFront (List.mem_cons_of_mem _ h)
      rw [List.cons_append, lines, ih hRest]
      exact if_neg hByte

/-- The last line has no line feed behind it. -/
theorem lines_of_not_mem {line : Bytes} (hLine : 0x0A ∉ line) : lines line = [line] := by
  have h : lines (line ++ []) = [line ++ []] := lines_append hLine rfl
  rwa [List.append_nil] at h

private theorem lines_lineFeed (back : Bytes) : lines (0x0A :: back) = [] :: lines back := by
  rw [lines]
  cases hLines : lines back with
  | nil => exact absurd hLines (lines_ne_nil back)
  | cons line more => exact if_pos rfl

/-- No line reaches over a line feed. -/
theorem lines_append_cons (front back : Bytes) :
    lines (front ++ 0x0A :: back) = lines front ++ lines back := by
  induction front with
  | nil => exact lines_lineFeed back
  | cons b rest ih =>
      rw [List.cons_append, lines, ih, lines]
      cases hLines : lines rest with
      | nil => exact absurd hLines (lines_ne_nil rest)
      | cons line more =>
          by_cases hByte : b = 0x0A <;> simp [hByte]

/-- A line ends at the first line feed. -/
theorem lines_append_lineFeed {front : Bytes} (hFront : 0x0A ∉ front) (back : Bytes) :
    lines (front ++ 0x0A :: back) = front :: lines back := by
  rw [lines_append_cons, lines_of_not_mem hFront, List.singleton_append]

theorem unlines_cons {line : Bytes} {more : List Bytes} (hMore : more ≠ []) :
    unlines (line :: more) = line ++ 0x0A :: unlines more := by
  obtain ⟨next, rest, rfl⟩ := List.exists_cons_of_ne_nil hMore
  simp [unlines, List.intercalate]

theorem unlines_singleton (line : Bytes) : unlines [line] = line := by
  simp [unlines, List.intercalate]

theorem unlines_lines (source : Bytes) : unlines (lines source) = source := by
  induction source with
  | nil => rfl
  | cons b rest ih =>
      have hRest := lines_ne_nil rest
      rw [lines]
      split
      · next hNil => exact absurd hNil hRest
      · next line more hCons =>
          rw [hCons] at ih
          split
          · next hFeed => rw [unlines_cons (List.cons_ne_nil _ _), ih, hFeed, List.nil_append]
          · cases more with
            | nil => rw [← ih, unlines_singleton, unlines_singleton]
            | cons next more =>
                rw [← ih, unlines_cons (List.cons_ne_nil _ _), unlines_cons (List.cons_ne_nil _ _),
                  List.cons_append]

/-- No line has a line feed in it. -/
theorem not_mem_of_mem_lines {source line : Bytes} (h : line ∈ lines source) : 0x0A ∉ line := by
  induction source generalizing line with
  | nil =>
      obtain rfl := List.mem_singleton.1 h
      exact List.not_mem_nil
  | cons b rest ih =>
      rw [lines] at h
      split at h
      · next hNil => exact absurd hNil (lines_ne_nil rest)
      · next first more hCons =>
          rw [hCons] at ih
          split at h
          · next hFeed =>
              rcases List.mem_cons.1 h with rfl | hMem
              · exact List.not_mem_nil
              · exact ih hMem
          · next hByte =>
              rcases List.mem_cons.1 h with rfl | hMem
              · exact fun hFeed => (List.mem_cons.1 hFeed).elim (fun hSame => hByte hSame.symm)
                  (ih List.mem_cons_self)
              · exact ih (List.mem_cons_of_mem _ hMem)

theorem lines_unlines {list : List Bytes} (hNot : list ≠ []) (hLines : ∀ line ∈ list, 0x0A ∉ line) :
    lines (unlines list) = list := by
  induction list with
  | nil => exact absurd rfl hNot
  | cons line more ih =>
      obtain ⟨hLine, hMore⟩ := List.forall_mem_cons.1 hLines
      cases more with
      | nil => rw [unlines_singleton, lines_of_not_mem hLine]
      | cons next rest =>
          rw [unlines_cons (List.cons_ne_nil _ _), lines_append_lineFeed hLine,
            ih (List.cons_ne_nil _ _) hMore]

end LinkageGuard

end FunctionCatalog
