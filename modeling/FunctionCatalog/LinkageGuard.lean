import FunctionCatalog.Text.Pattern

/-!
# Guards around linkage blocks

Headers for both languages open and close an `extern "C"` block inside a conditional that only C++
takes, so each of the two braces stands alone between its directives and no grammar can read the
file. A guard is three lines: a directive that asks for C++, a line that opens or closes a linkage
block, and the directive that ends the conditional. Masking fills the middle line with blanks, which
keeps every offset and every row.

Guards are searched for from the front to the back. They begin at the start of a line, and the
search goes on where the last one ends.
-/

namespace FunctionCatalog

namespace LinkageGuard

/-! ## What a guard looks like -/

section Patterns

open Pattern

/-- Blanks and tabs. -/
def blanks : Pattern :=
  .many fun c => c == ' ' || c == '\t'

/-- At least one blank or tab. -/
def someBlanks : Pattern :=
  .both (.one fun c => c == ' ' || c == '\t') blanks

/-- Text on one line. -/
def lineText : Pattern :=
  .many fun c => c != '\r' && c != '\n'

/-- A comment on one line. -/
def comment : Pattern :=
  .either (inTurn [word "//", lineText]) (inTurn [word "/*", lineText, word "*/"])

/-- What may stand behind a directive or a block mark. -/
def lineRest : Pattern :=
  inTurn [blanks, optional comment, blanks]

/-- The end of a line. -/
def lineEnd : Pattern :=
  inTurn [optional (word "\r"), word "\n"]

/-- The condition that only C++ meets, behind the letters `if`. -/
def condition : Pattern :=
  .either (inTurn [word "def", someBlanks, word "__cplusplus"])
    (inTurn [someBlanks, word "defined", blanks, optional (word "("), blanks, word "__cplusplus",
      blanks, optional (word ")")])

/-- The opening or the closing of a linkage block. -/
def blockMark : Pattern :=
  .either
    (inTurn [word "extern", someBlanks, word "\"C", optional (word "++"), word "\"", blanks,
      word "\x7b"])
    (word "\x7d")

/-- The first line of a guard. -/
def opening : Pattern :=
  inTurn [blanks, word "#", blanks, word "if", condition, lineRest, lineEnd]

/-- The middle line of a guard, without its end. -/
def marked : Pattern :=
  inTurn [blanks, blockMark, lineRest]

/-- The end of the middle line of a guard, and its last line as far as it matters. -/
def ending : Pattern :=
  inTurn [lineEnd, blanks, word "#", blanks, word "endif"]

end Patterns

/-! ## The search -/

/-- A guard at the start of a source, by offsets. -/
structure Found where
  /-- Where the middle line begins. -/
  markStart : Nat
  /-- Where the middle line ends. -/
  markStop : Nat
  /-- Where the guard ends. -/
  stop : Nat
deriving DecidableEq, Repr

/-- The guard at the start of a source, if there is one. -/
def find? (source : Bytes) : Option Found :=
  opening.run source fun atMark =>
    marked.run atMark fun behindMark =>
      ending.run behindMark fun rest =>
        some {
          markStart := source.length - atMark.length
          markStop := source.length - behindMark.length
          stop := source.length - rest.length }

/-- The middle lines of the guards from an offset on. The first `skipped` bytes belong to the guard
that was found last; `startsLine` says whether the next byte is the first of its line. -/
def rangesFrom (offset skipped : Nat) (startsLine : Bool) : Bytes → List (Nat × Nat)
  | [] => []
  | b :: rest =>
    match if skipped = 0 ∧ startsLine then find? (b :: rest) else none with
    | some found =>
      (offset + found.markStart, offset + found.markStop)
        :: rangesFrom (offset + 1) (found.stop - 1) (b == 0x0A) rest
    | none => rangesFrom (offset + 1) (skipped - 1) (b == 0x0A) rest

/-- The middle lines of the guards in a source. -/
def ranges (source : Bytes) : List (Nat × Nat) :=
  rangesFrom 0 0 true source

end LinkageGuard

/-- A source with blanks in a range of offsets. -/
def Bytes.blanked (source : Bytes) (range : Nat × Nat) : Bytes :=
  source.take range.1 ++ List.replicate (range.2 - range.1) 0x20 ++ source.drop range.2

/-- A source with the linkage guards in it masked. -/
def maskLinkageGuards (source : Bytes) : Bytes :=
  (LinkageGuard.ranges source).foldl Bytes.blanked source

/-- Whether a source has a linkage guard. -/
def hasLinkageGuard (source : Bytes) : Bool :=
  !(LinkageGuard.ranges source).isEmpty

end FunctionCatalog
