import FunctionCatalog.Text.Reader

/-!
# Dates and times of TOML

A date, a time of day, or both, and then perhaps an offset from universal time. They are written
back in one form: a `T` between date and time, and of the fraction of a second at most nine digits,
without zeros at the end.
-/

namespace FunctionCatalog

namespace Toml

/-- A day. -/
structure Date where
  /-- The year. -/
  year : Nat
  /-- The month, counted from one. -/
  month : Nat
  /-- The day of the month, counted from one. -/
  day : Nat
deriving DecidableEq, Repr

/-- A time of day. -/
structure Time where
  /-- The hour. -/
  hour : Nat
  /-- The minute. -/
  minute : Nat
  /-- The second. One minute may have a sixty-first. -/
  second : Nat
  /-- The digits of the fraction of the second. -/
  fraction : List Char
deriving DecidableEq, Repr

/-- An offset from universal time. -/
inductive Offset where
  /-- Universal time itself. -/
  | universal
  /-- So many minutes before or after it. -/
  | minutes (isBehind : Bool) (value : Nat)
deriving DecidableEq, Repr

/-- A date, a time, or both. -/
inductive DateTime where
  /-- A day, perhaps with a time of day, and then perhaps with an offset. -/
  | date (date : Date) (time? : Option (Time × Option Offset))
  /-- A time of any day. -/
  | time (time : Time)
deriving DecidableEq, Repr

/-! ## Reading -/

/-- The number of days in a month. -/
def daysIn (year month : Nat) : Nat :=
  if month = 2 then
    if year % 4 = 0 ∧ (year % 100 ≠ 0 ∨ year % 400 = 0) then 29 else 28
  else if month = 4 ∨ month = 6 ∨ month = 9 ∨ month = 11 then 30
  else 31

/-- The value of a decimal digit. -/
def readDigit : Reader Nat := do
  return (← Reader.one Char.isDigit).toNat - '0'.toNat

/-- A number of two digits, between two bounds. -/
def readTwo (low high : Nat) : Reader Nat := do
  let value := 10 * (← readDigit) + (← readDigit)
  if low ≤ value ∧ value ≤ high then return value else failure

/-- A day. -/
def readDate : Reader Date := do
  let year := 1000 * (← readDigit) + 100 * (← readDigit) + 10 * (← readDigit) + (← readDigit)
  Reader.char '-'
  let month ← readTwo 1 12
  Reader.char '-'
  let day ← readTwo 1 (daysIn year month)
  return { year, month, day }

/-- The fraction of a second. -/
def readFraction : Reader (List Char) := do
  Reader.char '.'
  let first ← Reader.one Char.isDigit
  return first :: (← Reader.run Char.isDigit)

/-- A time of day. -/
def readTime : Reader Time := do
  let hour ← readTwo 0 23
  Reader.char ':'
  let minute ← readTwo 0 59
  Reader.char ':'
  let second ← readTwo 0 60
  return { hour, minute, second, fraction := (← Reader.optional? readFraction).getD [] }

/-- An offset. -/
def readOffset : Reader Offset := do
  let sign ← Reader.one fun c => c == 'Z' || c == 'z' || c == '+' || c == '-'
  if sign = 'Z' ∨ sign = 'z' then return .universal
  let hours ← readTwo 0 23
  Reader.char ':'
  let minutes ← readTwo 0 59
  return .minutes (sign == '-') (60 * hours + minutes)

/-- What may follow a day. -/
def readTimeOfDay : Reader (Time × Option Offset) := do
  discard (Reader.one fun c => c == 'T' || c == 't' || c == ' ')
  return (← readTime, ← Reader.optional? readOffset)

/-- A date, a time, or both. -/
def readDateTime : Reader DateTime :=
  (do return .date (← readDate) (← Reader.optional? readTimeOfDay)) <|> (.time <$> readTime)

/-- The date or time that a literal is. -/
def DateTime.ofLiteral? (literal : List Char) : Option DateTime :=
  readDateTime.whole? literal

/-! ## Writing -/

/-- A number with zeros in front to fill a width. -/
def padded (width value : Nat) : String :=
  let digits := Nat.toDigits 10 value
  String.ofList (List.replicate (width - digits.length) '0' ++ digits)

/-- The text of a day. -/
def Date.text (date : Date) : String :=
  padded 4 date.year ++ "-" ++ padded 2 date.month ++ "-" ++ padded 2 date.day

/-- The text of a time of day. -/
def Time.text (time : Time) : String :=
  let fraction := ((time.fraction.take 9).reverse.dropWhile (· == '0')).reverse
  padded 2 time.hour ++ ":" ++ padded 2 time.minute ++ ":" ++ padded 2 time.second
    ++ (if fraction.isEmpty then "" else String.ofList ('.' :: fraction))

/-- The text of an offset. None at all counts as being ahead. -/
def Offset.text : Offset → String
  | universal => "Z"
  | minutes isBehind value =>
    (if isBehind && value != 0 then "-" else "+") ++ padded 2 (value / 60) ++ ":"
      ++ padded 2 (value % 60)

/-- The text of a date, a time, or both. -/
def DateTime.text : DateTime → String
  | date day none => day.text
  | date day (some (hour, none)) => day.text ++ "T" ++ hour.text
  | date day (some (hour, some offset)) => day.text ++ "T" ++ hour.text ++ offset.text
  | time hour => hour.text

end Toml

end FunctionCatalog
