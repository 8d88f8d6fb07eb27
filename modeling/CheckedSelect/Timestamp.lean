import CheckedSelect.Text.Blank
import CheckedSelect.Text.Digits

/-!
# CheckedSelect.Timestamp

A day of the proleptic Gregorian calendar and a time of that day, without a time zone. A leap
second is the second 59 with a nanosecond from `10 ^ 9` on, and is written as second 60.

* `Date`, `ClockTime`, `Timestamp` - only existing dates and times can be built;
* `Timestamp.text` - with the separator as a parameter: a blank in statements, `T` in documents;
* `Timestamp.ofText?` - the form with `T`, with blanks allowed between its parts.
-/

namespace CheckedSelect

def isLeapYear (year : Int) : Bool :=
  year % 4 == 0 && (year % 100 != 0 || year % 400 == 0)

def daysInMonth (year : Int) (month : Nat) : Nat :=
  match month with
  | 2 => if isLeapYear year then 29 else 28
  | 4 | 6 | 9 | 11 => 30
  | _ => 31

structure Date where
  year : Int
  month : Nat
  day : Nat
  year_mem : -262143 ≤ year ∧ year ≤ 262142
  month_mem : 1 ≤ month ∧ month ≤ 12
  day_mem : 1 ≤ day ∧ day ≤ daysInMonth year month
  deriving DecidableEq, Repr

def nanosPerSecond : Nat := 1000000000

structure ClockTime where
  hour : Nat
  minute : Nat
  second : Nat
  nanosecond : Nat
  hour_lt : hour < 24
  minute_lt : minute < 60
  second_lt : second < 60
  nanosecond_lt : nanosecond < 1000000000 ∨ second = 59 ∧ nanosecond < 2000000000
  deriving DecidableEq, Repr

structure Timestamp where
  date : Date
  time : ClockTime
  deriving DecidableEq, Repr

namespace Date

def make? (year : Int) (month day : Nat) : Option Date :=
  if h : (-262143 ≤ year ∧ year ≤ 262142) ∧ (1 ≤ month ∧ month ≤ 12) ∧
      (1 ≤ day ∧ day ≤ daysInMonth year month) then
    some ⟨year, month, day, h.1, h.2.1, h.2.2⟩
  else none

/-- Four digits; a year that needs more, or one before year 0, has a sign. -/
def yearText (year : Int) : List Char :=
  let digits := Text.padded 10 4 year.natAbs
  if year < 0 then '-' :: digits
  else if 9999 < year then '+' :: digits
  else digits

def text (d : Date) : List Char :=
  yearText d.year ++ '-' :: Text.padded 10 2 d.month ++ '-' :: Text.padded 10 2 d.day

end Date

namespace ClockTime

def make? (hour minute second nanosecond : Nat) : Option ClockTime :=
  if h : hour < 24 ∧ minute < 60 ∧ second < 60 ∧
      (nanosecond < 1000000000 ∨ second = 59 ∧ nanosecond < 2000000000) then
    some ⟨hour, minute, second, nanosecond, h.1, h.2.1, h.2.2.1, h.2.2.2⟩
  else none

/-- Nothing for a whole second, else 3, 6 or 9 places, the fewest that are exact. -/
def fractionText (nanosecond : Nat) : List Char :=
  if nanosecond = 0 then []
  else if nanosecond % 1000000 = 0 then '.' :: Text.padded 10 3 (nanosecond / 1000000)
  else if nanosecond % 1000 = 0 then '.' :: Text.padded 10 6 (nanosecond / 1000)
  else '.' :: Text.padded 10 9 nanosecond

def text (t : ClockTime) : List Char :=
  Text.padded 10 2 t.hour ++ ':' :: Text.padded 10 2 t.minute ++
    ':' :: Text.padded 10 2 (t.second + t.nanosecond / nanosPerSecond) ++
    fractionText (t.nanosecond % nanosPerSecond)

end ClockTime

namespace Timestamp

def text (separator : Char) (t : Timestamp) : List Char :=
  t.date.text ++ separator :: t.time.text

/-! ## Reading -/

def skipBlanks (text : List Char) : List Char := text.dropWhile Text.isBlank

/-- A number of at most `limit` digits, blanks before it skipped. -/
def part? (limit : Nat) (text : List Char) : Option (Nat × List Char) :=
  Text.number? limit (skipBlanks text)

/-- A mark between two parts, blanks before it skipped. -/
def mark? (c : Char) (text : List Char) : Option (List Char) :=
  match skipBlanks text with
  | d :: rest => if d = c then some rest else none
  | [] => none

/-- With a sign a year has any number of digits, without one at most four. -/
def year? (text : List Char) : Option (Int × List Char) :=
  match skipBlanks text with
  | '-' :: rest => (Text.number? rest.length rest).map fun (n, after) => (-n, after)
  | '+' :: rest => (Text.number? rest.length rest).map fun (n, after) => (n, after)
  | rest => (Text.number? 4 rest).map fun (n, after) => (n, after)

/-- Nanoseconds after a point; places beyond the ninth are dropped. -/
def fraction? (text : List Char) : Option (Nat × List Char) :=
  match text with
  | '.' :: rest =>
    match Text.digitRun 9 rest with
    | ([], _) => none
    | (digits, after) =>
      some (Text.decimalValue digits * Nat.pow 10 (9 - digits.length), after.dropWhile Char.isDigit)
  | _ => some (0, text)

def ofText? (text : List Char) : Option Timestamp := do
  let (year, text) ← year? text
  let text ← mark? '-' text
  let (month, text) ← part? 2 text
  let text ← mark? '-' text
  let (day, text) ← part? 2 text
  let text ← mark? 'T' text
  let (hour, text) ← part? 2 text
  let text ← mark? ':' text
  let (minute, text) ← part? 2 text
  let text ← mark? ':' text
  let (second, text) ← part? 2 text
  let (nanosecond, text) ← fraction? text
  guard (skipBlanks text).isEmpty
  let date ← Date.make? year month day
  let time ←
    if second = 60 then ClockTime.make? hour minute 59 (nanosPerSecond + nanosecond)
    else ClockTime.make? hour minute second nanosecond
  return ⟨date, time⟩

end Timestamp

end CheckedSelect
