import GridSetup.Toml.Token

/-!
# Dates and times

A date is a year, a month and a day, a time of day is hours, minutes and seconds with an optional
fraction, and the two may stand together, with a `T` or a blank between them and an offset of the
time zone behind. A document does not need to know what a date is, only where it ends, so the
readers here give the rest of the text.

Dates are written in two places, as a value of a document and as text that is to stand for a date
(`isDateText`). Both have the same limits: a time ends before hour 24, and so does an offset.
-/

namespace GridSetup.Toml

/-- Two digits as a number. -/
def twoDigits : Reader Nat
  | a :: b :: cs => (Decimal.readDigits [a, b]).map fun n => (n, cs)
  | _ => none

/-- The number of days in a month. -/
def daysInMonth (year month : Nat) : Nat :=
  if month = 2 then
    if (year % 4 = 0 ∧ year % 100 ≠ 0) ∨ year % 400 = 0 then 29 else 28
  else if month ∈ [4, 6, 9, 11] then 30
  else 31

/-- The text after a date at its start. -/
def skipDate (cs : List Char) : Option (List Char) := do
  let (high, rest) ← twoDigits cs
  let (low, rest) ← twoDigits rest
  let year := 100 * high + low
  match rest with
  | '-' :: rest =>
    let (month, rest) ← twoDigits rest
    match rest with
    | '-' :: rest =>
      let (day, rest) ← twoDigits rest
      if 1 ≤ month ∧ month ≤ 12 ∧ 1 ≤ day ∧ day ≤ daysInMonth year month then some rest else none
    | _ => none
  | _ => none

/-- Hours and minutes with a colon between them. -/
def hoursMinutes : Reader (Nat × Nat) := fun cs => do
  let (hour, rest) ← twoDigits cs
  match rest with
  | ':' :: rest =>
    let (minute, rest) ← twoDigits rest
    return ((hour, minute), rest)
  | _ => none

/-- The text after a time of day at its start. -/
def skipTime (cs : List Char) : Option (List Char) := do
  let ((hour, minute), rest) ← hoursMinutes cs
  match rest with
  | ':' :: rest =>
    let (second, rest) ← twoDigits rest
    if hour ≤ 23 ∧ minute ≤ 59 ∧ second ≤ 60 then
      match rest with
      | '.' :: fraction =>
        if (fraction.takeWhile Char.isDigit).isEmpty then none
        else some (fraction.dropWhile Char.isDigit)
      | _ => some rest
    else none
  | _ => none

/-- The text after the offset of a time zone at its start, if there is one. -/
def skipOffset (cs : List Char) : Option (List Char) :=
  match cs with
  | 'Z' :: rest => some rest
  | 'z' :: rest => some rest
  | c :: rest =>
    if c = '+' ∨ c = '-' then do
      let ((hour, minute), rest) ← hoursMinutes rest
      if hour ≤ 23 ∧ minute ≤ 59 then some rest else none
    else some cs
  | [] => some []

/-- The text after a date, a time, or both at its start. -/
def skipDateTime (cs : List Char) : Option (List Char) :=
  match skipDate cs with
  | some (c :: rest) =>
    if c = 'T' ∨ c = 't' ∨ (c = ' ' ∧ (twoDigits rest).isSome) then
      (skipTime rest).bind skipOffset
    else some (c :: rest)
  | some [] => some []
  | none => skipTime cs

/-- Whether a whole text stands for a date, a time, or both. -/
def isDateText (cs : List Char) : Bool :=
  skipDateTime cs == some []

end GridSetup.Toml
