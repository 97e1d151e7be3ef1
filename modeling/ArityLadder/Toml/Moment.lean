/-!
# Dates and times

The written forms of a date, a time of day, and the two together.  A date must
exist in the calendar, the seconds of a time may be left out, and only a date with
a time may have an offset.
-/

namespace ArityLadder

namespace Toml

/-- The number of two digits, and the text behind them. -/
def twoDigits? : List Char → Option (Nat × List Char)
  | a :: b :: rest =>
    if a.isDigit ∧ b.isDigit then
      some (10 * (a.toNat - '0'.toNat) + (b.toNat - '0'.toNat), rest)
    else none
  | _ => none

/-- Whether a year has a 29th of February. -/
def isLeapYear (year : Nat) : Bool := year % 4 == 0 && (year % 100 != 0 || year % 400 == 0)

/-- The number of days of a month. -/
def daysOf (year month : Nat) : Nat :=
  if month = 2 then if isLeapYear year then 29 else 28
  else if month = 4 ∨ month = 6 ∨ month = 9 ∨ month = 11 then 30
  else 31

/-- The text behind a date. -/
def date? (text : List Char) : Option (List Char) := do
  let (century, rest) ← twoDigits? text
  let (decade, rest) ← twoDigits? rest
  let '-' :: rest := rest | none
  let (month, rest) ← twoDigits? rest
  let '-' :: rest := rest | none
  let (day, rest) ← twoDigits? rest
  if 1 ≤ month ∧ month ≤ 12 ∧ 1 ≤ day ∧ day ≤ daysOf (100 * century + decade) month then
    some rest
  else none

/-- The text behind the fraction of a second, which may be absent. -/
def fraction? : List Char → Option (List Char)
  | '.' :: rest =>
    if (rest.takeWhile Char.isDigit).isEmpty then none else some (rest.dropWhile Char.isDigit)
  | text => some text

/-- The text behind a time of day. -/
def time? (text : List Char) : Option (List Char) := do
  let (hour, rest) ← twoDigits? text
  let ':' :: rest := rest | none
  let (minute, rest) ← twoDigits? rest
  if 23 < hour ∨ 59 < minute then none
  else
    match rest with
    | ':' :: rest =>
      let (second, rest) ← twoDigits? rest
      if 60 < second then none else fraction? rest
    | rest => some rest

/-- Whether a text is an offset from universal time, or nothing. -/
def isOffset : List Char → Bool
  | [] => true
  | ['Z'] => true
  | ['z'] => true
  | sign :: text =>
    (sign == '+' || sign == '-') &&
      match twoDigits? text with
      | some (hour, ':' :: rest) =>
        match twoDigits? rest with
        | some (minute, []) => hour ≤ 23 && minute ≤ 59
        | _ => false
      | _ => false

/-- Whether a text is a time of day with an offset or without. -/
def isTimeWithOffset (text : List Char) : Bool :=
  match time? text with
  | some rest => isOffset rest
  | none => false

/-- Whether a text is a date, a time of day, or the two joined by `T` or a space. -/
def isMoment (text : List Char) : Bool :=
  time? text == some [] ||
    match date? text with
    | some [] => true
    | some (c :: rest) => (c == 'T' || c == 't' || c == ' ') && isTimeWithOffset rest
    | none => false

end Toml

end ArityLadder
