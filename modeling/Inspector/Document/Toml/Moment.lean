import Inspector.Number.Numeral
import Inspector.Text.Segment

/-!
# Dates and times of a TOML document

A moment is a date, a time of day, or a date and a time of day, which may then
say how far it is from universal time. No description holds a moment, so this
module only tells moments from other texts. Every number has its full width, and
a date is one of the calendar.
-/

namespace Inspector.Document.Toml

open Number (digitsValue)

/-- The number that a text of so many digits stands for. -/
def ofWidth? (width : Nat) (text : List Char) : Option Nat :=
  if text.length = width && text.all Char.isDigit then some (digitsValue text) else none

/-- Whether a text is a number of two digits up to a limit. -/
def isUpTo (limit : Nat) (text : List Char) : Bool :=
  match ofWidth? 2 text with
  | some n => n ≤ limit
  | none => false

/-! ## Dates -/

/-- Whether a year has a 29th of February. -/
def isLeap (year : Nat) : Bool :=
  year % 4 = 0 && (year % 100 ≠ 0 || year % 400 = 0)

/-- The days of a month, of which a number that is no month has none. -/
def daysIn (year month : Nat) : Nat :=
  if month = 2 then if isLeap year then 29 else 28
  else if month ∈ [4, 6, 9, 11] then 30
  else if 1 ≤ month && month ≤ 12 then 31
  else 0

/-- Whether a text is a date: year, month and day. -/
def isDate (text : List Char) : Bool :=
  match Text.segments '-' text with
  | [year, month, day] =>
    match ofWidth? 4 year, ofWidth? 2 month, ofWidth? 2 day with
    | some year, some month, some day => 1 ≤ day && day ≤ daysIn year month
    | _, _, _ => false
  | _ => false

/-! ## Times of day -/

/-- Whether a text is an hour and a minute, in their two pieces. -/
def isHourMinute (hour minute : List Char) : Bool :=
  isUpTo 23 hour && isUpTo 59 minute

/-- Whether a text is the seconds of a time, a leap second among them, with or
without a fraction. -/
def isSeconds (text : List Char) : Bool :=
  match Text.segments '.' text with
  | [whole] => isUpTo 60 whole
  | [whole, fraction] => isUpTo 60 whole && !fraction.isEmpty && fraction.all Char.isDigit
  | _ => false

/-- Whether a text is a time of day. The seconds may be missing. -/
def isClock (text : List Char) : Bool :=
  match Text.segments ':' text with
  | [hour, minute] => isHourMinute hour minute
  | [hour, minute, seconds] => isHourMinute hour minute && isSeconds seconds
  | _ => false

/-- Begins the distance from universal time. -/
def beginsOffset (c : Char) : Bool :=
  c == 'Z' || c == 'z' || c == '+' || c == '-'

/-- Whether a text is a distance from universal time. -/
def isOffset (text : List Char) : Bool :=
  match text with
  | ['Z'] | ['z'] => true
  | '+' :: distance | '-' :: distance =>
    match Text.segments ':' distance with
    | [hour, minute] => isHourMinute hour minute
    | _ => false
  | _ => false

/-- Whether a text is a time of day with its distance from universal time, which
may be missing. -/
def isPlacedClock (text : List Char) : Bool :=
  let offset := text.dropWhile fun c => !beginsOffset c
  isClock (text.takeWhile fun c => !beginsOffset c) && (offset.isEmpty || isOffset offset)

/-! ## Moments -/

/-- The number of characters of a date. -/
def dateWidth : Nat := 10

/-- Whether a text is a moment. -/
def isMoment (text : List Char) : Bool :=
  isClock text ||
    isDate (text.take dateWidth) &&
      match text.drop dateWidth with
      | [] => true
      | mark :: clock => (mark == 'T' || mark == 't' || mark == ' ') && isPlacedClock clock

end Inspector.Document.Toml
