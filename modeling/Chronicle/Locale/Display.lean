import Chronicle.Locale.Names

/-!
# Dates and ranges for display

A date, or a range of two dates, becomes a short text in the way of a locale.  The first rule that
fits is used.

* A single date that starts a year is that year.
* A single date, or two on one day, is a full date.
* Two dates in one month share the month: `Jun 1-20, 2023`.
* Two dates that both start a year are `2020 - 2022`, in every locale.
* Any other two dates are two full dates with a hyphen between.

From right to left the day comes first, and a left-to-right mark stands before the month and before
the year, so that the digits keep their order.

`render` uses the names it is given.  It fails when one of the lookups does, and also when a number cannot be written.
`display` then starts again with plain names, so that one text never mixes two sources.
-/

namespace Chronicle.Locale

open Chronicle.Calendar Chronicle.Text

/-! ## Layout -/

/-- The mark that keeps digits in order between letters written from right to left. -/
def leftToRightMark : String := "\u200e"

def yearSuffix (language : String) : String :=
  if language = "ja" ∨ language = "zh" then "年"
  else if language = "ko" then "년"
  else if language = "ru" then "\u202fг."
  else ""

def yearLabel (year language : String) : String := year ++ yearSuffix language

/-- Days, month and year in the order used from right to left. -/
def rightToLeftDate (days month year : String) : String :=
  days ++ " " ++ leftToRightMark ++ month ++ " " ++ leftToRightMark ++ year

/-- Two days of one month, in the order of a language written from left to right. -/
def daysOfMonth (first last month year language : String) : String :=
  let days := first ++ "-" ++ last
  if language = "en" then month ++ " " ++ days ++ ", " ++ year
  else if language = "ja" ∨ language = "zh" then
    yearLabel year language ++ month ++ first ++ "~" ++ last ++ "日"
  else if language = "ko" then
    yearLabel year language ++ " " ++ month ++ " " ++ first ++ "~" ++ last ++ "일"
  else if language = "ru" then days ++ " " ++ month ++ " " ++ yearLabel year language
  else days ++ " " ++ month ++ " " ++ year

/-! ## Rendering -/

def fullDateText (names : DateNames) (m : Moment) (code : String) (rightToLeft : Bool) :
    Option String :=
  if rightToLeft then do
    return rightToLeftDate (← showInt? m.day) (← names.monthName m.month code) (← showInt? m.year)
  else names.fullDate m code

/-- Two dates of one month. -/
def daysOfMonthText (names : DateNames) (start stop : Moment) (code : String)
    (rightToLeft : Bool) : Option String := do
  let month ← names.monthName start.month code
  let first ← showInt? start.day
  let last ← showInt? stop.day
  let year ← showInt? start.year
  if rightToLeft then return rightToLeftDate (first ++ "-" ++ last) month year
  else return daysOfMonth first last month year (baseLanguage code)

/-- The text of a single date. -/
def renderDate (names : DateNames) (start : Moment) (code : String) (rightToLeft : Bool) :
    Option String :=
  if start.isYearStart then do
    let year ← showInt? start.year
    return if rightToLeft then year else yearLabel year (baseLanguage code)
  else fullDateText names start code rightToLeft

/-- The text of two dates. -/
def renderRange (names : DateNames) (start stop : Moment) (code : String) (rightToLeft : Bool) :
    Option String :=
  if start.sameDay stop then fullDateText names start code rightToLeft
  else if start.sameMonth stop then daysOfMonthText names start stop code rightToLeft
  else if start.isYearStart && stop.isYearStart then do
    return (← showInt? start.year) ++ " - " ++ (← showInt? stop.year)
  else do
    let first ← fullDateText names start code rightToLeft
    let last ← fullDateText names stop code rightToLeft
    return first ++ " - " ++ last

/-- The text of a date or a range, made with these names only. -/
def render (names : DateNames) (start : Moment) (stop : Option Moment) (code : String) :
    Option String := do
  let rightToLeft ← names.isRightToLeft code
  match stop with
  | none => renderDate names start code rightToLeft
  | some stop => renderRange names start stop code rightToLeft

/-! ## Display -/

/-- The names of a service, or the usual ones where there is none that counts. -/
def activeNames (usual : DateNames) : Option Service → DateNames
  | none => usual
  | some service => if service.isTruthy then service.toDateNames else usual

/-- The text of a date or a range, in plain names where rendering it fails. -/
def display (usual : DateNames) (service : Option Service) (start : Moment) (stop : Option Moment)
    (code : String) : Option String :=
  (render (activeNames usual service) start stop code).or (render plainNames start stop code)

end Chronicle.Locale
