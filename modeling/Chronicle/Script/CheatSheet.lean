/-!
# The cheat sheet

A summary of the standard dialect on one page.
-/

namespace Chronicle.Script

def cheatSheetLines : List String := [
  "# Chronoline cheatsheet",
  "",
  "- [2020] Event on a single date",
  "- [2020-03~2021-06-15] Event spanning a range",
  "- [2020] Event #blue              (color/tag)",
  "- [2020] Event \x7bTeam A\x7d           (group / lane)",
  "- [2020] Event | A description    (hover text)",
  "- [2020] Event | See [[Some note]] (link, resolved by the host)",
  "@ [2020~2022] Period drawn as a background band",
  "* [2021-05-04] Point",
  "= [2022-01-01T12:00] Marker line with a label",
  "# Comment lines start with '#'",
  "",
  "> ORDERBY start|-content     (sort keys: start end content color group description)",
  "> DEFAULTVIEW 2019|2023       (initial visible window)",
  "> NOTODAY                     (hide the current-time line)",
  "> HEIGHT 300                  (height in pixels)",
  "",
  "Dates: YYYY[-MM[-DD[THH[:MM[:SS]]]]][Z]; a leading '-' marks a negative year (-0044-03-15)."]

/-- The cheat sheet, with a line end behind each of its lines. -/
def cheatSheet : String := String.join (cheatSheetLines.map fun line => line ++ "\n")

end Chronicle.Script
