import Chronicle.Text.Blank
import Chronicle.Text.Case
import Chronicle.Text.Sorted

/-!
# Locale codes

A locale code is a language with optional subtags, such as `en`, `zh-tw` or `AR_EG`.  Codes are
compared in *canonical* spelling: no blanks around, hyphens for underscores, lower case.

The known codes come in two lists by the direction of their writing.  A code that is not listed takes
its direction from its base language.
-/

namespace Chronicle.Locale

open Chronicle.Text

/-! ## Spelling -/

def canonical (code : String) : String :=
  String.ofList (lower ((trim code.toList).map fun c => if c = '_' then '-' else c))

/-- The language of a code, its first subtag. -/
def baseLanguage (code : String) : String :=
  String.ofList ((canonical code).toList.takeWhile (· != '-'))

/-! ## Direction -/

/-- The known codes written from right to left. -/
def rightToLeftCodes : List String := ["ar", "fa", "he", "ks", "ku", "ur", "yi"]

/-- The known codes written from left to right. -/
def leftToRightCodes : List String := [
  "af", "az", "be", "bg", "bn", "bs", "ca", "cs", "cy", "da", "de", "el", "en", "eo", "es", "et",
  "eu", "fi", "fr", "ga", "gl", "gu", "hi", "hr", "hu", "hy", "id", "is", "it", "ja", "jv", "ka",
  "kk", "km", "kn", "ko", "ky", "la", "lb", "lo", "lt", "lv", "mg", "mi", "mk", "ml", "mn", "mr",
  "ms", "mt", "my", "nb", "ne", "nl", "nn", "pl", "pt", "ro", "ru", "si", "sk", "sl", "so", "sq",
  "sr", "su", "sv", "sw", "ta", "te", "th", "tr", "uk", "vi", "xh", "zh-cn", "zh-tw", "zu"]

/-- Whether a locale is written from right to left, judged by its code or its language. -/
def isRightToLeft (code : String) : Bool :=
  rightToLeftCodes.contains (canonical code) || rightToLeftCodes.contains (baseLanguage code)

/-! ## Known codes -/

/-- The known codes and the given ones, in code point order and without repetition. -/
def knownCodes (extra : List String) : List String :=
  sortedTexts (rightToLeftCodes ++ leftToRightCodes ++ extra.map canonical)

end Chronicle.Locale
