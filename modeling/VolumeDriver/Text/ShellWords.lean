/-!
# Words of a command line

A text is split into words as a shell does it: blanks, tabs and line feeds separate, quotes and backslashes take away the
meaning of what they cover, and a `#` where a word could begin starts a comment. Nothing is expanded. A quote that is not closed
is the only error.
-/

namespace VolumeDriver.Text

/-- Where a reader of words stands. -/
inductive WordState where
  /-- Between words. -/
  | outside
  /-- Behind a backslash that may begin a word. -/
  | outsideEscape
  | comment
  | word
  | wordEscape
  | singleQuoted
  | doubleQuoted
  | doubleQuotedEscape
  deriving DecidableEq, Repr

/-- Whether a character separates words. -/
def separatesWords (c : Char) : Bool := c = ' ' || c = '\t' || c = '\n'

/-- Whether a backslash between double quotes takes the meaning of a character away; before any other it stands for itself. -/
def escapedInQuotes (c : Char) : Bool := c = '$' || c = '\x60' || c = '"' || c = '\\'

/-- Reads on from a state, with the characters of the word at hand in reverse. None if a quote is not closed. -/
def shellWordsFrom (word : List Char) : WordState → List Char → Option (List (List Char))
  | .outside, [] | .comment, [] => some []
  | .word, [] => some [word.reverse]
  | .outsideEscape, [] | .wordEscape, [] => some [('\\' :: word).reverse]
  | .singleQuoted, [] | .doubleQuoted, [] | .doubleQuotedEscape, [] => none
  | .outside, c :: cs =>
    if c = '\'' then shellWordsFrom word .singleQuoted cs
    else if c = '"' then shellWordsFrom word .doubleQuoted cs
    else if c = '\\' then shellWordsFrom word .outsideEscape cs
    else if separatesWords c then shellWordsFrom word .outside cs
    else if c = '#' then shellWordsFrom word .comment cs
    else shellWordsFrom (c :: word) .word cs
  | .comment, c :: cs => shellWordsFrom word (if c = '\n' then .outside else .comment) cs
  | .outsideEscape, c :: cs =>
    if c = '\n' then shellWordsFrom word .outside cs else shellWordsFrom (c :: word) .word cs
  | .word, c :: cs =>
    if c = '\'' then shellWordsFrom word .singleQuoted cs
    else if c = '"' then shellWordsFrom word .doubleQuoted cs
    else if c = '\\' then shellWordsFrom word .wordEscape cs
    else if separatesWords c then (word.reverse :: ·) <$> shellWordsFrom [] .outside cs
    else shellWordsFrom (c :: word) .word cs
  | .wordEscape, c :: cs =>
    if c = '\n' then shellWordsFrom word .word cs else shellWordsFrom (c :: word) .word cs
  | .singleQuoted, c :: cs =>
    if c = '\'' then shellWordsFrom word .word cs else shellWordsFrom (c :: word) .singleQuoted cs
  | .doubleQuoted, c :: cs =>
    if c = '"' then shellWordsFrom word .word cs
    else if c = '\\' then shellWordsFrom word .doubleQuotedEscape cs
    else shellWordsFrom (c :: word) .doubleQuoted cs
  | .doubleQuotedEscape, c :: cs =>
    if c = '\n' then shellWordsFrom word .doubleQuoted cs
    else if escapedInQuotes c then shellWordsFrom (c :: word) .doubleQuoted cs
    else shellWordsFrom (c :: '\\' :: word) .doubleQuoted cs

/-- The words of a command line. None if a quote is not closed. -/
def shellWords (s : String) : Option (List String) :=
  (shellWordsFrom [] .outside s.toList).map (·.map String.ofList)

end VolumeDriver.Text
