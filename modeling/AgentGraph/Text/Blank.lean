/-!
White space and lines. White space is the Unicode property White_Space; a line
ends before a line feed, and one carriage return before it is dropped too.
-/

namespace AgentGraph.Text

/-- The 25 characters with the property White_Space. -/
def isBlank (c : Char) : Bool :=
  let code := c.toNat
  (0x09 ≤ code && code ≤ 0x0D) || code == 0x20 || code == 0x85 ||
    code == 0xA0 || code == 0x1680 || (0x2000 ≤ code && code ≤ 0x200A) ||
    code == 0x2028 || code == 0x2029 || code == 0x202F || code == 0x205F ||
    code == 0x3000

def dropBlank (text : List Char) : List Char :=
  text.dropWhile isBlank

def dropBlankEnd (text : List Char) : List Char :=
  (dropBlank text.reverse).reverse

def trimEnd (text : String) : String :=
  String.ofList (dropBlankEnd text.toList)

def trim (text : String) : String :=
  String.ofList (dropBlankEnd (dropBlank text.toList))

def isBlankText (text : String) : Bool :=
  text.toList.all isBlank

def trimmedOr (value fallback : String) : String :=
  if isBlankText value then fallback else trim value

def dropReturn : List Char → List Char
  | '\r' :: line => line
  | line => line

/-- The lines of `text`, where `line` holds the open line in reverse. -/
def linesAfter (line : List Char) : List Char → List String
  | [] => if line.isEmpty then [] else [String.ofList line.reverse]
  | '\n' :: rest => String.ofList (dropReturn line).reverse :: linesAfter [] rest
  | c :: rest => linesAfter (c :: line) rest

/-- The lines of `text`; a line feed at the very end opens no further line. -/
def lines (text : String) : List String :=
  linesAfter [] text.toList

/-- Every line that is not blank with `indent` in front; blank lines are empty. -/
def indentedLines (indent text : String) : List String :=
  (lines text).map fun line => if isBlankText line then "" else indent ++ line

end AgentGraph.Text
