import Mathlib.Data.List.Infix

/-!
The text functions the service takes from its C++ libraries.

A `std::string` is a sequence of bytes; each character of a model string stands for one byte.
-/

namespace Fms

/-- The part of a text after its last mark, or all of it when the mark is absent. -/
def afterLast (mark : Char) (text : List Char) : List Char :=
  (text.reverse.takeWhile (· ≠ mark)).reverse

/-- The part of a text before its last mark. -/
def beforeLast (mark : Char) (text : List Char) : List Char :=
  ((text.reverse.dropWhile (· ≠ mark)).drop 1).reverse

/-- `Poco::Path::getFileName`: the last component of a path. -/
def getFileName (path : String) : String :=
  String.ofList (afterLast '/' path.toList)

/-- `Poco::Path::getExtension`: what follows the last dot of a file name. -/
def getExtension (path : String) : String :=
  let name := (getFileName path).toList
  if '.' ∈ name then String.ofList (afterLast '.' name) else ""

/-- `Poco::Path::getBaseName`: what precedes the last dot of a file name. -/
def getBaseName (path : String) : String :=
  let name := (getFileName path).toList
  if '.' ∈ name then String.ofList (beforeLast '.' name) else String.ofList name

/-- `std::string::substr(0, size - n)`: the unsigned difference wraps for a short text, keeping all of it. -/
def dropLast (n : Nat) (text : String) : String :=
  if text.toList.length < n then text else String.ofList (text.toList.take (text.toList.length - n))

/-- `std::string::find` succeeds: one text occurs in another. -/
def occursIn (needle text : String) : Bool :=
  decide (needle.toList <:+: text.toList)

/-- The characters `Poco::trim` removes. -/
def isTrimmed (c : Char) : Bool :=
  c = ' ' || (9 ≤ c.toNat && c.toNat ≤ 13)

/-- `Poco::trim`: a text without white space at its ends. -/
def trim (text : List Char) : List Char :=
  ((text.dropWhile isTrimmed).reverse.dropWhile isTrimmed).reverse

/-- `Poco::toLower`, which changes the letters of the ASCII range. -/
def toLower (text : String) : String :=
  String.ofList (text.toList.map Char.toLower)

/--
`Poco::StringTokenizer` with `TOK_TRIM`: the trimmed parts between separators.

A last part of white space alone yields no token, and neither does an empty text.
-/
def trimmedTokens (separator : Char) (text : String) : List String :=
  let tokens := (text.toList.splitOn separator).map fun part => String.ofList (trim part)
  let last := afterLast separator text.toList
  if trim last = [] ∧ (last ≠ [] ∨ text = "") then tokens.dropLast else tokens

/-- `Poco::StringTokenizer` without options: the parts between separators, and none of an empty text. -/
def stringTokens (separator : Char) (text : String) : List String :=
  if text = "" then [] else (text.toList.splitOn separator).map String.ofList

example : getBaseName "firmware/r1-upgrade.bin" = "r1-upgrade" := by decide
example : trimmedTokens '/' "r16399 / TIP-v2.5.0/ " = ["r16399", "TIP-v2.5.0"] := by decide

end Fms
