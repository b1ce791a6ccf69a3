import DriveHealth.Text.Regex
set_option autoImplicit false

/-!
Patterns for names. A pattern becomes the spelling of a regular expression: its text is quoted, a run of any
characters takes the place of each quoted star, and a dot that of each quoted question mark.
-/

namespace DriveHealth.Text

/-- Something else for each occurrence of a text in another, from the left and without overlap. What the
number counts belongs to the occurrence before. -/
def replaceFrom (old new : List Char) : Nat → List Char → List Char
  | _, [] => []
  | n + 1, _ :: cs => replaceFrom old new n cs
  | 0, c :: cs =>
    if old.isPrefixOf (c :: cs) then new ++ replaceFrom old new (old.length - 1) cs
    else c :: replaceFrom old new 0 cs

def replaceAll (old new cs : List Char) : List Char := replaceFrom old new 0 cs

/-- The spelling of a pattern, which has to match a whole text. -/
def regexText (escape : String → String) (p : String) : String :=
  String.ofList (['^'] ++ replaceAll "\\?".toList ".".toList (replaceAll "\\*".toList ".*".toList (escape p).toList)
    ++ ['$'])

def Regex.Library.ofPattern (lib : Library) (p : String) : Except Refusal lib.Compiled :=
  lib.compile (regexText lib.escape p)

end DriveHealth.Text
