import DriveHealth.Text.Blank
import DriveHealth.Text.Line
set_option autoImplicit false

namespace DriveHealth

structure Edition where
  package : String
  /-- The text for a program name; in full, or only the banner and the copyright line. -/
  describe : String → Bool → String

namespace Edition

def occurs (needle : List Char) : List Char → Bool
  | [] => needle.isEmpty
  | c :: cs => needle.isPrefixOf (c :: cs) || occurs needle cs

def joinLines (ls : List (List Char)) : String := String.ofList (['\n'].intercalate ls)

def banner (text : String) : String := String.ofList ((Text.lines text.toList).headD [])

def copyright (text : String) : String :=
  String.ofList (((Text.lines text.toList).find? "Copyright ".toList.isPrefixOf).getD [])

def license (text : String) : String :=
  joinLines (((Text.lines text.toList).dropWhile (!occurs " comes ".toList ·)).takeWhile (!·.isEmpty))

def buildInfo (package text : String) : String :=
  joinLines ((Text.lines text.toList).dropWhile (!package.toList.isPrefixOf ·))

def packageName : String := "smartmon-rs"

/-- What is settled when the library is compiled: its version, which begins with a digit, and what it is compiled for. -/
structure Build where
  version : String
  arch : String
  os : String
  debug : Bool
  version_begins : version.toList.head?.any Char.isDigit = true := by decide
  words : ∀ s ∈ [version, arch, os], Text.IsWord s := by decide

namespace Build

variable (b : Build)

def target : String := s!"{b.arch}-{b.os}"

def profile : String := if b.debug then "debug" else "release"

def features : String := if b.os = "linux" then "sg_io,nvme_ioctl" else "none"

end Build

def builtinHead (b : Build) (program : String) : String :=
  s!"{program} {b.version} [{b.target}] ({b.profile} build)\n" ++
    "Copyright (C) 2002-26, the smartmontools and smartmon-rs developers\n"

def builtinLicense (program : String) : String :=
  s!"\n{program} comes with ABSOLUTELY NO WARRANTY. This is free\n" ++
    "software, and you are welcome to redistribute it under\n" ++
    "the terms of the GNU General Public License; either version 2, or (at\n" ++
    "your option) any later version. See https://www.gnu.org for further details.\n\n"

def builtinBuild (b : Build) : String :=
  s!"{packageName} release {b.version}\n" ++
    s!"{packageName} build target: {b.target}\n" ++
    s!"{packageName} build profile: {b.profile}\n" ++
    s!"{packageName} build features: {b.features}\n"

def builtin (b : Build) : Edition where
  package := packageName
  describe program full :=
    if full then builtinHead b program ++ builtinLicense program ++ builtinBuild b
    else builtinHead b program

end Edition

end DriveHealth
