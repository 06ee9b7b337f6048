import PriceHistory.Web.Percent

/-!
Paths of URLs: segments after slashes, with dots followed, or a text that is not parted. The paths
of files know drives: a letter and a colon at the front that two dots never leave.
-/
namespace PriceHistory.Web

/-- The path of a URL. -/
inductive Path where
  | segments (parts : List String)
  | unparted (text : String)
  deriving DecidableEq

namespace Path

/-- The path as it is written. -/
def text : Path → String
  | unparted text => text
  | segments parts => String.join (parts.map ("/" ++ ·))

/-- Would the path, written after a scheme, seem to start with a host? -/
def looksLikeHost : Path → Bool
  | segments ("" :: _ :: _) => true
  | _ => false

/-- Is this segment a dot, written out or encoded? -/
def isDot (segment : List Char) : Bool :=
  let s := String.ofList (segment.map Char.toLower)
  s == "." || s == "%2e"

/-- Is this segment two dots, written out or encoded? -/
def isDoubleDot (segment : List Char) : Bool :=
  let s := String.ofList (segment.map Char.toLower)
  s == ".." || s == ".%2e" || s == "%2e." || s == "%2e%2e"

/-- The letter of a segment that names a drive: a letter, and then a colon or a bar. -/
def drive? : List Char → Option Char
  | [letter, mark] => if letter.isAlpha && (mark == ':' || mark == '|') then some letter else none
  | _ => none

/-- The segments above, after two dots: one fewer, but a drive is not left. -/
def climb (above : List String) : List String :=
  if ((above.getLast?.bind fun last => drive? last.toList)).isSome then above else above.dropLast

/-- A segment as it is written. At the front of a file's path a drive is written with a colon. -/
def written (isFile : Bool) (above : List String) (segment : List Char) : String :=
  match drive? segment, isFile && above.isEmpty with
  | some letter, true => String.ofList [letter, ':']
  | _, _ => String.ofList (percentEncode pathSet segment)

/-- Follows the segments of a path from the segments above. A dot stays where it is, two dots go
one segment up, and either at the end leaves an empty segment. -/
def resolve (isFile : Bool) (above : List String) : List (List Char) → List String
  | [] => above
  | segment :: rest =>
    let ended := if rest = [] then [""] else []
    if isDoubleDot segment then resolve isFile (climb above ++ ended) rest
    else if isDot segment then resolve isFile (above ++ ended) rest
    else resolve isFile (above ++ [written isFile above segment]) rest

/-- The characters that part segments; a backslash does so in special schemes. -/
def isSlash (special : Bool) (c : Char) : Bool :=
  c == '/' || special && c == '\\'

/-- What follows the slash at the front of a path, if it has one. -/
def afterSlash (special : Bool) : List Char → List Char
  | [] => []
  | c :: rest => if isSlash special c then rest else c :: rest

/-- Reads the path of a URL whose path is parted. It may be missing in a scheme that is not
special. -/
def read (special : Bool) (cs : List Char) : Path :=
  if cs = [] ∧ !special then .segments []
  else .segments (resolve false [] ((afterSlash special cs).splitOnP (isSlash special)))

/-- Follows the segments of a file's path. -/
def fileSegments (cs : List Char) : List String :=
  resolve true [] (cs.splitOnP (isSlash true))

/-- Do the segments of a file's path start with a drive? -/
def hasDrive (parts : List String) : Bool :=
  (parts.head?.bind fun first => drive? first.toList).isSome

/-- The path of a file: no slash follows the one at its front. -/
def ofFileSegments (parts : List String) : Path :=
  match parts.dropWhile (· = "") with
  | [] => .segments [""]
  | parts => .segments parts

end Path

end PriceHistory.Web
