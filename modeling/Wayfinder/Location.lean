/-
This file cuts a link into the three parts of a location: the pathname up to the first question
mark or number sign, the search from the question mark, and the hash from the number sign. A
pathname always starts with a slash.
-/
import Wayfinder.Text.Blank

namespace Wayfinder

/-- A place in the application, as a link names it. -/
structure Location where
  pathname : String
  search : String
  hash : String
  deriving DecidableEq, Repr, Inhabited

namespace Location

/-- The characters with a slash in front, unless they have one. -/
def rooted : List Char → List Char
  | '/' :: rest => '/' :: rest
  | characters => '/' :: characters

/-- The location that a link names. Blank characters around the link do not count. -/
def parse (link : String) : Location :=
  let characters := Text.trimmed link.toList
  let beforeHash := characters.takeWhile (· != '#')
  { pathname := String.ofList (rooted (beforeHash.takeWhile (· != '?')))
    search := String.ofList (beforeHash.dropWhile (· != '?'))
    hash := String.ofList (characters.dropWhile (· != '#')) }

/-- The link that names a location. -/
def href (location : Location) : String :=
  location.pathname ++ location.search ++ location.hash

end Location

end Wayfinder
