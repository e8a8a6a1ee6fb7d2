/-
This file cuts a path into its segments and joins segments to a path. The slash at the start is
optional when a path is cut; what follows it is cut at every further slash, so that a slash at
the end leaves an empty segment, and the path that is only a slash has no segments at all.
-/

namespace Wayfinder.Path

/-- The segments of the characters after the leading slash. -/
def segmentsOf (characters : List Char) : List String :=
  match characters with
  | [] => []
  | _ => (characters.splitOn '/').map String.ofList

/-- The segments of a path. -/
def split (path : String) : List String :=
  match path.toList with
  | '/' :: rest => segmentsOf rest
  | characters => segmentsOf characters

/-- The path with the given segments: a slash, and the segments with a slash between any two. -/
def join (segments : List String) : String :=
  "/" ++ "/".intercalate segments

end Wayfinder.Path
