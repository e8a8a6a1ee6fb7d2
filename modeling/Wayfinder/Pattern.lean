/-
This file defines route patterns: paths in which a segment may be a parameter. It reads a
pattern from its text, matches a path against it, and compares two patterns -- whether one
covers all that the other matches, and whether some path matches both.
-/
import Wayfinder.Path
import Wayfinder.TextMap

namespace Wayfinder

/-- A segment of a pattern: a literal that a path has to repeat, or a named parameter. -/
inductive Segment where
  | literal (text : String)
  | parameter (name : String)
  deriving DecidableEq, Repr

/-- How a segment is written in a pattern. -/
def Segment.text : Segment → String
  | literal text => text
  | parameter name => ":" ++ name

/-- A route pattern, as the list of its segments. -/
structure Pattern where
  segments : List Segment
  deriving DecidableEq, Repr

/-- Why a text is no pattern. -/
inductive PatternError where
  | noLeadingSlash
  | emptySegment
  | unnamedParameter
  | repeatedParameter (name : String)
  deriving DecidableEq, Repr

/-- What is wrong with the text of a pattern, in words. -/
def PatternError.message : PatternError → String
  | noLeadingSlash => "must start with '/'"
  | emptySegment => "contains an empty segment"
  | unnamedParameter => "parameter name is empty"
  | repeatedParameter name => "parameter :" ++ name ++ " appears more than once"

namespace Pattern

/-! ### Text -/

/-- The text of a pattern: a slash, and the segments as they are written, with a slash between any
two. It is not kept apart from the segments: it is the text that the pattern was read from. -/
def text (pattern : Pattern) : String :=
  Path.join (pattern.segments.map Segment.text)

/-- The name of a segment that is a parameter. -/
def parameterName? : Segment → Option String
  | .literal _ => none
  | .parameter name => some name

/-- The names of the parameters, from left to right. -/
def parameterNames (pattern : Pattern) : List String :=
  pattern.segments.filterMap parameterName?

/-- The segment that one part of a pattern's text stands for, given the parameter names used
further left. -/
def readSegment (used : List String) (part : String) : Except PatternError Segment :=
  match part.toList with
  | [] => .error .emptySegment
  | [':'] => .error .unnamedParameter
  | ':' :: rest =>
    let name := String.ofList rest
    if name ∈ used then .error (.repeatedParameter name) else .ok (.parameter name)
  | _ => .ok (.literal part)

/-- The segments that the parts of a pattern's text stand for, given the parameter names used
further left. The error is that of the leftmost bad part. -/
def readSegments (used : List String) : List String → Except PatternError (List Segment)
  | [] => .ok []
  | part :: rest =>
    match readSegment used part with
    | .error error => .error error
    | .ok segment =>
      match readSegments ((parameterName? segment).toList ++ used) rest with
      | .error error => .error error
      | .ok segments => .ok (segment :: segments)

/-- The pattern that a text stands for. -/
def parse (text : String) : Except PatternError Pattern :=
  match text.toList with
  | '/' :: _ => (readSegments [] (Path.split text)).map Pattern.mk
  | _ => .error .noLeadingSlash

/-! ### Matching -/

/-- The parameters that segments capture from the parts of a path. A literal has to be repeated
exactly, and a parameter takes any part that is not empty. -/
def capture : List Segment → List String → Option TextMap
  | [], [] => some TextMap.empty
  | .literal text :: segments, part :: parts =>
    if text = part then capture segments parts else none
  | .parameter name :: segments, part :: parts =>
    if part = "" then none else (capture segments parts).map (·.insert name part)
  | _, _ => none

/-- The parameters that a pattern captures from a path, if the path matches. -/
def match? (pattern : Pattern) (path : String) : Option TextMap :=
  capture pattern.segments (Path.split path)

/-! ### Comparison -/

/-- Whether a segment takes every part that another one takes. -/
def segmentCovers : Segment → Segment → Bool
  | .parameter _, _ => true
  | .literal first, .literal second => first == second
  | .literal _, .parameter _ => false

/-- Whether some part is taken by both segments. -/
def segmentOverlaps : Segment → Segment → Bool
  | .literal first, .literal second => first == second
  | _, _ => true

/-- Whether two lists have the same length and a relation holds between them pair by pair. -/
def pairwiseAll (relation : Segment → Segment → Bool) : List Segment → List Segment → Bool
  | [], [] => true
  | first :: firsts, second :: seconds =>
    relation first second && pairwiseAll relation firsts seconds
  | _, _ => false

/-- Whether a pattern matches every path that another one matches. -/
def covers (general special : Pattern) : Bool :=
  pairwiseAll segmentCovers general.segments special.segments

/-- Whether some path matches both patterns. -/
def overlaps (first second : Pattern) : Bool :=
  pairwiseAll segmentOverlaps first.segments second.segments

end Pattern

end Wayfinder
