import Tenancy.Url.Percent

/-!
# Paths of URLs

A path is a list of segments between slashes. A segment of one dot stands for nothing and one of two
dots takes back the segment before it, but never a drive letter; `resolve` carries that out. In a
`file` URL a drive letter is written with a colon, and stands alone when it opens the path.
-/

namespace Tenancy.Url

/-- The segment with each encoded dot written as a dot. -/
def plainDots : List Char → List Char
  | '%' :: '2' :: c :: cs =>
    if c = 'e' ∨ c = 'E' then '.' :: plainDots cs else '%' :: '2' :: plainDots (c :: cs)
  | c :: cs => c :: plainDots cs
  | [] => []

/-- Whether a segment stands for nothing. -/
def isHere (segment : List Char) : Bool := plainDots segment = ['.']

/-- Whether a segment takes back the one before it. -/
def isUp (segment : List Char) : Bool := plainDots segment = ['.', '.']

/-- Whether a segment is a drive letter: a letter with a colon or a bar. -/
def isDrive : List Char → Bool
  | [letter, mark] => letter.isAlpha && (mark = ':' || mark = '|')
  | _ => false

/-- A drive letter with its colon; any other segment as it is. -/
def driveForm (segment : List Char) : List Char :=
  if isDrive segment then segment.take 1 ++ [':'] else segment

/-- The segments without the last one, which is given first, unless that is a drive letter. -/
def parent : List (List Char) → List (List Char)
  | [] => []
  | last :: before => if isDrive last then last :: before else before

/-- The segments that `raw` leads to from `before`, which is given last segment first. A dot segment
at the end leaves an empty one. -/
def resolve (before : List (List Char)) (raw : List (List Char)) : List (List Char) :=
  match raw with
  | [] => before.reverse
  | [last] =>
    if isUp last then (parent before).reverse ++ [[]]
    else if isHere last then before.reverse ++ [[]]
    else before.reverse ++ [last]
  | segment :: rest =>
    if isUp segment then resolve (parent before) rest
    else if isHere segment then resolve before rest
    else resolve (segment :: before) rest

/-- The resolved segments of a `file` URL: a path that opens with a drive letter goes on after it as
after a slash, and empty segments in front are dropped. -/
def resolveFile (raw : List (List Char)) : List (List Char) :=
  let resolved :=
    match raw with
    | (letter :: ':' :: c :: cs) :: rest =>
      if letter.isAlpha then
        let opening := [c :: cs, [letter, ':']]
        if rest = [] then opening.reverse else resolve opening (rest.map driveForm)
      else resolve [] (raw.map driveForm)
    | _ => resolve [] (raw.map driveForm)
  match resolved.dropWhile (· = []) with
  | [] => [[]]
  | segments => segments

/-- A character of a path that is written as bytes. -/
def isPathSpecial (c : Char) : Bool :=
  c ∈ [' ', '"', '<', '>', '\x60', '#', '?', '\x7b', '\x7d']

/-- The text of a path with its segments, after a slash each. -/
def pathText (segments : List (List Char)) : List Char :=
  segments.flatMap fun s => '/' :: percentEncode isPathSpecial s

end Tenancy.Url
