import StorageGate.Text.Percent
/-!
# Paths

The path of a URL is a list of segments.  A segment of one dot stands for nothing and one of two dots takes the segment
before it away, unless that is a drive; either leaves an empty segment behind where it ends the path.  A dot may be
written `%2e`.  A drive at the front of a file's path is written with a colon.
-/
namespace StorageGate
namespace Path

/-- Whether a segment stands for the segments before it. -/
def isSingleDot (segment : List Char) : Bool :=
  segment = ['.'] || segment.map Char.toLower = "%2e".toList

/-- Whether a segment takes the one before it away. -/
def isDoubleDot (segment : List Char) : Bool :=
  ["..", "%2e.", ".%2e", "%2e%2e"].any fun s => segment.map Char.toLower = s.toList

/-- Whether a segment is the letter of a drive and a colon or a bar. -/
def isDrive (segment : List Char) : Bool :=
  match segment with
  | [letter, mark] => letter.isAlpha && (mark == ':' || mark == '|')
  | _ => false

/-- Without the last segment, which is the first of `done`; a drive stays. -/
def shorten : List (List Char) → List (List Char)
  | [] => []
  | last :: done => if isDrive last then last :: done else done

/-- The segments with dots resolved, after those already `done` (last first). -/
def resolve (isFile : Bool) (done : List (List Char)) : List (List Char) → List (List Char)
  | [] => done.reverse
  | segment :: rest =>
    let atEnd := rest.isEmpty
    if isDoubleDot segment then
      let done := shorten done
      resolve isFile (if atEnd then [] :: done else done) rest
    else if isSingleDot segment then resolve isFile (if atEnd then [] :: done else done) rest
    else if isFile && done.isEmpty && isDrive segment then resolve isFile [segment.take 1 ++ [':']] rest
    else resolve isFile (segment :: done) rest

/-- The characters of a path that stand for themselves. -/
def isKept (c : Char) : Bool :=
  0x20 < c.toNat && c.toNat < 0x7F && !("\"<>`#?\x7b\x7d".toList.contains c)

/-- The segments of a text that follows the first slash of a path; in the web schemes a backslash is a slash too. -/
def resolved (isWeb isFile : Bool) (text : List Char) : List (List Char) :=
  resolve isFile [] ((text.splitOnP fun c => c == '/' || isWeb && c == '\\').map (Percent.encode isKept))

/-- Whether the path of a file begins with a drive. -/
def beginsWithDrive (text : List Char) : Bool := (resolved true true text).head?.any isDrive

/-- The segments of such a text as they are written: a file's path has no empty ones in front. -/
def segments (isWeb isFile : Bool) (text : List Char) : List (List Char) :=
  if isFile then
    match (resolved isWeb isFile text).dropWhile List.isEmpty with
    | [] => [[]]
    | kept => kept
  else resolved isWeb isFile text

end Path
end StorageGate
