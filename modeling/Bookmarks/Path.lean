/-! File paths. Slashes part the components of a path; empty ones and single dots mean nothing. -/

namespace Bookmarks.Path

/-- The parts between the separators, of which there is one more than there are separators. -/
def splitAt (separator : Char) : List Char → List (List Char)
  | [] => [[]]
  | c :: cs =>
    if c = separator then [] :: splitAt separator cs
    else match splitAt separator cs with
      | [] => [[c]]
      | part :: parts => (c :: part) :: parts

def components (path : List Char) : List (List Char) :=
  (splitAt '/' path).filter fun part => part != [] && part != ['.']

/-- A name less its extension. A dot at either end begins no extension. -/
def stem (name : List Char) : List Char :=
  let extension := (name.reverse.takeWhile (· != '.'))
  match name.reverse.dropWhile (· != '.') with
  | [] => name
  | _ :: base => if base.isEmpty || extension.isEmpty then name else base.reverse

/-- The name of a media file without its extension; backslashes count as slashes. -/
def mediaName (path : List Char) : List Char :=
  stem (((components (path.map fun c => if c = '\\' then '/' else c)).getLast?).getD [])

/-- The root of a path: two slashes are kept, any other number is one. -/
def root (path : List Char) : List Char :=
  match (path.takeWhile (· == '/')).length with
  | 0 => []
  | 2 => ['/', '/']
  | _ => ['/']

/-- The path without needless parts. -/
def normal (path : List Char) : List Char :=
  let text := root path ++ ['/'].intercalate (components path)
  if text.isEmpty then ['.'] else text

end Bookmarks.Path
