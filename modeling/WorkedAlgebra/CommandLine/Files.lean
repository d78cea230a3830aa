import WorkedAlgebra.LineReader

/-!
Files as a run of the program sees them: bytes under paths, and directories. A path is followed
step by step, and every place on the way has to be a directory, also one that a later `..` leads
back out of. Writing makes the directories that are missing on the way. There are no links between
places, and everything may be read and written.
-/

namespace WorkedAlgebra.CommandLine

/-- The steps of a path, from the outermost directory on. -/
abbrev Steps := List (List Char)

namespace Steps

/-- The place above another one. Nothing is above the root, and the directory that a run starts in
can be left. -/
def above (place : Steps) : Steps :=
  match place.getLast? with
  | none | some ['.', '.'] => place ++ [['.', '.']]
  | some ['/'] => place
  | some _ => place.dropLast

def walk (place : Steps) (step : List Char) : Steps :=
  if step == [] || step == ['.'] then place
  else if step == ['.', '.'] then place.above
  else place ++ [step]

def along (place : Steps) : List (List Char) → List Steps
  | [] => []
  | step :: rest => place :: along (place.walk step) rest

/-- The places that are always there: the root, and the directory that a run starts in with those
above it. -/
def isStart (place : Steps) : Bool := place == [['/']] || place.all (· == ['.', '.'])

end Steps

def originOf (path : String) : Steps := if path.toList.head? == some '/' then [['/']] else []

def stepsOf (path : String) : Steps := (pieces '/' path.toList).foldl Steps.walk (originOf path)

def wayOf (path : String) : List Steps := (originOf path).along (pieces '/' path.toList)

structure Files where
  contents : List (Steps × List UInt8)
  directories : List Steps := []

inductive FileFault where
  | missing
  | isDirectory
  | notDirectory
  | occupied
  /-- What was read is no text. -/
  | invalidData
deriving DecidableEq, Repr

def FileFault.message : FileFault → String
  | .missing => "No such file or directory (os error 2)"
  | .isDirectory => "Is a directory (os error 21)"
  | .notDirectory => "Not a directory (os error 20)"
  | .occupied => "File exists (os error 17)"
  | .invalidData => "stream did not contain valid UTF-8"

namespace Files

def ofTexts (texts : List (String × String)) : Files :=
  { contents := texts.map fun (path, text) => (stepsOf path, text.toUTF8.toList) }

def bytesAt? (files : Files) (steps : Steps) : Option (List UInt8) :=
  (files.contents.find? fun entry => entry.1 == steps).map Prod.snd

/-- Whether a place is a directory: it is known to be one, or holds something. -/
def isDirectoryAt (files : Files) (steps : Steps) : Bool :=
  steps.isStart || files.directories.contains steps ||
    files.contents.any fun entry => steps.isPrefixOf entry.1 && entry.1 != steps

def endsInSlash (path : String) : Bool := path.toList.getLast? == some '/'

def endsInName (path : String) : Bool :=
  match (pieces '/' path.toList).getLast? with
  | none => false
  | some last => last != [] && last != ['.'] && last != ['.', '.']

/-- Why a path leads nowhere, if so: not everything that it passes is a directory. -/
def blocked? (files : Files) (path : String) : Option FileFault :=
  (wayOf path).findSome? fun place =>
    if files.isDirectoryAt place then none
    else if (files.bytesAt? place).isSome then some .notDirectory
    else some .missing

def contains (files : Files) (path : String) : Bool :=
  (files.blocked? path).isNone &&
    (files.isDirectoryAt (stepsOf path) || (files.bytesAt? (stepsOf path)).isSome)

def read (files : Files) (path : String) : Except FileFault (List UInt8) :=
  match files.blocked? path with
  | some fault => .error fault
  | none =>
    if files.isDirectoryAt (stepsOf path) then .error .isDirectory
    else
      match files.bytesAt? (stepsOf path) with
      | some bytes => .ok bytes
      | none => .error .missing

def readText (files : Files) (path : String) : Except FileFault String := do
  let bytes ← files.read path
  match LineReader.decode? bytes with
  | some text => return String.ofList text
  | none => throw .invalidData

/-- Why a text cannot be written to a path, if so. Missing directories on the way are made first,
and so are no obstacle unless the path leads to one of them. -/
def obstacle? (files : Files) (path : String) : Option FileFault :=
  let way := wayOf path
  if !endsInName path then
    some (if files.isDirectoryAt (stepsOf path) then .isDirectory else .notDirectory)
  else if (files.bytesAt? (way.getLastD [])).isSome then some .occupied
  else if way.any fun place => (files.bytesAt? place).isSome then some .notDirectory
  else if files.isDirectoryAt (stepsOf path) || way.contains (stepsOf path) then some .isDirectory
  else none

/-- The files after a text was written to a path, and after all that it passes was made a
directory. -/
def write (files : Files) (path text : String) : Files where
  contents := (stepsOf path, text.toUTF8.toList) ::
    files.contents.filter fun entry => entry.1 != stepsOf path
  directories := wayOf path ++ files.directories

end Files
end WorkedAlgebra.CommandLine
