import PayloadRules.Text.Separated

/-!
# Files

A file system as far as the command line needs it: contents by place. The
directories are those that lead to files, those that stand at the top of every
system, and the ones that paths start from: the working directory, the ones above
it, and the top.

A path is taken apart at its slashes; empty parts and single points do not count,
two points lead up, and a slash at the end wants a directory. Every part but the
last one has to lead to a directory.

Reading asks for a file; writing asks for a directory to put the file into, and
for a name to put it under.
-/

namespace PayloadRules

namespace CommandLine

/-- Why a file cannot be read or written. A file system of texts knows the first four
reasons only; a file of a real one may be no text, or its system may refuse it. -/
inductive FileError where
  | notFound
  | notDirectory
  | isDirectory
  | nameTooLong
  | notText
  /-- Any other failure, by the number and in the words of the system. -/
  | refused (number : Nat) (words : String)
deriving DecidableEq, Repr

def FileError.message : FileError → String
  | notFound => "No such file or directory (os error 2)"
  | notDirectory => "Not a directory (os error 20)"
  | isDirectory => "Is a directory (os error 21)"
  | nameTooLong => "File name too long (os error 36)"
  | notText => "stream did not contain valid UTF-8"
  | refused number words => words ++ " (os error " ++ number.repr ++ ")"

/-! ## Places -/

/-- A directory to start from: so many levels above the working directory, or the
top. -/
inductive Origin where
  | above (levels : Nat)
  | top
deriving DecidableEq, Repr

/-- An origin and the names that lead on from it. -/
structure Place where
  origin : Origin
  names : List String
deriving DecidableEq, Repr

namespace Place

/-- The place one level up. There is nothing above the top. -/
def up : Place → Place
  | ⟨.above levels, []⟩ => ⟨.above (levels + 1), []⟩
  | ⟨.top, []⟩ => ⟨.top, []⟩
  | ⟨origin, name :: names⟩ => ⟨origin, (name :: names).dropLast⟩

/-- The place that a part of a path leads to. -/
def enter (p : Place) (part : String) : Place :=
  if part = "." then p
  else if part = ".." then p.up
  else { p with names := p.names ++ [part] }

/-- Whether `q` is below `p`. -/
def contains (p q : Place) : Bool :=
  p.origin = q.origin && p.names.isPrefixOf q.names && p.names.length < q.names.length

/-- The file that is always empty, whatever is written to it. -/
def nullDevice : Place := ⟨.top, ["dev", "null"]⟩

/-- Names of directories that stand at the top of every system. -/
def standardNames : List String := ["bin", "dev", "etc", "home", "tmp", "usr", "var"]

end Place

/-! ## Paths -/

/-- Bytes that a name may have. -/
def nameLimit : Nat := 255

/-- Bytes that are too many for a path. -/
def pathLimit : Nat := 4096

namespace FilePath

/-- Where a path starts. -/
def start (path : String) : Place :=
  if path.toList.head? = some '/' then ⟨.top, []⟩ else ⟨.above 0, []⟩

/-- The parts of a path that count. -/
def parts (path : String) : List String := (Text.split '/' path).filter (· ≠ "")

/-- Whether a path ends in a slash. -/
def wantsDirectory (path : String) : Bool := path.toList.getLast? = some '/'

/-- The place of a path, whatever the directories are. -/
def place (path : String) : Place := (parts path).foldl Place.enter (start path)

end FilePath

/-! ## File systems -/

/-- Contents by place, the latest first. -/
structure Files where
  contents : List (Place × String)

namespace Files

/-- The file system of contents by path, of which the last one of a path counts. -/
def ofList (files : List (String × String)) : Files :=
  ⟨(files.map fun f => (FilePath.place f.1, f.2)).reverse⟩

/-- The content of the file at a place. -/
def get? (fs : Files) (p : Place) : Option String :=
  if p = Place.nullDevice then some "" else fs.contents.lookup p

/-- The file system after a content has been put at a place. -/
def put (fs : Files) (p : Place) (content : String) : Files :=
  if p = Place.nullDevice then fs else ⟨(p, content) :: fs.contents⟩

/-- What is put at a place is found there, and what is found elsewhere stays; nothing
stays in the null device. -/
theorem get?_put (fs : Files) (p q : Place) (content : String) :
    (fs.put p content).get? q =
      if q = p ∧ p ≠ Place.nullDevice then some content else fs.get? q := by
  by_cases hp : p = Place.nullDevice
  · simp [put, hp]
  · by_cases hq : q = p
    · subst hq
      simp [put, get?, hp]
    · simp [put, get?, hp, hq, List.lookup_cons, beq_eq_false_iff_ne.mpr hq]

/-- Whether a place holds a file. -/
def isFile (fs : Files) (p : Place) : Bool := (fs.get? p).isSome

/-- Whether a place is a directory. -/
def isDirectory (fs : Files) (p : Place) : Bool :=
  p.names.isEmpty || p.contains Place.nullDevice || fs.contents.any (fun f => p.contains f.1)
    || Place.standardNames.any fun name => p = ⟨.top, [name]⟩

/-- Refuses a place that is no directory. -/
def requireDirectory (fs : Files) (p : Place) : Except FileError Unit :=
  if fs.isDirectory p then .ok ()
  else if fs.isFile p then .error .notDirectory
  else .error .notFound

/-- Goes from a place along parts, to a place that need not exist. -/
def walk (fs : Files) (p : Place) : List String → Except FileError Place
  | [] => .ok p
  | part :: rest => do
    fs.requireDirectory p
    if nameLimit < part.utf8ByteSize then throw .nameTooLong
    walk fs (p.enter part) rest

/-- The place that a path leads to. -/
def locate (fs : Files) (path : String) : Except FileError Place := do
  if pathLimit ≤ path.utf8ByteSize then throw .nameTooLong
  let p ← fs.walk (FilePath.start path) (FilePath.parts path)
  if FilePath.wantsDirectory path then fs.requireDirectory p
  return p

/-- Whether a path leads to a file or directory. -/
def isThere (fs : Files) (path : String) : Bool :=
  match fs.locate path with
  | .ok p => fs.isFile p || fs.isDirectory p
  | .error _ => false

/-- The content of a file. -/
def read (fs : Files) (path : String) : Except FileError String := do
  let p ← fs.locate path
  if fs.isDirectory p then throw .isDirectory
  match fs.get? p with
  | some content => return content
  | none => throw .notFound

/-- The place to write to. A path that ends in no name stands for a directory. -/
def target (fs : Files) (path : String) : Except FileError Place := do
  if pathLimit ≤ path.utf8ByteSize then throw .nameTooLong
  let parts := FilePath.parts path
  let folder ← fs.walk (FilePath.start path) parts.dropLast
  fs.requireDirectory folder
  match parts.getLast? with
  | none => throw .isDirectory
  | some name =>
    if FilePath.wantsDirectory path ∨ name = "." ∨ name = ".." then throw .isDirectory
    fs.walk folder [name]

/-- The files after writing one of them. -/
def write (fs : Files) (path content : String) : Except FileError Files := do
  let p ← fs.target path
  if fs.isDirectory p then throw .isDirectory
  return fs.put p content

end Files

end CommandLine

end PayloadRules
