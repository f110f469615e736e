namespace Bata

inductive Fault where
  | notFound
  | notDirectory
  | isDirectory
  | nameTooLong
  | nulInPath
  | notText
  /-- Any other reason, in the words of the system. -/
  | other (reason : String)
  deriving DecidableEq, Repr

def Fault.message : Fault → String
  | .notFound => "No such file or directory (os error 2)"
  | .notDirectory => "Not a directory (os error 20)"
  | .isDirectory => "Is a directory (os error 21)"
  | .nameTooLong => "File name too long (os error 36)"
  | .nulInPath => "file name contained an unexpected NUL byte"
  | .notText => "stream did not contain valid UTF-8"
  | .other reason => reason

structure FileAccess (m : Type → Type) where
  read : String → m (Except Fault ByteArray)
  write : String → ByteArray → m (Except Fault Unit)

structure Path where
  absolute : Bool
  parents : List String
  /-- The name of the entry, a dot where the path names none. -/
  last : String
  /-- A slash after the last name, which only a directory may have. -/
  slashAfter : Bool
  deriving DecidableEq, Repr

namespace Path

def names (text : String) : List String :=
  ((text.toList.splitOn '/').filter (!·.isEmpty)).map String.ofList

def ofText (text : String) : Path where
  absolute := text.toList.head? = some '/'
  parents := (names text).dropLast
  last := (names text).getLast?.getD "."
  slashAfter := text.toList.getLast? = some '/'

def maxBytes : Nat := 4095

def maxNameBytes : Nat := 255

/-- A path is refused for a NUL before anything else about it counts. -/
def parse (text : String) : Except Fault Path :=
  if '\x00' ∈ text.toList then .error .nulInPath
  else if text = "" then .error .notFound
  else if maxBytes < text.utf8ByteSize then .error .nameTooLong
  else .ok (ofText text)

end Path

/-- The names that lead to an entry, the entry's own name first; the root has none. -/
abbrev Location := List String

inductive Node where
  | directory
  | file (content : ByteArray)

structure FileSystem where
  entry : Location → Option Node
  workingDirectory : Location
  /-- Why the system does not let a file be written, where it does not. -/
  refusal : Location → Option String

namespace FileSystem

/-- The root is a directory in every file system. -/
def node? (fs : FileSystem) : Location → Option Node
  | [] => some .directory
  | l => fs.entry l

def insert (fs : FileSystem) (l : Location) (n : Node) : FileSystem :=
  { fs with entry := fun k => if k = l then some n else fs.entry k }

/-- Takes away an entry with everything below it. -/
def erase (fs : FileSystem) (l : Location) : FileSystem :=
  { fs with entry := fun k => if l.isSuffixOf k then none else fs.entry k }

def start (fs : FileSystem) (p : Path) : Location :=
  if p.absolute then [] else fs.workingDirectory

/-- The entry that `name` stands for in the directory `here`; the parent of the root is the root. -/
def step (here : Location) (name : String) : Except Fault Location :=
  if name = "." then .ok here
  else if name = ".." then .ok here.tail
  else if Path.maxNameBytes < name.utf8ByteSize then .error .nameTooLong
  else .ok (name :: here)

def enter (fs : FileSystem) (here : Location) (name : String) : Except Fault Location := do
  let l ← step here name
  match fs.node? l with
  | none => .error .notFound
  | some (.file _) => .error .notDirectory
  | some .directory => .ok l

def parent (fs : FileSystem) (p : Path) : Except Fault Location :=
  p.parents.foldlM fs.enter (fs.start p)

/-- The entry that a path names, whether or not it exists. -/
def locate (fs : FileSystem) (p : Path) : Except Fault Location := do
  step (← fs.parent p) p.last

def readAt (fs : FileSystem) (p : Path) : Except Fault ByteArray := do
  match fs.node? (← fs.locate p) with
  | none => .error .notFound
  | some .directory => .error .isDirectory
  | some (.file content) => if p.slashAfter then .error .notDirectory else .ok content

def read (fs : FileSystem) (path : String) : Except Fault ByteArray :=
  (Path.parse path).bind fs.readAt

/-- Where a file can be written. A slash after the last name is refused before the name is looked
at. -/
def openAt (fs : FileSystem) (p : Path) : Except Fault Location := do
  let here ← fs.parent p
  if p.slashAfter then .error .isDirectory
  else
    let l ← step here p.last
    match fs.node? l, fs.refusal l with
    | some .directory, _ => .error .isDirectory
    | _, some reason => .error (.other reason)
    | _, none => .ok l

def write (fs : FileSystem) (path : String) (content : ByteArray) : Except Fault FileSystem :=
  ((Path.parse path).bind fs.openAt).map fun l => fs.insert l (.file content)

def access : FileAccess (StateM FileSystem) where
  read path fs := (fs.read path, fs)
  write path content fs :=
    match fs.write path content with
    | .ok after => (.ok (), after)
    | .error fault => (.error fault, fs)

def fresh : FileSystem where
  entry l := if l = ["work"] then some .directory else none
  workingDirectory := ["work"]
  refusal _ := none

def enterOrMake (state : FileSystem × Location) (name : String) :
    Except Fault (FileSystem × Location) :=
  match state.1.enter state.2 name with
  | .ok l => .ok (state.1, l)
  | .error .notFound => .ok (state.1.insert (name :: state.2) .directory, name :: state.2)
  | .error fault => .error fault

def makeDirectories (fs : FileSystem) (absolute : Bool) (names : List String) : FileSystem :=
  match names.foldlM enterOrMake (fs, if absolute then [] else fs.workingDirectory) with
  | .ok (after, _) => after
  | .error _ => fs

def putDirectory (fs : FileSystem) (path : String) : FileSystem :=
  match Path.parse path with
  | .ok p => fs.makeDirectories p.absolute (p.parents ++ [p.last])
  | .error _ => fs

def putFile (fs : FileSystem) (path : String) (content : ByteArray) : FileSystem :=
  match Path.parse path with
  | .ok p => ((fs.makeDirectories p.absolute p.parents).write path content).toOption.getD fs
  | .error _ => fs

def remove (fs : FileSystem) (path : String) : FileSystem :=
  match (Path.parse path).bind fs.locate with
  | .ok l => fs.erase l
  | .error _ => fs

end FileSystem

end Bata
