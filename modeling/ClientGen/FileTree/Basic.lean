/-!
File trees. A tree gives each location, the list of names on the way down from the root, at most
one node. The root is always a directory. Links are held as the text they were made with; following
them is the business of path resolution.
-/

namespace ClientGen

/-- Why the operating system refuses. -/
inductive Errno where
  | notPermitted
  | noEntry
  | noProcess
  | interrupted
  | ioError
  | noDevice
  | argumentsTooLong
  | execFormat
  | badDescriptor
  | noChild
  | again
  | denied
  | busy
  | exists
  | crossDevice
  | notDirectory
  | isDirectory
  | invalid
  | notTerminal
  | textBusy
  | tooLarge
  | noSpace
  | noSeek
  | tooManyNames
  | brokenPipe
  | outOfRange
  | nameTooLong
  | notEmpty
  | tooManyLinks
  | noData
  | unsupported
  deriving DecidableEq

namespace Errno

def code : Errno → Nat
  | notPermitted => 1
  | noEntry => 2
  | noProcess => 3
  | interrupted => 4
  | ioError => 5
  | noDevice => 6
  | argumentsTooLong => 7
  | execFormat => 8
  | badDescriptor => 9
  | noChild => 10
  | again => 11
  | denied => 13
  | busy => 16
  | .exists => 17
  | crossDevice => 18
  | notDirectory => 20
  | isDirectory => 21
  | invalid => 22
  | notTerminal => 25
  | textBusy => 26
  | tooLarge => 27
  | noSpace => 28
  | noSeek => 29
  | tooManyNames => 31
  | brokenPipe => 32
  | outOfRange => 34
  | nameTooLong => 36
  | notEmpty => 39
  | tooManyLinks => 40
  | noData => 61
  | unsupported => 95

def phrase : Errno → String
  | notPermitted => "Operation not permitted"
  | noEntry => "No such file or directory"
  | noProcess => "No such process"
  | interrupted => "Interrupted system call"
  | ioError => "Input/output error"
  | noDevice => "No such device or address"
  | argumentsTooLong => "Argument list too long"
  | execFormat => "Exec format error"
  | badDescriptor => "Bad file descriptor"
  | noChild => "No child processes"
  | again => "Resource temporarily unavailable"
  | denied => "Permission denied"
  | busy => "Device or resource busy"
  | .exists => "File exists"
  | crossDevice => "Invalid cross-device link"
  | notDirectory => "Not a directory"
  | isDirectory => "Is a directory"
  | invalid => "Invalid argument"
  | notTerminal => "Inappropriate ioctl for device"
  | textBusy => "Text file busy"
  | tooLarge => "File too large"
  | noSpace => "No space left on device"
  | noSeek => "Illegal seek"
  | tooManyNames => "Too many links"
  | brokenPipe => "Broken pipe"
  | outOfRange => "Numerical result out of range"
  | nameTooLong => "File name too long"
  | notEmpty => "Directory not empty"
  | tooManyLinks => "Too many levels of symbolic links"
  | noData => "No data available"
  | unsupported => "Operation not supported"

def message (e : Errno) : String := s!"{e.phrase} (os error {e.code})"

end Errno

/-- Why a file could not be used as asked. -/
inductive FileError where
  | system (cause : Errno)
  | nulInPath
  | notUtf8
  deriving DecidableEq

def FileError.message : FileError → String
  | .system cause => cause.message
  | .nulInPath => "file name contained an unexpected NUL byte"
  | .notUtf8 => "stream did not contain valid UTF-8"

/-- Names on the way down from the root. -/
abbrev Location := List String

/-- What stands in a tree like a file but holds nothing. -/
inductive Special where
  /-- Reads as empty and takes whatever is written. -/
  | null
  /-- Reads as zero bytes without end. -/
  | zero
  /-- Reads like `zero`, and has no room for what is written. -/
  | full
  /-- Reads as bytes without order or end. -/
  | random
  /-- The terminal of whoever asks, who has none. -/
  | terminal
  /-- What one process writes and another reads. -/
  | pipe
  /-- Whatever the process that asks has open under this number. -/
  | descriptor (n : Nat)
  deriving DecidableEq

inductive Node where
  | directory
  | file (content : ByteArray) (executable : Bool)
  | link (target : String)
  | special (s : Special)

instance : DecidableEq Node
  | .directory, .directory => isTrue rfl
  | .file c x, .file d y =>
    match ByteArray.decEq c d, decEq x y with
    | isTrue h, isTrue h' => isTrue (h ▸ h' ▸ rfl)
    | isFalse h, _ => isFalse fun e => h (by cases e; rfl)
    | _, isFalse h => isFalse fun e => h (by cases e; rfl)
  | .link s, .link u => if h : s = u then isTrue (h ▸ rfl) else isFalse fun e => h (by cases e; rfl)
  | .special s, .special u =>
    if h : s = u then isTrue (h ▸ rfl) else isFalse fun e => h (by cases e; rfl)
  | .directory, .file .. => isFalse nofun
  | .directory, .link _ => isFalse nofun
  | .directory, .special _ => isFalse nofun
  | .file .., .directory => isFalse nofun
  | .file .., .link _ => isFalse nofun
  | .file .., .special _ => isFalse nofun
  | .link _, .directory => isFalse nofun
  | .link _, .file .. => isFalse nofun
  | .link _, .special _ => isFalse nofun
  | .special _, .directory => isFalse nofun
  | .special _, .file .. => isFalse nofun
  | .special _, .link _ => isFalse nofun

structure FileTree where
  entries : List (Location × Node)
  deriving Inhabited

namespace FileTree

def empty : FileTree := ⟨[]⟩

def lookup (t : FileTree) (l : Location) : Option Node :=
  if l = [] then some .directory else t.entries.lookup l

def isDirectoryAt (t : FileTree) (l : Location) : Bool := t.lookup l == some .directory

/-- Puts a node at `l`, in place of the node there. -/
def put (t : FileTree) (l : Location) (n : Node) : FileTree :=
  ⟨(l, n) :: t.entries.filter (·.1 != l)⟩

/-- Takes away the node at `l` and everything below it. -/
def prune (t : FileTree) (l : Location) : FileTree :=
  ⟨t.entries.filter (!l.isPrefixOf ·.1)⟩

/-- Takes away everything strictly below `l`. -/
def pruneBelow (t : FileTree) (l : Location) : FileTree :=
  ⟨t.entries.filter fun e => !(l.isPrefixOf e.1 && e.1 != l)⟩

/-- What lies strictly below `l`, by the names from there. -/
def below (t : FileTree) (l : Location) : List (Location × Node) :=
  t.entries.filterMap fun e =>
    if l.isPrefixOf e.1 && e.1 != l then some (e.1.drop l.length, e.2) else none

/-- The names directly inside the directory at `l`. -/
def children (t : FileTree) (l : Location) : List String :=
  (t.below l).filterMap fun e => match e.1 with
    | [name] => some name
    | _ => none

end FileTree

end ClientGen
