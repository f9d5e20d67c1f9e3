/-!
Signals: their numbers and names, what they do to a process that has made no provision, and how a
death by one of them is described.
-/

namespace ClientGen.Host

abbrev Signal := Nat

namespace Signal

def hangup : Signal := 1
def interrupt : Signal := 2
def quit : Signal := 3
def kill : Signal := 9
def brokenPipe : Signal := 13
def terminate : Signal := 15
def child : Signal := 17
def resume : Signal := 18
def stop : Signal := 19

def last : Signal := 64

/-- Names by number from zero on; the first is that of the end of a process. -/
def plainNames : List String :=
  ["EXIT", "HUP", "INT", "QUIT", "ILL", "TRAP", "ABRT", "BUS", "FPE", "KILL", "USR1", "SEGV", "USR2",
   "PIPE", "ALRM", "TERM", "16", "CHLD", "CONT", "STOP", "TSTP", "TTIN", "TTOU", "URG", "XCPU",
   "XFSZ", "VTALRM", "PROF", "WINCH", "IO", "PWR", "SYS", "32", "33"]

/-- The signals past the plain ones are named by their distance from the nearer end. -/
def realTimeName (n : Nat) : String :=
  if n = 34 then "RTMIN"
  else if n ≤ 49 then s!"RTMIN+{n - 34}"
  else if n < last then s!"RTMAX-{last - n}"
  else "RTMAX"

def name (n : Signal) : String := (plainNames[n]?).getD (realTimeName n)

def all : List Signal := (List.range last).map (· + 1)

def named? (s : String) : Option Signal := (0 :: all).find? fun n => name n == s

inductive Effect where
  | ends
  | stops
  | resumes
  | nothing
  deriving DecidableEq

/-- What happens to a process that has not said otherwise. -/
def effect (n : Signal) : Effect :=
  if [17, 23, 28].contains n then .nothing
  else if n = resume then .resumes
  else if [19, 20, 21, 22].contains n then .stops
  else .ends

/-- No process can say otherwise of these. -/
def isSovereign (n : Signal) : Bool := n == kill || n == stop

def plainPhrases : List (Signal × String) :=
  [(1, "Hangup"), (2, "Interrupt"), (3, "Quit"), (4, "Illegal instruction"),
   (5, "Trace/breakpoint trap"), (6, "Aborted"), (7, "Bus error"), (8, "Floating point exception"),
   (9, "Killed"), (10, "User defined signal 1"), (11, "Segmentation fault"),
   (12, "User defined signal 2"), (13, "Broken pipe"), (14, "Alarm clock"), (15, "Terminated"),
   (16, "Stack fault"), (17, "Child exited"), (18, "Continued"), (19, "Stopped (signal)"),
   (20, "Stopped"), (21, "Stopped (tty input)"), (22, "Stopped (tty output)"),
   (23, "Urgent I/O condition"), (24, "CPU time limit exceeded"), (25, "File size limit exceeded"),
   (26, "Virtual timer expired"), (27, "Profiling timer expired"), (28, "Window changed"),
   (29, "I/O possible"), (30, "Power failure"), (31, "Bad system call")]

def phrase (n : Signal) : String :=
  match plainPhrases.lookup n with
  | some p => p
  | none => if 34 ≤ n then s!"Real-time signal {n - 34}" else s!"Unknown signal {n}"

end Signal

end ClientGen.Host
