/-!
The users and groups of a machine that has had none added.
-/

namespace ClientGen.Utility.Accounts

structure User where
  name : String
  id : Nat
  group : Nat
  home : String

def users : List User :=
  [⟨"root", 0, 0, "/root"⟩, ⟨"daemon", 1, 1, "/usr/sbin"⟩, ⟨"bin", 2, 2, "/bin"⟩,
   ⟨"sys", 3, 3, "/dev"⟩, ⟨"sync", 4, 65534, "/bin"⟩, ⟨"games", 5, 60, "/usr/games"⟩,
   ⟨"man", 6, 12, "/var/cache/man"⟩, ⟨"lp", 7, 7, "/var/spool/lpd"⟩, ⟨"mail", 8, 8, "/var/mail"⟩,
   ⟨"news", 9, 9, "/var/spool/news"⟩, ⟨"uucp", 10, 10, "/var/spool/uucp"⟩,
   ⟨"proxy", 13, 13, "/bin"⟩, ⟨"www-data", 33, 33, "/var/www"⟩,
   ⟨"backup", 34, 34, "/var/backups"⟩, ⟨"list", 38, 38, "/var/list"⟩, ⟨"irc", 39, 39, "/run/ircd"⟩,
   ⟨"_apt", 42, 65534, "/nonexistent"⟩, ⟨"nobody", 65534, 65534, "/nonexistent"⟩]

def groups : List (String × Nat) :=
  [("root", 0), ("daemon", 1), ("bin", 2), ("sys", 3), ("adm", 4), ("tty", 5), ("disk", 6), ("lp", 7),
   ("mail", 8), ("news", 9), ("uucp", 10), ("man", 12), ("proxy", 13), ("kmem", 15),
   ("dialout", 20), ("fax", 21), ("voice", 22), ("cdrom", 24), ("floppy", 25), ("tape", 26),
   ("sudo", 27), ("audio", 29), ("dip", 30), ("www-data", 33), ("backup", 34), ("operator", 37),
   ("list", 38), ("irc", 39), ("src", 40), ("shadow", 42), ("utmp", 43), ("video", 44),
   ("sasl", 45), ("plugdev", 46), ("staff", 50), ("games", 60), ("users", 100), ("nogroup", 65534)]

def user? (name : String) : Option User := users.find? (·.name == name)

def userName? (id : Nat) : Option String := (users.find? (·.id == id)).map (·.name)

def groupId? (name : String) : Option Nat := groups.lookup name

def groupName? (id : Nat) : Option String := (groups.find? (·.2 == id)).map (·.1)

/-- The name of a user, or the number where there is none. -/
def userText (id : Nat) : String := (userName? id).getD (toString id)

def groupText (id : Nat) : String := (groupName? id).getD (toString id)

/-- A number in place of a name. -/
def number? (text : String) : Option Nat :=
  let ds := (if text.startsWith "+" then text.toList.drop 1 else text.toList)
  if ds ≠ [] && ds.all Char.isDigit then
    (String.ofList ds).toNat?.filter (· < 4294967295)
  else none

def userId? (text : String) : Option Nat :=
  ((user? text).map (·.id)).orElse fun _ => number? text

def groupIdOf? (text : String) : Option Nat := (groupId? text).orElse fun _ => number? text

end ClientGen.Utility.Accounts
