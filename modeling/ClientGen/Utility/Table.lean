import ClientGen.Utility.BlockCopy
import ClientGen.Utility.Checksum
import ClientGen.Utility.Comparing
import ClientGen.Utility.Condition
import ClientGen.Utility.Copying
import ClientGen.Utility.Dates
import ClientGen.Utility.Details
import ClientGen.Utility.Directories
import ClientGen.Utility.Dump
import ClientGen.Utility.Encoding
import ClientGen.Utility.Expression
import ClientGen.Utility.Fields
import ClientGen.Utility.Filling
import ClientGen.Utility.Identity
import ClientGen.Utility.Installing
import ClientGen.Utility.Lines
import ClientGen.Utility.Linking
import ClientGen.Utility.Names
import ClientGen.Utility.Numbering
import ClientGen.Utility.Ownership
import ClientGen.Utility.Printing
import ClientGen.Utility.Quantity
import ClientGen.Utility.Ranking
import ClientGen.Utility.Removal
import ClientGen.Utility.Sections
import ClientGen.Utility.Settling
import ClientGen.Utility.Sorting
import ClientGen.Utility.Splitting
import ClientGen.Utility.Translate
import ClientGen.Utility.Usage
import ClientGen.Utility.Waiting

/-!
The utilities by name.
-/

namespace ClientGen.Utility

def table : List (String × (List String → Tool Unit)) :=
  [("cat", Lines.cat), ("head", Lines.head), ("nl", Lines.nl), ("tac", Lines.tac),
   ("tail", Lines.tail)] ++
  [("cut", Fields.cut), ("paste", Fields.paste), ("wc", Fields.wc)] ++
  [("basename", Names.basename), ("dirname", Names.dirname), ("mktemp", Names.mktemp),
   ("pathchk", Names.pathchk), ("readlink", Names.readlink), ("realpath", Names.realpath)] ++
  [("link", Making.link), ("mkdir", Making.mkdir), ("mkfifo", Making.mkfifo),
   ("mknod", Making.mknod), ("rmdir", Making.rmdir), ("truncate", Making.truncate),
   ("unlink", Making.unlink)] ++
  [("rm", Removal.rm), ("ln", Linking.ln), ("cp", Transfer.cp), ("mv", Transfer.mv),
   ("install", Installing.install)] ++
  [("chgrp", Ownership.chgrp), ("chmod", Ownership.chmod), ("chown", Ownership.chown)] ++
  [("expand", Tabs.expand), ("fmt", Filling.fmt), ("fold", Filling.fold),
   ("unexpand", Tabs.unexpand)] ++
  [("factor", Numbering.factor), ("numfmt", Quantity.numfmt), ("seq", Numbering.seq)] ++
  [("date", Dates.date), ("touch", Dates.touch)] ++
  [("csplit", Sections.csplit), ("split", Splitting.split), ("tr", Translate.tr)] ++
  [("arch", Identity.arch), ("groups", Identity.groups), ("hostid", Identity.hostid),
   ("id", Identity.id), ("logname", Identity.logname), ("nproc", Identity.nproc),
   ("pwd", Identity.pwd), ("tty", Identity.tty), ("uname", Identity.uname),
   ("users", Identity.users), ("who", Identity.who), ("whoami", Identity.whoami)] ++
  [("env", Launch.env), ("nice", Launch.nice), ("nohup", Launch.nohup),
   ("printenv", Launch.printenv), ("stdbuf", Launch.stdbuf)] ++
  [("sleep", Waiting.sleep), ("timeout", Waiting.timeout)] ++
  [("b2sum", Checksum.digestTool Checksum.blake2b), ("cksum", Checksum.cksum),
   ("md5sum", Checksum.digestTool Checksum.md5), ("sha1sum", Checksum.digestTool Checksum.sha1),
   ("sha224sum", Checksum.digestTool Checksum.sha224),
   ("sha256sum", Checksum.digestTool Checksum.sha256),
   ("sha384sum", Checksum.digestTool Checksum.sha384),
   ("sha512sum", Checksum.digestTool Checksum.sha512), ("sum", Checksum.sum)] ++
  [("base32", Encoding.base32), ("base64", Encoding.base64), ("basenc", Encoding.basenc)] ++
  [("od", Dump.od)] ++
  [("dir", Directories.dir), ("du", Usage.du), ("ls", Directories.ls), ("stat", Details.stat),
   ("vdir", Directories.vdir)] ++
  [("[", Condition.bracket), ("dd", BlockCopy.dd), ("expr", Expression.expr),
   ("test", Condition.test)] ++
  [("echo", Printing.echo), ("false", Printing.falsehood), ("printf", Printing.printf),
   ("sort", Sorting.sort), ("uniq", Comparing.uniq), ("comm", Comparing.comm),
   ("join", Comparing.join), ("shuf", Ranking.shuf), ("tsort", Ranking.tsort),
   ("true", Printing.truth), ("yes", Printing.yes),
   ("sync", Settling.sync), ("tee", Copying.tee)]

def find? (name : String) : Option (List String → Tool Unit) := table.lookup name

end ClientGen.Utility
