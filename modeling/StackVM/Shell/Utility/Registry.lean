import StackVM.Shell.Utility.Columns
import StackVM.Shell.Utility.Comparing
import StackVM.Shell.Utility.Condition
import StackVM.Shell.Utility.Copying
import StackVM.Shell.Utility.Dump
import StackVM.Shell.Utility.Editing
import StackVM.Shell.Utility.Expression
import StackVM.Shell.Utility.Facts
import StackVM.Shell.Utility.Lines
import StackVM.Shell.Utility.Listing
import StackVM.Shell.Utility.Paths
import StackVM.Shell.Utility.Printing
import StackVM.Shell.Utility.Search
import StackVM.Shell.Utility.Sorting

/-! # All utilities by their names -/

namespace StackVM.Shell.Registry

/-- The utilities that work on their own. -/
def utilities : List (String × Utility) :=
  [("[", Condition.test), ("arch", Facts.line "x86_64"), ("base64", Dump.base64),
    ("basename", Paths.basename), ("cat", Lines.cat), ("chmod", Copying.chmod),
    ("chown", Facts.succeed), ("cksum", Dump.cksum), ("cmp", Comparing.cmp),
    ("comm", Columns.comm), ("cp", Copying.cp), ("cut", Columns.cut), ("date", Facts.date),
    ("dd", Copying.dd), ("diff", Comparing.diff), ("dirname", Paths.dirname), ("du", Listing.du),
    ("echo", fun c => c.print (Printing.plainEcho c.arguments)), ("egrep", Search.grep),
    ("expand", Lines.expand), ("expr", Expression.expr), ("factor", Facts.factor),
    ("false", Facts.failSilently), ("fgrep", Search.grep), ("fold", Lines.fold),
    ("grep", Search.grep), ("groups", Facts.line "root"), ("head", Lines.head),
    ("hostname", Facts.line "localhost"), ("id", Facts.id), ("link", Copying.ln),
    ("ln", Copying.ln), ("logname", Facts.line "root"), ("ls", Listing.ls),
    ("md5sum", Dump.digests Dump.md5), ("mkdir", Copying.mkdir), ("mkfifo", Copying.mkfifo),
    ("mktemp", Copying.mktemp), ("mv", Copying.mv), ("nl", Lines.nl), ("nproc", Facts.line "1"),
    ("od", Dump.od), ("paste", Columns.paste), ("printenv", Facts.printenv),
    ("printf", Printing.printf), ("pwd", Paths.pwd), ("readlink", Paths.readlink),
    ("realpath", Paths.realpath), ("rev", Lines.rev), ("rm", Copying.rm), ("rmdir", Copying.rmdir),
    ("sed", Editing.sed), ("seq", Facts.seq), ("sha1sum", Dump.digests Dump.sha1),
    ("sha256sum", Dump.digests Sha256.hexDigest), ("sleep", Facts.sleep), ("sort", Sorting.sort),
    ("split", Copying.split), ("stat", Listing.stat), ("sync", Facts.succeed), ("tac", Lines.tac),
    ("tail", Lines.tail), ("tee", Lines.tee), ("test", Condition.test), ("touch", Copying.touch),
    ("tr", Columns.tr), ("true", Facts.succeed), ("truncate", Copying.truncate),
    ("uname", Facts.uname), ("unexpand", Lines.unexpand), ("uniq", Columns.uniq),
    ("unlink", Copying.unlink), ("wc", Lines.wc), ("whoami", Facts.line "root"), ("yes", Facts.yes)]

/-- The utilities that run other programs. -/
def spawners : List String :=
  ["bash", "dash", "env", "find", "nice", "nohup", "setsid", "sh", "stdbuf", "timeout", "xargs"]

def names : List String := utilities.map (·.1) ++ spawners

end StackVM.Shell.Registry
