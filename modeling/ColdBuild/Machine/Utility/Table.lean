import ColdBuild.Machine.Make.Calling
import ColdBuild.Machine.Shell.Invocation
import ColdBuild.Machine.Utility.Blocks
import ColdBuild.Machine.Utility.Comparing
import ColdBuild.Machine.Utility.Editing
import ColdBuild.Machine.Utility.Fields
import ColdBuild.Machine.Utility.Finding
import ColdBuild.Machine.Utility.Search
import ColdBuild.Machine.Utility.Words

/-!
# The utilities of a machine

What each program of the system does when it is run. Programs that are known by name only refuse
whatever they are called with.
-/

namespace ColdBuild.Utility

/-- Utilities that run no programs. -/
def plain : List (String × (Process → Process)) :=
  [
    ("true", fun p => p.exit 0), ("false", fun p => p.exit 1),
    -- Words
    ("echo", Process.echo), ("printf", Process.printFormatted), ("yes", Process.repeatLine),
    ("seq", Process.countUp), ("basename", Process.baseNames), ("dirname", Process.parentNames),
    ("test", Process.testCondition false), ("[", Process.testCondition true),
    ("expr", Process.calculate),
    -- Surroundings
    ("pwd", Process.printDirectory), ("printenv", Process.printVariables),
    ("id", Process.printIdentity), ("whoami", Process.printUser), ("groups", Process.printUser),
    ("uname", Process.printSystem), ("arch", Process.printLine "x86_64"),
    ("nproc", Process.printLine "4"), ("hostname", Process.printLine Process.hostName),
    ("tty", Process.printTerminal), ("date", Process.printTime), ("sleep", Process.sleep),
    ("readlink", Process.readLink), ("realpath", Process.realPaths), ("which", Process.which),
    ("sync", fun p => p.withCall ["d,data", "f,file-system"] fun _ => p),
    -- Files
    ("touch", Process.touch), ("mkdir", Process.makeDirectories),
    ("rmdir", Process.removeDirectories), ("rm", Process.remove), ("unlink", Process.unlinkFile),
    ("cp", Process.copy), ("mv", Process.move), ("ln", Process.link), ("chmod", Process.changeMode),
    ("chown", Process.changeOwner), ("chgrp", Process.changeOwner),
    ("mktemp", Process.makeTemporary), ("truncate", Process.truncate),
    ("install", Process.install), ("ls", Process.list), ("stat", Process.showFacts),
    ("du", Process.showUsage), ("cmp", Process.compareOctets), ("diff", Process.compareLines),
    -- Lines
    ("cat", Process.cat), ("tac", Process.tac), ("rev", Process.reverseLines),
    ("tee", Process.teeOff), ("head", Process.head), ("tail", Process.tail),
    ("wc", Process.wordCounts), ("nl", Process.numberLines), ("cut", Process.cut),
    ("paste", Process.paste), ("fold", Process.fold), ("sort", Process.sort),
    ("uniq", Process.unique), ("comm", Process.common), ("tr", Process.translate),
    ("grep", Process.grepAs "G"), ("egrep", Process.grepAs "E"), ("fgrep", Process.grepAs "F"),
    ("sed", Edit.edit), ("join", Process.joinLines), ("expand", Process.expand),
    ("unexpand", Process.unexpand), ("factor", Process.factor),
    -- Octets
    ("od", Process.dump), ("base64", Process.recode .base64), ("base32", Process.recode .base32),
    ("dd", Process.copyBlocks), ("split", Process.splitFile), ("cksum", Process.cyclicCheck),
    ("sum", Process.sumCheck), ("md5sum", Process.showDigests "MD5" Digest.md5),
    ("sha1sum", Process.showDigests "SHA1" Digest.sha1),
    ("sha224sum", Process.showDigests "SHA224" Digest.sha224),
    ("sha256sum", Process.showDigests "SHA256" Digest.sha256),
    ("sha384sum", Process.showDigests "SHA384" Digest.sha384),
    ("sha512sum", Process.showDigests "SHA512" Digest.sha512)]

def running (execute : Executor) : List (String × (Process → Process)) :=
  [
    ("env", Process.withEnvironment execute), ("xargs", Process.runWithInput execute),
    ("timeout", Process.runWithin execute), ("find", Search.find execute),
    ("make", Make.build execute),
    ("nohup", Process.runAsIs execute [] none),
    ("nice", Process.runAsIs execute ["n,adjustment="] (some "0\n")),
    ("setsid", Process.runAsIs execute ["c,ctty", "f,fork", "w,wait"] none),
    ("stdbuf", Process.runAsIs execute ["i,input=", "o,output=", "e,error="] none)]

def shells : List String := ["dash", "bash"]

/-- Programs that are known by name only, with the status that their refusal leaves. -/
def refusing : List (Nat × List String) :=
  [
    (1, ["ar", "as", "b2sum", "c++", "cc", "chcon", "clear", "cpp", "csplit", "df", "dircolors",
      "dmesg", "fmt", "free", "g++", "gcc", "getopt", "git", "gunzip", "gzip", "hostid", "iconv",
      "kill", "ld", "ldd", "link", "logname", "lscpu", "mkfifo", "mknod", "more", "mount",
      "mountpoint", "nm", "numfmt", "objcopy", "objdump", "pinky", "pr", "ps", "ptx", "ranlib",
      "readelf", "run-parts", "shred", "shuf", "size", "strings", "strip", "stty", "tempfile",
      "tsort", "umount", "uptime", "users", "vmstat", "whereis", "who", "xz", "zcat"]),
    (2, ["awk", "diff3", "dir", "getconf", "mawk", "perl", "pgrep", "pkill", "python3", "sdiff",
      "tar", "tput", "vdir"]),
    (125, ["chroot", "runcon"])]

def names : List String :=
  shells ++ plain.map Prod.fst ++ (running fun _ p => p).map Prod.fst ++ refusing.flatMap Prod.snd

/-- Runs a utility that runs no shell. -/
def run (execute : Executor) (name : String) (p : Process) : Process :=
  match plain.lookup name <|> (running execute).lookup name with
  | some utility => (utility p).flush
  | none =>
    match refusing.find? fun (_, names) => names.contains name with
    | some (status, _) =>
      if p.arguments.contains "--help" || p.arguments.contains "--version" then (p.print s!"{name}\n").flush
      else p.misuse "cannot do that" status
    | none => p.exit 127

end ColdBuild.Utility

namespace ColdBuild

/-- How deep processes may run each other. -/
def processDepth : Nat := 300

/-- Runs a program that has been loaded, and all that it runs. -/
def executeWithin : (depth : Nat) → Executor
  | 0, _, p => p.exit 126
  | depth + 1, loaded, p =>
    if Utility.shells.contains loaded.utility then Shell.runShell (executeWithin depth) p
    else Utility.run (executeWithin depth) loaded.utility p

def execute : Executor := executeWithin processDepth

end ColdBuild
