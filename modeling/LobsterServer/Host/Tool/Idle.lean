import LobsterServer.Host.Tool.Argument

set_option autoImplicit false

/-!
# Tools that are only probed

A probe gives a program no arguments and an empty input.  Most tools of the host are run in no
other way, so what they do then is all that is said about them.
-/

namespace LobsterServer.Host.Tool

/-- Tools that find nothing to do. -/
def silent : List String :=
  ["tac", "rev", "sort", "uniq", "paste", "fold", "nl", "base64", "base32", "ls", "dir", "sync",
   "factor", "expand", "unexpand", "tsort", "shuf", "split", "users", "who", "tee"]

/-- Tools that ask for an operand: the code they end with, and what they ask for. -/
def demands : List (String × Nat × String) :=
  (["basename", "dirname", "mkdir", "rmdir", "rm", "chmod", "comm", "realpath", "readlink",
      "unlink", "pathchk", "chown", "chgrp", "chcon", "csplit", "join", "link", "mkfifo", "mknod",
      "stat", "printf", "seq"].map fun name => (name, 1, "missing operand"))
    ++ (["touch", "cp", "mv", "install", "ln", "shred"].map fun name =>
      (name, 1, "missing file operand"))
    ++ (["chroot", "nohup", "stdbuf"].map fun name => (name, 125, "missing operand"))
    ++ [("expr", 2, "missing operand"), ("setsid", 1, "no command specified"),
      ("cut", 1, "you must specify a list of bytes, characters, or fields"),
      ("truncate", 1, "you must specify either '--size' or '--reference'"),
      ("basenc", 1, "missing encoding type")]

/-- Tools that print a line: the code they end with, and the line. -/
def answers : List (String × Nat × String) :=
  [("echo", 0, ""), ("od", 0, "0000000"), ("whoami", 0, "root"), ("groups", 0, "root"),
   ("pwd", 0, "/tmp"),
   ("id", 0, "uid=0(root) gid=0(root) groups=0(root)"), ("uname", 0, "Linux"),
   ("arch", 0, "x86_64"), ("tty", 1, "not a tty"), ("nice", 0, "0"), ("xargs", 0, ""),
   ("sum", 0, "00000     0"), ("cksum", 0, "4294967295 0"),
   ("md5sum", 0, "d41d8cd98f00b204e9800998ecf8427e  -"),
   ("sha1sum", 0, "da39a3ee5e6b4b0d3255bfef95601890afd80709  -"),
   ("sha224sum", 0, "d14a028c2a3a2bc9476102bb288234c415a2b01f828ea62ac5b3e42f  -"),
   ("sha256sum", 0,
    "e3b0c44298fc1c149afbf4c8996fb92427ae41e4649b934ca495991b7852b855  -"),
   ("sha384sum", 0, "38b060a751ac96384cd9327eb1b1e36a21fdb71114be07434c0cc7bf63f6e1da"
      ++ "274edebfe76f65fbd51ad2f14898b95b  -"),
   ("sha512sum", 0, "cf83e1357eefb8bdf1542850d66d8007d620e4050b5715dc83f4a921d36ce9ce"
      ++ "47d0d13c5d85f2b0ff8318d2877eec2f63b931bd47417a81a538327af927da3e  -"),
   ("b2sum", 0, "786a02f742015903c6c6fd852552d272912f4740e15847618a86e217f71f5419"
      ++ "d25e1031afee585313896444934eb04b903a685b1448b755d56f701afe9be2ce  -")]

/-- Tools that complain in their own words: the code they end with, and the words. -/
def complaints : List (String × Nat × String) :=
  [("[", 2, "[: missing ']'"),
   ("dd", 0, "0+0 records in\n0+0 records out\n0 bytes copied, 0.0001 s, 1.0 MB/s"),
   ("sed", 1, "Usage: sed [OPTION]... \x7bscript-only-if-no-other-script\x7d [input-file]..."),
   ("cmp", 2, "cmp: missing operand after 'cmp'\ncmp: Try 'cmp --help' for more information."),
   ("stty", 1, "stty: 'standard input': Inappropriate ioctl for device"),
   ("logname", 1, "logname: no login name"),
   ("dircolors", 1,
    "dircolors: no SHELL environment variable, and no shell type option given"),
   ("timeout", 125, "Try 'timeout --help' for more information.")]
    ++ ["grep", "egrep", "fgrep"].map fun name =>
      (name, 2, "Usage: grep [OPTION]... PATTERNS [FILE]...\n"
        ++ "Try 'grep --help' for more information.")

/-- Writes the variables it is given. -/
def writeVariables (t : Task) : Effort :=
  .print t (t.environment.flatMap fun (name, value) => closedLine (name ++ '=' :: value))

/-- The tools that are only probed, by their names. -/
def idle : List (String × (Task → Effort)) :=
  let each (names : List (String × Nat × String)) (work : Nat → Raw → Task → Effort) :
      List (String × (Task → Effort)) :=
    names.map fun (name, code, words) => (name, work code (ascii words))
  silent.map (fun name => (name, fun t : Task => Effort.exit t 0))
    ++ each demands (fun code demand t => t.misuse code demand)
    ++ each answers (fun code line t => { Effort.print t (closedLine line) with code })
    ++ each complaints (fun code words t => .fail t code words)
    ++ [("test", fun t => .exit t 1), ("which", fun t => .exit t 1), ("env", writeVariables),
      ("printenv", writeVariables)]

end LobsterServer.Host.Tool
