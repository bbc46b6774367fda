import CredoAssistant.Shell.Disk

/-!
What a system comes with: the accounts by which files belong to somebody and homes are found, its
directories, the programs and the links to them, devices, and the files that tell about it.
-/
namespace CredoAssistant.Shell

/-- An account: its name, its number, that of its group, and its home. -/
structure Account where
  name : String
  number : Nat
  group : Nat
  remark : String
  home : String
  shell : String
  deriving DecidableEq, Repr

namespace Account

def all : List Account :=
  let daemon (name : String) (number group : Nat) (remark home : String) : Account :=
    ⟨name, number, group, remark, home, "/usr/sbin/nologin"⟩
  [⟨"root", 0, 0, "root", "/root", "/bin/bash"⟩,
    daemon "daemon" 1 1 "daemon" "/usr/sbin",
    daemon "bin" 2 2 "bin" "/bin",
    daemon "sys" 3 3 "sys" "/dev",
    ⟨"sync", 4, 65534, "sync", "/bin", "/bin/sync"⟩,
    daemon "games" 5 60 "games" "/usr/games",
    daemon "man" 6 12 "man" "/var/cache/man",
    daemon "lp" 7 7 "lp" "/var/spool/lpd",
    daemon "mail" 8 8 "mail" "/var/mail",
    daemon "news" 9 9 "news" "/var/spool/news",
    daemon "uucp" 10 10 "uucp" "/var/spool/uucp",
    daemon "proxy" 13 13 "proxy" "/bin",
    daemon "www-data" 33 33 "www-data" "/var/www",
    daemon "backup" 34 34 "backup" "/var/backups",
    daemon "list" 38 38 "Mailing List Manager" "/var/list",
    daemon "irc" 39 39 "ircd" "/run/ircd",
    daemon "_apt" 42 65534 "" "/nonexistent",
    daemon "nobody" 65534 65534 "nobody" "/nonexistent"]

def find? (name : String) : Option Account := all.find? fun a => a.name == name

/-- The groups that have names. -/
def groups : List (String × Nat) :=
  [("root", 0), ("daemon", 1), ("bin", 2), ("sys", 3), ("adm", 4), ("tty", 5), ("disk", 6),
    ("lp", 7), ("mail", 8), ("news", 9), ("uucp", 10), ("man", 12), ("proxy", 13), ("kmem", 15),
    ("dialout", 20), ("fax", 21), ("voice", 22), ("cdrom", 24), ("floppy", 25), ("tape", 26),
    ("sudo", 27), ("audio", 29), ("dip", 30), ("www-data", 33), ("backup", 34), ("operator", 37),
    ("list", 38), ("irc", 39), ("src", 40), ("shadow", 42), ("utmp", 43), ("video", 44),
    ("sasl", 45), ("plugdev", 46), ("staff", 50), ("games", 60), ("users", 100), ("nogroup", 65534)]

def ownerName? (n : Nat) : Option String := (all.find? fun a => a.number == n).map Account.name

def groupName? (n : Nat) : Option String := (groups.find? fun g => g.2 == n).map Prod.fst

def ownerName (n : Nat) : String := (ownerName? n).getD (toString n)

def groupName (n : Nat) : String := (groupName? n).getD (toString n)

/-- The list of accounts as a file. -/
def passwords : String :=
  String.join (all.map fun a =>
    s!"{a.name}:x:{a.number}:{a.group}:{a.remark}:{a.home}:{a.shell}\n")

def groupFile : String := String.join (groups.map fun g => s!"{g.1}:x:{g.2}:\n")

end Account

end CredoAssistant.Shell

namespace CredoAssistant.Shell.Installation

/-- The directories of the system. -/
def directories : List (List String) :=
  [["boot"], ["dev", "fd"], ["dev", "pts"], ["dev", "shm"], ["etc"], ["home"], ["media"], ["mnt"],
    ["opt"], ["proc"], ["root"], ["run"], ["srv"], ["sys"], ["tmp"], ["usr", "bin"],
    ["usr", "games"], ["usr", "include"], ["usr", "lib"], ["usr", "lib64"], ["usr", "local", "bin"],
    ["usr", "local", "lib"], ["usr", "local", "sbin"], ["usr", "sbin"], ["usr", "share"],
    ["usr", "src"], ["var", "backups"], ["var", "cache"], ["var", "lib"], ["var", "local"],
    ["var", "log"], ["var", "mail"], ["var", "opt"], ["var", "spool"], ["var", "tmp"]]

/-- The programs of the system. -/
def programs : List String :=
  ["[", "arch", "b2sum", "base32", "base64", "basename", "basenc", "bash", "cat", "chgrp", "chmod",
    "chown", "cksum", "cmp", "comm", "cp", "csplit", "cut", "dash", "date", "dd", "df", "diff",
    "diff3", "dir", "dircolors", "dirname", "du", "echo", "egrep", "env", "expand", "expr",
    "factor", "false", "fgrep", "find", "flock", "fmt", "fold", "getopt", "grep", "groups", "gzip",
    "head", "hostid", "hostname", "id", "install", "join", "kill", "less", "link", "ln", "logname",
    "ls", "mawk", "md5sum", "mkdir", "mkfifo", "mknod", "mktemp", "more", "mountpoint", "mv",
    "namei", "nice", "nl", "nohup", "nproc", "numfmt", "od", "openssl", "paste", "patch",
    "pathchk", "perl", "pr", "printenv", "printf", "ps", "ptx", "pwd", "readlink", "realpath",
    "rename.ul", "renice", "rev", "rm", "rmdir", "script", "sdiff", "sed", "seq", "setsid",
    "sha1sum", "sha224sum", "sha256sum", "sha384sum", "sha512sum", "shred", "shuf", "sleep",
    "sort", "split", "stat", "stdbuf", "strings", "stty", "su", "sum", "sync", "tabs", "tac",
    "tail", "tar", "taskset", "tee", "test", "timeout", "touch", "tr", "true", "truncate", "tsort",
    "tty", "uname", "unexpand", "uniq", "unlink", "unshare", "uptime", "vdir", "wc", "whereis",
    "which.debianutils", "who", "whoami", "xargs", "yes"]

/-- Other names of programs. -/
def links : List (String × String) :=
  [("awk", "/etc/alternatives/awk"), ("nawk", "/etc/alternatives/nawk"), ("sh", "dash"),
    ("which", "/etc/alternatives/which")]

/-- The programs that names are chosen to stand for. -/
def alternatives : List (String × String) :=
  [("awk", "/usr/bin/mawk"), ("nawk", "/usr/bin/mawk"), ("which", "/usr/bin/which.debianutils")]

/-- The devices, with their permissions. -/
def devices : List (String × Nat) :=
  [("full", 438), ("null", 438), ("random", 438), ("tty", 438), ("urandom", 438), ("zero", 438)]

/-- The files in the directory for settings. -/
def settings : List (String × String) :=
  [("group", Account.groupFile), ("hostname", "localhost\n"), ("hosts", "127.0.0.1\tlocalhost\n"),
    ("passwd", Account.passwords), ("profile", ""), ("resolv.conf", ""), ("shells", "/bin/sh\n")]

/-- A disk with all that a system comes with. -/
def addTo (now : Int) (d : Disk) : Disk :=
  let d := directories.foldl (fun d place => (d.addDirectories now Disk.root place).1) d
  let d := programs.foldl (fun d name => d.put now ["usr", "bin", name] (.program name) 493) d
  let d := links.foldl (fun d l => d.put now ["usr", "bin", l.1] (.link l.2) 511) d
  let d := ["bin", "lib", "lib64", "sbin"].foldl
    (fun d name => d.put now [name] (.link ("usr/" ++ name)) 511) d
  let d := alternatives.foldl
    (fun d l => d.put now ["etc", "alternatives", l.1] (.link l.2) 511) d
  let d := devices.foldl (fun d e => d.put now ["dev", e.1] .device e.2) d
  let d := ["stdin", "stdout", "stderr"].zipIdx.foldl
    (fun d (name, i) => d.put now ["dev", name] (.link s!"/proc/self/fd/{i}") 511) d
  let text (s : String) : Content := .regular (Utf8.encode s.toList)
  let d := settings.foldl (fun d f => d.put now ["etc", f.1] (text f.2) 420) d
  let mode (d : Disk) (place : List String) (mode : Nat) : Disk :=
    match d.walk true 40 Disk.root place with
    | .ok s => s.found.elim d fun n => d.update n fun i => { i with mode }
    | .error _ => d
  mode (mode (mode d ["tmp"] 1023) ["var", "tmp"] 1023) ["root"] 448

end CredoAssistant.Shell.Installation
