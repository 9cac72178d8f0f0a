import FieldPattern.Shell.Tool.Table

/-! # The standard disk

What stands on a disk before anybody works with it: the usual directories, a few files, the
devices, and the programs, which are the shell and the tools of `Shell.Tool.table`. -/

namespace FieldPattern.Machine.Standard

/-- The locations of the usual directories. -/
def directories : List Location := [
  ["boot"], ["dev"], ["dev", "pts"], ["dev", "shm"], ["etc"], ["home"], ["media"], ["mnt"],
  ["opt"], ["proc"], ["proc", "self"], ["proc", "self", "fd"], ["root"], ["run"], ["srv"],
  ["sys"], ["tmp"], ["usr"], ["usr", "bin"], ["usr", "lib"], ["usr", "lib64"], ["usr", "local"],
  ["usr", "local", "bin"], ["usr", "local", "sbin"], ["usr", "sbin"], ["usr", "share"], ["var"],
  ["var", "tmp"]]

/-- The directories in which everybody may make files, but remove only their own. -/
def shared : List Location := [["dev", "shm"], ["tmp"], ["var", "tmp"]]

/-- The links to directories that have moved, and to streams. -/
def links : List (Location × String) := [
  (["bin"], "usr/bin"), (["lib"], "usr/lib"), (["lib64"], "usr/lib64"), (["sbin"], "usr/sbin"),
  (["dev", "fd"], "/proc/self/fd"), (["dev", "stdin"], "/proc/self/fd/0"),
  (["dev", "stdout"], "/proc/self/fd/1"), (["dev", "stderr"], "/proc/self/fd/2")]

/-- The devices by name. -/
def devices : List (String × Device) := [
  ("full", .full), ("null", .null), ("random", .noise), ("tty", .terminal), ("urandom", .noise),
  ("zero", .zeros)]

/-- The files by location. -/
def files : List (Location × String) :=
  [(["etc", "passwd"], "root:x:0:0:root:/root:/bin/bash\n")]

/-- The name of the shell as a program. -/
def shellName : String := "dash"

/-- The programs by name. -/
def programs : List (String × Node) :=
  (shellName, .program shellName) :: ("sh", .link shellName)
    :: Shell.Tool.table.map fun t => (t.1, .program t.1)

/-- A disk with the standard nodes. -/
def disk : Disk :=
  let nodes := directories.map (fun l => (l, Node.directory))
    ++ links.map (fun (l, target) => (l, Node.link target))
    ++ files.map (fun (l, text) => (l, Node.file text.toUTF8))
    ++ devices.map (fun (name, d) => (["dev", name], Node.device d))
    ++ programs.map (fun (name, n) => (["usr", "bin", name], n))
  { nodes }

end FieldPattern.Machine.Standard
