import Shortcuts.Machine.Basic

/-!
# The standard machine

A machine with the usual programs in both program directories, the usual devices, nothing on
standard input and an empty working directory.
-/

namespace Shortcuts.Machine

open Text

def location (path : String) : Location := names (octets path)

def directories : List String :=
  ["boot", "dev", "dev/pts", "dev/shm", "etc", "home", "media", "mnt", "opt", "proc", "proc/1",
   "proc/bus", "proc/driver", "proc/fs", "proc/irq", "proc/self", "proc/self/attr", "proc/self/fd",
   "proc/self/fdinfo", "proc/self/net", "proc/self/ns", "proc/self/task", "proc/sys", "proc/sys/fs",
   "proc/sys/kernel", "proc/sys/net", "proc/sys/vm", "proc/tty", "root", "run", "run/lock", "srv",
   "sys", "sys/block", "sys/bus", "sys/class", "sys/dev", "sys/devices", "sys/firmware", "sys/fs",
   "sys/kernel", "sys/module", "sys/power", "tmp", "tmp/work", "usr", "usr/bin", "usr/games",
   "usr/include", "usr/lib", "usr/lib64", "usr/local", "usr/local/bin", "usr/local/etc",
   "usr/local/lib", "usr/local/sbin", "usr/local/share", "usr/sbin", "usr/share", "usr/src", "var",
   "var/cache", "var/lib", "var/log", "var/mail", "var/spool", "var/tmp"]

def links : List (String × String) :=
  [("bin", "usr/bin"), ("lib", "usr/lib"), ("lib64", "usr/lib64"), ("sbin", "usr/sbin"),
   ("dev/fd", "/proc/self/fd"), ("dev/stdin", "/proc/self/fd/0"),
   ("dev/stdout", "/proc/self/fd/1"), ("dev/stderr", "/proc/self/fd/2"),
   ("proc/net", "self/net"), ("proc/self/root", "/"), ("proc/thread-self", "self"),
   ("var/lock", "/run/lock"), ("var/run", "/run")]

def devices : List (String × Device) :=
  [("dev/null", .sink), ("dev/zero", .zeros), ("dev/random", .zeros), ("dev/urandom", .zeros),
   ("dev/full", .full), ("dev/tty", .terminal), ("proc/self/mem", .unreadable)] ++
  (List.range 10).map fun fd => ("proc/self/fd/" ++ toString fd, .descriptor fd)

/-- The users that every system has. -/
def users : String :=
  "root:x:0:0:root:/root:/bin/bash\ndaemon:x:1:1:daemon:/usr/sbin:/usr/sbin/nologin\n" ++
  "bin:x:2:2:bin:/bin:/usr/sbin/nologin\nsys:x:3:3:sys:/dev:/usr/sbin/nologin\n" ++
  "sync:x:4:65534:sync:/bin:/bin/sync\ngames:x:5:60:games:/usr/games:/usr/sbin/nologin\n" ++
  "nobody:x:65534:65534:nobody:/nonexistent:/usr/sbin/nologin\n"

def texts : List (String × String) :=
  [("proc/sys/kernel/ostype", "Linux\n"), ("etc/passwd", users),
   ("etc/group", "root:x:0:\ndaemon:x:1:\nbin:x:2:\nsys:x:3:\n"),
   ("etc/hosts", "127.0.0.1 localhost\n"), ("etc/hostname", "localhost\n"),
   ("etc/shells", "# /etc/shells: valid login shells\n/bin/sh\n/usr/bin/sh\n")]

/-- Files in which the system tells about itself. They are empty here. -/
def accounts : List String :=
  ["proc/cmdline", "proc/cpuinfo", "proc/filesystems", "proc/loadavg", "proc/meminfo", "proc/stat",
   "proc/uptime", "proc/version", "proc/self/cmdline", "proc/self/comm", "proc/self/environ",
   "proc/self/maps", "proc/self/stat", "proc/self/status"]

def standardFiles : Files :=
  let f := directories.foldl (fun f dir => f.set (location dir) .directory) ({} : Files)
  let f := links.foldl (fun f l => f.set (location l.1) (.link (octets l.2))) f
  let f := f.set (location "proc/self/cwd") .workingDirectory
  let f := devices.foldl (fun f d =>
    f.putFile (location d.1) { content := .device d.2, mode := 0o666 }) f
  let f := texts.foldl (fun f t =>
    f.putFile (location t.1) { content := .data (octets t.2) }) f
  let f := accounts.foldl (fun f path =>
    f.putFile (location path) { content := .data [], mode := 0o444 }) f
  let f := f.putFile (location "proc/self/exe") { content := .program .succeed, mode := 0o755 }
  let f := Utility.named.foldl (fun f u =>
    f.putFile (location ("usr/bin/" ++ u.1)) { content := .program u.2, mode := 0o755 }) f
  f.set (location "usr/bin/sh") (.link (octets "dash"))

def searchPath : String := "/usr/bin:/bin"

/-- A machine with some environment and standard input, which is a file or a pipe. -/
def standardWith (environment : Variables) (input : Octets) (pipe : Bool) : Machine :=
  let (input, system) := System.openNew { files := standardFiles, started := 1000 } input pipe
  { system, directory := location "tmp/work", environment, input }

def standardEnvironment : Variables :=
  [(octets "LC_ALL", octets "C"), (octets "PATH", octets searchPath)]

def standard : Machine := standardWith standardEnvironment [] true

/-! ## Furnishing -/

def withDirectory (m : Machine) (path : String) : Machine :=
  { m with system := { m.system with
      files := (m.system.files.makeDirectories m.directory (octets path)).2 } }

/-- Put a file in place with the directories above it. -/
def withFile (m : Machine) (path : String) (file : File) : Machine :=
  let above := (octets path).reverse.dropWhile (· != '/') |>.reverse
  let m := if above = [] then m else m.withDirectory (spelled above)
  match m.system.files.place m.directory (octets path) with
  | .ok l => { m with system := { m.system with files := m.system.files.putFile l file } }
  | .error _ => m

end Shortcuts.Machine
