import StreamTransport.Machine.Basic

/-!
# Paths of a simulated machine

A path is walked name by name from the root, or from the working directory if
it does not start with a slash. A link leads on from the root along the place
it points to, and a walk follows so many links and no more. The file system
holds the usual directories, links and devices of a root file system, one
private directory, the socket files that were made, and a file for every open
descriptor. A socket file stays behind when its socket is closed. Some
directories let nobody write, and refuse connects for that reason.
-/

set_option autoImplicit false

namespace StreamTransport.Machine

abbrev Place := List Bytes

inductive FileKind where
  | directory (refusal : Option Errno)
  | plain
  | link (target : Place)
  | socketFile (owner : Serial)

def slash : UInt8 := 47

/-- The names in a path. Around every slash there is one, be it empty. -/
def names : Bytes → List Bytes
  | [] => [[]]
  | b :: rest =>
    if b = slash then [] :: names rest
    else
      match names rest with
      | [] => [[b]]
      | first :: others => (b :: first) :: others

def place (path : List String) : Place := path.map Text.utf8

/-- Where a machine keeps the socket files it makes. -/
def privatePlace (m : Machine) : Place := place ["tmp", m.privateName]

def privateDirectory (m : Machine) : String := "/tmp/" ++ m.privateName

/-- The path of a file of the private directory. -/
def privatePath (m : Machine) (name : String) : String := m.privateDirectory ++ "/" ++ name

def workingPlace : Place := place ["home"]

/-- The names in one directory. -/
def inside (directory : List String) (entries : List String) : List Place :=
  entries.map fun name => place (directory ++ [name])

def directories : List Place :=
  [[]] ++
    inside [] ["boot", "dev", "etc", "home", "media", "mnt", "opt", "proc", "root", "run", "srv",
      "sys", "tmp", "usr", "var"] ++
    inside ["dev"] ["pts", "shm"] ++
    inside ["etc"] ["apt", "default", "profile.d", "ssl"] ++
    inside ["proc"] ["1", "bus", "driver", "fs", "irq", "self", "sys", "tty"] ++
    inside ["proc", "1"] ["attr", "fd", "map_files", "net", "ns", "task"] ++
    inside ["proc", "self"] ["attr", "fd", "fdinfo", "map_files", "net", "ns", "task"] ++
    inside ["proc", "sys"] ["fs", "kernel", "net", "vm"] ++
    inside ["sys"] ["block", "bus", "class", "dev", "devices", "fs", "kernel", "module"] ++
    inside ["run"] ["lock"] ++
    inside ["usr"] ["bin", "games", "include", "lib", "lib64", "libexec", "local", "sbin", "share",
      "src"] ++
    inside ["usr", "local"] ["bin", "etc", "lib", "sbin", "share"] ++
    inside ["var"] ["backups", "cache", "lib", "local", "log", "mail", "opt", "spool", "tmp"]

/-- Directories that refuse to be written to, and how. -/
def refusals : List (Place × Errno) :=
  [["proc", "1"], ["proc", "self"]].map (fun path => (place path, .notPermitted)) ++
    [["proc", "sys"], ["proc", "sys", "fs"], ["proc", "sys", "kernel"], ["proc", "sys", "net"],
      ["proc", "sys", "vm"]].map fun path => (place path, .permissionDenied)

def links : List (Place × Place) := [
  (place ["bin"], place ["usr", "bin"]),
  (place ["lib"], place ["usr", "lib"]),
  (place ["lib64"], place ["usr", "lib64"]),
  (place ["sbin"], place ["usr", "sbin"]),
  (place ["var", "lock"], place ["run", "lock"]),
  (place ["var", "run"], place ["run"]),
  (place ["dev", "fd"], place ["proc", "self", "fd"]),
  (place ["dev", "stdin"], place ["proc", "self", "fd", "0"]),
  (place ["dev", "stdout"], place ["proc", "self", "fd", "1"]),
  (place ["dev", "stderr"], place ["proc", "self", "fd", "2"]),
  (place ["proc", "thread-self"], place ["proc", "self"]),
  (place ["proc", "self", "root"], []),
  (place ["proc", "self", "cwd"], workingPlace),
  (place ["proc", "net"], place ["proc", "self", "net"])]

def plainFiles : List Place :=
  inside ["dev"] ["console", "full", "null", "ptmx", "random", "tty", "urandom", "zero"] ++
    inside ["etc"] ["fstab", "group", "gshadow", "host.conf", "hostname", "hosts", "ld.so.conf",
      "os-release", "passwd", "profile", "resolv.conf", "services", "shadow", "shells"] ++
    inside ["proc"] ["cmdline", "cpuinfo", "devices", "filesystems", "interrupts", "loadavg",
      "meminfo", "mounts", "partitions", "stat", "swaps", "uptime", "version", "vmstat"] ++
    inside ["proc", "self"] ["auxv", "cgroup", "cmdline", "comm", "environ", "exe", "io", "limits",
      "maps", "mem", "mountinfo", "mounts", "oom_score", "pagemap", "sched", "smaps", "stack",
      "stat", "statm", "status", "syscall", "wchan"] ++
    inside ["proc", "sys", "kernel"] ["domainname", "hostname"] ++
    inside ["usr", "bin"] ["bash", "cat", "cp", "dash", "echo", "env", "false", "grep", "id", "ls",
      "mkdir", "mv", "rm", "sed", "sh", "sleep", "sort", "tail", "tar", "test", "touch", "true"]

/-- Whether a place is the file of an open descriptor. -/
def isDescriptorFile (m : Machine) (p : Place) : Bool :=
  m.table.any fun entry => place ["proc", "self", "fd", toString entry.1] = p

def fileAt? (m : Machine) (p : Place) : Option FileKind :=
  if directories.contains p ∨ p = m.privatePlace then some (.directory (refusals.lookup p))
  else if plainFiles.contains p ∨ m.isDescriptorFile p then some .plain
  else ((links.lookup p).map .link) <|> ((m.socketFiles.lookup p).map .socketFile)

/-- How many links one walk follows. -/
def linkLimit : Nat := 40

/-- Walks on from a directory; `left` more links may be followed. -/
def walk (m : Machine) (left : Nat) (here : Place) : List Bytes → Except Errno Place
  | [] => .ok here
  | name :: rest =>
    if name = [] ∨ name = Text.utf8 "." then walk m left here rest
    else if name = Text.utf8 ".." then walk m left here.dropLast rest
    else
      match m.fileAt? (here ++ [name]) with
      | none => .error .noEntry
      | some (.directory _) => walk m left (here ++ [name]) rest
      | some (.link target) =>
        match left with
        | 0 => .error .tooManyLevels
        | left + 1 => walk m left [] (target ++ rest)
      | some _ => if rest.isEmpty then .ok (here ++ [name]) else .error .notDirectory
termination_by names => (left, names.length)

/-- Where a path starts, and the names in it. -/
def split (path : Bytes) : Place × List Bytes :=
  match path with
  | [] => (workingPlace, [])
  | b :: rest => if b = slash then ([], names rest) else (workingPlace, names path)

def fileOf (m : Machine) (path : Bytes) : Except Errno FileKind := do
  if path = [] then throw .noEntry
  let (start, names) := split path
  match m.fileAt? (← m.walk linkLimit start names) with
  | some kind => return kind
  | none => throw .noEntry

/-- Where a file can be made: in a directory, under a name that nothing has. -/
def newPlace (m : Machine) (path : Bytes) : Except Errno Place := do
  let (start, names) := split path
  let parent ← m.walk linkLimit start names.dropLast
  let name := names.getLastD []
  if name = [] then throw .addressInUse
  match m.fileAt? parent with
  | some (.directory _) =>
    if name = Text.utf8 "." ∨ name = Text.utf8 ".." then throw .addressInUse
    if (m.fileAt? (parent ++ [name])).isSome then throw .addressInUse
    return parent ++ [name]
  | _ => throw .notDirectory

end StreamTransport.Machine
