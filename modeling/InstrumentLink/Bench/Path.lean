/-!
# Paths

Where a serial port is looked for, the system may have something else or
nothing at all.  A path is followed name by name from the root, or from a
directory below it of which nothing is known, and the first name that leads
nowhere decides.  Lengths are those of the text in bytes.
-/

namespace InstrumentLink

/-- What stands at a path. -/
inductive Node where
  | directory (entries : List (String × Node))
  /-- Anything else, and why it is no serial port. -/
  | other (reason : String)

/-- A file or a device that is no terminal. -/
def Node.noTerminal : Node := .other "Not a typewriter"

namespace Path

def entries (names : List String) (node : Node) : List (String × Node) :=
  names.map fun name => (name, node)

def devices : List (String × Node) :=
  entries ["null", "zero", "full"] .noTerminal ++
    entries ["random", "urandom"] (.other "Invalid argument") ++
    entries ["tty"] (.other "No such device or address") ++
    entries ["fd", "pts", "shm"] (.directory [])

/-- The part of a system that can be relied upon. -/
def root : Node :=
  .directory
    ([("dev", .directory devices),
      ("etc", .directory
        (entries ["group", "hostname", "hosts", "passwd", "resolv.conf"] .noTerminal)),
      ("usr", .directory
        (entries ["bin", "include", "lib", "local", "sbin", "share", "src"] (.directory [])))] ++
      entries
        ["bin", "boot", "home", "lib", "media", "mnt", "opt", "proc", "root", "run", "sbin", "srv",
          "sys", "tmp", "var"]
        (.directory []))

/-- The nodes above the directory from which paths without a root are followed,
the nearest one first. -/
def aboveStart : List Node := [.directory [], root]

def byteLength (text : List Char) : Nat := (String.ofList text).utf8ByteSize

def nameLimit : Nat := 255

def pathLimit : Nat := 4095

/-- Follows names from a node, the nodes above it being given from the nearest
one upwards.  The top is its own parent; an empty name stays in place. -/
def follow (here : Node) (above : List Node) : List (List Char) → Except String Node
  | [] => .ok here
  | name :: rest =>
      match here with
      | .other _ => .error "Not a directory"
      | .directory entries =>
          if name = [] ∨ name = ['.'] then follow here above rest
          else if name = ['.', '.'] then
            match above with
            | [] => follow here [] rest
            | parent :: above => follow parent above rest
          else if nameLimit < byteLength name then .error "File name too long"
          else
            match entries.lookup (String.ofList name) with
            | some next => follow next (here :: above) rest
            | none => .error "No such file or directory"

/-- Why there is no serial port at a path. -/
def obstacle (path : String) : String :=
  let text := path.toList
  let (start, above) :=
    if text.head? = some '/' then (root, []) else (.directory [], aboveStart)
  if text.contains '\x00' then "Invalid argument"
  else if pathLimit < byteLength text then "File name too long"
  else
    match follow start above (text.splitOn '/') with
    | .error reason | .ok (.other reason) => reason
    | .ok (.directory _) => "Is a directory"

end Path

end InstrumentLink
