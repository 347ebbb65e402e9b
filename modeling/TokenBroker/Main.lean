import TokenBroker.CommandLine.Footprint
import TokenBroker.Store.Basic
import Std.Time.DateTime.Timestamp

/-!
# The program

Fetches what a command line may look at from the machine, runs it, and writes back what has changed.
The entries of a store are kept as an archive in their directory. There is no transport to token
endpoints here: every request ends as one that got no answer.
-/

namespace TokenBroker

namespace Machine

/-- The name of the archive in the directory of a store. -/
def archiveName : String := "entries.json"

/-- A location as the machine writes it. -/
def pathOf (l : Location) : String := "/" ++ "/".intercalate l

/-- The names of a path that starts at the root. -/
def locationOf (path : String) : Location := (Path.ofText path).parts

/-- The text of a file, or nothing. -/
def textOf (path : String) : IO String := do
  try return Utf8.decodeLossy (← IO.FS.readBinFile path).toList
  catch _ => return ""

/-- The variables of the process. -/
def environment : IO Environment := do
  let text ← textOf "/proc/self/environ"
  let entries := (text.toList.splitOnP (· = '\x00')).filter (· ≠ [])
  return entries.map fun cs =>
    (String.ofList (cs.takeWhile (· ≠ '=')), String.ofList ((cs.dropWhile (· ≠ '=')).drop 1))

/-- The accounts of the machine; the one that runs the program is known by the variable that names
it. -/
def accounts (environment : Environment) : IO Accounts := do
  let lines := (← textOf "/etc/passwd").toList.splitOnP (· = '\n')
  let named := lines.filterMap fun line =>
    match line.splitOnP (· = ':') with
    | [name, _, _, _, _, home, _] => some (String.ofList name, String.ofList home)
    | _ => none
  return { own := (environment.get? "LOGNAME").bind (Table.get? named), named }

/-- The name of the platform. -/
def platform : IO String := do
  return Text.trim (← textOf "/proc/sys/kernel/ostype")

/-- The time now. -/
def now : IO DateTime := do
  let micros := (← Std.Time.Timestamp.now).toNanosecondsSinceUnixEpoch.val / 1000
  return ((DateTime.read "1970-01-01T00:00:00Z").toOption.bind (·.shift? micros)).getD default

/-- The transport of a machine without one. -/
def noTransport (_ : Nat) : Delivery := ⟨.failed ⟨"ConnectError", "no transport available"⟩, 0⟩

/-- Fetches a location whose directory is known. -/
def fetch (t : FileTree) (l : Location) : IO FileTree := do
  if (t.requireDirectory l.dropLast).toOption.isNone then return t
  try
    let content ← IO.FS.readBinFile (pathOf l)
    return t.put l (.file content.toList FileTree.defaultMode)
  catch
    | .inappropriateType .. => do
      let archive ← textOf (pathOf (l ++ [archiveName]))
      return t.put l (.directory (Archive.read archive))
    | _ => return t

/-- Fetches all that has to be known to follow paths. -/
def fetchAll (h : Host) (paths : List Path) : IO Host := do
  let tree ← (paths.flatMap (Path.footprint h.here)).eraseDups.foldlM fetch h.tree
  return { h with tree }

/-- The host for a command line. -/
def host (words : List String) : IO Host := do
  let here ← IO.currentDir
  let environment ← environment
  let h : Host :=
    { here := locationOf s!"{here}"
      environment
      accounts := ← accounts environment
      platform := ← platform
      screen := { output := ← (← IO.getStdout).isTty, error := ← (← IO.getStderr).isTty }
      world := { clock := ← now, transport := noTransport, shared := { store := .empty .memory } } }
  let h ← fetchAll h (h.settingsPlaces words)
  fetchAll h (h.places words)

/-- Writes a node to the machine if it was not there before. -/
def store (before : FileTree) (l : Location) : Node → IO Unit
  | .directory entries => do
    let known := before.at? l
    if known.isNone then IO.FS.createDirAll (pathOf l)
    let old := match known with
      | some (.directory entries) => Archive.write entries
      | _ => Archive.write []
    let new := Archive.write entries
    if old ≠ new then IO.FS.writeFile (pathOf (l ++ [archiveName])) new
  | .file content _ => do
    if (before.at? l).isNone then IO.FS.writeBinFile (pathOf l) ⟨content.toArray⟩

end Machine

end TokenBroker

/-- Runs a command line. -/
def main (words : List String) : IO UInt32 := do
  let before ← TokenBroker.Machine.host words
  let (after, ended) := TokenBroker.CommandLine.run before words
  for (l, node) in after.tree.nodes do
    TokenBroker.Machine.store before.tree l node
  (← IO.getStdout).putStr ended.out
  for entry in ended.log do
    (← IO.getStderr).putStr s!"{entry.level.name} {entry.message}\n"
  (← IO.getStderr).putStr ended.err
  return UInt32.ofNat (ended.status % 256).toNat
