import Monitoring.CommandLine.Run

namespace Monitoring

open CommandLine

def reasoned {α : Type} (action : IO α) : IO (Except String α) := do
  match ← action.toBaseIO with
  | .ok value => return .ok value
  | .error e => return .error e.toString

def regularFiles (directory : String) : IO (List String) := do
  let entries ← (← IO.FS.realPath directory).readDir
  let files ← entries.filterM fun entry => return (← entry.path.symlinkMetadata).type == .file
  return (files.map fun entry => entry.fileName).toList

def system : Host IO where
  workDirectory := return (← IO.currentDir).toString
  input := reasoned do (← IO.getStdin).readToEnd
  resolve := fun path => reasoned do return (← IO.FS.realPath path).toString
  isDirectory := fun path => do (← IO.FS.realPath path).isDir
  content := fun path => reasoned (IO.FS.readFile path)
  regularFiles := fun path => reasoned (regularFiles path)
  randomBytes := fun count => return (← IO.getRandomBytes count.toUSize).toList

end Monitoring

def main (arguments : List String) : IO UInt32 := do
  let outcome ← Monitoring.system.run arguments
  match outcome with
  | .printed text => IO.print text
  | .failed e => e.report.forM fun line => IO.eprintln line
  | .misused e => IO.eprintln e.message
  return outcome.exitCode.toUInt32
