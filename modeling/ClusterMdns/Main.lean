import ClusterMdns.Launch
import ClusterMdns.Link

/-! The command line. Messages of the link come and go on the standard streams; the log goes where errors
go. -/

namespace ClusterMdns

def showLines (lines : List LogLine) : IO Unit := do
  for l in lines do
    IO.eprintln ("[" ++ l.level.name ++ "] " ++ l.text)

def showOutgoing (messages : List Outgoing) : IO Unit := do
  for m in messages do
    IO.println (Link.render m)
  (← IO.getStdout).flush

/-- Reads the files that can be read. -/
def learn (host : Host) (paths : List String) : IO Host := do
  let mut files := host.files
  for path in paths do
    try
      let content ← IO.FS.readBinFile path
      files := files.add path content.toList
    catch _ => pure ()
  return { host with files }

def readEnvironment : IO Environment := do
  let mut env : Environment := []
  for name in Launch.variableNames do
    if let some v ← IO.getEnv name then
      env := env ++ [(name, v)]
  return env

/-- Shows the messages and lines that are new since `before`. -/
def showNews (before after : Daemon) : IO Unit := do
  showOutgoing (before.news after)
  showLines (after.visible.drop before.visible.length)

def exitCode : Ending → UInt32
  | .finished => 0
  | .exit code => code.toUInt32
  | .fault _ => 1

/-- Lets the program run until it is over; the end of the input is a signal to end. -/
partial def converse (d : Daemon) : IO UInt32 := do
  if d.isOver then
    let report := d.report
    showLines (report.lines.drop d.visible.length)
    return exitCode report.ending
  let line ← (← IO.getStdin).getLine
  let next := if line.isEmpty then d.terminate else match Link.read? line with
    | some message => d.take message
    | none => d
  showNews d next
  converse next

def showExit : CommandExit → IO Unit
  | .help => do
    IO.println "Advertise Kubernetes services and ingresses over mDNS."
    for o in CommandLine.options do
      IO.println ("  " ++ ", ".intercalate o.names)
  | .version => IO.println ("external-mdns " ++ programVersion)
  | .misuse message => IO.eprintln ("external-mdns: error: " ++ message)
  | .fault _ => IO.eprintln "external-mdns: error: unreadable arguments"

end ClusterMdns

open ClusterMdns

def main (arguments : List String) : IO UInt32 := do
  let directory ← IO.currentDir
  let host : Host := {
    files := {}
    environment := ← readEnvironment
    workingDirectory := .ofString directory.toString }
  let host ← learn host (Launch.settingsFiles { host, arguments })
  let host ← learn host (Launch.clusterFiles { host, arguments })
  let host ← learn host (Launch.namedFiles { host, arguments })
  match (Launch.onHost host arguments).map Launch.start with
  | .error f => return exitCode (.fault f)
  | .ok (.over exit report) =>
    if let some e := exit then showExit e
    showLines report.lines
    showOutgoing (report.responder.sent.map .packet)
    return exitCode report.ending
  | .ok (.running d) =>
    showLines d.visible
    showOutgoing d.opening
    converse d
