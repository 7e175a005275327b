import AgentLink.CommandLine.Session

/-!
# The program

The program rehearses a session of the command line against a recorded agent: standard input
holds all bytes that the agent sends, and every host name is that of the machine itself. It
prints what the session prints. A session that fails says why on standard error.
-/
namespace AgentLink.Program

/-- The address of the machine itself. -/
def loopback : Ipv4 := ⟨127, 0, 0, 1⟩

/-- The network on which a recorded agent answers once. -/
def recorded (bytes : Bytes) : Network where
  lookups := [.entries [.ipv4 (some loopback)]]
  dials := [.accepted ⟨[.data bytes none], true⟩ none none]

/-- The contents of the file that the options name. -/
def readFiles (options : CommandLine.Options) : IO CommandLine.Files := do
  match options.attach with
  | none => return fun _ => .ok []
  | some path =>
    try
      let contents ← IO.FS.readBinFile path
      return fun _ => .ok contents.data.toList
    catch error => return fun _ => .error (.described .other error.toString)

/-- Print what a session prints, and why it failed if it did. -/
def report (run : Run Network Unit) : IO UInt32 := do
  for line in run.journal.printed do
    IO.println line
  match run.outcome with
  | .ok _ => return 0
  | .failed error =>
    IO.eprintln error.message
    return 1
  | .fault =>
    IO.eprintln "fault"
    return 1
  | .waiting =>
    IO.eprintln "the agent sent too little"
    return 1

end AgentLink.Program

/-- Rehearse a session. -/
def main (arguments : List String) : IO UInt32 := do
  match AgentLink.CommandLine.Options.ofArguments arguments with
  | .error refusal =>
    IO.eprintln refusal.name
    return 2
  | .ok options =>
    let files ← AgentLink.Program.readFiles options
    let sent ← (← IO.getStdin).readBinToEnd
    AgentLink.Program.report
      (AgentLink.CommandLine.run (AgentLink.Program.recorded sent.data.toList) files options)
