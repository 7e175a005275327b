import AgentLink.Agent
import AgentLink.CommandLine.Options
import AgentLink.CommandLine.Reply
import AgentLink.Message

/-!
# Sessions of the command line

The command line either waits for an agent to start and prints the number of its process, or
connects to an agent that runs, sends the command it was given, if any, and prints the reply. It
closes the connection at the end of a session that succeeded and simply drops it otherwise.
-/
namespace AgentLink.CommandLine

/-- The files that can be attached. -/
abbrev Files := String → Except SystemError Bytes

/-- No buffer is larger than half the addresses there are. -/
def bufferLimit : Nat := UInt64.size / 2

/-- The settings that the options ask for. -/
def Options.settings (options : Options) : Settings :=
  Settings.withDial {} { attempts := options.connectAttempts }

/-- Close a link at the end of a session. -/
def finish (network : Network) (link : Link) : Run Network Unit :=
  let closed := link.close
  ⟨closed.outcome, network, closed.journal⟩

/-- Wait for an agent to start, and print the number of its process. -/
def awaitGreeting (network : Network) (options : Options) : Run Network Unit :=
  let buffer := List.replicate options.buffer Byte.nul
  (Agent.start network options.host options.port {} options.settings buffer).andThen (·.1)
    fun agent (later, stored) =>
      match Greeting.processNumber stored with
      | .ok number =>
        (finish later agent.link).prepend [.printed ("agent pid " ++ toString number)]
      | .failed error => ⟨.failed error, later, []⟩
      | .fault => ⟨.fault, later, []⟩
      | .waiting => ⟨.waiting, later, []⟩

/-- The error of a path that holds a NUL: no file is named so. -/
def nulInPath : SystemError :=
  .described .invalidInput "file name contained an unexpected NUL byte"

/-- The bytes of the file to attach, if one is named. -/
def attachment (files : Files) (options : Options) : Except SystemError (Option Bytes) :=
  match options.attach with
  | none => .ok none
  | some path =>
    if (utf8 path).contains Byte.nul then .error nulInPath else (files path).map some

/-- Send the command, if there is one. -/
def sendCommand (files : Files) (options : Options) (link : Link) : Run Link Unit :=
  match options.command with
  | none => ⟨.ok (), link, []⟩
  | some command =>
    match attachment files options with
    | .error error => ⟨.failed (.transport error), link, []⟩
    | .ok attachment =>
      match Message.encode ⟨utf8 command, attachment⟩ with
      | .ok wire => link.send wire
      | .failed error => ⟨.failed error, link, []⟩
      | .fault => ⟨.fault, link, []⟩
      | .waiting => ⟨.waiting, link, []⟩

/-- Send the command over a link, and print the reply. -/
def converse (files : Files) (options : Options) (network : Network) (link : Link) :
    Run Network Unit :=
  (sendCommand files options link).andThen (fun _ => network) fun _ sent =>
    (Reply.receive sent options.buffer).andThen (fun _ => network) fun reply answered =>
      (finish network answered).prepend (reply.lines.map .printed)

/-- Do what the options ask for. -/
def run (network : Network) (files : Files) (options : Options) : Run Network Unit :=
  if bufferLimit ≤ options.buffer then ⟨.fault, network, []⟩
  else if options.waitGreeting then awaitGreeting network options
  else
    (network.connect options.host options.port options.settings).andThen id fun link later =>
      converse files options later link

end AgentLink.CommandLine
