import AgentLink.Decimal

/-!
# Options of the command line

Arguments name options, with a value after an equals sign, glued to a short name, or in the next
argument. An argument that begins with a minus sign and goes on always names an option; it is
never a value.
`Options.ofArguments` either understands all arguments or refuses them for the first thing that
is wrong.

An option whose value is awaited or has come in an argument of its own is *open*: it is settled
when the next option is named or the arguments end, and what is wrong with it is only then found
out.
-/
namespace AgentLink.CommandLine

/-- Why arguments give no options. -/
inductive Refusal where
  /-- An option that is needed is not given. -/
  | missingRequired
  /-- An argument names no option. -/
  | unknownArgument
  /-- An option is given without its value. -/
  | invalidValue
  /-- A number is not one, or is out of range. -/
  | valueValidation
  /-- An option is given twice, or two options exclude each other. -/
  | argumentConflict
  /-- An option that takes no value is given one. -/
  | tooManyValues
  /-- Help was asked for. -/
  | displayHelp
  /-- The version was asked for. -/
  | displayVersion
deriving Repr, DecidableEq

/-- The name of a refusal. -/
def Refusal.name : Refusal → String
  | missingRequired => "MissingRequiredArgument"
  | unknownArgument => "UnknownArgument"
  | invalidValue => "InvalidValue"
  | valueValidation => "ValueValidation"
  | argumentConflict => "ArgumentConflict"
  | tooManyValues => "TooManyValues"
  | displayHelp => "DisplayHelp"
  | displayVersion => "DisplayVersion"

/-- What the command line asks for. -/
structure Options where
  /-- The host of the agent. -/
  host : String
  /-- The port of the agent. -/
  port : String
  /-- The command to send, if any. -/
  command : Option String
  /-- The file whose bytes are sent along with the command. -/
  attach : Option String
  /-- The capacity of the buffer for replies. -/
  buffer : Nat
  /-- Attempts to connect. -/
  connectAttempts : Nat
  /-- Whether to wait for the greeting of an agent that is starting. -/
  waitGreeting : Bool
deriving Repr, DecidableEq

/-- The options that take a value. -/
inductive Key where
  | host | port | command | attach | buffer | connectAttempts
deriving Repr, DecidableEq

/-- The options that take none. -/
inductive Switch where
  | waitGreeting | help | version
deriving Repr, DecidableEq

/-- What an argument says. -/
inductive Argument where
  /-- Only values follow. -/
  | escape
  /-- A value. -/
  | value (text : String)
  /-- An option that takes a value, with the value if it is given in the same argument. -/
  | key (key : Key) (value : Option String)
  /-- An option that takes none, and whether it is given one all the same. -/
  | switch (switch : Switch) (valued : Bool)
  /-- No option. -/
  | unknown
deriving Repr, DecidableEq

namespace Argument

/-- An argument by the long name of its option. -/
def ofLong (name : String) (value : Option String) : Argument :=
  match name with
  | "host" => .key .host value
  | "port" => .key .port value
  | "command" => .key .command value
  | "attach" => .key .attach value
  | "buffer" => .key .buffer value
  | "connect-attempts" => .key .connectAttempts value
  | "wait-greeting" => .switch .waitGreeting value.isSome
  | "help" => .switch .help value.isSome
  | "version" => .switch .version value.isSome
  | _ => .unknown

/-- A value glued to a short name, perhaps with an equals sign between them. -/
def glued : List Char → Option String
  | [] => none
  | '=' :: text => some (String.ofList text)
  | text => some (String.ofList text)

/-- An argument by the short name of its option. -/
def ofShort (letter : Char) (rest : List Char) : Argument :=
  match letter with
  | 'p' => .key .port (glued rest)
  | 'c' => .key .command (glued rest)
  | 'a' => .key .attach (glued rest)
  | 'b' => .key .buffer (glued rest)
  | 'h' => .switch .help false
  | 'V' => .switch .version false
  | _ => .unknown

/-- The value behind the equals sign of a long name. -/
def afterEquals : List Char → Option String
  | [] => none
  | _ :: text => some (String.ofList text)

/-- What an argument says. A minus sign alone is a value. -/
def ofText (text : String) : Argument :=
  match text.toList with
  | ['-', '-'] => .escape
  | '-' :: '-' :: long =>
    ofLong (String.ofList (long.takeWhile (· != '='))) (afterEquals (long.dropWhile (· != '=')))
  | '-' :: letter :: rest => ofShort letter rest
  | _ => .value text

end Argument

/-- The options understood so far. -/
structure Draft where
  /-- The host. -/
  host : Option String := none
  /-- The port. -/
  port : Option String := none
  /-- The command. -/
  command : Option String := none
  /-- The file. -/
  attach : Option String := none
  /-- The capacity of the buffer. -/
  buffer : Option Nat := none
  /-- Attempts to connect. -/
  connectAttempts : Option Nat := none
  /-- Whether to wait for a greeting. -/
  waitGreeting : Bool := false
deriving Repr, DecidableEq

/-- An option whose value is awaited, or has come but is not settled. -/
structure Open where
  /-- The option. -/
  key : Key
  /-- Its value. -/
  value : Option String
deriving Repr, DecidableEq

/-- A number that may have a plus sign, below a limit. -/
def readCount? (limit : Nat) (text : String) : Option Nat :=
  match utf8 text with
  | 43 :: digits => Decimal.read? limit digits
  | digits => Decimal.read? limit digits

/-- A number that may have a sign, but is not negative, below a limit. -/
def readSigned? (limit : Nat) (text : String) : Option Nat :=
  match utf8 text with
  | 45 :: digits => Decimal.read? 1 digits
  | _ => readCount? limit text

namespace Draft

/-- Whether an option is given. -/
def has (draft : Draft) : Key → Bool
  | .host => draft.host.isSome
  | .port => draft.port.isSome
  | .command => draft.command.isSome
  | .attach => draft.attach.isSome
  | .buffer => draft.buffer.isSome
  | .connectAttempts => draft.connectAttempts.isSome

/-- Give an option its value. -/
def assign (draft : Draft) (key : Key) (text : String) : Except Refusal Draft :=
  match key with
  | .host => .ok { draft with host := some text }
  | .port => .ok { draft with port := some text }
  | .command => .ok { draft with command := some text }
  | .attach =>
    if text.isEmpty then .error .invalidValue else .ok { draft with attach := some text }
  | .buffer =>
    match readCount? UInt64.size text with
    | some size => .ok { draft with buffer := some size }
    | none => .error .valueValidation
  | .connectAttempts =>
    match readSigned? UInt32.size text with
    | some attempts => .ok { draft with connectAttempts := some attempts }
    | none => .error .valueValidation

/-- Settle the open option. Its value has to be there, and it must not have been given before. -/
def settle (draft : Draft) : Option Open → Except Refusal Draft
  | none => .ok draft
  | some ⟨_, none⟩ => .error .invalidValue
  | some ⟨key, some text⟩ =>
    if draft.has key then .error .argumentConflict else draft.assign key text

/-- Turn on an option that takes no value. Help and version end the arguments. -/
def turnOn (draft : Draft) : Switch → Except Refusal Draft
  | .help => .error .displayHelp
  | .version => .error .displayVersion
  | .waitGreeting =>
    if draft.waitGreeting then .error .argumentConflict
    else .ok { draft with waitGreeting := true }

/-- Understand arguments, given the options so far and the open one. -/
def read (draft : Draft) (current : Option Open) : List String → Except Refusal Draft
  | [] => draft.settle current
  | text :: rest =>
    match Argument.ofText text with
    | .unknown => .error .unknownArgument
    | .escape => if rest.isEmpty then draft.settle current else .error .unknownArgument
    | .value value =>
      match current with
      | some ⟨key, none⟩ => draft.read (some ⟨key, some value⟩) rest
      | some ⟨_, some _⟩ | none => .error .unknownArgument
    | .key key none => do
      let settled ← draft.settle current
      settled.read (some ⟨key, none⟩) rest
    | .key key (some value) => do
      let settled ← draft.settle current
      let assigned ← settled.settle (some ⟨key, some value⟩)
      assigned.read none rest
    | .switch _ true => .error .tooManyValues
    | .switch switch false => do
      let settled ← draft.settle current
      let switched ← settled.turnOn switch
      switched.read none rest

/-- The options of a draft that is complete. Waiting for a greeting excludes a command, but
excuses a file without one. -/
def finish (draft : Draft) : Except Refusal Options :=
  if draft.waitGreeting && draft.command.isSome then .error .argumentConflict
  else if draft.attach.isSome && draft.command.isNone && !draft.waitGreeting then
    .error .missingRequired
  else
    match draft.host, draft.port with
    | some host, some port =>
      .ok {
        host, port
        command := draft.command
        attach := draft.attach
        buffer := draft.buffer.getD 4096
        connectAttempts := draft.connectAttempts.getD 10
        waitGreeting := draft.waitGreeting }
    | _, _ => .error .missingRequired

end Draft

/-- The options that arguments give. -/
def Options.ofArguments (arguments : List String) : Except Refusal Options := do
  let draft ← Draft.read {} none arguments
  draft.finish

end AgentLink.CommandLine
