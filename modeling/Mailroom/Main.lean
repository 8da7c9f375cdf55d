import Mailroom.Cli.Run

/-!
# The program

The command line is carried out with the environment of the machine and the files that the arguments
name.  There is no network here: every connection is refused, so nothing is read, sent or saved, and
neither a clock nor an answer of the user is needed.
-/

namespace Mailroom.Machine

/-- the variables of the environment that matter -/
def variableNames : List String :=
  ["IMAP_SERVER", "IMAP_PORT", "SMTP_SERVER", "SMTP_PORT", "INBOX", "MAIL_USER", "MAIL_DOMAIN",
    "MAIL_NAME", "NOOP_INTERVAL", "QUOTE_API_URL", "MAIL_PASSWORD"]

/-- the variables that are set, with their values -/
def environment : IO (List (Text × Text)) :=
  variableNames.filterMapM fun n => do return (← IO.getEnv n).map fun v => (n.toList, v.toList)

/-- the time zone of the machine -/
def zone : IO Zone := do
  return (((← IO.getEnv "TZ").map String.toList).bind Zone.read?).getD Zone.utc

/-- the paths that an argument can name: the argument, what follows an equals sign, and the pieces of
each between commas -/
def pathsOf (argument : Text) : List Text :=
  ([argument] ++ (Text.cutAt '=' argument).2.toList).flatMap fun a => a :: Text.splitCommas a

/-- the file at a path, if there is one -/
def file? (path : Text) : IO (Option (Text × Option Octets)) := do
  try
    return some (path, some (← IO.FS.readBinFile (String.ofList path)).toList)
  catch _ => return none

/-- why nothing answers -/
def unreachable : Fault := .refused "[Errno 111] Connection refused"

/-- the session in which the program runs -/
def session (arguments : List Text) : IO Session := do
  let files ← (arguments.flatMap pathsOf).eraseDups.filterMapM file?
  return {
    zone := ← zone
    disk := Disk.ofFiles "/" [] files
    imap := ⟨some unreachable, none, none, none, none, [], [], none, []⟩
    smtp := ⟨some unreachable, none, none, none⟩
    web := ⟨.error (.url "[Errno 111] Connection refused")⟩
    answers := []
    typed := []
    environment := ← environment
    now := 0
    serial := []
    messageId := []
    boundary := []
    calls := []
    output := []
    complaints := [] }

/-- the code with which a run ends -/
def code : Except Fault Cli.Ending → UInt32
  | .ok (.done n) | .ok (.stopped n) => UInt32.ofNat n
  | .error _ => 1

/-- a command line carried out -/
def run (arguments : List Text) : IO UInt32 := do
  let start ← session arguments
  match Config.ofEnvironment start.environment with
  | .error f =>
    (← IO.getStderr).putStrLn (String.ofList f.message)
    return 1
  | .ok config =>
    let (r, s) := (Cli.run config arguments).runIn start
    (← IO.getStdout).putStr (String.ofList s.output)
    (← IO.getStderr).putStr (String.ofList s.complaints)
    match r with
    | .error f => (← IO.getStderr).putStrLn (String.ofList f.message)
    | .ok _ => pure ()
    return code r

end Mailroom.Machine

/-- the program -/
def main (arguments : List String) : IO UInt32 := Mailroom.Machine.run (arguments.map String.toList)
