import Mailroom.Cli.Arguments
import Mailroom.Cli.Help
import Mailroom.Client.Password
import Mailroom.Client.Read
import Mailroom.Client.Send

/-!
# The command line

`run` carries out a command line: it reads a folder or sends a mail, and tells in one line what went
wrong.  How it ends is an `Ending`; a command line that cannot be read ends it at once.
-/

namespace Mailroom.Cli

open Program

/-- how a run ends: with a code, or at once with a code -/
inductive Ending where
  | done (code : Nat)
  | stopped (code : Nat)
deriving DecidableEq, Repr

/-- a complaint printed -/
def complainAbout (t : Text) : Program Unit :=
  change fun s => { s with complaints := s.complaints ++ t }

/-- the end at once -/
def stop : Stop → Program Ending
  | .help => do
    print help
    return .stopped 0
  | .usage e => do
    complainAbout (usage ++ programName ++ ": error: " ++ e.message ++ "\n")
    return .stopped 2

/-- how a run that failed ends; a fault that is nobody's mistake stays a fault -/
def endOfFailure (user : Text) (f : Fault) : Option (Program Ending) :=
  let told (t : Text) : Option (Program Ending) := some do
    printLine ("==> " ++ t)
    return .done 1
  match f with
  | .address _ => told f.message
  | .imap _ | .smtpAuth _ _ => told ("(" ++ user ++ ") " ++ f.message)
  | .system _ => told ("OSError: " ++ f.message)
  | .refused _ => told ("ConnectionRefusedError: " ++ f.message)
  | .noSuchFile _ => told ("FileNotFoundError: " ++ f.message)
  | .isDirectory _ => told ("IsADirectoryError: " ++ f.message)
  | .url _ => told ("URLError: " ++ f.message)
  | .smtp _ => told ("SMTPException: " ++ f.message)
  | .interrupt _ => some do
    printLine "\nShutting down gracefully..."
    return .done 130
  | _ => none

/-- how a folder is read -/
def readingOptions (a : Arguments) : Client.Options where
  filter := a.filter.map (·.getD [])
  limit :=
    match a.limit with
    | some (some (n + 1)) => some (n + 1 : Nat)
    | _ => none
  download := a.download
  reverse := a.reverse
  oldest := a.fromOldest

/-- what is sent; a mail without a text carries a quote -/
def orderOf (a : Arguments) (recipient : Value) : Program Client.Order := do
  let text ← match a.message with
    | some v => pure v
    | none => some <$> Web.fetchQuote none none
  return ⟨recipient.getD [], a.subject.getD [], text, a.cc.getD [], a.bcc.getD [],
    a.attachment.getD []⟩

/-- what the arguments ask for -/
def perform (config : Config) (user password : Text) (a : Arguments) : Program Unit := do
  match a.recipient with
  | none =>
    let _ ← Client.read config user password (a.folder.map (·.getD [])) (readingOptions a)
  | some r =>
    let _ ← Client.send config user password (← orderOf a r)

/-- a line printed, and the end of the run -/
def refuse (t : Text) : Program Ending := do
  printLine t
  return .done 1

/-- the tree of the filter option; a value that is no text is an empty filter, shown as a list -/
def filterTree (zone : Zone) : Value → Except Fault Tree
  | some e => Filter.compile zone e
  | none => .error (.filter ⟨.emptyFilter, "[]"⟩)

/-- arguments carried out whose options go together -/
def runArguments (config : Config) (texts : List Text) (a : Arguments) : Program Ending := do
  let zone := (← session).zone
  match a.filter.map (filterTree zone) with
  | some (.error (.filter e)) => refuse ("==> Invalid filter: " ++ e.message)
  | some (.error f) => throw f
  | _ =>
    if config.mailUser.isEmpty then refuse "==> $MAIL_USER has not been set"
    else
      let password ← Client.password "MAIL_PASSWORD" "password" "Password: " texts
      handling
        (do
          perform config config.mailUser password a
          return .done 0)
        (endOfFailure config.mailUser)

/-- a command line carried out -/
def run (config : Config) (texts : List Text) : Program Ending := do
  if texts.isEmpty then
    print help
    return .done 0
  match Arguments.parse texts with
  | .error s => stop s
  | .ok a =>
    match a.refusal? with
    | some r =>
      printLine r.message
      print help
      return .done 1
    | none => runArguments config texts a

end Mailroom.Cli
