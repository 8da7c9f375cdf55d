import Mailroom.Files.Disk
import Mailroom.Web.Quote
import Mailroom.WholeNumber

/-!
# Settings

* `Config`                  who reads and sends mail, and where;
* `Config.ofEnvironment`    the settings that the variables of the environment make.
-/

namespace Mailroom

/-- who reads and sends mail, and where -/
structure Config where
  imapServer : Text
  imapPort : Int
  smtpServer : Text
  smtpPort : Int
  inbox : Text
  mailUser : Text
  mailDomain : Text
  mailName : Text
  /-- seconds between two signs of life -/
  noopInterval : Int
  maxFilenameLength : Int
  defaultSubject : Text
  quoteUrl : Text
  fetchTimeout : Int
  allowedExtensions : List Text
deriving Repr

namespace Config

/-- the subject of a mail that is given none -/
def usualSubject : Text := "Test Subject"

/-- the longest name of a directory for attachments, unless told otherwise -/
def usualNameLimit : Int := 150

/-- a variable of the environment -/
def lookup? (environment : List (Text × Text)) (name : Text) : Option Text :=
  (environment.find? (·.1 == name)).map (·.2)

/-- the settings that the variables of the environment make -/
def ofEnvironment (environment : List (Text × Text)) : Except Fault Config := do
  let text (name usual : Text) : Text := (lookup? environment name).getD usual
  let number (name usual : Text) : Except Fault Int := WholeNumber.ofText (text name usual)
  let imapPort ← number "IMAP_PORT" "993"
  let smtpPort ← number "SMTP_PORT" "465"
  let noopInterval ← number "NOOP_INTERVAL" "20"
  let mailUser := text "MAIL_USER" []
  return {
    imapServer := text "IMAP_SERVER" "imap.provider.com"
    imapPort
    smtpServer := text "SMTP_SERVER" "smtp.provider.com"
    smtpPort
    inbox := text "INBOX" "INBOX"
    mailUser
    mailDomain := text "MAIL_DOMAIN" "provider.com"
    mailName := text "MAIL_NAME" mailUser
    noopInterval
    maxFilenameLength := usualNameLimit
    defaultSubject := usualSubject
    quoteUrl := text "QUOTE_API_URL" Web.usualQuoteUrl
    fetchTimeout := Web.usualTimeout
    allowedExtensions := Attachment.sortTexts Attachment.usualExtensions }

end Config
end Mailroom
