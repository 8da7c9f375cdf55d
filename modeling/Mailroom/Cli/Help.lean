import Mailroom.Text.Basic

/-!
# Help

What the command line can hold, in words.
-/

namespace Mailroom.Cli

/-- the name of the program -/
def programName : Text := "mailcli"

/-- lines as one text -/
def textOfLines (ls : List String) : Text := ls.flatMap fun l => l.toList ++ ['\n']

/-- the options in short -/
def usage : Text := textOfLines [
  "usage: mailcli [-h] [-r RECIPIENT] [-c CC] [-b BCC] [-s SUBJECT] [-m MESSAGE]",
  "               [-a ATTACHMENT] [-d] [-f FILTER] [-e FOLDER] [-o] [-i] [-l N]",
  "               [--password PASSWORD]"]

/-- the options with what they do -/
def help : Text := usage ++ textOfLines [
  "",
  "Simple terminal-based email management wizard",
  "",
  "options:",
  "  -h, --help            show this help message and exit",
  "  -r RECIPIENT, --recipient RECIPIENT",
  "                        Email recipient(s), comma-separated",
  "  -c CC, --cc CC        Add CC recipients",
  "  -b BCC, --bcc BCC     Add BCC recipients",
  "  -s SUBJECT, --subject SUBJECT",
  "                        Email subject",
  "  -m MESSAGE, --message MESSAGE",
  "                        Email message or path to text file with message body",
  "  -a ATTACHMENT, --attachment ATTACHMENT",
  "                        Attachment file(s), comma-separated",
  "  -d, --download        Download all file attachments (combined with -l and/or",
  "                        -f)",
  "  -f FILTER, --filter FILTER",
  "                        Expression-based message filtering: terms are",
  "                        field:value, '+' joins terms with AND, '|' joins",
  "                        groups with OR (AND binds tighter), a leading '!' on",
  "                        the value negates it. Fields: body subject from to cc",
  "                        bcc number received received_after received_before",
  "                        sent sent_after sent_before (YYYY-MM-DDTHH.MM.SS)",
  "                        size_ge size_le (e.g. 4kb, 2.5mb) flag (seen, flagged",
  "                        or a keyword)",
  "  -e FOLDER, --folder FOLDER",
  "                        Name of folder to open",
  "  -o, --from-oldest     Search messages from oldest to newest (combined with",
  "                        -l and/or -f)",
  "  -i, --reverse         Reverse the order of messages displayed (combined with",
  "                        -l and/or -f)",
  "  -l N, --limit N       Limit the number of emails displayed to N; \"all\"",
  "                        fetches all messages",
  "  --password PASSWORD   Password (prefer $MAIL_PASSWORD)",
  "",
  "Version: 0.1"]

end Mailroom.Cli
