import Mailroom.Session.Program

/-!
# Sending

`send` hands a mail to the sending server: it connects, logs in and sends; from the login on, the
connection is ended whatever comes of the mail.
-/

namespace Mailroom.Smtp

open Program

/-- how the sending server is reached; what is missing is a fault when it is needed -/
structure Options where
  server : Option Text
  port : Int
  user : Option Text
  password : Option Text
deriving Repr

/-- an option that is needed -/
def needed (name : Text) (value : Option Text) : Program Text :=
  match value with
  | some v => return v
  | none => throw (.missingKey name)

/-- a connection to a server -/
def connect (host : Text) (port : Int) : Program Unit := do
  record (.smtpConnect host port)
  complain (← session).smtp.connect

/-- a login -/
def login (user password : Text) : Program Unit := do
  record (.smtpLogin user password)
  complain (← session).smtp.login

/-- the end of a connection -/
def quit : Program Unit := do
  record .quit
  complain (← session).smtp.quit

/-- a mail sent; its data may be a fault, which shows only when it is needed -/
def send (options : Options) (sender : Text) (recipients : Envelope) (data : Except Fault Argument) :
    Program Unit := do
  connect (← needed "smtp_server" options.server) options.port
  let user ← needed "smtp_user" options.user
  login user (← needed "smtp_pass" options.password)
  ensuring
    (do
      record (.sendMail sender recipients (← settle data))
      complain (← session).smtp.send)
    quit

end Mailroom.Smtp
