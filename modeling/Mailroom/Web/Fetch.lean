import Mailroom.Session.Program

/-!
# Fetching from the web

`fetch` opens a web address, reads no more than it was told to, and closes the connection whatever
comes of it.
-/

namespace Mailroom.Web

open Program

/-- how long is waited for an answer, in seconds, unless told otherwise -/
def usualTimeout : Int := 30

/-- how many octets are read unless told otherwise -/
def usualLimit : Int := 1024 * 1024

/-- octets up to a limit, and what is left of them; a negative limit is none -/
def takeUpTo (limit : Int) (b : Octets) : Octets × Octets :=
  if limit < 0 then (b, []) else b.splitAt limit.toNat

theorem takeUpTo_natCast (limit : Nat) (b : Octets) : takeUpTo limit b = (b.take limit, b.drop limit) := by
  rw [takeUpTo, if_neg (by omega), List.splitAt_eq, Int.toNat_natCast]

/-- the content of a web address and the status of the answer -/
def fetch (url : Text) (timeout limit : Int) : Program (Octets × Int) := do
  record (.openUrl url timeout)
  let (content, status) ← settle (← session).web.answer
  ensuring
    (do
      record (.readUrl limit)
      let (first, rest) := takeUpTo limit content
      record (.readUrl 1)
      if rest.isEmpty then return (first, status) else throw (.tooMuchContent limit))
    (record .closeUrl)

end Mailroom.Web
