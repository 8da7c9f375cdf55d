import Mailroom.Codec.Utf8
import Mailroom.Json.Reading
import Mailroom.Web.Fetch

/-!
# The quote of the day

A mail without a text of its own carries a quote, which is fetched from the web as a JSON object with
the fields `content` and `author`, or as a list that begins with one.

* `Quote.ofJson`   the quote of a JSON value;
* `Quote.ofAnswer` the quote of what the web answered;
* `fetchQuote`     the quote, or a text that tells why there is none.
-/

namespace Mailroom

namespace Fault

/-- what can go wrong with a quote, and is told in its place -/
def spoilsQuote : Fault → Bool
  | url _ | badStatus _ | notUtf8 _ | notJson _ | tooManyDigits _ | tooMuchContent _ | value _
  | missingKey _ | noSuchItem | wrongType _ => true
  | f => f.isSystem

end Fault

namespace Quote

/-- a field of a value -/
def field (name : Text) : Json → Except Fault Json
  | .object fs =>
    match fs.find? (·.1 == name) with
    | some f => .ok f.2
    | none => .error (.missingKey name)
  | .text _ => .error (.wrongType "string indices must be integers, not 'str'")
  | .list _ => .error (.wrongType "list indices must be integers or slices, not str")
  | v => .error (.wrongType ("'" ++ v.kindName ++ "' object is not subscriptable"))

/-- the value itself, or the first of a list -/
def chosen : Json → Except Fault Json
  | .list [] => .error .noSuchItem
  | .list (v :: _) => .ok v
  | v => .ok v

/-- the quote of a value -/
def ofJson (v : Json) : Except Fault Text := do
  let v ← chosen v
  let content ← field "content" v
  let author ← field "author" v
  return content.shown ++ " - " ++ author.shown

/-- the quote of an answer, read with this much room -/
def ofAnswer (room : Nat) (content : Octets) (status : Int) : Except Fault Text := do
  if status ≠ 200 then throw (.badStatus status)
  ofJson (← Json.read room (← orFault .notUtf8 (Utf8.decode? content)))

end Quote

namespace Web

open Program

/-- where quotes come from unless told otherwise -/
def usualQuoteUrl : Text := "https://api.quotable.io/random"

/-- the address that a quote comes from; none and an empty one stand for the usual one -/
def quoteUrl : Option Text → Text
  | some (c :: r) => c :: r
  | _ => usualQuoteUrl

/-- how long is waited for a quote; no time and no seconds stand for the usual time -/
def quoteTimeout : Option Int → Int
  | none | some 0 => usualTimeout
  | some t => t

/-- what is told in place of a quote -/
def failure (url : Text) (f : Fault) : Text :=
  "Exception: Failed to fetch quote from " ++ url ++ " (" ++ f.message ++ ")"

/-- a quote -/
def fetchQuote (url : Option Text) (timeout : Option Int) : Program Text :=
  handling
    (do
      let (content, status) ← fetch (quoteUrl url) (quoteTimeout timeout) usualLimit
      settle (Quote.ofAnswer (← session).room content status))
    fun f => if f.spoilsQuote then some (pure (failure (quoteUrl url) f)) else none

end Web
end Mailroom
