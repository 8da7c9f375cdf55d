import Mailroom.Imap.Search
import Mailroom.Proofs.Session.Runs

/-!
# What the mail server answers

Every command is put on record and answered from the script of the server.

* `selected`, `nextSearch`, `fetched`   the answers that a script gives to the choice of a folder, to a
  search and to a fetch;
* `messagesOf`   the messages of an answer to a fetch, or why there are none;
* `runIn_select`, `runIn_search`, `runIn_fetch`, `runIn_fetchMessages`   what the commands do to a session.
-/

namespace Mailroom

namespace ImapScript

/-- the answer to the choice of a folder -/
def selected (script : ImapScript) : Except Fault Reply :=
  match script.select with
  | some r => r
  | none => .ok ⟨"OK", some [.line (Text.toOctets (Text.decimal script.messages.length))]⟩

/-- the answer to the next search -/
def nextSearch (script : ImapScript) : Except Fault Reply :=
  match script.search with
  | [] => .ok ⟨"OK", some [.line []]⟩
  | r :: _ => r

/-- the script behind a search: an answer that is not the last one is used up -/
def afterSearch (script : ImapScript) : ImapScript :=
  match script.search with
  | [] | [_] => script
  | _ :: rs => { script with search := rs }

/-- the answer to a fetch -/
def fetched (script : ImapScript) (numbers : Text) : Except Fault Reply :=
  match script.fetch with
  | some r => r
  | none => .ok ⟨"OK", some (Imap.itemsOf script.messages numbers)⟩

theorem fetched_afterSearch (script : ImapScript) (numbers : Text) :
    script.afterSearch.fetched numbers = script.fetched numbers := by
  unfold afterSearch
  split <;> rfl

end ImapScript

namespace Imap

open Program

/-- the messages of an answer to a fetch, or why there are none -/
def messagesOf (zone : Zone) (numbers : Text) (r : Reply) : Except Fault (List Fetched) :=
  if r.status ≠ "OK".toList then
    .error (.imap ("FETCH " ++ numbers ++ " failed: " ++ showData r.data))
  else
    match r.data with
    | none => .error (.wrongType "'NoneType' object is not iterable")
    | some items => Fetch.read zone items

variable {s : Session}

theorem runIn_select (folder : Text) (readOnly : Bool) :
    (select folder readOnly).runIn s
      = (s.imap.selected, { s with calls := s.calls ++ [.select folder readOnly] }) := by
  unfold select record ImapScript.selected
  rw [runIn_bind, runIn_change]
  dsimp only
  rw [runIn_bind, runIn_session]
  dsimp only
  cases s.imap.select <;> rfl

theorem runIn_search (charset : Option Text) (criteria : Argument) :
    (search charset criteria).runIn s = (s.imap.nextSearch,
      { s with calls := s.calls ++ [.search charset criteria], imap := s.imap.afterSearch }) := by
  unfold search record ImapScript.nextSearch ImapScript.afterSearch
  rw [runIn_bind, runIn_change]
  dsimp only
  rw [runIn_bind, runIn_session]
  dsimp only
  rcases hsearch : s.imap.search with _ | ⟨r, _ | ⟨r', rs⟩⟩
  · rfl
  · rfl
  · dsimp only
    rw [runIn_bind, runIn_change]
    rfl

theorem runIn_fetch (numbers items : Text) :
    (fetch numbers items).runIn s
      = (s.imap.fetched numbers, { s with calls := s.calls ++ [.fetch numbers items] }) := by
  unfold fetch record ImapScript.fetched
  rw [runIn_bind, runIn_change]
  dsimp only
  rw [runIn_bind, runIn_session]
  dsimp only
  cases s.imap.fetch <;> rfl

theorem runIn_fetchMessages (numbers items : Text) :
    (fetchMessages numbers items).runIn s
      = (s.imap.fetched numbers >>= messagesOf s.zone numbers,
        { s with calls := s.calls ++ [.fetch numbers items] }) := by
  unfold fetchMessages
  rw [runIn_bind, runIn_fetch]
  cases s.imap.fetched numbers with
  | error f => rfl
  | ok r =>
    show _ = (messagesOf s.zone numbers r, _)
    unfold messagesOf
    dsimp only
    split
    · rfl
    · cases r.data <;> rfl

end Imap
end Mailroom
