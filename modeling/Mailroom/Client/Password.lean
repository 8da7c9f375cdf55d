import Mailroom.Client.Config

/-!
# Passwords

`password` finds a password: in the environment, else among the arguments of the command line, else the
user is asked for it.
-/

namespace Mailroom.Client

open Program

/-- the value of an option among arguments: behind an equals sign, or as the argument after it -/
def optionValue? (name : Text) : List Text → Option Text
  | [] => none
  | a :: rest =>
    if (Text.after? ("--" ++ name ++ "=") a).isSome then (Text.cutAt '=' a).2
    else if a = "--" ++ name then
      match rest with
      | value :: _ => some value
      | [] => none
    else optionValue? name rest

/-- a password, from a variable of the environment, an option among the arguments, or the user -/
def password (variableName optionName prompt : Text) (arguments : List Text) : Program Text := do
  let s ← session
  match Config.lookup? s.environment variableName with
  | some (c :: r) => return c :: r
  | _ =>
    match optionValue? optionName arguments with
    | some v => return v
    | none =>
      record (.askPassword prompt)
      complain s.untyped
      return s.typed

end Mailroom.Client
