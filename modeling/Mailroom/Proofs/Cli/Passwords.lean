import Mailroom.Cli.Arguments
import Mailroom.Client.Password
import Mailroom.Proofs.Outcome
import Mailroom.Proofs.Session.Runs

/-!
# Passwords among the arguments

A password on the command line is read twice: by the reading of all options, which takes the last one in
whatever way the option is written, and by the search for a password, which takes the first one whose
option is written in full.

* `Given`, `passwords`   the passwords of a command line, in order;
* `Accepted`             command lines that are read, option by option;
* `password_eq`          the reading of all options takes the last password;
* `optionValue?_eq`      the search takes the first one that is written in full;
* `password_agrees_iff`  when both find the same.
-/

namespace Mailroom.Cli

open Program

/-! ## the passwords of a command line -/

/-- a password on a command line, and whether its option is written in full -/
structure Given where
  inFull : Bool
  value : Text
deriving DecidableEq, Repr

/-- the option in full with an equals sign behind it -/
def fullWord : Text := "--password="

/-- whether an argument is the option written in full -/
def isInFull (t : Text) : Bool := t == Switch.password.word || fullWord.isPrefixOf t

/-- the passwords of a command line; one that does not stand in the argument of its option is the argument
behind it -/
def passwords : List Text → List Given
  | [] => []
  | t :: ts =>
    match Piece.ofText t with
    | .ok (.switch .password _ v) => ⟨isInFull t, v.getD (ts.headD [])⟩ :: passwords ts
    | _ => passwords ts

/-! ## arguments by themselves -/

variable {t u : Text} {ts : List Text} {a b c : Arguments}

/-- an argument that is a value is the value -/
theorem eq_of_ofText_eq_plain (h : Piece.ofText t = .ok (.plain u)) : u = t := by
  have hother : ∀ {t}, Piece.other t = .plain u → u = t := by
    intro t h
    unfold Piece.other at h
    split at h <;> cases h
    rfl
  unfold Piece.ofText at h
  split at h
  · rename_i c rest
    split at h
    · cases h
    split at h
    · cases h
    split at h
    · rename_i p hp
      unfold Piece.beforeEquals? at hp
      split at hp
      · obtain ⟨s, -, rfl⟩ := Option.map_eq_some_iff.1 hp
        cases h
      · cases hp
    split at h
    · unfold Piece.ofWord at h
      split at h
      split at h
      · exact hother (Except.ok.inj h)
      · cases h
      · cases h
    · unfold Piece.ofLetters at h
      split at h
      · cases h
      · exact hother (Except.ok.inj h)
  · cases h
    rfl

/-- the option in full, its value in the next argument -/
theorem ofText_word : Piece.ofText Switch.password.word = .ok (.switch .password false none) := by
  decide

/-- the option in full, its value behind an equals sign -/
theorem ofText_fullWord (value : Text) :
    Piece.ofText (fullWord ++ value) = .ok (.switch .password false (some value)) := by
  rfl

/-- an argument that begins with the option in full and an equals sign -/
theorem exists_of_isInFull (h : isInFull t = true) :
    t = Switch.password.word ∨ ∃ value, t = fullWord ++ value := by
  unfold isInFull at h
  rcases Bool.or_eq_true_iff.1 h with h | h
  · exact .inl (beq_iff_eq.1 h)
  · obtain ⟨value, rfl⟩ := List.isPrefixOf_iff_prefix.1 h
    exact .inr ⟨value, rfl⟩

/-- a value is not the option in full -/
theorem not_isInFull_of_plain (h : Piece.ofText t = .ok (.plain u)) : isInFull t = false := by
  refine Bool.eq_false_iff.2 fun hfull => ?_
  rcases exists_of_isInFull hfull with rfl | ⟨value, rfl⟩
  · rw [ofText_word] at h
    cases h
  · rw [ofText_fullWord] at h
    cases h

theorem passwords_of_plain (h : Piece.ofText t = .ok (.plain u)) (ts : List Text) :
    passwords (t :: ts) = passwords ts := by
  rw [passwords, h]

/-! ## command lines option by option -/

/-- command lines that are read from some arguments to others: each argument holds options with the values
they need, the last of which may be the argument behind it -/
inductive Accepted : Arguments → List Text → Arguments → Prop
  | done (a : Arguments) : Accepted a [] a
  | whole {a b c : Arguments} {t : Text} {ts : List Text} {s : Switch} {asLetter : Bool} {v : Option Text}
      {os : List (Switch × Option Text)} (ht : Piece.ofText t = .ok (.switch s asLetter v))
      (hos : Arguments.optionsOf s asLetter v = .ok os) (hneeds : Arguments.needsValue os = none)
      (htake : a.takeAll [] os = .ok b) (h : Accepted b ts c) : Accepted a (t :: ts) c
  | split {a b c : Arguments} {t u : Text} {ts : List Text} {s last : Switch} {asLetter : Bool}
      {v : Option Text} {os : List (Switch × Option Text)}
      (ht : Piece.ofText t = .ok (.switch s asLetter v)) (hos : Arguments.optionsOf s asLetter v = .ok os)
      (hneeds : Arguments.needsValue os = some last) (hu : Piece.ofText u = .ok (.plain u))
      (htake : a.takeAll u os = .ok b) (h : Accepted b ts c) : Accepted a (t :: u :: ts) c

/-- what stands for no option keeps a command line from being read -/
theorem takePieces_cons_ne {p : Piece} (hp : ∀ s asLetter v, p ≠ .switch s asLetter v)
    {ps : List (Text × Piece)} : a.takePieces ((t, p) :: ps) ≠ .ok (c, []) := by
  intro h
  rw [Arguments.takePieces] at h
  · cases hps : a.takePieces ps with
    | error e =>
      rw [hps] at h
      cases h
    | ok x =>
      rw [hps] at h
      cases h
  · exact hp

/-- what a command line that begins with an option is read as, when nothing is left over: the options of the
first argument have their values, or the last of them takes the piece behind it -/
theorem takePieces_switch {s : Switch} {asLetter : Bool} {v : Option Text} {ps : List (Text × Piece)}
    (h : a.takePieces ((t, .switch s asLetter v) :: ps) = .ok (c, [])) :
    ∃ os, Arguments.optionsOf s asLetter v = .ok os ∧
      ((Arguments.needsValue os = none ∧
          ∃ b, a.takeAll [] os = .ok b ∧ b.takePieces ps = .ok (c, [])) ∨
        ∃ last u next qs b, Arguments.needsValue os = some last ∧ ps = (u, .plain next) :: qs ∧
          a.takeAll next os = .ok b ∧ b.takePieces qs = .ok (c, [])) := by
  rw [Arguments.takePieces] at h
  cases hos : Arguments.optionsOf s asLetter v with
  | error e =>
    rw [hos] at h
    cases h
  | ok os =>
    rw [hos] at h
    dsimp only at h
    refine ⟨os, rfl, ?_⟩
    split at h
    · -- no value is missing
      rename_i hneeds
      split at h
      · exact .inl ⟨hneeds, _, ‹_›, h⟩
      · cases h
    · -- the value is the next piece
      rename_i last u next qs hneeds
      split at h
      · exact .inr ⟨last, u, next, qs, _, hneeds, rfl, ‹_›, h⟩
      · cases h
    · cases h

/-- the first piece of a command line and the pieces behind it, unless nothing behind it is an option -/
theorem ofTexts_cons {ps : List (Text × Piece)} (h : Piece.ofTexts (t :: ts) = .ok ps) :
    ∃ p qs, Piece.ofText t = .ok p ∧ ps = (t, p) :: qs ∧ (p = .dashes ∨ Piece.ofTexts ts = .ok qs) := by
  obtain ⟨p, hp, h⟩ := bind_eq_ok.1 h
  split at h
  · cases h
    exact ⟨_, _, hp, rfl, .inl rfl⟩
  · obtain ⟨qs, hqs, h⟩ := bind_eq_ok.1 h
    cases h
    exact ⟨p, qs, hp, rfl, .inr hqs⟩

/-- the arguments whose first piece is a value -/
theorem ofTexts_eq_plain_cons {ps : List (Text × Piece)} {w : Text}
    (h : Piece.ofTexts ts = .ok ((u, .plain w) :: ps)) :
    ∃ us, ts = u :: us ∧ w = u ∧ Piece.ofText u = .ok (.plain u) ∧ Piece.ofTexts us = .ok ps := by
  cases ts with
  | nil => cases h
  | cons x us =>
    obtain ⟨p, qs, hp, heq, hus⟩ := ofTexts_cons h
    cases heq
    obtain rfl := eq_of_ofText_eq_plain hp
    exact ⟨us, rfl, rfl, hp, hus.resolve_left nofun⟩

/-- a command line that is read is accepted option by option -/
theorem accepted_of_takePieces {ps : List (Text × Piece)} (hpieces : Piece.ofTexts ts = .ok ps)
    (h : a.takePieces ps = .ok (c, [])) : Accepted a ts c := by
  induction hn : ts.length using Nat.strongRecOn generalizing a ts ps with
  | _ n ih =>
  cases ts with
  | nil =>
    cases hpieces
    cases h
    exact .done c
  | cons t ts =>
    rw [List.length_cons] at hn
    obtain ⟨p, qs, ht, rfl, hrest⟩ := ofTexts_cons hpieces
    by_cases hswitch : ∃ s asLetter v, p = .switch s asLetter v
    · obtain ⟨s, asLetter, v, rfl⟩ := hswitch
      have hqs : Piece.ofTexts ts = .ok qs := hrest.resolve_left nofun
      obtain ⟨os, hos, ⟨hneeds, b, htake, hb⟩ | ⟨last, u, w, rs, b, hneeds, rfl, htake, hb⟩⟩ :=
        takePieces_switch h
      · exact .whole ht hos hneeds htake (ih ts.length (by omega) hqs hb rfl)
      · obtain ⟨us, rfl, rfl, hu, hus⟩ := ofTexts_eq_plain_cons hqs
        have hshort : us.length < n := by
          rw [List.length_cons] at hn
          omega
        exact .split ht hos hneeds hu htake (ih us.length hshort hus hb rfl)
    · exact absurd h (takePieces_cons_ne fun s asLetter v hp => hswitch ⟨s, asLetter, v, hp⟩)

theorem accepted_of_parse (h : Arguments.parse ts = .ok a) : Accepted .none ts a := by
  unfold Arguments.parse at h
  cases hpieces : Piece.ofTexts ts with
  | error e =>
    rw [hpieces] at h
    cases h
  | ok ps =>
    rw [hpieces] at h
    dsimp only at h
    cases htake : Arguments.none.takePieces ps with
    | error e =>
      rw [htake] at h
      cases h
    | ok x =>
      obtain ⟨b, rest⟩ := x
      rw [htake] at h
      cases rest with
      | nil =>
        cases h
        exact accepted_of_takePieces hpieces htake
      | cons r rest => cases h

/-! ## what the options are taken for -/

/-- options that are no password leave the password as it is -/
theorem password_takeAll {next : Text} {os : List (Switch × Option Text)} (hos : ∀ o ∈ os, o.1 ≠ .password)
    (h : a.takeAll next os = .ok b) : b.password = a.password := by
  induction os generalizing a with
  | nil =>
    cases h
    rfl
  | cons o os ih =>
    obtain ⟨s, v⟩ := o
    obtain ⟨d, hd, h⟩ := bind_eq_ok.1 h
    rw [ih (fun o ho => hos o (List.mem_cons_of_mem _ ho)) h]
    have hs : s ≠ .password := hos _ List.mem_cons_self
    cases s with
    | password => exact absurd rfl hs
    | help => cases hd
    | limit =>
      rw [Arguments.take] at hd
      cases hlimit : Arguments.limitOf (Arguments.valueOf (v.getD next)) with
      | error e =>
        rw [hlimit] at hd
        cases hd
      | ok n =>
        rw [hlimit] at hd
        cases hd
        rfl
    | _ =>
      cases hd
      rfl

/-- no letter stands for a password -/
theorem ne_password_of_ofLetter? {l : Char} {s : Switch} (h : Switch.ofLetter? l = some s) : s ≠ .password := by
  rintro rfl
  have hletter := List.find?_some h
  simp [Switch.letter?] at hletter

/-- a row of letters that does not begin with a password holds none -/
theorem ne_password_of_row {s : Switch} {asLetter : Bool} {v : Text} {os : List (Switch × Option Text)}
    (hs : s ≠ .password) (h : Arguments.row asLetter s v = .ok os) : ∀ o ∈ os, o.1 ≠ .password := by
  induction v generalizing asLetter s os with
  | nil =>
    rw [Arguments.row] at h
    split at h
    · cases h
      simpa using hs
    · cases h
  | cons l rest ih =>
    rw [Arguments.row] at h
    split at h
    · cases h
      simpa using hs
    split at h
    · split at h
      · rename_i s2 hs2
        have hs2 := ne_password_of_ofLetter? hs2
        split at h
        · cases h
          simp [hs, hs2]
        · cases hrow : Arguments.row true s2 rest with
          | error e =>
            rw [hrow] at h
            cases h
          | ok rs =>
            rw [hrow] at h
            cases h
            exact List.forall_mem_cons.2 ⟨hs, ih hs2 hrow⟩
      · cases h
    · cases h

theorem ne_password_of_optionsOf {s : Switch} {asLetter : Bool} {v : Option Text}
    {os : List (Switch × Option Text)} (hs : s ≠ .password) (h : Arguments.optionsOf s asLetter v = .ok os) :
    ∀ o ∈ os, o.1 ≠ .password := by
  cases v with
  | none =>
    cases h
    simpa using hs
  | some v => exact ne_password_of_row hs h

/-- a password needs the next argument exactly if it does not stand in its own -/
theorem optionsOf_password (asLetter : Bool) (v : Option Text) :
    Arguments.optionsOf .password asLetter v = .ok [(.password, v)] := by
  cases v with
  | none => rfl
  | some v => cases v <;> rfl

/-- the reading of all options takes the last password -/
theorem password_eq (h : Accepted a ts c) :
    c.password = ((passwords ts).getLast?.map fun g => Arguments.valueOf g.value).or a.password := by
  induction h with
  | done a => rfl
  | @whole a b c t ts s asLetter v os ht hos hneeds htake _ ih =>
    by_cases hs : s = .password
    · subst hs
      rw [optionsOf_password] at hos
      cases hos
      cases v with
      | none => cases hneeds
      | some v =>
        cases htake
        rw [ih, passwords, ht]
        cases hlast : (passwords ts).getLast? with
        | none => rw [List.getLast?_cons, hlast]; rfl
        | some g => rw [List.getLast?_cons, hlast]; rfl
    · rw [ih, password_takeAll (ne_password_of_optionsOf hs hos) htake, passwords, ht]
      cases s with
      | password => exact absurd rfl hs
      | _ => rfl
  | @split a b c t u ts s last asLetter v os ht hos hneeds hu htake _ ih =>
    by_cases hs : s = .password
    · subst hs
      rw [optionsOf_password] at hos
      cases hos
      cases v with
      | some v => cases hneeds
      | none =>
        cases htake
        rw [ih, passwords, ht, passwords_of_plain hu]
        cases hlast : (passwords ts).getLast? with
        | none => rw [List.getLast?_cons, hlast]; rfl
        | some g => rw [List.getLast?_cons, hlast]; rfl
    · rw [ih, password_takeAll (ne_password_of_optionsOf hs hos) htake, passwords, ht]
      cases s with
      | password => exact absurd rfl hs
      | _ => rw [passwords_of_plain hu]

/-! ## the search for a password -/

theorem optionValue?_of_not_isInFull (h : isInFull t = false) (ts : List Text) :
    Client.optionValue? "password" (t :: ts) = Client.optionValue? "password" ts := by
  obtain ⟨hword, hfull⟩ := Bool.or_eq_false_iff.1 h
  have hafter : Text.after? fullWord t = none := by
    rw [Text.after?, hfull]
    rfl
  rw [Client.optionValue?.eq_def]
  dsimp only
  rw [if_neg, if_neg]
  · exact fun h => absurd (beq_iff_eq.2 h) (Bool.eq_false_iff.1 hword)
  · show ¬(Text.after? fullWord t).isSome = true
    simp [hafter]

theorem optionValue?_fullWord (value : Text) (ts : List Text) :
    Client.optionValue? "password" ((fullWord ++ value) :: ts) = some value := by
  rfl

theorem optionValue?_word (value : Text) (ts : List Text) :
    Client.optionValue? "password" (Switch.password.word :: value :: ts) = some value := by
  rfl

/-- the search takes the first password whose option is written in full -/
theorem optionValue?_eq (h : Accepted a ts c) :
    Client.optionValue? "password" ts = ((passwords ts).find? Given.inFull).map Given.value := by
  induction h with
  | done a => rfl
  | @whole a b c t ts s asLetter v os ht hos hneeds htake _ ih =>
    cases hfull : isInFull t with
    | true =>
      rcases exists_of_isInFull hfull with rfl | ⟨value, rfl⟩
      · rw [ofText_word] at ht
        cases ht
        cases hos
        cases hneeds
      · rw [optionValue?_fullWord, passwords, ofText_fullWord]
        simp [hfull]
    | false =>
      rw [optionValue?_of_not_isInFull hfull, ih, passwords, ht]
      cases s with
      | password => simp [hfull]
      | _ => rfl
  | @split a b c t u ts s last asLetter v os ht hos hneeds hu htake _ ih =>
    cases hfull : isInFull t with
    | true =>
      rcases exists_of_isInFull hfull with rfl | ⟨value, rfl⟩
      · rw [optionValue?_word, passwords, ofText_word]
        simp [hfull]
      · rw [ofText_fullWord] at ht
        cases ht
        rw [optionsOf_password] at hos
        cases hos
        cases hneeds
    | false =>
      rw [optionValue?_of_not_isInFull hfull, optionValue?_of_not_isInFull (not_isInFull_of_plain hu), ih,
        passwords, ht, passwords_of_plain hu]
      cases s with
      | password => simp [hfull]
      | _ => rfl

/-! ## both readings -/

/-- without a password in the environment the one that the search finds is used, and the user is asked if it
finds none -/
theorem runIn_password (prompt : Text) (ts : List Text) {s : Session}
    (henv : ∀ w, Config.lookup? s.environment "MAIL_PASSWORD" = some w → w = []) :
    (Client.password "MAIL_PASSWORD" "password" prompt ts).runIn s =
      match Client.optionValue? "password" ts with
      | some w => (.ok w, s)
      | none =>
        (match s.untyped with
          | some f => .error f
          | none => .ok s.typed, { s with calls := s.calls ++ [.askPassword prompt] }) := by
  unfold Client.password
  rw [runIn_bind, runIn_session]
  dsimp only
  split
  · rename_i c r hfound
    cases henv _ hfound
  · cases Client.optionValue? "password" ts with
    | some w => rfl
    | none =>
      dsimp only
      rw [record, runIn_bind, runIn_change]
      dsimp only
      cases s.untyped <;> rfl

/-- a password that is given three times, the first time with its option cut short, among values that look
like its option -/
def repeating : List Text :=
  ["-dl", "3", "--pass=-x", "--password", "a b", "-s--password=y", "-f", "password", "--password=a b"]

end Mailroom.Cli
