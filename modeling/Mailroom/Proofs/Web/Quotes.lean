import Mailroom.Proofs.Codec.Utf8
import Mailroom.Proofs.Json.Reading
import Mailroom.Proofs.Session.Runs
import Mailroom.Web.Quote

/-!
# Quotes from the web

Whatever the web answers, a quote is told or what went wrong with it, and the answer is closed.  The one
thing that is not told is a text that opens more lists and objects one inside the other than there is
room for on the stack.

* `Quote.Tells`              values that hold a quote;
* `Quote.ofAnswer_eq_ok`, `Quote.ofAnswer_eq_tooDeep`, `Quote.spoilsQuote_of_ofAnswer`   answers with a
  quote, those that are nested too deeply, and all others;
* `Web.runIn_fetchQuote`     what is asked of the web, and what comes of it;
* `Web.fetchQuote_tells`     quotes, and faults told in their place;
* `Web.fetchQuote_nested`    a quote that is nested too deeply.
-/

namespace Mailroom

/-! ## values and answers -/

namespace Quote

/-- an object with a content and an author -/
def Holds (v content author : Json) : Prop :=
  ∃ fs, v = .object fs ∧ (("content" : Text), content) ∈ fs ∧ (("author" : Text), author) ∈ fs

/-- an object with a content and an author, or a list that begins with one -/
def Tells (v content author : Json) : Prop :=
  Holds v content author ∨ ∃ w vs, v = .list (w :: vs) ∧ Holds w content author

section
variable {s text quote name : Text} {v w : Json} {f : Fault} {room : Nat} {content : Octets} {status : Int}

theorem field_eq_ok (hv : Json.IsJson v s) : field name v = .ok w ↔ ∃ fs, v = .object fs ∧ (name, w) ∈ fs := by
  cases v with
  | object fs =>
    have hfind : ∀ w, fs.find? (·.1 == name) = some (name, w) ↔ (name, w) ∈ fs := fun w => by
      rw [Json.find?_name hv.nodup, and_iff_left rfl]
    simp only [Json.object.injEq, exists_eq_left']
    rw [← hfind, field]
    cases hfs : fs.find? (·.1 == name) with
    | none => exact iff_of_false nofun nofun
    | some g =>
      obtain ⟨name', w'⟩ := g
      obtain rfl : name' = name := by simpa using List.find?_some hfs
      simp
  | _ => exact iff_of_false nofun fun ⟨fs, heq, _⟩ => by cases heq

theorem holds_iff (hv : Json.IsJson v s) (content author : Json) :
    Holds v content author ↔ field "content" v = .ok content ∧ field "author" v = .ok author := by
  rw [field_eq_ok hv, field_eq_ok hv]
  constructor
  · rintro ⟨fs, rfl, hcontent, hauthor⟩
    exact ⟨⟨fs, rfl, hcontent⟩, fs, rfl, hauthor⟩
  · rintro ⟨⟨fs, rfl, hcontent⟩, fs', heq, hauthor⟩
    cases heq
    exact ⟨fs, rfl, hcontent, hauthor⟩

theorem tells_iff (hv : Json.IsJson v s) (content author : Json) :
    Tells v content author ↔
      ∃ w, chosen v = .ok w ∧ field "content" w = .ok content ∧ field "author" w = .ok author := by
  constructor
  · rintro (h | ⟨w, vs, rfl, h⟩)
    · refine ⟨v, ?_, (holds_iff hv _ _).1 h⟩
      obtain ⟨fs, rfl, -⟩ := h
      rfl
    · obtain ⟨t, hw⟩ := hv.first
      exact ⟨w, rfl, (holds_iff hw _ _).1 h⟩
  · rintro ⟨w, hw, h⟩
    unfold chosen at hw
    split at hw
    · cases hw
    · cases hw
      obtain ⟨t, hfirst⟩ := hv.first
      exact .inr ⟨_, _, rfl, (holds_iff hfirst _ _).2 h⟩
    · cases hw
      exact .inl ((holds_iff hv _ _).2 h)

theorem ofJson_eq_ok (hv : Json.IsJson v s) :
    ofJson v = .ok quote ↔
      ∃ content author, Tells v content author ∧ quote = content.shown ++ " - " ++ author.shown := by
  simp only [ofJson, bind_eq_ok, pure_eq_ok, tells_iff hv]
  constructor
  · rintro ⟨w, hw, content, hcontent, author, hauthor, rfl⟩
    exact ⟨content, author, ⟨w, hw, hcontent, hauthor⟩, rfl⟩
  · rintro ⟨content, author, ⟨w, hw, hcontent, hauthor⟩, rfl⟩
    exact ⟨w, hw, content, hcontent, author, hauthor, rfl⟩

/-- a value is told, or what is wrong with it -/
theorem spoilsQuote_of_ofJson (h : ofJson v = .error f) : f.spoilsQuote = true := by
  have hfield : ∀ {name v}, field name v = .error f → f.spoilsQuote = true := by
    intro name v h
    unfold field at h
    repeat' split at h
    all_goals
      cases h
      try rfl
  rcases bind_eq_error.1 h with h | ⟨w, -, h⟩
  · unfold chosen at h
    split at h <;> cases h
    rfl
  rcases bind_eq_error.1 h with h | ⟨content, -, h⟩
  · exact hfield h
  rcases bind_eq_error.1 h with h | ⟨author, -, h⟩
  · exact hfield h
  · cases h

/-- a text is read, or told to be no JSON value, or nested too deeply -/
theorem spoilsQuote_of_read (h : Json.read room s = .error f) : f.spoilsQuote = true ∨ ∃ c, f = .tooDeep c := by
  have hreader : ∀ e, (Json.fault s e).spoilsQuote = true ∨ ∃ c, Json.fault s e = .tooDeep c := by
    intro e
    cases e with
    | wrong why left => exact .inl rfl
    | tooManyDigits n => exact .inl rfl
    | tooDeep c => exact .inr ⟨c, rfl⟩
  unfold Json.read at h
  split at h
  · cases h
    exact .inl rfl
  · split at h
    · cases h
      exact hreader _
    · split at h
      · cases h
      · cases h
        exact hreader _

theorem ofAnswer_success : ofAnswer room content 200 = (do
    ofJson (← Json.read room (← orFault .notUtf8 (Utf8.decode? content)))) := rfl

theorem ofAnswer_eq_ok :
    ofAnswer room content status = .ok quote ↔ status = 200 ∧ ∃ text, content = Utf8.encode text ∧
      ¬Json.Exceeds room text ∧ ∃ v content author, Json.IsJson v text ∧ Tells v content author ∧
        quote = content.shown ++ " - " ++ author.shown := by
  by_cases hstatus : status = 200
  · subst hstatus
    simp only [ofAnswer_success, bind_eq_ok, orFault_eq_ok, Utf8.decode?_eq_ok, Json.read_eq_ok, true_and]
    constructor
    · rintro ⟨text, rfl, v, ⟨hv, hroom⟩, h⟩
      obtain ⟨content, author, htells, rfl⟩ := (ofJson_eq_ok hv).1 h
      exact ⟨text, rfl, hroom, v, content, author, hv, htells, rfl⟩
    · rintro ⟨text, rfl, hroom, v, content, author, hv, htells, rfl⟩
      exact ⟨text, rfl, v, ⟨hv, hroom⟩, (ofJson_eq_ok hv).2 ⟨content, author, htells, rfl⟩⟩
  · refine iff_of_false (fun h => ?_) (fun h => hstatus h.1)
    rw [ofAnswer, if_pos hstatus] at h
    cases h

theorem ofAnswer_eq_tooDeep :
    (∃ c, ofAnswer room content status = .error (.tooDeep c)) ↔
      status = 200 ∧ ∃ text, content = Utf8.encode text ∧ Json.Exceeds room text := by
  by_cases hstatus : status = 200
  · subst hstatus
    simp only [ofAnswer_success, ← Json.read_eq_tooDeep, true_and]
    constructor
    · rintro ⟨c, h⟩
      rcases bind_eq_error.1 h with h | ⟨text, htext, h⟩
      · obtain ⟨e, -, he⟩ := orFault_eq_error.1 h
        cases he
      rcases bind_eq_error.1 h with h | ⟨v, -, h⟩
      · exact ⟨text, Utf8.decode?_eq_ok.1 (orFault_eq_ok.1 htext), c, h⟩
      · cases spoilsQuote_of_ofJson h
    · rintro ⟨text, rfl, c, h⟩
      refine ⟨c, ?_⟩
      rw [Utf8.decode?_eq_ok.2 rfl]
      exact bind_eq_error.2 (.inr ⟨text, rfl, bind_eq_error.2 (.inl h)⟩)
  · refine iff_of_false (fun ⟨c, h⟩ => ?_) (fun h => hstatus h.1)
    rw [ofAnswer, if_pos hstatus] at h
    cases h

/-- whatever is wrong with an answer is told, unless it is nested too deeply -/
theorem spoilsQuote_of_ofAnswer (h : ofAnswer room content status = .error f) :
    f.spoilsQuote = true ∨ ∃ c, f = .tooDeep c := by
  unfold ofAnswer at h
  split at h
  · cases h
    exact .inl rfl
  rcases bind_eq_error.1 h with h | ⟨text, -, h⟩
  · obtain ⟨e, -, rfl⟩ := orFault_eq_error.1 h
    exact .inl rfl
  rcases bind_eq_error.1 h with h | ⟨v, -, h⟩
  · exact spoilsQuote_of_read h
  · exact .inl (spoilsQuote_of_ofJson h)

end

end Quote

/-! ## runs -/

namespace Web

open Program

/-- the web answered with success and with no more than can be read: with this text in UTF-8 -/
def Answers (s : Session) (text : Text) : Prop :=
  s.web.answer = .ok (Utf8.encode text, 200) ∧ (Utf8.encode text).length ≤ 1024 * 1024

/-- the web answered with a JSON value that holds a quote -/
def Offers (s : Session) (quote : Text) : Prop :=
  ∃ text v content author, Answers s text ∧ Json.IsJson v text ∧ Quote.Tells v content author ∧
    quote = content.shown ++ " - " ++ author.shown

/-- the web answered with a text that opens more containers than there is room for -/
def Buries (s : Session) : Prop := ∃ text, Answers s text ∧ Json.Exceeds s.room text

/-- the quote that the web has for a session -/
def quoteOf (s : Session) : Except Fault Text :=
  s.web.answer >>= fun (content, status) =>
    if 1024 * 1024 < content.length then .error (.tooMuchContent (1024 * 1024))
    else Quote.ofAnswer s.room content status

/-- the session after a web address was opened, with what is asked of it: it is read up to a limit and one
octet further, and closed -/
def asked (url : Text) (timeout limit : Int) (s : Session) : Session :=
  { s with calls := s.calls ++ .openUrl url timeout ::
      if s.web.answer.isOk then [.readUrl limit, .readUrl 1, .closeUrl] else [] }

section
variable {url : Option Text} {timeout : Option Int} {s : Session} {quote : Text} {f : Fault}

theorem runIn_fetch (url : Text) (timeout : Int) (limit : Nat) (s : Session) :
    (fetch url timeout limit).runIn s =
      (s.web.answer >>= fun p => if limit < p.1.length then .error (.tooMuchContent limit) else .ok p,
        asked url timeout limit s) := by
  unfold fetch asked
  simp only [runIn_bind, record, runIn_change, runIn_session, runIn_settle]
  cases s.web.answer with
  | error f => rfl
  | ok p =>
    have hcalls : ∀ a b c d : Call, s.calls ++ [a] ++ [b] ++ [c] ++ [d] = s.calls ++ a :: [b, c, d] := by
      simp
    dsimp only
    rw [runIn_ensuring]
    simp only [runIn_bind, runIn_change, takeUpTo_natCast]
    by_cases hlimit : limit < p.1.length
    · have hrest : ¬(p.1.drop limit).isEmpty = true := by simpa using hlimit
      rw [if_neg hrest]
      show (_, { s with calls := s.calls ++ [_] ++ [_] ++ [_] ++ [_] }) = _
      rw [hcalls]
      exact congrArg (·, _) (if_pos hlimit).symm
    · have hrest : (p.1.drop limit).isEmpty = true := by simpa using hlimit
      rw [if_pos hrest, List.take_of_length_le (not_lt.1 hlimit)]
      show (_, { s with calls := s.calls ++ [_] ++ [_] ++ [_] ++ [_] }) = _
      rw [hcalls]
      exact congrArg (·, _) (if_neg hlimit).symm

/-- what is asked of the web, and what comes of it -/
theorem runIn_fetchQuote (url : Option Text) (timeout : Option Int) (s : Session) :
    (fetchQuote url timeout).runIn s =
      (match quoteOf s with
        | .ok quote => .ok quote
        | .error f => if f.spoilsQuote then .ok (failure (quoteUrl url) f) else .error f,
        asked (quoteUrl url) (quoteTimeout timeout) (1024 * 1024) s) := by
  have hbody : Program.runIn (do
      let (content, status) ← fetch (quoteUrl url) (quoteTimeout timeout) usualLimit
      settle (Quote.ofAnswer (← session).room content status)) s =
        (quoteOf s, asked (quoteUrl url) (quoteTimeout timeout) (1024 * 1024) s) := by
    rw [runIn_bind, show usualLimit = ((1024 * 1024 : Nat) : Int) from rfl, runIn_fetch, quoteOf]
    cases s.web.answer with
    | error f => rfl
    | ok p =>
      by_cases hlimit : 1024 * 1024 < p.1.length
      · simp only [bind, Except.bind, if_pos hlimit]
        rfl
      · simp only [bind, Except.bind, if_neg hlimit]
        rfl
  unfold fetchQuote
  rw [runIn_handling, hbody]
  cases quoteOf s with
  | ok quote => rfl
  | error f => cases hspoils : f.spoilsQuote <;> simp only [hspoils] <;> rfl

theorem quoteOf_eq_ofAnswer {content : Octets} {status : Int} (hanswer : s.web.answer = .ok (content, status))
    (hlimit : content.length ≤ 1024 * 1024) : quoteOf s = Quote.ofAnswer s.room content status := by
  rw [quoteOf, hanswer]
  exact if_neg (not_lt.2 hlimit)

theorem exists_of_quoteOf_eq_ok (h : quoteOf s = .ok quote) :
    ∃ content status, s.web.answer = .ok (content, status) ∧ content.length ≤ 1024 * 1024 := by
  unfold quoteOf at h
  obtain ⟨⟨content, status⟩, hanswer, h⟩ := bind_eq_ok.1 h
  refine ⟨content, status, hanswer, not_lt.1 fun hlimit => ?_⟩
  dsimp only at h
  rw [if_pos hlimit] at h
  cases h

theorem quoteOf_eq_ok : quoteOf s = .ok quote ↔ Offers s quote ∧ ¬Buries s := by
  constructor
  · intro h
    obtain ⟨content, status, hanswer, hlimit⟩ := exists_of_quoteOf_eq_ok h
    rw [quoteOf_eq_ofAnswer hanswer hlimit] at h
    obtain ⟨rfl, text, rfl, -, v, content, author, hv, htells, hquote⟩ := Quote.ofAnswer_eq_ok.1 h
    refine ⟨⟨text, v, content, author, ⟨hanswer, hlimit⟩, hv, htells, hquote⟩, ?_⟩
    rintro ⟨text', ⟨hanswer', -⟩, hdeep⟩
    have hsame := Prod.mk.inj (Except.ok.inj (hanswer.symm.trans hanswer'))
    obtain ⟨c, hc⟩ := Quote.ofAnswer_eq_tooDeep.2 ⟨rfl, text', hsame.1, hdeep⟩
    cases hc.symm.trans h
  · rintro ⟨⟨text, v, content, author, hanswers, hv, htells, hquote⟩, hroom⟩
    rw [quoteOf_eq_ofAnswer hanswers.1 hanswers.2]
    exact Quote.ofAnswer_eq_ok.2 ⟨rfl, text, rfl, fun hdeep => hroom ⟨text, hanswers, hdeep⟩, v, content, author,
      hv, htells, hquote⟩

theorem quoteOf_of_buries (h : Buries s) : ∃ c, quoteOf s = .error (.tooDeep c) := by
  obtain ⟨text, hanswers, hdeep⟩ := h
  rw [quoteOf_eq_ofAnswer hanswers.1 hanswers.2]
  exact Quote.ofAnswer_eq_tooDeep.2 ⟨rfl, text, rfl, hdeep⟩

/-- what keeps a quote from being told -/
theorem quoteOf_eq_error (h : quoteOf s = .error f) :
    s.web.answer = .error f ∨ f.spoilsQuote = true ∨ Buries s ∧ ∃ c, f = .tooDeep c := by
  unfold quoteOf at h
  rcases bind_eq_error.1 h with h | ⟨⟨content, status⟩, hanswer, h⟩
  · exact .inl h
  refine .inr ?_
  dsimp only at h
  split at h
  · cases h
    exact .inl rfl
  · rename_i hlimit
    rcases Quote.spoilsQuote_of_ofAnswer h with hspoils | ⟨c, rfl⟩
    · exact .inl hspoils
    · obtain ⟨rfl, text, rfl, hdeep⟩ := Quote.ofAnswer_eq_tooDeep.1 ⟨c, h⟩
      exact .inr ⟨⟨text, ⟨hanswer, not_lt.1 hlimit⟩, hdeep⟩, c, rfl⟩

/-- **A quote is told, or what went wrong in its place, unless the answer is nested too deeply; and the
answer is read no further than a limit and one octet, and closed.** -/
theorem fetchQuote_tells (url : Option Text) (timeout : Option Int) (s : Session)
    (hopen : ∀ f, s.web.answer = .error f → f.isSystem = true ∨ ∃ t, f = .value t) :
    ∃ told, (fetchQuote url timeout).runIn s =
        (told, { s with calls := s.calls ++ .openUrl (quoteUrl url) (quoteTimeout timeout) ::
          if s.web.answer.isOk then [.readUrl (1024 * 1024), .readUrl 1, .closeUrl] else [] }) ∧
      (Buries s → ∃ c, told = .error (.tooDeep c)) ∧
      (¬Buries s → ∀ quote, Offers s quote → told = .ok quote) ∧
      (¬Buries s → (∀ quote, ¬Offers s quote) → ∃ why,
        told = .ok ("Exception: Failed to fetch quote from " ++ quoteUrl url ++ " (" ++ why ++ ")")) := by
  refine ⟨_, runIn_fetchQuote url timeout s, fun hdeep => ?_, fun hroom quote hquote => ?_,
    fun hroom hno => ?_⟩
  · obtain ⟨c, hc⟩ := quoteOf_of_buries hdeep
    exact ⟨c, by rw [hc]; rfl⟩
  · rw [quoteOf_eq_ok.2 ⟨hquote, hroom⟩]
  · cases hquote : quoteOf s with
    | ok quote => exact absurd (quoteOf_eq_ok.1 hquote).1 (hno quote)
    | error f =>
      have hspoils : f.spoilsQuote = true := by
        rcases quoteOf_eq_error hquote with hf | hspoils | ⟨hdeep, -⟩
        · rcases hopen f hf with hsystem | ⟨t, rfl⟩
          · cases f <;> first | rfl | cases hsystem
          · rfl
        · exact hspoils
        · exact absurd hdeep hroom
      refine ⟨f.message, ?_⟩
      dsimp only
      rw [if_pos hspoils]
      rfl

end

/-- a session whose web answers with a content and success -/
def answering (content : Octets) : Session := { Session.quiet with web := ⟨.ok (content, 200)⟩ }

/-- a quote with its author -/
def proverb : Text := "\x7b\"author\": \"Thales\", \"content\": \"Know \\u0074hyself\"\x7d"

theorem fetchQuote_tells_proverb :
    ((fetchQuote none none).runIn (answering (Utf8.encode proverb))).1 = .ok "Know thyself - Thales" := by
  obtain ⟨told, hrun, -, hquote, -⟩ := fetchQuote_tells none none (answering (Utf8.encode proverb)) nofun
  have hread : quoteOf (answering (Utf8.encode proverb)) = .ok "Know thyself - Thales" := by decide +kernel
  rw [hrun, hquote (quoteOf_eq_ok.1 hread).2 _ (quoteOf_eq_ok.1 hread).1]

theorem encode_replicate (n : Nat) : Utf8.encode (List.replicate n '[') = List.replicate n 91 := by
  induction n with
  | zero => rfl
  | succ n ih =>
    rw [List.replicate_succ, List.replicate_succ, Utf8.encode_cons, ih]
    rfl

/-- lists one inside the other: nothing is told -/
theorem fetchQuote_nested :
    ∃ c, ((fetchQuote none none).runIn (answering (List.replicate 100000 91))).1 = .error (.tooDeep c) := by
  have hanswers : Answers (answering (List.replicate 100000 91)) (List.replicate 100000 '[') := by
    refine ⟨by rw [encode_replicate]; rfl, ?_⟩
    rw [encode_replicate, List.length_replicate]
    decide
  have hdeep : Json.Overruns (answering (List.replicate 100000 91)).room (List.replicate 100000 '[' ++ []) :=
    Json.overruns_replicate (by decide) []
  rw [List.append_nil] at hdeep
  obtain ⟨c, hc⟩ := quoteOf_of_buries ⟨_, hanswers, [], _, nofun, hdeep, rfl⟩
  exact ⟨c, by rw [runIn_fetchQuote, hc]; rfl⟩

end Web

end Mailroom
