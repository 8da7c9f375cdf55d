import Mailroom.Header.Field
import Mailroom.Proofs.Header.Quoting
import Mailroom.Proofs.Lists
import Mailroom.Proofs.Text.Pieces

/-!
# Parameters of structured values are read back

* `Scan.IsParameterName`   names of parameters;
* `Scan.piece_quote`, `Scan.piece_extended`   one parameter, in quotes and in extended form;
* `Scan.parameters_quote`, `Scan.parameters_extended`   the same as the only parameter of a value;
* `Scan.IsWord`, `Scan.word?_run`   the words of a value;
* `Scan.disposition_run`, `Scan.mediaType_run`   dispositions and media types with what stands behind them.
-/

namespace Mailroom.Header

namespace Scan

variable {s t w : Text}

theorem leads_filler?_nil : Leads filler? [] (fun ts t => ts = [] ∧ t = []) False := by
  simp only [filler?, leads_bind, leads_sees, leads_ite, leads_pure]
  exact ⟨trivial, trivial⟩

/-- a blank in front of something else is a filler -/
theorem leads_filler?_blank {c : Char} (hc : Text.isBlank c = false) (hopen : opensFiller c = false) :
    Leads filler? (' ' :: c :: s) (fun ts t => ts = [.form .filler [.leaf .space [' ']]] ∧ t = c :: s) False := by
  have hsees : (' ' :: c :: s).head?.any opensFiller = true := rfl
  have hspace : (' ' :: c :: s).head?.any isSpace = true := rfl
  simp only [filler?, filler, leads_bind, leads_sees, leads_ite, leads_pure]
  rw [if_pos hsees]
  refine (leads_repeatWhile_ends (I := fun done u => done = [] ∧ u = ' ' :: c :: s ∨
    done = [.leaf .space [' ']] ∧ u = c :: s) rfl ?_ (.inl ⟨rfl, rfl⟩)).mono ?_ id
  · rintro done u (⟨rfl, rfl⟩ | ⟨rfl, rfl⟩) hgoes
    · have htake : (' ' :: c :: s).takeWhile Text.isBlank = [' '] := by
        rw [List.takeWhile_cons_of_pos (by decide), List.takeWhile_cons_of_neg (by simp [hc])]
      have hdrop : (' ' :: c :: s).dropWhile Text.isBlank = c :: s := by
        rw [List.dropWhile_cons_of_pos (by decide), List.dropWhile_cons_of_neg (by simp [hc])]
      simp only [space, leads_bind, leads_sees, leads_ite, leads_get, leads_set, leads_pure, Text.trimStart,
        htake, hdrop]
      rw [if_pos hspace]
      exact ⟨.inr ⟨trivial, trivial⟩, Nat.lt_succ_self _⟩
    · simp [hopen] at hgoes
  · rintro done u ⟨⟨rfl, rfl⟩ | ⟨rfl, rfl⟩, hstops⟩
    · cases hstops
    · exact ⟨rfl, rfl⟩

/-- a run up to a mark -/
theorem leads_run_mark {p : Char → Bool} {n : Text} (hne : n ≠ []) (hn : ∀ c ∈ n, p c = true)
    (hs : ∀ c ∈ s.head?, p c = false) : Leads (run p) (n ++ s) (fun w t => w = n ∧ t = s) False := by
  obtain ⟨c, n, rfl⟩ := List.exists_cons_of_ne_nil hne
  simp only [run, leads_bind, leads_get, takeWhile_append_of_head hn hs, dropWhile_append_of_head hn hs, leads_set,
    leads_pure]
  exact ⟨trivial, trivial⟩

/-! ## parameters -/

/-- the value of a parameter in quotes -/
theorem leads_parameterValue_quote (hw : HasNoMark w) :
    Leads parameterValue (quote w) (fun t u => bareValue t = w ∧ u = []) False := by
  have hfiller : Leads filler? (quote w) (fun ts t => ts = [] ∧ t = quote w) False :=
    leads_filler?_of_head (by decide)
  have hquoted := leads_quotedText_quote hw []
  rw [List.append_nil] at hquoted
  simp only [parameterValue, quotedString, leads_bind, leads_atEnd, leads_ite, leads_mismatch, leads_sees, leads_pure]
  rw [if_neg (by simp [quote])]
  refine hfiller.mono ?_ id
  rintro _ _ ⟨rfl, rfl⟩
  rw [if_neg (by simp [quote]), if_pos (by simp [quote])]
  refine hfiller.mono ?_ id
  rintro _ _ ⟨rfl, rfl⟩
  refine hquoted.mono ?_ id
  rintro _ _ ⟨⟨ps, rfl, hps⟩, rfl⟩
  refine leads_filler?_nil.mono ?_ id
  rintro _ _ ⟨rfl, rfl⟩
  exact ⟨hps, rfl⟩

/-- a name of a parameter -/
structure IsParameterName (n : Text) : Prop where
  ne_nil : n ≠ []
  plain : ∀ c ∈ n, endsAttribute c = false ∧ Text.isBlank c = false

theorem IsParameterName.head {n : Text} (hn : IsParameterName n) (s : Text) :
    ∃ c t, n ++ s = c :: t ∧ Text.isBlank c = false ∧ opensFiller c = false := by
  obtain ⟨c, n, rfl⟩ := List.exists_cons_of_ne_nil hn.ne_nil
  obtain ⟨hends, hblank⟩ := hn.plain c List.mem_cons_self
  refine ⟨c, n ++ s, rfl, hblank, ?_⟩
  have hspace : isSpace c = false := by
    rw [Bool.eq_false_iff]
    intro h
    rw [isBlank_of_isSpace h] at hblank
    cases hblank
  have hopen : c ≠ '(' := by
    rintro rfl
    exact absurd hends (by decide)
  simp [opensFiller, hspace, hopen]

theorem IsParameterName.trim {n : Text} (hn : IsParameterName n) : Text.trim (' ' :: n) = n := by
  have hfront : (' ' :: n).dropWhile Text.isBlank = n.dropWhile Text.isBlank :=
    List.dropWhile_cons_of_pos (by decide)
  have hself : Text.trimWhere Text.isBlank n = n := Text.trimWhere_eq_self fun c hc => (hn.plain c hc).2
  rw [Text.trim, Text.trimWhere, hfront]
  exact hself

/-- the name of a parameter behind a blank -/
theorem leads_paddedRun_name {n : Text} {c : Char} (hn : IsParameterName n) (hends : endsAttribute c = true)
    (hopen : opensFiller c = false) :
    Leads (paddedRun endsAttribute) (' ' :: n ++ c :: s)
      (fun t u => Text.trim t.value = n ∧ u = c :: s) False := by
  obtain ⟨d, t, hd, hblank, hopen'⟩ := hn.head (c :: s)
  simp only [paddedRun, leads_bind, leads_pure]
  rw [List.cons_append, hd]
  refine (leads_filler?_blank hblank hopen').mono ?_ id
  rintro _ _ ⟨rfl, rfl⟩
  rw [← hd]
  refine (leads_run_mark hn.ne_nil (fun c hc => by simp [(hn.plain c hc).1]) (by simp [hends])).mono ?_ id
  rintro w _ ⟨hw, rfl⟩
  rw [hw]
  refine (leads_filler?_of_head hopen).mono ?_ id
  rintro _ _ ⟨rfl, rfl⟩
  refine ⟨?_, rfl⟩
  have hvalue : (Token.form .word ([.form .filler [.leaf .space [' ']]] ++ [.leaf .plain n])).value = ' ' :: n := by
    simp [Token.value, Token.valueAll, Token.form]
  exact hvalue ▸ hn.trim

/-- a step whose result is known -/
theorem bind_run {α β : Type} {p : Scan α} {k : α → Scan β} {a : α} (h : p s = .ok (a, t)) :
    (p >>= k) s = k a t := by
  show p s >>= (fun x => k x.1 x.2) = _
  rw [h]
  rfl

theorem run_of_leads {α : Type} {p : Scan α} {P : α → Prop} (h : Leads p s (fun a u => P a ∧ u = t) False) :
    ∃ a, p s = .ok (a, t) ∧ P a := by
  unfold Leads at h
  cases hp : p s with
  | ok x =>
    obtain ⟨a, u⟩ := x
    rw [hp] at h
    obtain ⟨ha, rfl⟩ := h
    exact ⟨a, rfl, ha⟩
  | error e =>
    rw [hp] at h
    cases e <;> exact h.elim

theorem run_of_not {α : Type} {p q : Scan α} {c : Prop} [Decidable c] (h : ¬c) :
    (if c then p else q) s = q s := by
  rw [if_neg h]

theorem run_of {α : Type} {p q : Scan α} {c : Prop} [Decidable c] (h : c) : (if c then p else q) s = p s := by
  rw [if_pos h]

/-- a test that fails -/
theorem else_run {α : Type} {p : Scan Bool} {q r : Scan α} (h : p s = .ok (false, t)) :
    (p >>= fun b => if b then q else r) s = r t :=
  bind_run h

/-- one parameter in quotes -/
theorem piece_quote {n : Text} (hn : IsParameterName n) (hw : HasNoMark w) :
    piece (' ' :: n ++ '=' :: quote w) = .ok (⟨n, 0, false, plainCharset, w⟩, []) := by
  obtain ⟨name, hname, rfl⟩ := run_of_leads (leads_paddedRun_name (s := quote w) hn (c := '=') (by decide) (by decide))
  obtain ⟨v, hv, rfl⟩ := run_of_leads (leads_parameterValue_quote hw)
  obtain ⟨-, hfiller, rfl⟩ := run_of_leads
    (leads_filler?_of_head (c := '"') (s := escaped (bareValue v) ++ ['"']) (by decide))
  refine (bind_run hname).trans ?_
  refine (bind_run (p := atEnd) rfl).trans ?_
  refine (else_run (p := sees _) rfl).trans ?_
  refine (bind_run (p := sectionMarks) (a := (0, false)) rfl).trans ?_
  refine (bind_run (p := next) rfl).trans ?_
  refine (run_of_not Bool.false_ne_true).trans ?_
  refine (bind_run (p := skip) rfl).trans ?_
  refine (bind_run hfiller).trans ?_
  refine (bind_run (p := sees _) rfl).trans ?_
  refine (run_of_not Bool.false_ne_true).trans ?_
  refine (bind_run (p := pure _) rfl).trans ?_
  refine (else_run (p := sees _) rfl).trans ?_
  refine (bind_run hv).trans ?_
  refine (bind_run (p := pure _) rfl).trans ?_
  refine (bind_run (p := sees _) rfl).trans ?_
  refine (run_of (by decide)).trans ?_
  rfl

theorem not_opensFiller_of_not_endsExtended {c : Char} (hc : endsExtended c = false) :
    opensFiller c = false ∧ c ≠ '"' ∧ c ≠ '\'' := by
  have hmark : endsAttribute c = false ∨ c = '%' := by
    rw [endsExtended, Bool.and_eq_false_iff] at hc
    simpa using hc
  rcases hmark with hmark | rfl
  · have hne : ∀ d, endsAttribute d = true → c ≠ d := by
      rintro d hd rfl
      rw [hmark] at hd
      cases hd
    have hopen : c ≠ ' ' ∧ c ≠ '\t' ∧ c ≠ '(' := ⟨hne _ (by decide), hne _ (by decide), hne _ (by decide)⟩
    refine ⟨?_, hne _ (by decide), hne _ (by decide)⟩
    simp [opensFiller, isSpace, hopen]
  · decide

/-- the value of a parameter without quotes -/
theorem parameterValue_run {v : Text} (hne : v ≠ []) (hv : ∀ c ∈ v, endsExtended c = false)
    (hs : s = [] ∨ s.head? = some '\'') :
    parameterValue (v ++ s) = .ok (.form .word [.leaf .plain v], s) := by
  obtain ⟨c, v, rfl⟩ := List.exists_cons_of_ne_nil hne
  obtain ⟨hopen, hquote, -⟩ := not_opensFiller_of_not_endsExtended (hv c List.mem_cons_self)
  obtain ⟨-, hfront, rfl⟩ := run_of_leads (leads_filler?_of_head (s := v ++ s) hopen)
  have hback : filler? s = .ok ([], s) := by
    rcases hs with rfl | hs
    · rfl
    · obtain ⟨r, rfl⟩ := List.head?_eq_some_iff.1 hs
      rfl
  have hends : ∀ d ∈ s.head?, (!endsExtended d) = false := by
    rcases hs with rfl | hs
    · exact nofun
    · rw [hs]
      rintro _ ⟨rfl⟩
      rfl
  obtain ⟨w, hw, rfl⟩ := run_of_leads (leads_run_mark (p := fun c => !endsExtended c) hne
    (fun d hd => by simp [hv d hd]) hends)
  have hpadded : paddedRun endsExtended (c :: v ++ s) = .ok (.form .word [.leaf .plain (c :: v)], s) :=
    (bind_run hfront).trans ((bind_run hw).trans (bind_run hback))
  refine (else_run (p := atEnd) rfl).trans ?_
  refine (bind_run hfront).trans ?_
  refine (else_run (p := atEnd) rfl).trans ?_
  refine (bind_run (p := sees _) rfl).trans ?_
  refine (run_of_not (by simpa using hquote)).trans ?_
  exact bind_run hpadded

/-- one parameter in extended form, whose value stands there as plain characters -/
theorem piece_extended {n : Text} (hn : IsParameterName n) {v : Text} (hne : v ≠ [])
    (hv : ∀ c ∈ v, endsExtended c = false) :
    piece (' ' :: n ++ '*' :: '=' :: (("utf-8" : Text) ++ '\'' :: '\'' :: v)) =
      .ok (⟨n, 0, true, "utf-8", v⟩, []) := by
  obtain ⟨name, hname, rfl⟩ := run_of_leads (leads_paddedRun_name
    (s := '=' :: (("utf-8" : Text) ++ '\'' :: '\'' :: v)) hn (c := '*') (by decide) (by decide))
  have hcharset := parameterValue_run (v := "utf-8") (s := '\'' :: '\'' :: v) (by decide) (by decide) (.inr rfl)
  have hvalue := parameterValue_run hne hv (.inl rfl)
  rw [List.append_nil] at hvalue
  refine (bind_run hname).trans ?_
  refine (bind_run (p := atEnd) rfl).trans ?_
  refine (else_run (p := sees _) rfl).trans ?_
  refine (bind_run (p := sectionMarks) (a := (0, true)) rfl).trans ?_
  refine (bind_run (p := next) rfl).trans ?_
  refine (run_of_not Bool.false_ne_true).trans ?_
  refine (bind_run (p := skip) rfl).trans ?_
  refine (bind_run (p := filler?) (a := []) rfl).trans ?_
  refine (else_run (p := sees _) rfl).trans ?_
  refine (bind_run (p := pure _) rfl).trans ?_
  refine (else_run (p := sees _) rfl).trans ?_
  refine (bind_run hcharset).trans ?_
  refine (bind_run (p := pure _) rfl).trans ?_
  refine (bind_run (p := sees _) rfl).trans ?_
  refine (run_of_not Bool.false_ne_true).trans ?_
  refine (else_run (p := atEnd) rfl).trans ?_
  refine (bind_run (p := next) rfl).trans ?_
  refine (run_of_not Bool.false_ne_true).trans ?_
  refine (bind_run (p := skip) rfl).trans ?_
  refine (bind_run (p := atEnd) rfl).trans ?_
  refine (bind_run (p := sees _) rfl).trans ?_
  refine (run_of_not Bool.false_ne_true).trans ?_
  refine (bind_run (p := skip) rfl).trans ?_
  refine (bind_run hvalue).trans ?_
  rfl

/-- one step that leaves nothing ends a repetition -/
theorem repeatWhile_once {σ : Type} {goesOn : Text → Bool} {step : σ → Scan σ} {st st' : σ} (hne : s ≠ [])
    (hgoes : goesOn s = true) (hnil : goesOn [] = false) (hstep : step st s = .ok (st', [])) :
    repeatWhile goesOn step st s = .ok (st', []) := by
  obtain ⟨c, t, rfl⟩ := List.exists_cons_of_ne_nil hne
  refine (bind_run (p := get) rfl).trans ?_
  refine (bind_run (p := get) rfl).trans ?_
  refine (run_of hgoes).trans ?_
  refine (bind_run hstep).trans ?_
  cases t with
  | nil => rfl
  | cons d t => exact (bind_run (p := get) rfl).trans (run_of_not (by simp [hnil]))

/-- the only parameter of a value -/
theorem parameters_piece {p : Section} (hs : s ≠ []) (hp : piece s = .ok (p, [])) :
    parameters s = .ok (.parameters [(p.name, wholeValue [p])], []) := by
  have hsections : sections s = .ok ([p], []) := by
    have horElse : ∀ q : Scan (List Section), orElse (do return (← piece) :: []) q s = .ok ([p], []) := by
      intro q
      have hfirst : (do return (← piece) :: [] : Scan (List Section)) s = .ok ([p], []) := bind_run hp
      unfold orElse
      rw [hfirst]
    refine (bind_run (a := [p]) (t := []) (repeatWhile_once hs (by simpa using hs) rfl ?_)).trans rfl
    exact (bind_run (horElse _)).trans rfl
  have hjoined : joinSections [p] = [(p.name, wholeValue [p])] := by
    simp [joinSections, List.eraseDups_cons]
  refine (bind_run hsections).trans ?_
  rw [hjoined]
  rfl

theorem wholeValue_plain (n : Text) (v : Text) : wholeValue [⟨n, 0, false, plainCharset, v⟩] = v := by
  have hsorted : sortSections [⟨n, 0, false, plainCharset, v⟩] = [⟨n, 0, false, plainCharset, v⟩] := by
    simp [sortSections]
  unfold wholeValue
  rw [hsorted]
  simp [countedSections]

theorem wholeValue_extended (n charset v : Text) : wholeValue [⟨n, 0, true, charset, v⟩] = extendedValue charset v := by
  have hsorted : sortSections [⟨n, 0, true, charset, v⟩] = [⟨n, 0, true, charset, v⟩] := by
    simp [sortSections]
  unfold wholeValue
  rw [hsorted]
  simp [countedSections]

/-- a parameter in quotes -/
theorem parameters_quote {n : Text} (hn : IsParameterName n) (hw : HasNoMark w) :
    parameters (' ' :: n ++ '=' :: quote w) = .ok (.parameters [(n, w)], []) := by
  have hparameters := parameters_piece (List.cons_ne_nil _ _) (piece_quote hn hw)
  rwa [wholeValue_plain] at hparameters

/-- a parameter in extended form -/
theorem parameters_extended {n : Text} (hn : IsParameterName n) {v : Text} (hne : v ≠ [])
    (hv : ∀ c ∈ v, endsExtended c = false) :
    parameters (' ' :: n ++ '*' :: '=' :: (("utf-8" : Text) ++ '\'' :: '\'' :: v)) =
      .ok (.parameters [(n, extendedValue "utf-8" v)], []) := by
  have hparameters := parameters_piece (List.cons_ne_nil _ _) (piece_extended hn hne hv)
  rwa [wholeValue_extended] at hparameters

/-! ## structured values -/

/-- a word of a structured value -/
def wordToken (w : Text) : Token := .form .word [.leaf .plain w]

/-- characters of a word -/
def IsWord (v : Text) : Prop := v ≠ [] ∧ ∀ c ∈ v, endsWord c = false ∧ opensFiller c = false

instance (v : Text) : Decidable (IsWord v) := inferInstanceAs (Decidable (_ ∧ _))

/-- a word up to a mark or to the end of the value -/
theorem word?_run {v : Text} (hv : IsWord v) (hs : ∀ c ∈ s.head?, endsWord c = true ∧ opensFiller c = false) :
    word? (v ++ s) = .ok ([wordToken v], s) := by
  have hback : filler? s = .ok ([], s) := by
    cases s with
    | nil => rfl
    | cons c s =>
      obtain ⟨_, hback, rfl⟩ := run_of_leads (leads_filler?_of_head (s := s) (hs c rfl).2)
      exact hback
  have hpadded : paddedRun endsWord (v ++ s) = .ok (wordToken v, s) := by
    obtain ⟨w, hw, rfl⟩ := run_of_leads (leads_run_mark (p := fun c => !endsWord c) (s := s) hv.1
      (fun d hd => by simp [hv.2 d hd]) (fun d hd => by simp [hs d hd]))
    obtain ⟨d, w, rfl⟩ := List.exists_cons_of_ne_nil hv.1
    obtain ⟨_, hfront, rfl⟩ := run_of_leads (leads_filler?_of_head (s := w ++ s) (hv.2 d List.mem_cons_self).2)
    exact (bind_run hfront).trans ((bind_run hw).trans (bind_run hback))
  have hfirst : (do return [← paddedRun endsWord] : Scan (List Token)) (v ++ s) = .ok ([wordToken v], s) :=
    bind_run hpadded
  unfold word? orElse
  rw [hfirst]

/-- parameters behind a semicolon -/
theorem parametersBehind_run {t : Token} (hs : parameters (' ' :: s) = .ok (t, [])) :
    parametersBehind (';' :: ' ' :: s) = .ok ([.markChar ';', t], []) := by
  refine (bind_run (p := junk _) (a := []) rfl).trans ?_
  refine (else_run (p := atEnd) rfl).trans ?_
  refine (bind_run (p := skip) rfl).trans ?_
  exact bind_run hs

/-- a disposition and its parameters -/
theorem disposition_run {v : Text} {t : Token} (hv : IsWord v) (hs : parameters (' ' :: s) = .ok (t, [])) :
    disposition (v ++ ';' :: ' ' :: s) = .ok (.form .disposition [wordToken v, .markChar ';', t], []) := by
  refine (bind_run (word?_run hv (by simp; decide))).trans ?_
  exact bind_run (parametersBehind_run hs)

/-- a media type and what stands behind it -/
theorem mediaType_run {v v' : Text} {ts : List Token} (hv : IsWord v) (hv' : IsWord v')
    (hs : ∀ c ∈ s.head?, endsWord c = true ∧ opensFiller c = false) (hback : parametersBehind s = .ok (ts, [])) :
    mediaType (v ++ '/' :: (v' ++ s)) =
      .ok (.form .mediaType ([wordToken v, .markChar '/', wordToken v'] ++ ts), []) := by
  refine (bind_run (word?_run hv (by simp; decide))).trans ?_
  refine (bind_run (p := sees _) rfl).trans ?_
  refine (run_of rfl).trans ?_
  refine (bind_run (p := skip) rfl).trans ?_
  refine (bind_run (word?_run hv' hs)).trans ?_
  refine (bind_run (p := pure _) rfl).trans ?_
  exact bind_run hback

end Scan
end Mailroom.Header
