import Mailroom.Filter.Criteria
import Mailroom.Filter.Value
import Mailroom.Proofs.Search.Program
import Mailroom.Proofs.Time.Clock

/-!
# Search programs of filters are read back

The search program of a tree is read as the key that the tree stands for.

* `Shows`            a piece of a program and the items it is read as, whatever stands around it;
* `scan_atom`, `scan_quote`   how an atom and a quoted text are scanned;
* `shows_atom`, `shows_quote`, `shows_append`, `shows_group`   how pieces are put together;
* `date?_short`      a date of the calendar is read back;
* `Key.ofTree`       the key that a tree stands for;
* `Leaf.Searchable`  a leaf that can be written: no negative size, and a flag that is an atom;
* `read?_criteria`   the program of a tree with such leaves stands for the key of the tree.
-/

namespace Mailroom.Search

/-! ## pieces of programs -/

/-- a character of an atom: no blank, no parenthesis and no quote -/
def isPlain (c : Char) : Bool := c != ' ' && c != '(' && c != ')' && c != '"'

theorem isPlain_iff {c : Char} : isPlain c = true ↔ c ≠ ' ' ∧ c ≠ '(' ∧ c ≠ ')' ∧ c ≠ '"' := by
  simp [isPlain, and_assoc]

/-- what may follow a piece: nothing, a blank or the end of the group -/
def Delimited (rest : Text) : Prop := ∀ c ∈ rest.head?, c = ' ' ∨ c = ')'

theorem delimited_blank (r : Text) : Delimited (' ' :: r) := by simp [Delimited]

theorem delimited_closing (r : Text) : Delimited (')' :: r) := by simp [Delimited]

/-- the piece is scanned as some words that are read as the items, whatever follows it and whatever
groups are open -/
def Shows (m : Text) (is : List Item) : Prop :=
  ∃ ws, (∀ rest, Delimited rest → scan .between (m ++ rest) = (scan .between rest).map (ws ++ ·)) ∧
    ∀ inner outer, run ws (inner :: outer) = some ((is ++ inner) :: outer)

theorem scan_inAtom {s rest : Text} (hs : s.all isPlain = true) (hr : Delimited rest) (w : Text) :
    scan (.inAtom w) (s ++ rest) = (scan .between rest).map (.atom (w ++ s) :: ·) := by
  induction s generalizing w with
  | nil =>
    rw [List.append_nil, List.nil_append]
    cases rest with
    | nil => rfl
    | cons c r =>
      rcases hr c rfl with rfl | rfl
      · rfl
      · show (scan .between r).map _ = ((scan .between r).map _).map _
        rw [Option.map_map]
        rfl
  | cons c s ih =>
    rw [List.all_cons, Bool.and_eq_true] at hs
    obtain ⟨h1, h2, h3, h4⟩ := isPlain_iff.1 hs.1
    rw [List.cons_append, scan, if_neg h1, if_neg h2, if_neg h3, if_neg h4, ih hs.2,
      List.append_assoc]
    rfl

theorem scan_atom {s rest : Text} (hne : s ≠ []) (hs : s.all isPlain = true) (hr : Delimited rest) :
    scan .between (s ++ rest) = (scan .between rest).map (.atom s :: ·) := by
  cases s with
  | nil => exact absurd rfl hne
  | cons c s =>
    rw [List.all_cons, Bool.and_eq_true] at hs
    obtain ⟨h1, h2, h3, h4⟩ := isPlain_iff.1 hs.1
    rw [List.cons_append, scan, if_neg h1, if_neg h2, if_neg h3, if_neg h4, scan_inAtom hs.2 hr]
    rfl

theorem shows_atom {s : Text} (hne : s ≠ []) (hs : s.all isPlain = true) : Shows s [.word s] :=
  ⟨[.atom s], fun _ hr => scan_atom hne hs hr, fun _ _ => rfl⟩

theorem scan_inQuotes (s rest past : Text) :
    scan (.inQuotes past)
      (s.flatMap (fun c => if c = '"' ∨ c = '\\' then ['\\', c] else [c]) ++ '"' :: rest)
      = (scan .between rest).map (.quoted (past ++ s) :: ·) := by
  induction s generalizing past with
  | nil =>
    rw [List.append_nil]
    rfl
  | cons c s ih =>
    rw [List.flatMap_cons, List.append_assoc]
    by_cases hc : c = '"' ∨ c = '\\'
    · rw [if_pos hc]
      show scan (.inQuotes (past ++ [c])) (s.flatMap _ ++ '"' :: rest) = _
      rw [ih, List.append_assoc]
      rfl
    · rw [if_neg hc]
      rw [not_or] at hc
      rw [List.singleton_append, scan, if_neg hc.1, if_neg hc.2, ih, List.append_assoc]
      rfl

theorem scan_quote (s rest : Text) :
    scan .between (Criteria.quote s ++ rest) = (scan .between rest).map (.quoted s :: ·) := by
  show scan .between ('"' :: ((_ ++ ['"']) ++ rest)) = _
  rw [List.append_assoc]
  exact scan_inQuotes s rest []

theorem shows_quote (s : Text) : Shows (Criteria.quote s) [.string s] :=
  ⟨[.quoted s], fun rest _ => scan_quote s rest, fun _ _ => rfl⟩

theorem shows_append {m n : Text} {is js : List Item} (hm : Shows m is) (hn : Shows n js) :
    Shows (m ++ ' ' :: n) (is ++ js) := by
  obtain ⟨ws, hscan, hrun⟩ := hm
  obtain ⟨vs, hscan', hrun'⟩ := hn
  refine ⟨ws ++ vs, fun rest hr => ?_, fun inner outer => ?_⟩
  · rw [List.append_assoc, List.cons_append, hscan _ (delimited_blank _)]
    show (scan .between (n ++ rest)).map _ = _
    rw [hscan' rest hr, Option.map_map]
    congr 1
    funext us
    exact (List.append_assoc ws vs us).symm
  · rw [run_append, hrun', Option.bind_some, hrun, List.append_assoc]

theorem shows_group {m : Text} {is : List Item} {k : Key} (hm : Shows m is) (hk : group? is = some k) :
    Shows ('(' :: m ++ [')']) [.group k] := by
  obtain ⟨ws, hscan, hrun⟩ := hm
  refine ⟨.opening :: (ws ++ [.closing]), fun rest _ => ?_, fun inner outer => ?_⟩
  · show (scan .between (m ++ [')'] ++ rest)).map _ = _
    rw [List.append_assoc, List.singleton_append, hscan _ (delimited_closing _)]
    show (((scan .between rest).map _).map _).map _ = _
    rw [Option.map_map, Option.map_map]
    congr 1
    funext us
    simp
  · rw [run_cons, run_append]
    show ((run ws ([] :: inner :: outer)).bind (step .opening)) = _
    rw [hrun, List.append_nil]
    show (group? is).map _ = _
    rw [hk]
    rfl

theorem read?_of_shows {m : Text} {k : Key} (h : Shows m [.group k]) : read? m = some k := by
  obtain ⟨ws, hscan, hrun⟩ := h
  have hm := hscan [] nofun
  rw [List.append_nil] at hm
  unfold read?
  rw [hm]
  show (run (ws ++ []) [[]]).bind whole? = _
  rw [List.append_nil, hrun]
  rfl

/-! ## arguments -/

theorem isPlain_of_isDigit {c : Char} (h : c.isDigit = true) : isPlain c = true := by
  rw [isPlain_iff]
  refine ⟨?_, ?_, ?_, ?_⟩ <;> (rintro rfl; exact absurd h (by decide))

theorem all_isPlain_decimal (n : Nat) : (Text.decimal n).all isPlain = true :=
  List.all_eq_true.2 fun _ hc => isPlain_of_isDigit (Text.isDigit_of_mem_decimal hc)

theorem shows_decimal (n : Nat) : Shows (Text.decimal n) [.word (Text.decimal n)] :=
  shows_atom (Text.decimal_ne_nil n) (all_isPlain_decimal n)

theorem not_mem_decimal {c : Char} (hc : c.isDigit = false) (n : Nat) : c ∉ Text.decimal n :=
  fun h => Bool.false_ne_true (hc ▸ Text.isDigit_of_mem_decimal h)

/-- a number is no word with another character than a digit -/
theorem decimal_ne {w : Text} (hw : w.all Char.isDigit = false) (n : Nat) : Text.decimal n ≠ w := by
  rintro rfl
  have hall : (Text.decimal n).all Char.isDigit = true :=
    List.all_eq_true.2 fun _ hc => Text.isDigit_of_mem_decimal hc
  rw [hall] at hw
  cases hw

theorem plain?_decimal (n : Nat) : plain? (Text.decimal n) = some (.number n) := by
  unfold plain?
  rw [if_neg (decimal_ne (by decide) n), if_neg (decimal_ne (by decide) n),
    if_neg (decimal_ne (by decide) n), if_neg (decimal_ne (by decide) n),
    if_neg (decimal_ne (by decide) n), Text.natural?_decimal]
  rfl

theorem monthName_spec {m : Nat} (h : 1 ≤ m) (h' : m ≤ 12) :
    Date.monthNames.findIdx? (· == Date.monthName m) = some (m - 1) ∧ Date.monthName m ≠ [] ∧
      (Date.monthName m).all isPlain = true ∧ '-' ∉ Date.monthName m := by
  have hall : ∀ i : Fin 12, Date.monthNames.findIdx? (· == Date.monthName (i.val + 1)) = some i.val ∧
      Date.monthName (i.val + 1) ≠ [] ∧ (Date.monthName (i.val + 1)).all isPlain = true ∧
      '-' ∉ Date.monthName (i.val + 1) := by
    decide
  have hi := hall ⟨m - 1, by omega⟩
  rwa [show m - 1 + 1 = m by omega] at hi

section
variable {d : Date} (hd : d.Exists) (hy : 1 ≤ d.year)
include hd hy

theorem date?_short : date? d.short = some d := by
  obtain ⟨hm, -, -, hdash⟩ := monthName_spec hd.1 hd.2.1
  have e : d.short = Text.decimal d.day ++ '-' :: (Date.monthName d.month ++
      '-' :: Text.decimal d.year.toNat) := by
    unfold Date.short
    rw [Text.decimalInt_of_nonneg (by omega)]
    simp
  have hsplit : Text.splitOn '-' d.short
      = [Text.decimal d.day, Date.monthName d.month, Text.decimal d.year.toNat] := by
    rw [e, Text.splitOn_append_cons, Text.splitOn_append_cons,
      Text.splitOn_of_not_mem (not_mem_decimal rfl _), Text.splitOn_of_not_mem (not_mem_decimal rfl _),
      Text.splitOn_of_not_mem hdash]
    rfl
  unfold date?
  rw [hsplit]
  dsimp only
  rw [Text.natural?_decimal, hm, Text.natural?_decimal]
  show some (⟨(d.year.toNat : Nat), d.month - 1 + 1, d.day⟩ : Date) = some d
  rw [Int.toNat_of_nonneg (by omega), Nat.sub_add_cancel hd.1]

theorem shows_short : Shows d.short [.word d.short] := by
  obtain ⟨-, -, hplain, -⟩ := monthName_spec hd.1 hd.2.1
  unfold Date.short
  rw [Text.decimalInt_of_nonneg (by omega)]
  refine shows_atom (by simp) ?_
  rw [List.all_append, List.all_append, List.all_append, List.all_append, hplain,
    all_isPlain_decimal, all_isPlain_decimal]
  rfl

end

/-! ## keys -/

/-- a word that stands for a key together with the item behind it -/
def TakesArgument (w : Text) : Prop :=
  w ≠ [] ∧ w.all isPlain = true ∧ w ≠ "NOT".toList ∧ w ≠ "OR".toList ∧ plain? w = none

instance (w : Text) : Decidable (TakesArgument w) := by unfold TakesArgument; infer_instance

theorem keys_argument {w : Text} {i : Item} {k : Key} (hw : TakesArgument w)
    (h : withArgument? w i = some k) : keys [.word w, i] = some [k] := by
  obtain ⟨-, -, hnot, hor, hplain⟩ := hw
  rw [keys, if_neg hnot, if_neg hor, hplain]
  show (withArgument? w i).bind _ = _
  rw [h]
  rfl

theorem group?_of_keys {is : List Item} {k : Key} (h : keys is = some [k]) : group? is = some k := by
  unfold group?
  rw [h]
  rfl

theorem TakesArgument.shows {w : Text} (hw : TakesArgument w) : Shows w [.word w] :=
  shows_atom hw.1 hw.2.1

theorem shows_argument {w m : Text} {i : Item} {k : Key} (hw : TakesArgument w) (hm : Shows m [i])
    (h : withArgument? w i = some k) : Shows ('(' :: (w ++ ' ' :: m) ++ [')']) [.group k] :=
  shows_group (shows_append hw.shows hm) (group?_of_keys (keys_argument hw h))

theorem shows_not_argument {w m : Text} {i : Item} {k : Key} (hw : TakesArgument w)
    (hm : Shows m [i]) (h : withArgument? w i = some k) :
    Shows ('(' :: ("NOT".toList ++ ' ' :: (w ++ ' ' :: m)) ++ [')']) [.group (.neg k)] := by
  refine shows_group (shows_append (shows_atom (by decide) (by decide)) (shows_append hw.shows hm)) ?_
  apply group?_of_keys
  show (keys [.word w, i]).bind negateFirst? = _
  rw [keys_argument hw h]
  rfl

theorem shows_number (n : Nat) : Shows ('(' :: Text.decimal n ++ [')']) [.group (.number n)] := by
  refine shows_group (shows_decimal n) (group?_of_keys ?_)
  rw [keys, if_neg (decimal_ne (by decide) n), if_neg (decimal_ne (by decide) n), plain?_decimal]
  rfl

theorem shows_plain {w : Text} {k : Key} (hne : w ≠ []) (hw : w.all isPlain = true)
    (hk : group? [.word w] = some k) : Shows ('(' :: w ++ [')']) [.group k] :=
  shows_group (shows_atom hne hw) hk

theorem shows_neg {m : Text} {k : Key} (hm : Shows m [.group k]) :
    Shows ("(NOT " ++ m ++ ")") [.group (.neg k)] :=
  shows_group (shows_append (shows_atom (s := "NOT") (by decide) (by decide)) hm) rfl

section
variable {m n : Text} {k l : Key} (hm : Shows m [.group k]) (hn : Shows n [.group l])
include hm hn

theorem shows_conj : Shows ("(" ++ m ++ " " ++ n ++ ")") [.group (.conj k l)] := by
  have h := shows_group (k := .conj k l) (shows_append hm hn) rfl
  simpa using h

theorem shows_disj : Shows ("(OR " ++ m ++ " " ++ n ++ ")") [.group (.disj k l)] := by
  have hor : Shows "OR" [.word "OR"] := shows_atom (by decide) (by decide)
  have h := shows_group (k := .disj k l) (shows_append hor (shows_append hm hn)) rfl
  simpa using h

end

/-! ## the key of a tree -/

namespace Key

/-- the key of a date leaf -/
def ofDate (zone : Zone) (which : Dated) (cmp : Option Comparison) (m : Moment) :
    Except Fault Key := do
  let s ← orFault .clock (zone.localize m)
  let d := s.reading.date
  match cmp with
  | some .equal => return date which .on d
  | some .atLeast => return date which .since d
  | some .atMost => return disj (date which .before d) (date which .on d)
  | none => .error (.shape .comparison)

/-- the key of a leaf; no message has a number that is not positive -/
def ofLeaf (zone : Zone) : Leaf → Except Fault Key
  | .body p => .ok (body p)
  | .subject p => .ok (subject p)
  | .sender t => do return address "From" (← Criteria.key t)
  | .recipient kind t => do return address (Leaf.recipientField kind) (← Criteria.key t)
  | .number n => .ok (if 0 < n then number n.toNat else neg all)
  | .received cmp m => ofDate zone .received cmp m
  | .sent cmp m => ofDate zone .sent cmp m
  | .size (some .atLeast) n => .ok (neg (smaller n.toNat))
  | .size (some .atMost) n => .ok (neg (larger n.toNat))
  | .size cmp n => .error (.shape (.term (Leaf.shownSize cmp n)))
  | .flag name isSet => .ok (flag name isSet)

/-- the key of a tree -/
def ofTree (zone : Zone) : Tree → Except Fault Key
  | .conj a b => do return conj (← ofTree zone a) (← ofTree zone b)
  | .disj a b => do return disj (← ofTree zone a) (← ofTree zone b)
  | .neg l => do return neg (← ofLeaf zone l)
  | .leaf l => ofLeaf zone l
  | .stray v => .error (.shape (.term v.shown))

end Key
end Search

/-- a leaf that a search program can hold: no size is negative, and a flag is an atom or has a key of
its own -/
def Leaf.Searchable : Leaf → Prop
  | size _ n => 0 ≤ n
  | flag name _ => name = seenFlag ∨ name = flaggedFlag ∨ Filter.isKeyword name
  | _ => True

namespace Search

variable {zone : Zone}

/-- the words for the dates of a message -/
def Dated.keys : Dated → Criteria.DateKeys
  | received => Criteria.receivedKeys
  | sent => Criteria.sentKeys

/-- the word for a day and its place among the days of messages -/
def Dated.word (which : Dated) : DayOrder → Text
  | .on => which.keys.on
  | .before => which.keys.before
  | .since => which.keys.since

theorem takesArgument_word (which : Dated) (order : DayOrder) : TakesArgument (which.word order) := by
  cases which <;> cases order <;> decide

theorem withArgument?_word (which : Dated) (order : DayOrder) (v : Text) :
    withArgument? (which.word order) (.word v) = (date? v).map (.date which order) := by
  cases which <;> cases order <;> rfl

theorem shows_date {d : Date} (hd : d.Exists) (hy : 1 ≤ d.year) (which : Dated) (order : DayOrder) :
    Shows ("(" ++ which.word order ++ " " ++ d.short ++ ")") [.group (.date which order d)] := by
  have h := shows_argument (k := .date which order d) (takesArgument_word which order)
    (shows_short hd hy) (by rw [withArgument?_word, date?_short hd hy]; rfl)
  simpa using h

theorem shows_dateLeaf (which : Dated) {cmp : Option Comparison} {m : Moment} {c : Text}
    (h : Criteria.date zone which.keys cmp m = .ok c) :
    ∃ k, Key.ofDate zone which cmp m = .ok k ∧ Shows c [.group k] := by
  obtain ⟨d, hday, h⟩ := bind_eq_ok.1 h
  obtain ⟨s, hs, hd⟩ := bind_eq_ok.1 hday
  cases hd
  obtain ⟨hexists, hyear, -, -⟩ := Zone.reading_localize (orFault_eq_ok.1 hs)
  have hkey := shows_date hexists hyear which
  unfold Key.ofDate
  rw [hs]
  cases cmp with
  | none => cases h
  | some cmp =>
    cases cmp with
    | equal =>
      cases h
      exact ⟨_, rfl, hkey .on⟩
    | atLeast =>
      cases h
      exact ⟨_, rfl, hkey .since⟩
    | atMost =>
      cases h
      refine ⟨_, rfl, ?_⟩
      have h := shows_disj (hkey .before) (hkey .on)
      simpa [Dated.word] using h

theorem isPlain_of_isKeyword {name : Text} (h : Filter.isKeyword name = true) :
    name ≠ [] ∧ name.all isPlain = true := by
  simp only [Filter.isKeyword, Bool.and_eq_true, Bool.not_eq_true', List.isEmpty_eq_false_iff,
    List.all_eq_true] at h
  refine ⟨h.1, List.all_eq_true.2 fun c hc => isPlain_iff.2 ?_⟩
  have hmark := h.2 c hc
  refine ⟨?_, ?_, ?_, ?_⟩ <;> (rintro rfl; exact absurd hmark (by decide))

theorem shows_flag {name : Text} (isSet : Bool)
    (h : name = seenFlag ∨ name = flaggedFlag ∨ Filter.isKeyword name) :
    Shows (Criteria.flag name isSet) [.group (.flag name isSet)] := by
  unfold Criteria.flag
  by_cases hs : name = seenFlag
  · subst hs
    rw [if_pos rfl]
    cases isSet with
    | true => exact shows_plain (w := "SEEN") (by decide) (by decide) rfl
    | false => exact shows_plain (w := "UNSEEN") (by decide) (by decide) rfl
  rw [if_neg hs]
  by_cases hf : name = flaggedFlag
  · subst hf
    rw [if_pos rfl]
    cases isSet with
    | true => exact shows_plain (w := "FLAGGED") (by decide) (by decide) rfl
    | false => exact shows_plain (w := "UNFLAGGED") (by decide) (by decide) rfl
  rw [if_neg hf]
  obtain ⟨hne, hplain⟩ := isPlain_of_isKeyword ((h.resolve_left hs).resolve_left hf)
  cases isSet with
  | true => exact shows_argument (w := "KEYWORD") (by decide) (shows_atom hne hplain) rfl
  | false => exact shows_argument (w := "UNKEYWORD") (by decide) (shows_atom hne hplain) rfl

theorem shows_address {w field s : Text} (hw : TakesArgument w)
    (h : withString? w s = some (.address field s)) :
    Shows ("(" ++ w ++ " " ++ Criteria.quote s ++ ")") [.group (.address field s)] := by
  have h := shows_argument (k := .address field s) hw (shows_quote s) h
  simpa using h

theorem shows_leaf {l : Leaf} {c : Text} (h : Criteria.leaf zone l = .ok c) (hl : l.Searchable) :
    ∃ k, Key.ofLeaf zone l = .ok k ∧ Shows c [.group k] := by
  cases l with
  | body p =>
    cases h
    exact ⟨_, rfl, shows_argument (w := "BODY") (by decide) (shows_quote p) rfl⟩
  | subject p =>
    cases h
    exact ⟨_, rfl, shows_argument (w := "SUBJECT") (by decide) (shows_quote p) rfl⟩
  | number n =>
    cases h
    by_cases hn : 0 < n
    · refine ⟨.number n.toNat, by rw [Key.ofLeaf, if_pos hn], ?_⟩
      rw [if_pos hn, Text.decimalInt_of_nonneg (by omega)]
      exact shows_number n.toNat
    · refine ⟨.neg .all, by rw [Key.ofLeaf, if_neg hn], ?_⟩
      rw [if_neg hn]
      exact shows_group (shows_append (shows_atom (s := "NOT") (by decide) (by decide))
        (shows_atom (s := "ALL") (by decide) (by decide))) rfl
  | received cmp m => exact shows_dateLeaf .received h
  | sent cmp m => exact shows_dateLeaf .sent h
  | sender t =>
    obtain ⟨s, hs, hc⟩ := bind_eq_ok.1 h
    cases hc
    refine ⟨.address "From" s, by rw [Key.ofLeaf, hs]; rfl, ?_⟩
    exact shows_address (w := "FROM") (by decide) rfl
  | recipient kind t =>
    obtain ⟨s, hs, hc⟩ := bind_eq_ok.1 h
    cases hc
    refine ⟨.address (Leaf.recipientField kind) s, by rw [Key.ofLeaf, hs]; rfl, ?_⟩
    match kind with
    | .to => exact shows_address (w := "TO") (by decide) rfl
    | .cc => exact shows_address (w := "CC") (by decide) rfl
    | .bcc => exact shows_address (w := "BCC") (by decide) rfl
  | size cmp n =>
    have hn : 0 ≤ n := hl
    have hnumber (f : Nat → Key) :
        (Text.natural? (Text.decimal n.toNat)).map f = some (f n.toNat) := by
      rw [Text.natural?_decimal]
      rfl
    match cmp with
    | some .atLeast =>
      cases h
      rw [Text.decimalInt_of_nonneg hn]
      exact ⟨_, rfl, shows_not_argument (w := "SMALLER") (by decide) (shows_decimal _) (hnumber _)⟩
    | some .atMost =>
      cases h
      rw [Text.decimalInt_of_nonneg hn]
      exact ⟨_, rfl, shows_not_argument (w := "LARGER") (by decide) (shows_decimal _) (hnumber _)⟩
    | some .equal | none => cases h
  | flag name isSet =>
    cases h
    exact ⟨_, rfl, shows_flag isSet hl⟩

theorem shows_criteria {t : Tree} {c : Text} (h : t.criteria zone = .ok c)
    (ht : ∀ l ∈ t.leaves, l.Searchable) : ∃ k, Key.ofTree zone t = .ok k ∧ Shows c [.group k] := by
  induction t generalizing c with
  | leaf l => exact shows_leaf h (ht l List.mem_cons_self)
  | neg l =>
    obtain ⟨m, hm, hc⟩ := bind_eq_ok.1 h
    cases hc
    obtain ⟨k, hk, hs⟩ := shows_leaf hm (ht l List.mem_cons_self)
    exact ⟨.neg k, by rw [Key.ofTree, hk]; rfl, shows_neg hs⟩
  | conj a b iha ihb =>
    obtain ⟨m, hm, h⟩ := bind_eq_ok.1 h
    obtain ⟨n, hn, hc⟩ := bind_eq_ok.1 h
    cases hc
    rw [Tree.leaves, List.forall_mem_append] at ht
    obtain ⟨k, hk, hs⟩ := iha hm ht.1
    obtain ⟨k', hk', hs'⟩ := ihb hn ht.2
    exact ⟨.conj k k', by rw [Key.ofTree, hk, hk']; rfl, shows_conj hs hs'⟩
  | disj a b iha ihb =>
    obtain ⟨m, hm, h⟩ := bind_eq_ok.1 h
    obtain ⟨n, hn, hc⟩ := bind_eq_ok.1 h
    cases hc
    rw [Tree.leaves, List.forall_mem_append] at ht
    obtain ⟨k, hk, hs⟩ := iha hm ht.1
    obtain ⟨k', hk', hs'⟩ := ihb hn ht.2
    exact ⟨.disj k k', by rw [Key.ofTree, hk, hk']; rfl, shows_disj hs hs'⟩
  | stray v => cases h

/-- **Search programs are read back.**  A server reads the program of a tree as the key of the
tree. -/
theorem read?_criteria {t : Tree} {c : Text} (h : t.criteria zone = .ok c)
    (ht : ∀ l ∈ t.leaves, l.Searchable) : ∃ k, Key.ofTree zone t = .ok k ∧ read? c = some k := by
  obtain ⟨k, hk, hs⟩ := shows_criteria h ht
  exact ⟨k, hk, read?_of_shows hs⟩

end Search
end Mailroom
