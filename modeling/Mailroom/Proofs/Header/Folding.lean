import Mailroom.Header.Folding
import Mailroom.Proofs.Codec.Percent
import Mailroom.Proofs.Header.Parameters
import Mailroom.Proofs.Text.Decimal

/-!
# Folded fields

A field is written on lines of limited length.  Its first line begins with its name, and every further one
with a blank, which is how a reader knows that it continues the field.

* `run_fits`, `run_apart`, `run_apart_encoding`   what becomes of one part: it is written as it is, or taken
  apart;
* `Unbroken`, `Folded`    texts on one line, and lines that continue each other;
* `Lines.folded_push`, `Lines.folded_begin`, `Lines.folded_pushParameter`   writing keeps lines that continue
  each other;
* `Clear`                 texts in which nothing asks for an encoded word;
* `fold_fits`             a value that is clear and fits stands on the line of the name;
* `fold_disposition`      a disposition with parameters, however long, is folded well.
-/

namespace Mailroom.Header

/-! ## parts that fit -/

variable {t : Token} {l : Lines} {n : Nat} {ts : List Task} {ps : List Token} {f : Form} {flaw : Flaw}

/-- whether a token is the parameters of a value -/
def Token.isParameters : Token → Bool
  | .parameters _ => true
  | _ => false

/-- a part that needs no encoding and for which there is room is written as it is -/
theorem run_fits (hkind : t.isParameters = false) (hneeds : t.needsEncoding = false)
    (hfits : (t.text.length : Int) ≤ l.room) :
    run (n + 1) false (.part t :: ts) l = run n false ts (l.push t.text) := by
  cases t with
  | parameters => cases hkind
  | leaf kind s =>
    rw [run, hneeds]
    · simp only [Bool.or_self, Bool.false_eq_true, false_and, if_false, pushPlain, if_pos hfits]
  | node f flaw ps =>
    rw [run, hneeds]
    · simp only [Bool.or_self, Bool.false_eq_true, false_and, if_false, pushPlain, if_pos hfits]
    all_goals exact nofun

/-- a form that needs no encoding but is too long is taken apart, if no line may be broken in front of it and
no encoded word may stand in it -/
theorem run_apart (hneeds : (Token.node f flaw ps).needsEncoding = false)
    (hlong : ¬((Token.node f flaw ps).text.length : Int) ≤ l.room) (hbreak : (Token.node f flaw ps).mayBreak = false)
    (hencode : (Token.node f flaw ps).mayEncode = false) :
    run (n + 1) false (.part (.node f flaw ps) :: ts) l =
      run n false (ps.map .part ++ .allow :: ts) { l with forbidden := l.forbidden + 1 } := by
  rw [run, hneeds]
  · simp only [Bool.or_self, Bool.false_eq_true, false_and, if_false, pushPlain, if_neg hlong, pushLong, hbreak,
      hencode, List.append_assoc, List.singleton_append]
  all_goals exact nofun

/-- a form in which something needs an encoding is taken apart as well -/
theorem run_apart_encoding (hneeds : (Token.node f flaw ps).needsEncoding = true) (hopen : l.forbidden = 0)
    (hbreak : (Token.node f flaw ps).mayBreak = false) (hencode : (Token.node f flaw ps).mayEncode = false) :
    run (n + 1) false (.part (.node f flaw ps) :: ts) l =
      run n false (ps.map .part ++ ts) { l with wordStart := none } := by
  rw [run, hneeds]
  · simp only [Bool.or_true, true_and, hopen, if_true, hencode, Bool.false_eq_true, if_false, hbreak]
    rfl
  all_goals exact nofun

theorem run_parameters {es : List (Text × Text)} :
    run (n + 1) false (.part (.parameters es) :: ts) l =
      run n (Token.parameters es).needsEncoding ts (es.foldl pushParameter l) := by
  rw [run]
  rfl

/-! ## lines that continue each other -/

/-- a text on one line -/
def Unbroken (s : Text) : Prop := ∀ c ∈ s, c ≠ '\n' ∧ c ≠ '\r'

instance (s : Text) : Decidable (Unbroken s) := inferInstanceAs (Decidable (∀ c ∈ s, _))

/-- a first line that begins so, and lines that begin with a blank -/
structure Folded (front : Text) (ls : List Text) : Prop where
  front : ∃ first rest, ls = first :: rest ∧ front <+: first ∧ ∀ s ∈ rest, s.head? = some ' '
  unbroken : ∀ s ∈ ls, Unbroken s

/-- the lines under construction -/
def Lines.all (l : Lines) : List Text := l.done.reverse ++ [l.line]

variable {front s : Text}

theorem unbroken_append {a b : Text} : Unbroken (a ++ b) ↔ Unbroken a ∧ Unbroken b := List.forall_mem_append

theorem Lines.room_empty : Lines.empty.room = lineLimit := rfl

theorem Lines.room_push (l : Lines) (s : Text) : (l.push s).room = l.room - s.length := by
  simp only [room, push, List.length_append]
  omega

theorem Lines.text_eq (l : Lines) : l.text = l.all.flatMap fun s => s ++ ['\n'] := by
  rw [Lines.text, Lines.all, List.reverse_cons]

theorem Lines.folded_push (h : Folded front l.all) (hs : Unbroken s) :
    Folded front (l.push s).all := by
  obtain ⟨⟨first, rest, hall, hfront, hrest⟩, hone⟩ := h
  have hlines : ∀ s' ∈ (l.push s).all, Unbroken s' := by
    rw [Lines.all, List.forall_mem_append, List.forall_mem_singleton] at hone
    exact List.forall_mem_append.2 ⟨hone.1, List.forall_mem_singleton.2 (unbroken_append.2 ⟨hone.2, hs⟩)⟩
  refine ⟨?_, hlines⟩
  rw [Lines.all] at hall
  show ∃ first rest, l.done.reverse ++ [l.line ++ s] = first :: rest ∧ _
  rcases hdone : l.done.reverse with _ | ⟨first', rest'⟩
  · rw [hdone, List.nil_append] at hall
    obtain ⟨rfl, rfl⟩ := List.cons.inj hall
    exact ⟨l.line ++ s, [], rfl, hfront.trans (List.prefix_append _ _), nofun⟩
  · rw [hdone, List.cons_append] at hall
    obtain ⟨rfl, rfl⟩ := List.cons.inj hall
    rw [List.forall_mem_append, List.forall_mem_singleton] at hrest
    refine ⟨first', rest' ++ [l.line ++ s], rfl, hfront, List.forall_mem_append.2 ⟨hrest.1,
      List.forall_mem_singleton.2 ?_⟩⟩
    obtain ⟨r, hr⟩ := List.head?_eq_some_iff.1 hrest.2
    rw [hr]
    rfl

theorem Lines.folded_begin (h : Folded front l.all) (hs : Unbroken s) :
    Folded front (l.begin (' ' :: s)).all := by
  have hall : (l.begin (' ' :: s)).all = l.all ++ [' ' :: s] := by
    simp [Lines.all, Lines.begin]
  obtain ⟨⟨first, rest, hfirst, hfront, hrest⟩, hone⟩ := h
  rw [hall]
  refine ⟨⟨first, rest ++ [' ' :: s], by rw [hfirst]; rfl, hfront, ?_⟩, ?_⟩
  · exact List.forall_mem_append.2 ⟨hrest, List.forall_mem_singleton.2 rfl⟩
  · exact List.forall_mem_append.2 ⟨hone, List.forall_mem_singleton.2 (List.forall_mem_cons.2 ⟨by decide, hs⟩)⟩

/-! ## parameters on lines -/

theorem mem_quote {c : Char} (h : c ∈ quote s) : c = '"' ∨ c = '\\' ∨ c ∈ s := by
  rw [quote_eq, List.mem_cons, List.mem_append, List.mem_singleton] at h
  rcases h with rfl | h | rfl
  · exact .inl rfl
  · obtain ⟨d, hd, hc⟩ := List.mem_flatMap.1 h
    split at hc
    · rcases List.mem_cons.1 hc with rfl | hc
      · exact .inr (.inl rfl)
      · exact .inr (.inr (List.mem_singleton.1 hc ▸ hd))
    · exact .inr (.inr (List.mem_singleton.1 hc ▸ hd))
  · exact .inl rfl

theorem unbroken_quote (hs : Unbroken s) : Unbroken (quote s) := by
  intro c hc
  rcases mem_quote hc with rfl | rfl | hc
  · decide
  · decide
  · exact hs c hc

/-- no line break is printable -/
theorem unbroken_of_printable (h : ∀ c ∈ s, 32 ≤ c.toNat ∧ c.toNat ≤ 126) : Unbroken s := by
  intro c hc
  have hlow := (h c hc).1
  constructor <;> rintro rfl <;> exact absurd hlow (by decide)

theorem unbroken_encode (s : Text) : Unbroken (Percent.encode s) :=
  unbroken_of_printable fun c hc => by
    have := (Percent.mem_encode hc).2
    omega

theorem unbroken_decimal (n : Nat) : Unbroken (Text.decimal n) := by
  intro c hc
  have hdigit := Text.isDigit_of_mem_decimal hc
  constructor <;> rintro rfl <;> exact absurd hdigit (by decide)

theorem unbroken_fittingSection (value : Text) (room count : Nat) : Unbroken (fittingSection value room count).2 := by
  induction count with
  | zero => exact nofun
  | succ count ih =>
    rw [fittingSection]
    split
    · exact unbroken_encode _
    · exact ih

/-- numbered sections stand on lines of their own -/
theorem Lines.folded_pushSections {name charset : Text} (hname : Unbroken name) (hcharset : Unbroken charset)
    (tries number : Nat) (value : Text) (h : Folded front l.all) :
    Folded front (pushSections name charset tries number value l).all := by
  induction tries generalizing number value l with
  | zero => exact h
  | succ tries ih =>
    have hmark : Unbroken (if number = 0 then charset ++ "''" else []) := by
      split
      · exact unbroken_append.2 ⟨hcharset, by decide⟩
      · exact nofun
    rw [pushSections]
    dsimp only
    generalize hsection : fittingSection value _ _ = taken
    have hsection : Unbroken taken.2 := hsection ▸ unbroken_fittingSection _ _ _
    have hbegun := folded_begin (s := name ++ "*" ++ Text.decimal number ++ "*=" ++
      (if number = 0 then charset ++ "''" else []) ++ taken.2) h (by
        simp only [unbroken_append]
        exact ⟨⟨⟨⟨⟨hname, by decide⟩, unbroken_decimal number⟩, by decide⟩, hmark⟩, hsection⟩)
    split
    · exact hbegun
    · exact ih _ _ (folded_push hbegun (by decide))

theorem Lines.folded_pushParameter {name value : Text} (hname : Unbroken name) (hvalue : Unbroken value)
    (h : Folded front l.all) : Folded front (pushParameter l (name, value)).all := by
  unfold pushParameter
  dsimp only
  generalize hl : (if (Text.trimEnd l.line).getLast? = some ';' then l else l.push [';']) = l'
  have hl' : Folded front l'.all := by
    rw [← hl]
    split
    · exact h
    · exact folded_push h (by decide)
  generalize hraw : (value.any fun c => (Text.rawOctet? c).isSome) = isRaw
  generalize hcharset : (if isRaw = true then ("unknown-8bit" : Text) else "utf-8") = charset
  have hcharset : Unbroken charset := by
    rw [← hcharset]
    split <;> decide
  generalize hwhole : (if isRaw = true then name ++ "*=" ++ charset ++ "''" ++ Percent.encode value
    else name ++ '=' :: quote value) = whole
  have hwhole : Unbroken whole := by
    rw [← hwhole]
    split
    · simp only [unbroken_append]
      exact ⟨⟨⟨⟨hname, by decide⟩, hcharset⟩, by decide⟩, unbroken_encode value⟩
    · exact unbroken_append.2 ⟨hname, List.forall_mem_cons.2 ⟨by decide, unbroken_quote hvalue⟩⟩
  split
  · exact folded_push hl' (List.forall_mem_cons.2 ⟨by decide, hwhole⟩)
  split
  · exact folded_begin hl' hwhole
  · exact folded_pushSections hname hcharset _ _ _ hl'

/-! ## whole fields -/

/-- a text in which nothing asks for an encoded word -/
def Clear (s : Text) : Prop := ∀ c ∈ s, c ≠ '\n' ∧ c ≠ '\r' ∧ Text.rawOctet? c = none

instance (s : Text) : Decidable (Clear s) := inferInstanceAs (Decidable (∀ c ∈ s, _))

theorem clear_of_printable (h : ∀ c ∈ s, 32 ≤ c.toNat ∧ c.toNat ≤ 126) : Clear s := by
  intro c hc
  obtain ⟨hfeed, hreturn⟩ := unbroken_of_printable h c hc
  exact ⟨hfeed, hreturn, if_neg (by have := h c hc; omega)⟩

/-- a clear text is shown as it stands -/
theorem Clear.settle (h : Clear s) : Text.settle s = s := by
  have hnone : (s.any fun c => (Text.rawOctet? c).isSome) = false := by
    rw [List.any_eq_false]
    intro c hc
    simp [(h c hc).2.2]
  unfold Text.settle
  rw [hnone]
  rfl

theorem needsEncoding_of_clear (hclear : Clear t.text) (hinside : t.isInside = false) : t.needsEncoding = false := by
  unfold Token.needsEncoding
  rw [List.any_eq_false]
  intro c hc
  obtain ⟨hfeed, hreturn, hraw⟩ := hclear c hc
  simp [hfeed, hreturn, hraw, hinside]

theorem run_nil (n : Nat) (encoding : Bool) (l : Lines) : run n encoding [] l = .ok l := by
  cases n <;> rfl

/-- the name of a field, a colon and a blank -/
def label (name : Text) : Text := name ++ ":" ++ " "

variable {name : Text}

/-- the name of a field is written first -/
theorem run_label (hname : Clear name) (hlength : name.length + 2 ≤ lineLimit) (n : Nat) :
    run (n + 2) false (.part (.form .label [.leaf .plain name, .markChar ':']) ::
        .part (Token.form .filler [.leaf .space [' ']]) :: ts) .empty =
      run n false ts (Lines.empty.push (label name)) := by
  have htext : (Token.form .label [.leaf .plain name, .markChar ':']).text = name ++ ":" := by
    simp [Token.text, Token.textAll, Token.form, Token.markChar]
  have hclear : Clear (name ++ ":") := List.forall_mem_append.2 ⟨hname, by decide⟩
  have hsize : (name ++ ":" : Text).length = name.length + 1 := List.length_append
  have hroom : ((name ++ ":" : Text).length : Int) ≤ Lines.empty.room := by
    rw [Lines.room_empty, hsize]
    omega
  have hroom' : (([' '] : Text).length : Int) ≤ (Lines.empty.push (name ++ ":")).room := by
    rw [Lines.room_push, Lines.room_empty, hsize, List.length_singleton]
    omega
  have hlabel : (Token.form .label [.leaf .plain name, .markChar ':']).needsEncoding = false :=
    needsEncoding_of_clear (htext ▸ hclear) rfl
  have hfiller : (Token.form .filler [.leaf .space [' ']]).needsEncoding = false := by decide
  rw [run_fits rfl hlabel (htext ▸ hroom), htext, run_fits rfl hfiller hroom']
  rfl

/-- a field whose value is a form with parts is its name, followed by its value -/
theorem fold_eq (f : Form) (flaw : Flaw) (p : Token) (ps : List Token) (hname : Clear name)
    (hlength : name.length + 2 ≤ lineLimit) :
    ∃ n, fold name (.node f flaw (p :: ps)) =
      (run (n + 5) false [.part (.node f flaw (p :: ps))] (Lines.empty.push (label name))).map Lines.text := by
  have hsteps : 4 * Token.countAll (fieldTree name (.node f flaw (p :: ps))) + 4 =
      4 * Token.countAll (p :: ps) + 21 + 5 + 2 := by
    show 4 * (3 + (2 + (Token.countAll (p :: ps) + 1 + 0))) + 4 = _
    omega
  refine ⟨4 * Token.countAll (p :: ps) + 21, ?_⟩
  unfold fold
  dsimp only
  rw [hsteps]
  show (run _ false (.part (.form .label [.leaf .plain name, .markChar ':']) ::
    .part (Token.form .filler [.leaf .space [' ']]) :: _) .empty >>= _) = _
  rw [run_label hname hlength]
  rfl

/-- the room behind the name of a field -/
theorem room_label {k : Nat} (hlength : name.length + 2 + k ≤ lineLimit) :
    (k : Int) ≤ (Lines.empty.push (label name)).room := by
  have hsize : (label name).length = name.length + 1 + 1 := by
    rw [label, List.length_append, List.length_append]
    rfl
  rw [Lines.room_push, Lines.room_empty, hsize]
  omega

/-- a value that is clear and fits stands on the line of the name -/
theorem fold_fits {p : Token} (hname : Clear name) (hvalue : Clear (Token.node f flaw (p :: ps)).text)
    (hlength : name.length + 2 + (Token.node f flaw (p :: ps)).text.length ≤ lineLimit) :
    fold name (.node f flaw (p :: ps)) = .ok (label name ++ (Token.node f flaw (p :: ps)).text ++ ['\n']) := by
  obtain ⟨n, hfold⟩ := fold_eq f flaw p ps hname (by omega)
  rw [hfold, run_fits rfl (needsEncoding_of_clear hvalue rfl) (room_label hlength), run_nil]
  show Except.ok (Lines.text _) = _
  simp [Lines.text, Lines.push, Lines.empty]

variable {v : Text} {es : List (Text × Text)}

/-- the parts of a disposition one by one -/
theorem run_disposition (es : List (Text × Text)) (hv : Clear v) (hroom : (v.length : Int) + 1 ≤ l.room) (n : Nat)
    (ts : List Task) :
    run (n + 3) false ([Scan.wordToken v, .markChar ';', .parameters es].map .part ++ ts) l =
      run n (Token.parameters es).needsEncoding ts (es.foldl pushParameter ((l.push v).push [';'])) := by
  have htext : (Scan.wordToken v).text = v := by simp [Scan.wordToken, Token.text, Token.textAll, Token.form]
  have hword : (Scan.wordToken v).needsEncoding = false := needsEncoding_of_clear (by rwa [htext]) rfl
  have hmark : (Token.markChar ';').needsEncoding = false := by decide
  have hfits : ((Scan.wordToken v).text.length : Int) ≤ l.room := by
    rw [htext]
    omega
  have hfits' : ((Token.markChar ';').text.length : Int) ≤ (l.push v).room := by
    rw [Lines.room_push]
    show ((1 : Nat) : Int) ≤ _
    omega
  show run (n + 2 + 1) false (.part _ :: .part _ :: .part _ :: ts) l = _
  rw [run_fits rfl hword hfits, htext, run_fits rfl hmark hfits', run_parameters]
  rfl

theorem folded_foldl (hes : ∀ e ∈ es, Unbroken e.1 ∧ Unbroken e.2) (h : Folded front l.all) :
    Folded front (es.foldl pushParameter l).all := by
  induction es generalizing l with
  | nil => exact h
  | cons e es ih =>
    rw [List.forall_mem_cons] at hes
    exact ih hes.2 (Lines.folded_pushParameter hes.1.1 hes.1.2 h)

theorem Clear.unbroken (h : Clear s) : Unbroken s := fun c hc => ⟨(h c hc).1, (h c hc).2.1⟩

theorem unbroken_of_needsEncoding (h : t.needsEncoding = false) : Unbroken t.text := by
  intro c hc
  have hclear := List.any_eq_false.1 h c hc
  simp only [Bool.or_eq_true, beq_iff_eq, not_or] at hclear
  exact ⟨hclear.1.1.1, hclear.1.1.2⟩

theorem folded_label (hname : Clear name) : Folded (name ++ ":") (Lines.empty.push (label name)).all := by
  have hlabel : Unbroken (label name) :=
    unbroken_append.2 ⟨unbroken_append.2 ⟨hname.unbroken, by decide⟩, by decide⟩
  exact ⟨⟨label name, [], rfl, List.prefix_append _ _, nofun⟩, List.forall_mem_singleton.2 hlabel⟩

/-- the form of a disposition with parameters -/
def dispositionForm (v : Text) (es : List (Text × Text)) : Token :=
  .form .disposition [Scan.wordToken v, .markChar ';', .parameters es]

/-- a disposition and its parameters, however long, stand on lines that continue each other -/
theorem fold_disposition (hname : Clear name) (hv : Clear v) (hlength : name.length + v.length + 3 ≤ lineLimit)
    (hes : ∀ e ∈ es, Unbroken e.1 ∧ Unbroken e.2) :
    ∃ ls, fold name (dispositionForm v es) = .ok (ls.flatMap fun s => s ++ ['\n']) ∧
      Folded (name ++ ":") ls := by
  obtain ⟨n, hfold⟩ := fold_eq .disposition .none (Scan.wordToken v) [.markChar ';', .parameters es] hname (by omega)
  have hstart := folded_label hname
  have hroom : (v.length : Int) + 1 ≤ (Lines.empty.push (label name)).room :=
    room_label (k := v.length + 1) (by omega)
  -- the lines that come of the parts, whatever else is known of the lines in front of them
  have hparts : ∀ l : Lines, l.all = (Lines.empty.push (label name)).all →
      Folded (name ++ ":") (es.foldl pushParameter ((l.push v).push [';'])).all := fun l hl =>
    folded_foldl hes (Lines.folded_push (Lines.folded_push (hl ▸ hstart) hv.unbroken) (by decide))
  suffices hrun : ∃ l : Lines, run (n + 5) false [.part (dispositionForm v es)] (Lines.empty.push (label name)) =
      .ok l ∧ Folded (name ++ ":") l.all by
    obtain ⟨l, hrun, hl⟩ := hrun
    refine ⟨l.all, ?_, hl⟩
    rw [dispositionForm, Token.form, hfold, ← Lines.text_eq]
    exact congrArg (Except.map Lines.text) hrun
  cases hneeds : (dispositionForm v es).needsEncoding with
  | true =>
    refine ⟨_, ?_, hparts { Lines.empty.push (label name) with wordStart := none } rfl⟩
    exact (run_apart_encoding hneeds rfl rfl rfl).trans
      ((run_disposition es (l := { Lines.empty.push (label name) with wordStart := none }) hv hroom (n + 1) []).trans
        (run_nil _ _ _))
  | false =>
    by_cases hfits : ((dispositionForm v es).text.length : Int) ≤ (Lines.empty.push (label name)).room
    · refine ⟨_, ?_, Lines.folded_push hstart (unbroken_of_needsEncoding hneeds)⟩
      rw [run_fits rfl hneeds hfits, run_nil]
    · -- the lines after the form differ from those of its parts only in what may be broken
      have hparts' := hparts { Lines.empty.push (label name) with forbidden := 1 } rfl
      have hrun := (run_apart hneeds hfits rfl rfl).trans
        (run_disposition es (l := { Lines.empty.push (label name) with forbidden := 1 }) hv hroom (n + 1) [.allow])
      generalize es.foldl pushParameter _ = L at hparts' hrun
      exact ⟨{ L with forbidden := L.forbidden - 1 }, hrun.trans (run_nil n _ _), hparts'⟩

end Mailroom.Header
