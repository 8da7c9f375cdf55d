import Mailroom.Message.Reading
import Mailroom.Proofs.Lists
import Mailroom.Proofs.Text.Ascii

/-!
# The beginning of a message

A message that is cut behind the blank line of its header has the header of the whole message, and it
can be read wherever the whole one can.

* `Cut`                two lists of lines, the first of which ends at a blank line of the second;
* `Begins`             how the lines of a part of the beginning come from those of a part of the whole;
* `readable_succ_iff`  what has to be read of a message, level by level;
* `Readable.of_begins` the beginning can be read if the whole can;
* `read_block`         a header block is read with the header of the whole message.

The lines of the beginning are cut at one place on each level: every part in front of that place is
whole, the part that holds it is cut there, and the parts behind it are missing.
-/

namespace Mailroom

/-! ## blank lines -/

namespace Lines

theorem isBlank_iff {l : Octets} : isBlank l = true ↔ ∃ c r, l = c :: r ∧ (c = 13 ∨ c = 10) := by
  cases l with
  | nil => simp [isBlank]
  | cons c r => simp [isBlank]

theorem ofOctets_eq_nil {x : Octets} (h : ofOctets x = []) : x = [] := by
  unfold ofOctets at h
  split at h
  · rfl
  · cases h
  · split at h
    · cases h
    · split at h <;> cases h

theorem ofOctets_of_break (y : Octets) {c : UInt8} (hc : c = 13 ∨ c = 10) :
    ∃ l rest, ofOctets (c :: y) = l :: rest ∧ isBlank l = true := by
  by_cases hpair : ∃ r, c = 13 ∧ y = 10 :: r
  · obtain ⟨r, rfl, rfl⟩ := hpair
    exact ⟨_, _, rfl, rfl⟩
  · have hlone : ∀ r, c = 13 → y = 10 :: r → False := fun r hc hy => hpair ⟨r, hc, hy⟩
    refine ⟨[c], ofOctets y, ?_, isBlank_iff.2 ⟨c, [], rfl, hc⟩⟩
    rw [ofOctets.eq_3 c y hlone, if_pos hc]

theorem not_isBlank_cons {c : UInt8} (hc : ¬(c = 13 ∨ c = 10)) (r : Octets) : isBlank (c :: r) = false := by
  simpa [isBlank] using hc

/-- a line feed may only join the line in front of it when nothing stands between them -/
theorem not_joined_append {c : UInt8} {r : Octets} (y : Octets) (hr : r ≠ [])
    (hlone : ∀ r', c = 13 → r = 10 :: r' → False) : ∀ r', c = 13 → r ++ y = 10 :: r' → False := by
  intro r' hc hry
  cases r with
  | nil => exact hr rfl
  | cons d r =>
    obtain ⟨rfl, -⟩ := List.cons.inj hry
    exact hlone r hc rfl

/-- octets behind a blank line leave the lines in front of it as they are -/
theorem ofOctets_append {x : Octets} {front : List Octets} {b : Octets} (y : Octets)
    (h : ofOctets x = front ++ [b]) (hb : isBlank b = true) :
    ∃ b' rest, ofOctets (x ++ y) = front ++ b' :: rest ∧ isBlank b' = true := by
  induction x using ofOctets.induct generalizing front with
  | case1 => exact absurd h.symm (by simp [ofOctets])
  | case2 r ih =>
    rw [ofOctets] at h
    rcases front with _ | ⟨f, front⟩
    · exact ⟨_, _, rfl, rfl⟩
    · obtain ⟨rfl, htail⟩ := List.cons.inj h
      obtain ⟨b', rest, hrest, hb'⟩ := ih htail
      exact ⟨b', rest, congrArg ([13, 10] :: ·) hrest, hb'⟩
  | case3 c r hlone hc ih =>
    rw [ofOctets.eq_3 c r hlone, if_pos hc] at h
    rcases front with _ | ⟨f, front⟩
    · rw [ofOctets_eq_nil (List.cons.inj h).2]
      exact ofOctets_of_break y hc
    · obtain ⟨rfl, htail⟩ := List.cons.inj h
      obtain ⟨b', rest, hrest, hb'⟩ := ih htail
      have hr : r ≠ [] := by
        rintro rfl
        exact absurd htail.symm (by simp [ofOctets])
      refine ⟨b', rest, ?_, hb'⟩
      rw [List.cons_append, ofOctets.eq_3 c _ (not_joined_append y hr hlone), if_pos hc, hrest]
      rfl
  | case4 c r hlone hc hr ih =>
    rw [ofOctets.eq_3 c r hlone, if_neg hc, hr] at h
    rcases front with _ | ⟨f, front⟩
    · obtain ⟨rfl, -⟩ := List.cons.inj h
      rw [not_isBlank_cons hc] at hb
      cases hb
    · exact absurd h (by simp)
  | case5 c r hlone hc l ls hr ih =>
    rw [ofOctets.eq_3 c r hlone, if_neg hc, hr] at h
    rcases front with _ | ⟨f, front⟩
    · obtain ⟨rfl, -⟩ := List.cons.inj h
      rw [not_isBlank_cons hc] at hb
      cases hb
    · obtain ⟨rfl, rfl⟩ := List.cons.inj h
      have hlines : ofOctets r = (l :: front) ++ [b] := hr
      obtain ⟨b', rest, hrest, hb'⟩ := ih hlines
      have hne : r ≠ [] := by
        rintro rfl
        cases hr
      refine ⟨b', rest, ?_, hb'⟩
      rw [List.cons_append, ofOctets.eq_3 c _ (not_joined_append y hne hlone), if_neg hc, hrest]
      rfl

end Lines

namespace Message

theorem not_isHeaderLine_of_isBlank {l : Octets} (h : Lines.isBlank l = true) :
    isHeaderLine l = false := by
  obtain ⟨c, r, rfl, rfl | rfl⟩ := Lines.isBlank_iff.1 h <;> rfl

theorem isBlank_of_isEnvelope {l : Octets} (h : isHeaderLine.isEnvelope l = true) :
    Lines.isBlank l = false := by
  cases hb : Lines.isBlank l with
  | false => rfl
  | true =>
    obtain ⟨c, r, rfl, rfl | rfl⟩ := Lines.isBlank_iff.1 hb <;> cases h

/-- a boundary line begins with two hyphens -/
theorem boundaryLine?_of_head {boundary : Text} {c : UInt8} {r : Octets} (hc : c ≠ 45) :
    boundaryLine? boundary (c :: r) = none := by
  have hchar : (if c < 128 then Char.ofNat c.toNat else Text.rawOctet c) ≠ '-' := by
    have hself : ∀ c : UInt8, c ≠ 45 → (if c < 128 then Char.ofNat c.toNat else Text.rawOctet c) ≠ '-' :=
      Text.forall_octet (by decide +kernel)
    exact hself c hc
  have hpre : Text.after? ("--" ++ boundary) (Text.ofMail (c :: r)) = none := by
    refine if_neg fun hprefix => hchar ?_
    obtain ⟨t, ht⟩ := List.isPrefixOf_iff_prefix.1 hprefix
    exact (List.cons.inj ht).1.symm
  unfold boundaryLine?
  rw [hpre]

theorem boundaryLine?_of_isBlank {boundary : Text} {l : Octets} (h : Lines.isBlank l = true) :
    boundaryLine? boundary l = none := by
  obtain ⟨c, r, rfl, hc⟩ := Lines.isBlank_iff.1 h
  refine boundaryLine?_of_head ?_
  rcases hc with rfl | rfl <;> decide

theorem boundaryLine?_of_isEnvelope {boundary : Text} {l : Octets}
    (h : isHeaderLine.isEnvelope l = true) : boundaryLine? boundary l = none := by
  cases l with
  | nil => cases h
  | cons c r =>
    obtain ⟨r', hr'⟩ := List.isPrefixOf_iff_prefix.1 h
    obtain rfl : 70 = c := (List.cons.inj hr').1
    exact boundaryLine?_of_head (by decide)

/-! ## lines of a beginning -/

/-- lines that end at a blank line of others; the rest of that line does not matter -/
inductive Cut : List Octets → List Octets → Prop
  | at (front : List Octets) {b b' : Octets} (rest : List Octets) (hb : Lines.isBlank b = true)
      (hb' : Lines.isBlank b' = true) : Cut (front ++ [b]) (front ++ b' :: rest)

/-- lines in which there is nothing to read: none, or one envelope line -/
inductive Bare : List Octets → Prop
  | none : Bare []
  | envelope {l : Octets} (h : isHeaderLine.isEnvelope l = true) : Bare [l]

/-- the lines of a part, once read from the beginning of a message and once from the whole -/
inductive Begins : List Octets → List Octets → Prop
  | whole (ls : List Octets) : Begins ls ls
  | cut {ls ls' : List Octets} (h : Cut ls ls') : Begins ls ls'
  | bare {ls : List Octets} (h : Bare ls) (ls' : List Octets) : Begins ls ls'

variable {ls ls' : List Octets}

theorem Cut.cons (l : Octets) (h : Cut ls ls') : Cut (l :: ls) (l :: ls') := by
  obtain ⟨front, rest, hb, hb'⟩ := h
  exact Cut.at (l :: front) rest hb hb'

theorem Cut.length_le (h : Cut ls ls') : ls.length ≤ ls'.length := by
  obtain ⟨front, rest, hb, hb'⟩ := h
  simp

/-! ## headers -/

/-- the lines of the body, where the header does not end in an envelope line -/
def bodyLines (ls : List Octets) : List Octets :=
  let rest := ls.dropWhile isHeaderLine
  if rest.head?.any Lines.isBlank then rest.tail else rest

theorem takeWhile_header (h : Cut ls ls') :
    ls.takeWhile isHeaderLine = ls'.takeWhile isHeaderLine := by
  obtain ⟨front, rest, hb, hb'⟩ := h
  have hb := not_isHeaderLine_of_isBlank hb
  have hb' := not_isHeaderLine_of_isBlank hb'
  rcases all_or_stop isHeaderLine front with hall | ⟨a, c, r, rfl, ha, hc⟩
  · rw [takeWhile_stop hall hb, takeWhile_stop hall hb']
  · rw [List.append_assoc, List.append_assoc]
    exact (takeWhile_stop ha hc).trans (takeWhile_stop ha hc).symm

theorem bodyLines_cut (h : Cut ls ls') : bodyLines ls = [] ∨ Cut (bodyLines ls) (bodyLines ls') := by
  obtain ⟨front, rest, hb, hb'⟩ := h
  unfold bodyLines
  rw [dropWhile_append_stop front (not_isHeaderLine_of_isBlank hb),
    dropWhile_append_stop front (not_isHeaderLine_of_isBlank hb')]
  rcases front.dropWhile isHeaderLine with _ | ⟨c, r⟩
  · exact .inl (by simp [hb])
  · refine .inr ?_
    cases hc : Lines.isBlank c with
    | true => simpa [hc] using Cut.at r rest hb hb'
    | false => simpa [hc] using Cut.at (c :: r) rest hb hb'

/-- the header of a beginning is that of the whole, and its body begins the body of the whole -/
theorem splitHeader_begins (h : Cut ls ls') :
    (splitHeader ls).1 = (splitHeader ls').1 ∧ Begins (splitHeader ls).2 (splitHeader ls').2 := by
  have hbody : Begins (bodyLines ls) (bodyLines ls') := by
    rcases bodyLines_cut h with hnil | hcut
    · rw [hnil]
      exact .bare .none _
    · exact .cut hcut
  have hsplit : ∀ ls, splitHeader ls = divide (ls.takeWhile isHeaderLine) (bodyLines ls) := fun _ => rfl
  rw [hsplit ls, hsplit ls', takeWhile_header h]
  unfold divide
  cases (ls'.takeWhile isHeaderLine).getLast? with
  | none => exact ⟨rfl, hbody⟩
  | some l =>
    dsimp only
    split
    case isFalse => exact ⟨rfl, hbody⟩
    case isTrue henvelope =>
      refine ⟨rfl, ?_⟩
      rcases bodyLines_cut h with hnil | hcut
      · rw [hnil]
        exact .bare (.envelope henvelope.1) _
      · exact .cut (hcut.cons l)

theorem splitHeader_of_bare (h : Bare ls) : splitHeader ls = ([], []) := by
  cases h with
  | none => rfl
  | @envelope l h =>
    have hheader : isHeaderLine l = true := by
      unfold isHeaderLine
      rw [h]
      simp
    unfold splitHeader divide
    simp [hheader, h, fieldsOf]

/-! ## blocks of fields -/

theorem mem_blocks {n : Nat} {a r : List Octets} {c : Octets}
    (ha : ∀ l ∈ a, (!Lines.isBlank l) = true) (hc : (!Lines.isBlank c) = false) :
    a ∈ blocks (n + 1) (a ++ c :: r) := by
  rw [blocks, takeWhile_stop ha hc, dropWhile_stop ha hc]
  cases r <;> exact List.mem_cons_self

theorem blocks_stop {n : Nat} {a r : List Octets} {c : Octets}
    (ha : ∀ l ∈ a, (!Lines.isBlank l) = true) (hc : (!Lines.isBlank c) = false) (hr : r ≠ []) :
    blocks (n + 1) (a ++ c :: r) = a :: blocks n r := by
  rw [blocks, takeWhile_stop ha hc, dropWhile_stop ha hc]
  cases r with
  | nil => exact absurd rfl hr
  | cons d r => rfl

/-- the blocks in front of a cut are blocks of the whole -/
theorem blocks_cut {n n' : Nat} (h : Cut ls ls') (hn : n ≤ n') :
    ∀ p ∈ blocks n ls, p ∈ blocks n' ls' := by
  induction n generalizing n' ls ls' with
  | zero => exact fun p hp => absurd hp List.not_mem_nil
  | succ n ih =>
    intro p hp
    obtain ⟨n', rfl⟩ : ∃ k, n' = k + 1 := ⟨n' - 1, by omega⟩
    obtain ⟨front, rest, hb, hb'⟩ := h
    rcases all_or_stop (fun l => !Lines.isBlank l) front with hall | ⟨a, c, r, rfl, ha, hc⟩
    · have hp : p = front := by
        rw [blocks, takeWhile_stop hall (by rw [hb]; rfl), dropWhile_stop hall (by rw [hb]; rfl)] at hp
        exact List.mem_singleton.1 hp
      rw [hp]
      exact mem_blocks hall (by rw [hb']; rfl)
    · rw [List.append_assoc, List.cons_append, blocks_stop ha hc (by simp)] at hp
      rw [List.append_assoc, List.cons_append, blocks_stop ha hc (by simp)]
      rcases List.mem_cons.1 hp with rfl | hp
      · exact List.mem_cons_self
      · exact List.mem_cons_of_mem _ (ih (Cut.at r rest hb hb') (by omega) p hp)

theorem blocks_begins (h : Begins ls ls') :
    ∀ p ∈ blocks (ls.length + 1) ls, ∃ p' ∈ blocks (ls'.length + 1) ls', Begins p p' := by
  intro p hp
  cases h with
  | whole => exact ⟨p, hp, .whole p⟩
  | cut h => exact ⟨p, blocks_cut h (by have := h.length_le; omega) p hp, .whole p⟩
  | bare h =>
    have hbare : Bare p := by
      cases h with
      | none =>
        rw [List.mem_singleton.1 hp]
        exact .none
      | envelope h =>
        have hblank := isBlank_of_isEnvelope h
        simp [blocks, hblank] at hp
        rw [hp]
        exact .envelope h
    rcases hfirst : blocks (ls'.length + 1) ls' with _ | ⟨p', ps⟩
    · unfold blocks at hfirst
      split at hfirst <;> cases hfirst
    · exact ⟨p', List.mem_cons_self, .bare hbare p'⟩

/-! ## parts -/

/-- whether a line stands between parts -/
def isBoundary (boundary : Text) (l : Octets) : Bool := (boundaryLine? boundary l).isSome

theorem partsFrom_succ (boundary : Text) (n : Nat) (ls : List Octets) :
    partsFrom boundary (n + 1) ls =
      match (ls.dropWhile (isBoundary boundary)).dropWhile fun l => !isBoundary boundary l with
      | [] => [(ls.dropWhile (isBoundary boundary)).takeWhile fun l => !isBoundary boundary l]
      | l :: rest =>
        if boundaryLine? boundary l = some .closing then
          [(ls.dropWhile (isBoundary boundary)).takeWhile fun l => !isBoundary boundary l]
        else
          ((ls.dropWhile (isBoundary boundary)).takeWhile fun l => !isBoundary boundary l)
            :: partsFrom boundary n rest := rfl

/-- the parts in front of a cut are parts of the whole, and the part that is cut begins one of them -/
theorem partsFrom_cut {boundary : Text} {n n' : Nat} (h : Cut ls ls') (hn : n ≤ n') :
    ∀ p ∈ partsFrom boundary n ls, ∃ p' ∈ partsFrom boundary n' ls', Begins p p' := by
  induction n generalizing n' ls ls' with
  | zero => exact fun p hp => absurd hp List.not_mem_nil
  | succ n ih =>
    intro p hp
    obtain ⟨n', rfl⟩ : ∃ k, n' = k + 1 := ⟨n' - 1, by omega⟩
    obtain @⟨front, b, b', rest, hb, hb'⟩ := h
    have hinner : isBoundary boundary b = false := by
      rw [isBoundary, boundaryLine?_of_isBlank hb]
      rfl
    have hinner' : isBoundary boundary b' = false := by
      rw [isBoundary, boundaryLine?_of_isBlank hb']
      rfl
    rw [partsFrom_succ, dropWhile_append_stop front hinner] at hp
    rw [partsFrom_succ, dropWhile_append_stop front hinner']
    rcases all_or_stop (fun l => !isBoundary boundary l) (front.dropWhile (isBoundary boundary)) with
      hall | ⟨a, c, r, heq, ha, hc⟩
    · -- the cut part is the last one; in the whole it goes on behind the blank line
      rw [List.takeWhile_append_of_pos hall, List.dropWhile_append_of_pos hall] at hp
      rw [List.takeWhile_append_of_pos hall, List.dropWhile_append_of_pos hall]
      have hlast : p = front.dropWhile (isBoundary boundary) ++ [b] := by simpa [hinner] using hp
      have hbegins := Begins.cut (Cut.at (front.dropWhile (isBoundary boundary))
        (rest.takeWhile fun l => !isBoundary boundary l) hb hb')
      rw [← hlast] at hbegins
      refine ⟨_, ?_, hbegins⟩
      simp only [List.takeWhile_cons, List.dropWhile_cons, hinner', Bool.not_false, if_true]
      split
      · exact List.mem_cons_self
      · split <;> exact List.mem_cons_self
    · rw [heq, List.append_assoc, List.cons_append, takeWhile_stop ha hc, dropWhile_stop ha hc] at hp
      rw [heq, List.append_assoc, List.cons_append, takeWhile_stop ha hc, dropWhile_stop ha hc]
      dsimp only at hp ⊢
      split at hp
      case isTrue hclosing =>
        rw [if_pos hclosing]
        exact ⟨p, hp, .whole p⟩
      case isFalse hopen =>
        rw [if_neg hopen]
        rcases List.mem_cons.1 hp with rfl | hp
        · exact ⟨_, List.mem_cons_self, .whole _⟩
        · have hn : n ≤ n' := Nat.le_of_succ_le_succ hn
          obtain ⟨p', hp', hbegins⟩ := ih (Cut.at r rest hb hb') hn p hp
          exact ⟨p', List.mem_cons_of_mem _ hp', hbegins⟩

/-- the parts of a beginning begin parts of the whole -/
theorem partLines?_begins {boundary : Text} (h : Begins ls ls') {ps : List (List Octets)}
    (hps : partLines? boundary ls = some ps) :
    ∃ ps', partLines? boundary ls' = some ps' ∧ ∀ p ∈ ps, ∃ p' ∈ ps', Begins p p' := by
  cases h with
  | whole => exact ⟨ps, hps, fun p hp => ⟨p, hp, .whole p⟩⟩
  | bare h =>
    exfalso
    cases h with
    | none => cases hps
    | envelope h =>
      unfold partLines? at hps
      simp [boundaryLine?_of_isEnvelope h] at hps
  | cut h =>
    have hlength := h.length_le
    obtain @⟨front, b, b', rest, hb, hb'⟩ := h
    have hinner : (boundaryLine? boundary b).isNone = true := by rw [boundaryLine?_of_isBlank hb]; rfl
    unfold partLines? at hps ⊢
    rcases all_or_stop (fun l => (boundaryLine? boundary l).isNone) front with
      hall | ⟨a, c, r, rfl, ha, hc⟩
    · rw [List.dropWhile_append_of_pos hall] at hps
      simp [hinner] at hps
    · simp only [List.append_assoc, List.cons_append] at hps hlength ⊢
      rw [dropWhile_stop ha hc] at hps ⊢
      dsimp only at hps ⊢
      split at hps
      case isFalse => cases hps
      case isTrue hopening =>
        cases hps
        rw [if_pos hopening]
        exact ⟨_, rfl, partsFrom_cut (Cut.at r rest hb hb') hlength⟩

/-! ## what has to be read -/

/-- the lines can be read as a message, at most `n` levels deep -/
def Readable (n : Nat) (inDigest : Bool) (ls : List Octets) : Prop :=
  ∃ m, ofLines n inDigest ls = .ok m

variable {n : Nat} {inDigest : Bool} {m : Message}

/-- the header of some lines -/
def headerOf (inDigest : Bool) (ls : List Octets) : MessageHeader := ⟨(splitHeader ls).1, inDigest⟩

/-- what a message that was read is made of -/
theorem ofLines_succ_cases (h : ofLines (n + 1) inDigest ls = .ok m) :
    ∃ type, (headerOf inDigest ls).contentType = .ok type ∧
      ((∃ b, m = leaf (headerOf inDigest ls) b) ∨
        ∃ ps, m = container (headerOf inDigest ls) ps ∧
          ((MessageHeader.mainType type = "multipart".toList ∧
              ∀ p ∈ ps, ∃ d ls' p', ofLines n d ls' = .ok p' ∧ chop p' = .ok p) ∨
            ∀ p ∈ ps, ∃ ls', ofLines n false ls' = .ok p)) := by
  rw [ofLines] at h
  obtain ⟨type, htype, h⟩ := bind_eq_ok.1 h
  refine ⟨type, htype, ?_⟩
  split at h
  case isTrue =>
    obtain ⟨ps, hps, h⟩ := bind_eq_ok.1 h
    cases h
    refine .inr ⟨ps, rfl, .inr fun p hp => ?_⟩
    obtain ⟨ls', -, hp⟩ := exists_left_of_mem (mapM_eq_ok.1 hps) hp
    exact ⟨ls', hp⟩
  case isFalse =>
    split at h
    case isTrue =>
      obtain ⟨p, hp, h⟩ := bind_eq_ok.1 h
      cases h
      exact .inr ⟨[p], rfl, .inr fun p' hp' => ⟨_, List.mem_singleton.1 hp' ▸ hp⟩⟩
    case isFalse =>
      split at h
      case isTrue hmultipart =>
        obtain ⟨b, -, h⟩ := bind_eq_ok.1 h
        rcases b with _ | b
        · cases h
          exact .inl ⟨_, rfl⟩
        · dsimp only at h
          split at h
          · cases h
            exact .inl ⟨_, rfl⟩
          · obtain ⟨ps, hps, h⟩ := bind_eq_ok.1 h
            cases h
            refine .inr ⟨ps, rfl, .inl ⟨hmultipart, fun p hp => ?_⟩⟩
            obtain ⟨ls', -, hp⟩ := exists_left_of_mem (mapM_eq_ok.1 hps) hp
            obtain ⟨p', hp', hchop⟩ := bind_eq_ok.1 hp
            exact ⟨_, ls', p', hp', hchop⟩
      case isFalse =>
        cases h
        exact .inl ⟨_, rfl⟩

theorem header_ofLines (h : ofLines (n + 1) inDigest ls = .ok m) :
    m.header = headerOf inDigest ls := by
  obtain ⟨type, -, ⟨b, rfl⟩ | ⟨ps, rfl, -⟩⟩ := ofLines_succ_cases h <;> rfl

theorem exists_chop_leaf {h : MessageHeader} {b : Octets} {type : Text}
    (htype : h.contentType = .ok type) : ∃ m', chop (leaf h b) = .ok m' := by
  rw [chop]
  refine exists_bind_eq_ok htype ?_
  split <;> exact ⟨_, rfl⟩

theorem exists_chopLast {ps : List Message} (h : ∀ p ∈ ps, ∃ p', chop p = .ok p') :
    ∃ ps', chopLast ps = .ok ps' := by
  induction ps with
  | nil => exact ⟨[], rfl⟩
  | cons p ps ih =>
    obtain ⟨p', hp'⟩ := h p List.mem_cons_self
    obtain ⟨ps', hps'⟩ := ih fun q hq => h q (List.mem_cons_of_mem _ hq)
    cases ps with
    | nil =>
      rw [chopLast, hp']
      exact ⟨[p'], rfl⟩
    | cons q qs =>
      rw [chopLast, hps']
      · exact ⟨p :: ps', rfl⟩
      · exact nofun

/-- the line break at the end of a message that was read can be taken away -/
theorem exists_chop (h : ofLines n inDigest ls = .ok m) : ∃ m', chop m = .ok m' := by
  induction n generalizing inDigest ls m with
  | zero =>
    cases h
    cases inDigest <;> exact exists_chop_leaf rfl
  | succ n ih =>
    obtain ⟨type, htype, ⟨b, rfl⟩ | ⟨ps, rfl, hps⟩⟩ := ofLines_succ_cases h
    · exact exists_chop_leaf htype
    · rw [chop]
      refine exists_bind_eq_ok htype ?_
      split
      case isTrue => exact ⟨_, rfl⟩
      case isFalse hsingle =>
        obtain ⟨hmultipart, -⟩ | hps := hps
        · exact absurd hmultipart hsingle
        · obtain ⟨ps', hps'⟩ := exists_chopLast fun p hp => (hps p hp).elim fun _ hp => ih hp
          exact exists_bind_eq_ok hps' ⟨_, rfl⟩

/-- what has to be read of a body, for the media type of its header -/
structure BodyReadable (n : Nat) (h : MessageHeader) (type : Text) (body : List Octets) : Prop where
  fields : type = "message/delivery-status".toList →
    ∀ p ∈ blocks (body.length + 1) body, Readable n false p
  message : type ≠ "message/delivery-status".toList →
    MessageHeader.mainType type = "message".toList → Readable n false body
  parts : MessageHeader.mainType type = "multipart".toList →
    ∃ b?, h.boundary? = .ok b? ∧ ∀ b ps, b? = some b → partLines? b body = some ps →
      ∀ p ∈ ps, Readable n (type = "multipart/digest".toList) p

theorem readable_chop_iff {p : List Octets} :
    (∃ m, ofLines n inDigest p >>= chop = .ok m) ↔ Readable n inDigest p := by
  rw [exists_bind_eq_ok_iff]
  exact ⟨fun ⟨m, h, _⟩ => ⟨m, h⟩, fun ⟨m, h⟩ => ⟨m, h, exists_chop h⟩⟩

section
variable {h : MessageHeader} {type : Text} {body : List Octets}

theorem bodyReadable_of_fields (htype : type = "message/delivery-status".toList) :
    BodyReadable n h type body ↔ ∀ p ∈ blocks (body.length + 1) body, Readable n false p := by
  have hsingle : MessageHeader.mainType type ≠ "multipart".toList := by
    rw [htype]
    decide
  exact ⟨fun h => h.fields htype,
    fun h => ⟨fun _ => h, fun hother => absurd htype hother, fun hparts => absurd hparts hsingle⟩⟩

theorem bodyReadable_of_message (hfields : type ≠ "message/delivery-status".toList)
    (htype : MessageHeader.mainType type = "message".toList) : BodyReadable n h type body ↔ Readable n false body := by
  have hsingle : MessageHeader.mainType type ≠ "multipart".toList := by
    rw [htype]
    decide
  exact ⟨fun h => h.message hfields htype,
    fun h => ⟨fun htype => absurd htype hfields, fun _ _ => h, fun hparts => absurd hparts hsingle⟩⟩

theorem bodyReadable_of_parts (hfields : type ≠ "message/delivery-status".toList)
    (hmessage : MessageHeader.mainType type ≠ "message".toList)
    (htype : MessageHeader.mainType type = "multipart".toList) :
    BodyReadable n h type body ↔ ∃ b?, h.boundary? = .ok b? ∧ ∀ b ps, b? = some b → partLines? b body = some ps →
      ∀ p ∈ ps, Readable n (type = "multipart/digest".toList) p :=
  ⟨fun h => h.parts htype,
    fun h => ⟨fun htype => absurd htype hfields, fun _ htype => absurd htype hmessage, fun _ => h⟩⟩

theorem bodyReadable_of_other (hfields : type ≠ "message/delivery-status".toList)
    (hmessage : MessageHeader.mainType type ≠ "message".toList)
    (hparts : MessageHeader.mainType type ≠ "multipart".toList) : BodyReadable n h type body :=
  ⟨fun htype => absurd htype hfields, fun _ htype => absurd htype hmessage, fun htype => absurd htype hparts⟩

end

/-- a message can be read exactly if its media type and its boundary can, and everything below it -/
theorem readable_succ_iff :
    Readable (n + 1) inDigest ls ↔ ∃ type, (headerOf inDigest ls).contentType = .ok type ∧
      BodyReadable n (headerOf inDigest ls) type (splitHeader ls).2 := by
  unfold Readable headerOf
  rw [ofLines]
  obtain ⟨fields, body⟩ := splitHeader ls
  dsimp only
  generalize (⟨fields, inDigest⟩ : MessageHeader) = h
  refine exists_bind_eq_ok_iff.trans (exists_congr fun type => and_congr_right fun htype => ?_)
  by_cases hfields : type = "message/delivery-status".toList
  · rw [if_pos hfields, bodyReadable_of_fields hfields]
    exact exists_bind_pure_eq_ok.trans exists_mapM_eq_ok
  rw [if_neg hfields]
  by_cases hmessage : MessageHeader.mainType type = "message".toList
  · rw [if_pos hmessage, bodyReadable_of_message hfields hmessage]
    exact exists_bind_pure_eq_ok
  rw [if_neg hmessage]
  by_cases hmultipart : MessageHeader.mainType type = "multipart".toList
  · rw [if_pos hmultipart, exists_bind_eq_ok_iff, bodyReadable_of_parts hfields hmessage hmultipart]
    refine exists_congr fun b? => and_congr_right fun _ => ?_
    rcases b? with _ | b
    · exact ⟨fun _ => nofun, fun _ => ⟨_, rfl⟩⟩
    dsimp only
    cases hparts : partLines? b body with
    | none =>
      refine ⟨fun _ b' ps hb' hps => ?_, fun _ => ⟨_, rfl⟩⟩
      cases hb'
      cases hparts.symm.trans hps
    | some parts =>
      refine exists_bind_pure_eq_ok.trans (exists_mapM_eq_ok.trans ?_)
      constructor
      · intro h b' ps' hb' hps'
        cases hb'
        cases hparts.symm.trans hps'
        exact fun p hp => readable_chop_iff.1 (h p hp)
      · exact fun h p hp => readable_chop_iff.2 (h b parts rfl hparts p hp)
  · rw [if_neg hmultipart]
    exact ⟨fun _ => bodyReadable_of_other hfields hmessage hmultipart, fun _ => ⟨_, rfl⟩⟩

/-! ## the beginning can be read -/

theorem readable_of_bare (h : Bare ls) : Readable n inDigest ls := by
  induction n generalizing inDigest ls with
  | zero => exact ⟨_, rfl⟩
  | succ n ih =>
    have hheader : headerOf inDigest ls = ⟨[], inDigest⟩ := by
      rw [headerOf, splitHeader_of_bare h]
    rw [readable_succ_iff, hheader, splitHeader_of_bare h]
    -- without fields the media type is that of a message in a digest, else that of a text
    cases inDigest with
    | false => exact ⟨_, rfl, ⟨fun h => absurd h (by decide), fun _ h => absurd h (by decide),
        fun h => absurd h (by decide)⟩⟩
    | true => exact ⟨_, rfl, ⟨fun h => absurd h (by decide), fun _ _ => ih .none,
        fun h => absurd h (by decide)⟩⟩

theorem BodyReadable.of_begins {n' : Nat} {h : MessageHeader} {type : Text}
    (hread : BodyReadable n' h type ls') (hbegins : Begins ls ls')
    (hpart : ∀ {inDigest p p'}, Begins p p' → Readable n' inDigest p' → Readable n inDigest p) :
    BodyReadable n h type ls := by
  constructor
  case fields =>
    intro htype p hp
    obtain ⟨p', hp', hb⟩ := blocks_begins hbegins p hp
    exact hpart hb (hread.fields htype p' hp')
  case message =>
    intro htype hmain
    exact hpart hbegins (hread.message htype hmain)
  case parts =>
    intro hmain
    obtain ⟨b?, hb?, hparts⟩ := hread.parts hmain
    refine ⟨b?, hb?, fun b ps hb hps p hp => ?_⟩
    obtain ⟨ps', hps', hall⟩ := partLines?_begins hbegins hps
    obtain ⟨p', hp', hbegins'⟩ := hall p hp
    exact hpart hbegins' (hparts b ps' hb hps' p' hp')

/-- what can be read can be read from its beginning, and at most as deep -/
theorem Readable.of_begins {n' : Nat} (h : Readable n' inDigest ls') (hbegins : Begins ls ls')
    (hn : n ≤ n') : Readable n inDigest ls := by
  induction n generalizing n' inDigest ls ls' with
  | zero => exact ⟨_, rfl⟩
  | succ n ih =>
    obtain ⟨n', rfl⟩ : ∃ k, n' = k + 1 := ⟨n' - 1, by omega⟩
    have hlevel : ∀ {ls ls' : List Octets}, (splitHeader ls).1 = (splitHeader ls').1 →
        Begins (splitHeader ls).2 (splitHeader ls').2 → Readable (n' + 1) inDigest ls' →
        Readable (n + 1) inDigest ls := by
      intro ls ls' hheader hbody h
      obtain ⟨type, htype, hread⟩ := readable_succ_iff.1 h
      rw [readable_succ_iff, headerOf, hheader]
      exact ⟨type, htype, hread.of_begins hbody fun hb hr => ih hr hb (by omega)⟩
    cases hbegins with
    | whole => exact hlevel rfl (.whole _) h
    | cut hcut =>
      obtain ⟨hheader, hbody⟩ := splitHeader_begins hcut
      exact hlevel hheader hbody h
    | bare hbare => exact readable_of_bare hbare

/-- octets that end with a blank line -/
def IsHeaderBlock (block : Octets) : Prop :=
  ∃ front b, Lines.ofOctets block = front ++ [b] ∧ Lines.isBlank b = true

/-- a header block is read with the header of every message that begins with it -/
theorem read_block {block body : Octets} (hblock : IsHeaderBlock block)
    (h : read (block ++ body) = .ok m) : ∃ m', read block = .ok m' ∧ m'.header = m.header := by
  obtain ⟨front, b, hlines, hb⟩ := hblock
  obtain ⟨b', rest, hwhole, hb'⟩ := Lines.ofOctets_append body hlines hb
  have hcut : Cut (Lines.ofOctets block) (Lines.ofOctets (block ++ body)) := by
    rw [hlines, hwhole]
    exact Cut.at front rest hb hb'
  have hfuel : (Lines.ofOctets block).length + 1 ≤ (Lines.ofOctets (block ++ body)).length + 1 :=
    Nat.succ_le_succ hcut.length_le
  obtain ⟨m', hm'⟩ := Readable.of_begins ⟨m, h⟩ (.cut hcut) hfuel
  refine ⟨m', hm', ?_⟩
  rw [header_ofLines hm', header_ofLines h, headerOf, headerOf, (splitHeader_begins hcut).1]

end Message
end Mailroom
