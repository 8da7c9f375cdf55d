import Mailroom.Proofs.Lists
import Mailroom.Proofs.View.Printing

/-!
# The lines of a body, part by part

The body of a message made of parts is shown as one group of lines for each part that is not made of
parts itself.

* `placed`            these parts in the order of the message, with what their lines depend on: whether they
  stand inside of another part, and whether plain text stands before them among their own neighbours;
* `Placed.lines`      the group of lines of one of them, or why it cannot be made;
* `linesWith`         lines made while the parts are saved in some way;
* `bodyLines_container`   the body is shown group by group, in whatever way its parts are saved;
* `bodyLines_undisposed`  an attachment whose disposition cannot be read hides all other parts.
-/

namespace Mailroom.View

open Program

/-! ## where parts stand -/

/-- a part that is not made of parts, and what its lines depend on -/
structure Placed where
  part : Message
  /-- whether it stands inside of another part -/
  nested : Bool
  /-- whether plain text stands before it among its own neighbours -/
  afterText : Bool

mutual

/-- the parts that a part holds or is, behind its neighbours `before` -/
def placedIn (nested : Bool) (before : List Message) : Message → List Placed
  | .leaf h b => [⟨.leaf h b, nested, before.any isPlainText⟩]
  | .container _ ps => placedAmong true [] ps

/-- the parts that neighbours hold or are -/
def placedAmong (nested : Bool) (before : List Message) : List Message → List Placed
  | [] => []
  | m :: ms => placedIn nested before m ++ placedAmong nested (before ++ [m]) ms

end

/-- the parts below a message, in its order -/
def placed (ps : List Message) : List Placed := placedAmong false [] ps

/-- the group of lines of a part -/
def Placed.lines (p : Placed) : Except Fault (List Text) :=
  Entry.lines <$> leafEntry p.part ⟨0, if p.nested then 1 else 0⟩ p.afterText

mutual

theorem part_placedIn (m : Message) (nested : Bool) (before : List Message) :
    (placedIn nested before m).map Placed.part = leavesOf m.walk := by
  cases m with
  | leaf h b => rfl
  | container h ps => exact part_placedAmong ps true []

theorem part_placedAmong (ms : List Message) (nested : Bool) (before : List Message) :
    (placedAmong nested before ms).map Placed.part = leavesOf (Message.walkAll ms) := by
  cases ms with
  | nil => rfl
  | cons m ms =>
    rw [placedAmong, List.map_append, part_placedIn m, part_placedAmong ms, Message.walkAll, leavesOf, leavesOf,
      leavesOf, List.filter_append]

end

/-! ## groups of lines -/

/-- the lines of a part depend on its place by whether it stands inside of another part -/
theorem lines_leafEntry {m : Message} {spot spot' : Spot} {afterText : Bool}
    (h : spot.depth = 0 ↔ spot'.depth = 0) :
    Entry.lines <$> leafEntry m spot afterText = Entry.lines <$> leafEntry m spot' afterText := by
  have hpos : 0 < spot.depth ↔ 0 < spot'.depth := by omega
  unfold leafEntry
  simp only [h, hpos]
  cases m.contentType with
  | error e => rfl
  | ok type =>
    show Entry.lines <$> ite _ _ _ = Entry.lines <$> ite _ _ _
    split
    · rfl
    split
    · cases afterText with
      | true | false => cases markupLine m <;> cases describe m <;> rfl
    split
    · cases describe m <;> rfl
    split
    · rfl
    · cases m.header.field? "Content-Type" <;> rfl

theorem lines_eq (m : Message) (spot : Spot) (afterText : Bool) :
    Entry.lines <$> leafEntry m spot afterText = Placed.lines ⟨m, decide (0 < spot.depth), afterText⟩ := by
  refine lines_leafEntry ?_
  by_cases h : 0 < spot.depth
  · simp [h, Nat.ne_of_gt h]
  · simp [Nat.eq_zero_of_not_pos h]

mutual

theorem map_lines_partEntries (m : Message) (spot : Spot) (before : List Message) :
    (partEntries spot (before.any isPlainText) m).map (Entry.lines <$> ·)
      = (placedIn (decide (0 < spot.depth)) before m).map Placed.lines := by
  cases m with
  | leaf h b =>
    rw [partEntries, placedIn, List.map_singleton, List.map_singleton, lines_eq]
  | container h ps =>
    rw [partEntries, placedIn]
    exact map_lines_partsEntries ps ⟨0, spot.depth + 1⟩ []

theorem map_lines_partsEntries (ms : List Message) (spot : Spot) (before : List Message) :
    (partsEntries spot (before.any isPlainText) ms).map (Entry.lines <$> ·)
      = (placedAmong (decide (0 < spot.depth)) before ms).map Placed.lines := by
  cases ms with
  | nil => rfl
  | cons m ms =>
    have hany : (before.any isPlainText || isPlainText m) = (before ++ [m]).any isPlainText := by simp
    rw [partsEntries, placedAmong, List.map_append, List.map_append, map_lines_partEntries m, hany,
      map_lines_partsEntries ms]

end

theorem linesOf_eq_mapM (es : List (Except Fault Entry)) :
    linesOf es = do return (← (es.map (Entry.lines <$> ·)).mapM id).flatten := by
  induction es with
  | nil => rfl
  | cons e es ih =>
    rw [List.map_cons, List.mapM_cons]
    cases e with
    | error f => rfl
    | ok entry =>
      rw [linesOf_ok, ih]
      show _ = ((es.map (Entry.lines <$> ·)).mapM id >>= fun gs => pure (entry.lines :: gs)) >>= _
      cases (es.map (Entry.lines <$> ·)).mapM id <;> rfl

/-- a body made of parts is shown group by group, or is the first fault of a group -/
theorem linesOf_placed (h : MessageHeader) (ps : List Message) :
    bodyLines (.container h ps) = do return (← (placed ps).mapM Placed.lines).flatten := by
  have hentries : (bodyEntries (.container h ps)).map (Entry.lines <$> ·) = (placed ps).map Placed.lines :=
    map_lines_partsEntries ps ⟨0, 0⟩ []
  show linesOf (bodyEntries (.container h ps)) = _
  rw [linesOf_eq_mapM, hentries, List.mapM_map]
  rfl

theorem lines_plain {p : Placed} (h : p.part.contentType = .ok "text/plain".toList) :
    p.lines = .ok [plainLine p.part] := by
  unfold Placed.lines leafEntry
  rw [h]
  rfl

/-- markup behind plain text is not shown, but described all the same -/
theorem lines_markup {p : Placed} (h : p.part.contentType = .ok "text/html".toList) :
    p.lines = do
      let first ← if p.afterText then
          pure (warning ("Skipping displaying" ++ (if p.nested then " nested".toList else []) ++
            " \"text/html\" content type"))
        else markupLine p.part
      return [first, ← describe p.part] := by
  obtain ⟨part, nested, afterText⟩ := p
  unfold Placed.lines leafEntry
  rw [h]
  dsimp only
  cases afterText with
  | true => cases nested <;> cases describe part <;> rfl
  | false => cases markupLine part <;> cases describe part <;> rfl

theorem lines_ne_nil {p : Placed} {ls : List Text} (h : p.lines = .ok ls) : ls ≠ [] := by
  obtain ⟨entry, hentry, hlines⟩ := bind_eq_ok.1 h
  cases hlines
  obtain ⟨type, -, hentry⟩ := bind_eq_ok.1 hentry
  dsimp only at hentry
  split at hentry
  · cases hentry
    exact List.cons_ne_nil _ _
  split at hentry
  · cases hafter : p.afterText with
    | true | false =>
      rw [hafter] at hentry
      obtain ⟨first, -, hentry⟩ := bind_eq_ok.1 hentry
      obtain ⟨line, -, hentry⟩ := bind_eq_ok.1 hentry
      cases hentry
      exact List.cons_ne_nil _ _
  split at hentry
  · obtain ⟨line, -, hentry⟩ := bind_eq_ok.1 hentry
    cases hentry
    exact List.cons_ne_nil _ _
  split at hentry
  · cases hentry
    exact List.cons_ne_nil _ _
  · obtain ⟨value, -, hentry⟩ := bind_eq_ok.1 hentry
    cases hentry
    exact List.cons_ne_nil _ _

theorem lines_described {p : Placed} {type : Text} (htype : p.part.contentType = .ok type)
    (hmarkup : type ≠ "text/html".toList) (h : isSavable p.part = true) :
    p.lines = do return [← describe p.part] := by
  have hmain := ((isSavable_iff htype).1 h).resolve_left hmarkup
  have hplain : type ≠ "text/plain".toList := by
    rintro rfl
    exact absurd hmain (by decide)
  unfold Placed.lines leafEntry
  rw [htype]
  show Entry.lines <$> ite _ _ _ = _
  rw [if_neg hplain, if_neg hmarkup, if_pos hmain]
  cases describe p.part <;> rfl

theorem exists_lines_of_not_savable {p : Placed} {type : Text} (htype : p.part.contentType = .ok type)
    (h : ¬isSavable p.part = true) : ∃ ls, p.lines = .ok ls := by
  rw [isSavable_iff htype, not_or] at h
  obtain ⟨value, hvalue, -⟩ := bind_eq_ok.1 htype
  unfold Placed.lines leafEntry
  rw [htype]
  show ∃ ls, Entry.lines <$> ite _ _ _ = _
  rw [if_neg h.1, if_neg h.2, hvalue]
  split
  · exact ⟨_, rfl⟩
  split <;> exact ⟨_, rfl⟩

theorem exists_lines_markup {p : Placed} (h : p.part.contentType = .ok "text/html".toList) :
    (∃ ls, p.lines = .ok ls) ↔
      (p.afterText = false → ∃ line, markupLine p.part = .ok line) ∧ ∃ line, describe p.part = .ok line := by
  rw [lines_markup h]
  cases p.afterText with
  | true => exact exists_bind_pure_eq_ok.trans (by simp)
  | false =>
    refine exists_bind_eq_ok_iff.trans ?_
    simp only [exists_bind_pure_eq_ok, exists_and_right, forall_const]

theorem not_exists_lines {p : Placed} {e : Fault} (h : p.part.contentType = .error e) :
    ¬∃ ls, p.lines = .ok ls := by
  rintro ⟨ls, hls⟩
  unfold Placed.lines leafEntry at hls
  rw [h] at hls
  cases hls

/-- a group can be made if the media type can be read, a markup text that is shown, and what is told of a
part that can be saved -/
theorem exists_lines_iff {p : Placed} :
    (∃ ls, p.lines = .ok ls) ↔ ∃ type, p.part.contentType = .ok type ∧
      (type = "text/html".toList → p.afterText = false → ∃ line, markupLine p.part = .ok line) ∧
      (isSavable p.part = true → ∃ line, describe p.part = .ok line) := by
  cases htype : p.part.contentType with
  | error e => simp only [not_exists_lines htype, reduceCtorEq, false_and, exists_false]
  | ok type =>
    simp only [Except.ok.injEq, exists_eq_left']
    by_cases hmarkup : type = "text/html".toList
    · have hsavable := (isSavable_iff htype).2 (.inl hmarkup)
      rw [exists_lines_markup (hmarkup ▸ htype), forall_prop_of_true hmarkup, forall_prop_of_true hsavable]
    · rw [forall_prop_of_false hmarkup, true_and]
      by_cases hsavable : isSavable p.part = true
      · rw [lines_described htype hmarkup hsavable, forall_prop_of_true hsavable]
        exact exists_bind_pure_eq_ok
      · exact iff_of_true (exists_lines_of_not_savable htype hsavable) fun h => absurd h hsavable

/-! ## parts saved on the way -/

/-- the lines of entries, whose parts are saved on the way as `keep` does it -/
def linesWith (keep : Message → Spot → Program Unit) : List (Except Fault Entry) → Program (List Text)
  | [] => return []
  | e :: es => do
    let entry ← settle e
    entry.saved.toList.forM fun call => keep call.1 call.2
    return entry.lines ++ (← linesWith keep es)

/-- parts are saved in a directory, or not at all -/
theorem linesSaving_eq_linesWith (directory : Option Text) (es : List (Except Fault Entry)) :
    linesSaving directory es
      = linesWith (fun m spot => directory.toList.forM fun d => save d m spot) es := by
  induction es with
  | nil => rfl
  | cons e es ih =>
    cases e with
    | error f => rfl
    | ok entry =>
      rw [linesSaving, linesWith, ih, settle_ok, pure_bind, pure_bind]
      obtain ⟨lines, saved⟩ := entry
      cases directory with
      | none => cases saved <;> rfl
      | some d =>
        cases saved with
        | none => rfl
        | some call =>
          show (save d call.1 call.2 >>= _) = ((save d call.1 call.2 >>= fun _ => pure ()) >>= fun _ => pure ()) >>= _
          rw [bind_assoc, bind_assoc]
          rfl

/-- however parts are saved, the lines are the same if that goes well -/
theorem runIn_linesWith {keep : Message → Spot → Program Unit}
    (hkeep : ∀ m spot s, ∃ t, (keep m spot).runIn s = (.ok (), t)) (es : List (Except Fault Entry)) (s : Session) :
    ∃ t, (linesWith keep es).runIn s = (linesOf es, t) := by
  have hcalls : ∀ (calls : List (Message × Spot)) (s : Session),
      ∃ t, (calls.forM fun call => keep call.1 call.2).runIn s = (.ok (), t) := by
    intro calls
    induction calls with
    | nil => exact fun s => ⟨s, rfl⟩
    | cons call calls ih =>
      intro s
      obtain ⟨t, ht⟩ := hkeep call.1 call.2 s
      obtain ⟨u, hu⟩ := ih t
      refine ⟨u, ?_⟩
      show (keep call.1 call.2 >>= fun _ => calls.forM fun call => keep call.1 call.2).runIn s = _
      rw [runIn_bind, ht]
      exact hu
  induction es generalizing s with
  | nil => exact ⟨s, rfl⟩
  | cons e es ih =>
    cases e with
    | error f => exact ⟨s, rfl⟩
    | ok entry =>
      obtain ⟨t, ht⟩ := hcalls entry.saved.toList s
      obtain ⟨u, hu⟩ := ih t
      refine ⟨u, ?_⟩
      rw [linesWith, linesOf_ok, settle_ok, pure_bind, runIn_bind, ht]
      dsimp only
      rw [runIn_bind, hu]
      cases linesOf es <;> rfl

/-! ## bodies -/

/-- **A body part by part.**  The lines of a body made of parts are the groups of lines of all the parts
below that are not made of parts, in the order of the message, however these are saved; there are none
exactly if one of the groups cannot be made.  No group is empty, that of a plain text is one line, and a
markup text is shown unless plain text stands before it among its neighbours. -/
theorem bodyLines_container (h : MessageHeader) (ps : List Message) :
    (placed ps).map Placed.part = leavesOf (Message.walkAll ps) ∧
      bodyLines (.container h ps) = (do return (← (placed ps).mapM Placed.lines).flatten) ∧
      ((∃ ls, bodyLines (.container h ps) = .ok ls) ↔ ∀ p ∈ placed ps,
        ∃ type, p.part.contentType = .ok type ∧
          (type = "text/html".toList → p.afterText = false → ∃ line, markupLine p.part = .ok line) ∧
          (isSavable p.part = true → ∃ line, describe p.part = .ok line)) ∧
      (∀ p ∈ placed ps, p.lines ≠ .ok []) ∧
      (∀ p ∈ placed ps, p.part.contentType = .ok "text/plain".toList → p.lines = .ok [plainLine p.part]) ∧
      (∀ p ∈ placed ps, p.part.contentType = .ok "text/html".toList → p.lines = do
        let first ← if p.afterText then
            pure (warning ("Skipping displaying" ++ (if p.nested then " nested".toList else []) ++
              " \"text/html\" content type"))
          else markupLine p.part
        return [first, ← describe p.part]) ∧
      ∀ keep : Message → Spot → Program Unit, (∀ m spot s, ∃ t, (keep m spot).runIn s = (.ok (), t)) →
        ∀ s, ∃ t, (linesWith keep (bodyEntries (.container h ps))).runIn s = (bodyLines (.container h ps), t) := by
  have hgroups := linesOf_placed h ps
  refine ⟨part_placedAmong ps false [], hgroups, ?_, fun p _ hp => lines_ne_nil hp rfl,
    fun p _ => lines_plain, fun p _ => lines_markup, fun keep hkeep s => runIn_linesWith hkeep _ s⟩
  rw [hgroups]
  refine exists_bind_pure_eq_ok.trans ?_
  rw [exists_mapM_eq_ok]
  exact forall₂_congr fun p _ => exists_lines_iff

/-- a message with a plain text and an attachment whose disposition cannot be read -/
def undisposed : Octets := Text.toOctets
  ("Content-Type: multipart/mixed; boundary=X\r\n\r\n--X\r\nContent-Type: text/plain\r\n\r\nhi\r\n--X\r\n" ++
    "Content-Type: application/pdf\r\nContent-Disposition: attachment; a*0*\r\n\r\n12\r\n--X--\r\n")

/-- an attachment whose disposition cannot be read hides all other parts -/
theorem bodyLines_undisposed :
    ((Message.read undisposed).toOption.map fun m =>
      ((innerParts m).map fun p => (p.contentType.toOption, p.decodedText?), (bodyLines m).toOption))
      = some ([(some "text/plain".toList, some "hi".toList), (some "application/pdf".toList, some "12".toList)],
        none) := by
  decide +kernel

end Mailroom.View
