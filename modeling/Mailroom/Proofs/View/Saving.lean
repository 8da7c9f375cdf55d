import Mailroom.Proofs.View.Confinement

/-!
# Which parts of a message are saved

The parts of a message are saved while its lines are made.  Which ones are saved depends on their media
type alone: markup texts, images and applications, wherever they stand.  An attachment of another type
is not saved.

* `saves`                 the parts that entries save, with their places;
* `linesSaving_eq`        making lines and saving is saving these parts, one after the other, and nothing
  else;
* `innerParts`            the parts of a message that are not made of parts, in the order of the message;
* `saves_bodyEntries`     the parts that are saved are the savable ones of these, each once, in order;
* `display_saves`         all attachments of a message that is shown are saved exactly if they are savable.
-/

namespace Mailroom.View

open Program

/-! ## lines and saves -/

/-- the parts that entries save, in their order, up to the first fault -/
def saves : List (Except Fault Entry) → List (Message × Spot)
  | [] => []
  | .error _ :: _ => []
  | .ok entry :: es => entry.saved.toList ++ saves es

/-- the lines of entries, or the first fault -/
def linesOf (es : List (Except Fault Entry)) : Except Fault (List Text) := do
  return (← es.mapM id).flatMap Entry.lines

/-- parts saved one after the other -/
def saveAll (directory : Text) (calls : List (Message × Spot)) : Program PUnit :=
  calls.forM fun call => save directory call.1 call.2

theorem linesOf_ok (entry : Entry) (es : List (Except Fault Entry)) :
    linesOf (.ok entry :: es) = do return entry.lines ++ (← linesOf es) := by
  unfold linesOf
  rw [List.mapM_cons]
  show ((es.mapM id >>= fun bs => pure (entry :: bs)) >>= _) = _
  cases es.mapM id <;> rfl

theorem settle_ok {α : Type} (a : α) : settle (.ok a) = (pure a : Program α) := rfl

theorem settle_bind {α β : Type} (r : Except Fault α) (k : α → Except Fault β) :
    settle (r >>= k) = settle r >>= fun a => settle (k a) := by
  cases r <;> rfl

theorem saveAll_append (directory : Text) (xs ys : List (Message × Spot)) :
    saveAll directory (xs ++ ys) = saveAll directory xs >>= fun _ => saveAll directory ys := by
  induction xs with
  | nil => rfl
  | cons x xs ih =>
    show (save directory x.1 x.2 >>= fun _ => saveAll directory (xs ++ ys))
      = (save directory x.1 x.2 >>= fun _ => saveAll directory xs) >>= _
    rw [ih, bind_assoc]

theorem linesSaving_ok (directory : Text) (entry : Entry) (es : List (Except Fault Entry)) :
    linesSaving (some directory) (.ok entry :: es) = saveAll directory entry.saved.toList >>= fun _ =>
      linesSaving (some directory) es >>= fun ls => pure (entry.lines ++ ls) := by
  rw [linesSaving, settle_ok, pure_bind]
  obtain ⟨lines, saved⟩ := entry
  cases saved with
  | none =>
    show _ = pure () >>= _
    rw [pure_bind]
  | some call =>
    show (save directory call.1 call.2 >>= _) = (save directory call.1 call.2 >>= fun _ => pure ()) >>= _
    rw [bind_assoc]
    rfl

/-- making lines with a directory saves the parts of the entries, and does nothing else -/
theorem linesSaving_eq (directory : Text) (es : List (Except Fault Entry)) :
    linesSaving (some directory) es
      = saveAll directory (saves es) >>= fun _ => settle (linesOf es) := by
  induction es with
  | nil => rfl
  | cons e es ih =>
    cases e with
    | error f => rfl
    | ok entry =>
      rw [linesSaving_ok, ih, saves, saveAll_append, linesOf_ok, settle_bind]
      simp only [bind_assoc]
      rfl

/-! ## parts -/

/-- whether a part of this media type is saved -/
def isSavable (m : Message) : Bool :=
  match m.contentType with
  | .ok type => type == "text/html".toList || MessageHeader.mainType type == "application".toList ||
      MessageHeader.mainType type == "image".toList
  | .error _ => false

/-- whether a part is to be kept as a file -/
def isAttachment (m : Message) : Bool :=
  match m.header.disposition? with
  | .ok disposition => disposition == some "attachment".toList
  | .error _ => false

/-- the parts that are not made of parts -/
def leavesOf (ms : List Message) : List Message := ms.filter fun m => !m.isContainer

/-- the parts below a message that are not made of parts, in the order of the message -/
def innerParts (m : Message) : List Message := leavesOf m.walk.tail

theorem isSavable_iff {m : Message} {type : Text} (h : m.contentType = .ok type) :
    isSavable m = true ↔ type = "text/html".toList ∨
      MessageHeader.mainType type = "application".toList ∨
      MessageHeader.mainType type = "image".toList := by
  unfold isSavable
  rw [h]
  simp only [Bool.or_eq_true, beq_iff_eq, or_assoc]

/-- the entry of a part saves it if its media type is one of those, wherever it stands -/
theorem saved_of_leafEntry {m : Message} {spot : Spot} {afterText : Bool} {entry : Entry}
    (h : leafEntry m spot afterText = .ok entry) :
    entry.saved = if isSavable m then some (m, spot) else none := by
  obtain ⟨type, htype, h⟩ := bind_eq_ok.1 h
  have hsavable := isSavable_iff htype
  dsimp only at h
  by_cases hplain : type = "text/plain".toList
  · rw [if_pos hplain] at h
    cases h
    rw [if_neg]
    rw [hsavable, hplain]
    decide
  rw [if_neg hplain] at h
  by_cases hmarkup : type = "text/html".toList
  · rw [if_pos hmarkup] at h
    rw [if_pos (hsavable.2 (.inl hmarkup))]
    cases afterText with
    | true | false =>
      obtain ⟨first, -, h⟩ := bind_eq_ok.1 h
      obtain ⟨line, -, h⟩ := bind_eq_ok.1 h
      cases h
      rfl
  rw [if_neg hmarkup] at h
  by_cases hmain : MessageHeader.mainType type = "application".toList
      ∨ MessageHeader.mainType type = "image".toList
  · rw [if_pos hmain] at h
    rw [if_pos (hsavable.2 (.inr hmain))]
    obtain ⟨line, -, h⟩ := bind_eq_ok.1 h
    cases h
    rfl
  · rw [if_neg hmain] at h
    rw [if_neg (fun hs => (hsavable.1 hs).elim hmarkup hmain)]
    by_cases hdepth : 0 < spot.depth
    · rw [if_pos hdepth] at h
      cases h
      rfl
    · rw [if_neg hdepth] at h
      obtain ⟨value, -, h⟩ := bind_eq_ok.1 h
      cases h
      rfl

theorem saves_append {xs ys : List (Except Fault Entry)} (hx : ∃ ls, linesOf xs = .ok ls) :
    saves (xs ++ ys) = saves xs ++ saves ys := by
  induction xs with
  | nil => rfl
  | cons x xs ih =>
    obtain ⟨ls, hx⟩ := hx
    cases x with
    | error f => cases hx
    | ok entry =>
      rw [linesOf_ok] at hx
      obtain ⟨rest, hrest, -⟩ := bind_eq_ok.1 hx
      rw [List.cons_append, saves, saves, ih ⟨rest, hrest⟩, List.append_assoc]

theorem linesOf_append {xs ys : List (Except Fault Entry)} {ls : List Text}
    (h : linesOf (xs ++ ys) = .ok ls) :
    (∃ ls, linesOf xs = .ok ls) ∧ ∃ ls, linesOf ys = .ok ls := by
  induction xs generalizing ls with
  | nil => exact ⟨⟨[], rfl⟩, ls, h⟩
  | cons x xs ih =>
    cases x with
    | error f => cases h
    | ok entry =>
      rw [List.cons_append, linesOf_ok] at h
      obtain ⟨rest, hrest, -⟩ := bind_eq_ok.1 h
      obtain ⟨⟨l, hl⟩, hy⟩ := ih hrest
      refine ⟨⟨entry.lines ++ l, ?_⟩, hy⟩
      rw [linesOf_ok, hl]
      rfl

mutual

theorem saves_partEntries (m : Message) (spot : Spot) (afterText : Bool) {ls : List Text}
    (h : linesOf (partEntries spot afterText m) = .ok ls) :
    (saves (partEntries spot afterText m)).map Prod.fst = (leavesOf m.walk).filter isSavable := by
  cases m with
  | leaf header body =>
    rw [partEntries] at h ⊢
    cases hentry : leafEntry (.leaf header body) spot afterText with
    | error f =>
      rw [hentry] at h
      cases h
    | ok entry =>
      rw [saves, saved_of_leafEntry hentry, Message.walk]
      cases hs : isSavable (.leaf header body) <;> simp [hs, saves, leavesOf, Message.isContainer]
  | container header ps =>
    rw [partEntries] at h ⊢
    exact saves_partsEntries ps _ _ h

theorem saves_partsEntries (ms : List Message) (spot : Spot) (afterText : Bool) {ls : List Text}
    (h : linesOf (partsEntries spot afterText ms) = .ok ls) :
    (saves (partsEntries spot afterText ms)).map Prod.fst
      = (leavesOf (Message.walkAll ms)).filter isSavable := by
  cases ms with
  | nil => rfl
  | cons m ms =>
    rw [partsEntries] at h ⊢
    obtain ⟨⟨l, hl⟩, ⟨l', hl'⟩⟩ := linesOf_append h
    have hm := saves_partEntries m spot afterText hl
    have hms := saves_partsEntries ms _ _ hl'
    rw [saves_append ⟨l, hl⟩, List.map_append, hm, hms, Message.walkAll, leavesOf, leavesOf, leavesOf,
      List.filter_append, List.filter_append]

end

theorem saved_of_wholeEntry {m : Message} {entry : Entry} (h : wholeEntry m = .ok entry) :
    entry.saved = none := by
  obtain ⟨type, -, h⟩ := bind_eq_ok.1 h
  split at h
  · cases h
    rfl
  split at h
  · obtain ⟨line, -, h⟩ := bind_eq_ok.1 h
    cases h
    rfl
  split at h <;>
  · cases h
    rfl

/-- the parts that are saved are the savable ones, each once, in the order of the message -/
theorem saves_bodyEntries {m : Message} {ls : List Text} (h : bodyLines m = .ok ls) :
    (saves (bodyEntries m)).map Prod.fst = (innerParts m).filter isSavable := by
  cases m with
  | leaf header body =>
    have h : linesOf [wholeEntry (.leaf header body)] = .ok ls := h
    cases hentry : wholeEntry (.leaf header body) with
    | error f =>
      rw [hentry] at h
      cases h
    | ok entry =>
      rw [bodyEntries, hentry, saves, saved_of_wholeEntry hentry]
      rfl
  | container header ps => exact saves_partsEntries ps _ _ h

theorem filter_filter_eq_iff {α : Type} {p q : α → Bool} {l : List α} :
    (l.filter p).filter q = l.filter q ↔ ∀ x ∈ l, q x = true → p x = true := by
  constructor
  · intro h x hx hq
    have hmem : x ∈ (l.filter p).filter q := by
      rw [h]
      exact List.mem_filter.2 ⟨hx, hq⟩
    exact (List.mem_filter.1 (List.mem_filter.1 hmem).1).2
  · intro h
    rw [List.filter_filter]
    refine List.filter_congr fun x hx => ?_
    cases hq : q x with
    | false => rfl
    | true => rw [h x hx hq]; rfl

/-! ## messages that are shown -/

/-- of what is done while a message is shown, only the making of its lines can change the disk -/
theorem display_eq_ok {s s' : Session} {f : Fetched} {position : Int} {own : Option Mailbox}
    {below : Text} {limit : Int} {r : Option Text}
    (hrun : (display f position own (some below) limit).runIn s = (.ok r, s')) :
    ∃ id ls u t, mailId s.serial f.message limit = .ok id ∧ u.disk = s.disk ∧
      (linesSaving (some (Path.join below id)) (bodyEntries f.message)).runIn u = (.ok ls, t) ∧
      s'.disk = t.disk := by
  have hprint : ∀ (ls : List Text) (t u : Session) (x : Except Fault PUnit),
      (printLines ls).runIn t = (x, u) → SameDisk t u := by
    intro ls t u x h
    have hkeeps := keeps_printLines isFrame_sameDisk (fun _ _ => ⟨rfl, rfl⟩) ls t
    rwa [h] at hkeeps
  obtain ⟨_, _, hsession, hrun⟩ := runIn_bind_eq_ok.1 hrun
  cases hsession
  obtain ⟨heading, _, hheading, hrun⟩ := runIn_bind_eq_ok.1 hrun
  obtain ⟨-, rfl⟩ := runIn_settle_eq_ok.1 hheading
  obtain ⟨_, u, hprinted, hrun⟩ := runIn_bind_eq_ok.1 hrun
  obtain ⟨hdisk, hserial⟩ := hprint _ _ _ _ hprinted
  obtain ⟨_, _, hsession, hrun⟩ := runIn_bind_eq_ok.1 hrun
  cases hsession
  obtain ⟨id, _, hnamed, hrun⟩ := runIn_bind_eq_ok.1 hrun
  obtain ⟨hid, rfl⟩ := runIn_settle_eq_ok.1 hnamed
  obtain ⟨ls, t, hlines, hrun⟩ := runIn_bind_eq_ok.1 hrun
  obtain ⟨_, _, hprinted, hrun⟩ := runIn_bind_eq_ok.1 hrun
  obtain ⟨hdisk', -⟩ := hprint _ _ _ _ hprinted
  obtain ⟨_, _, hsession, hrun⟩ := runIn_bind_eq_ok.1 hrun
  cases hsession
  cases hrun
  exact ⟨id, ls, u, t, hserial ▸ hid, hdisk, hlines, hdisk'⟩

/-- lines are made with a result exactly if every entry can be made and every part saved -/
theorem runIn_linesSaving_eq_ok {directory : Text} {es : List (Except Fault Entry)} {s t : Session}
    {ls : List Text} : (linesSaving (some directory) es).runIn s = (.ok ls, t) ↔
      (saveAll directory (saves es)).runIn s = (.ok (), t) ∧ linesOf es = .ok ls := by
  rw [linesSaving_eq, runIn_bind_eq_ok]
  constructor
  · rintro ⟨_, u, hsaved, hsettled⟩
    obtain ⟨hlines, rfl⟩ := runIn_settle_eq_ok.1 hsettled
    exact ⟨hsaved, hlines⟩
  · rintro ⟨hsaved, hlines⟩
    exact ⟨(), t, hsaved, runIn_settle_eq_ok.2 ⟨hlines, rfl⟩⟩

/-- **Attachments that are saved.**  While a message is shown with a directory to save in, its savable
parts are saved there, each once and in their order, and nothing else is done to the disk.  These are
all its attachments exactly if all of them are markup texts, images or applications. -/
theorem display_saves (s s' : Session) (f : Fetched) (position : Int) (own : Option Mailbox)
    (below : Text) (limit : Int) (r : Option Text)
    (hrun : (display f position own (some below) limit).runIn s = (.ok r, s')) :
    ∃ id calls ls u u', mailId s.serial f.message limit = .ok id ∧ u.disk = s.disk ∧
      (saveAll (Path.join below id) calls).runIn u = (.ok (), u') ∧ s'.disk = u'.disk ∧
      (∀ directory, linesSaving (some directory) (bodyEntries f.message)
        = saveAll directory calls >>= fun _ => pure ls) ∧
      calls.map Prod.fst = (innerParts f.message).filter isSavable ∧
      ((calls.map Prod.fst).filter isAttachment = (innerParts f.message).filter isAttachment ↔
        ∀ p ∈ innerParts f.message, isAttachment p = true → isSavable p = true) := by
  obtain ⟨id, ls, u, u', hid, hdisk, hmade, hdisk'⟩ := display_eq_ok hrun
  obtain ⟨hsaved, hlines⟩ := runIn_linesSaving_eq_ok.1 hmade
  have hparts := saves_bodyEntries hlines
  refine ⟨id, saves (bodyEntries f.message), ls, u, u', hid, hdisk, hsaved, hdisk', ?_, hparts, ?_⟩
  · intro directory
    rw [linesSaving_eq, hlines]
    rfl
  · rw [hparts]
    exact filter_filter_eq_iff

/-- a message with one attachment of a media type -/
def enclosing (type : Text) : Message :=
  .container ⟨[⟨"From", "a@c.org"⟩, ⟨"Content-Type", "multipart/mixed; boundary=X"⟩], false⟩
    [.leaf ⟨[⟨"Content-Type", type⟩, ⟨"Content-Disposition", "attachment; filename=t"⟩], false⟩
      [49, 44, 50]]

theorem display_saves_enclosing :
    ∃ r s', (display ⟨1, [], 0, none, enclosing "application/pdf"⟩ 1 none (some "/home/ann") 150).runIn
        Session.quiet = (.ok r, s') ∧
      ∃ id calls ls u u', mailId Session.quiet.serial (enclosing "application/pdf") 150 = .ok id ∧
        u.disk = Session.quiet.disk ∧
        (saveAll (Path.join "/home/ann" id) calls).runIn u = (.ok (), u') ∧ s'.disk = u'.disk ∧
        (∀ directory, linesSaving (some directory) (bodyEntries (enclosing "application/pdf"))
          = saveAll directory calls >>= fun _ => pure ls) ∧
        calls.map Prod.fst = (innerParts (enclosing "application/pdf")).filter isSavable ∧
        ((calls.map Prod.fst).filter isAttachment
            = (innerParts (enclosing "application/pdf")).filter isAttachment ↔
          ∀ p ∈ innerParts (enclosing "application/pdf"),
            isAttachment p = true → isSavable p = true) := by
  have hok : ((display ⟨1, [], 0, none, enclosing "application/pdf"⟩ 1 none (some "/home/ann") 150).runIn
      Session.quiet).1.toOption.isSome = true := by decide +kernel
  cases h : (display ⟨1, [], 0, none, enclosing "application/pdf"⟩ 1 none (some "/home/ann") 150).runIn
      Session.quiet with
  | mk x s' =>
    rw [h] at hok
    cases x with
    | error e => cases hok
    | ok r => exact ⟨r, s', rfl, display_saves _ s' _ 1 none "/home/ann" 150 r h⟩

/-- an attached table is shown in one line and not saved -/
theorem not_saved_enclosing :
    ((display ⟨1, [], 0, none, enclosing "text/csv"⟩ 1 none (some "/home/ann") 150).runIn
        Session.quiet).1.toOption = some none ∧
    ((display ⟨1, [], 0, none, enclosing "text/csv"⟩ 1 none (some "/home/ann") 150).runIn
        Session.quiet).2.disk.entries = [] ∧
    (innerParts (enclosing "text/csv")).map isAttachment = [true] ∧
    (saves (bodyEntries (enclosing "text/csv"))).length = 0 := by
  decide +kernel

end Mailroom.View
