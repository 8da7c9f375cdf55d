import Mailroom.Client.Send
import Mailroom.Proofs.Lists
import Mailroom.Proofs.Session.Runs

/-!
# A mail is sent to all or to nobody

Before a mail is handed to what takes it away, the sender, every entry of the three lists of addresses
and every attachment are checked.  One that is refused ends the run with nothing sent.

* `ValidAddresses`, `ValidAttachments`   what has to hold before anything is sent;
* `exists_addressees_iff`      the addresses of an order can be read exactly if all of them are valid;
* `envelope_of_addressees`     the envelope holds the address of every entry, in the order of the lists;
* `exists_checkAttachments_iff`   the attachments are accepted exactly if each of them is;
* `sendWith_all_or_nothing`    how sending ends.
-/

namespace Mailroom.Client

open Program

variable {config : Config} {user password : Text} {o : Order} {a : Addressees} {s : Session}

/-! ## what is checked -/

/-- every entry of a list of addresses is a valid address -/
def ValidList (value : Text) : Prop := ∀ e ∈ Address.entries value, ∃ a, Address.parse e = .ok a

/-- the sender and all entries of the three lists are valid, and there is somebody to send to -/
structure ValidAddresses (config : Config) (user : Text) (o : Order) : Prop where
  sender : ∃ a, Address.parse (user ++ "@" ++ config.mailDomain) = .ok a
  recipients : ValidList o.recipients
  nonempty : Address.entries o.recipients ≠ []
  copies : ValidList o.copies
  hiddenCopies : ValidList o.hiddenCopies

/-- every attachment is there, is a file and has an extension that is allowed -/
def ValidAttachments (config : Config) (disk : Disk) (o : Order) : Prop :=
  ∀ p ∈ Path.paths o.attachments, (Attachment.check disk p config.allowedExtensions).2 = none

/-- an entry is read as this address proper -/
def ReadAs (entry spec : Text) : Prop := ∃ a, Address.parse entry = .ok a ∧ a.addrSpec = spec

/-- the entries of all lists in the order in which they were typed: recipients, copies, hidden copies -/
def Order.entries (o : Order) : List Text :=
  Address.entries o.recipients ++ Address.entries o.copies ++ Address.entries o.hiddenCopies

/-! ## addresses -/

theorem parseList_eq_ok {value what : Text} {as : List EmailAddress} :
    Address.parseList value what = .ok as ↔
      List.Forall₂ (fun e a => Address.parse e = .ok a) (Address.entries value) as := by
  rw [← mapM_eq_ok]
  unfold Address.parseList
  cases (Address.entries value).mapM Address.parse <;> simp

theorem exists_parseList_iff {value what : Text} :
    (∃ as, Address.parseList value what = .ok as) ↔ ValidList value := by
  simp only [parseList_eq_ok, ← mapM_eq_ok]
  exact exists_mapM_eq_ok

theorem senderOf_eq_ok {sender : EmailAddress} :
    senderOf config user = .ok sender ↔
      ∃ a, Address.parse (user ++ "@" ++ config.mailDomain) = .ok a ∧
        sender = ⟨a.addrSpec, config.mailName⟩ := by
  unfold senderOf
  dsimp only
  cases Address.parse (user ++ "@" ++ config.mailDomain) <;> simp [eq_comm]

theorem isEmpty_of_aligned {α β : Type} {R : α → β → Prop} {xs : List α} {ys : List β}
    (h : List.Forall₂ R xs ys) : ys.isEmpty = true ↔ xs = [] := by
  cases h <;> simp

/-- the addressees of an order are those that its lists name -/
theorem addressees_eq_ok :
    addressees config user o = .ok a ↔
      senderOf config user = .ok a.sender ∧
      Address.parseList o.recipients "recipient" = .ok a.recipients ∧
      Address.entries o.recipients ≠ [] ∧
      Address.parseList o.copies "CC" = .ok a.copies ∧
      Address.parseList o.hiddenCopies "BCC" = .ok a.hiddenCopies := by
  unfold addressees
  constructor
  · intro h
    obtain ⟨sender, hsender, h⟩ := bind_eq_ok.1 h
    obtain ⟨recipients, hrecipients, h⟩ := bind_eq_ok.1 h
    have hempty := isEmpty_of_aligned (parseList_eq_ok.1 hrecipients)
    by_cases hnone : recipients.isEmpty = true
    · rw [if_pos hnone] at h
      cases h
    · rw [if_neg hnone] at h
      obtain ⟨copies, hcopies, h⟩ := bind_eq_ok.1 h
      obtain ⟨hiddenCopies, hhidden, h⟩ := bind_eq_ok.1 h
      cases h
      exact ⟨hsender, hrecipients, fun e => hnone (hempty.2 e), hcopies, hhidden⟩
  · rintro ⟨hsender, hrecipients, hne, hcopies, hhidden⟩
    have hempty := isEmpty_of_aligned (parseList_eq_ok.1 hrecipients)
    refine bind_eq_ok.2 ⟨_, hsender, bind_eq_ok.2 ⟨_, hrecipients, ?_⟩⟩
    rw [if_neg (fun e => hne (hempty.1 e))]
    exact bind_eq_ok.2 ⟨_, hcopies, bind_eq_ok.2 ⟨_, hhidden, rfl⟩⟩

theorem exists_addressees_iff :
    (∃ a, addressees config user o = .ok a) ↔ ValidAddresses config user o := by
  constructor
  · rintro ⟨a, h⟩
    obtain ⟨hsender, hrecipients, hne, hcopies, hhidden⟩ := addressees_eq_ok.1 h
    obtain ⟨sender, hparse, -⟩ := senderOf_eq_ok.1 hsender
    exact ⟨⟨sender, hparse⟩, exists_parseList_iff.1 ⟨_, hrecipients⟩, hne,
      exists_parseList_iff.1 ⟨_, hcopies⟩, exists_parseList_iff.1 ⟨_, hhidden⟩⟩
  · rintro ⟨⟨sender, hparse⟩, hrecipients, hne, hcopies, hhidden⟩
    obtain ⟨recipients, hrecipients⟩ := exists_parseList_iff.2 hrecipients
    obtain ⟨copies, hcopies⟩ := exists_parseList_iff.2 hcopies
    obtain ⟨hiddenCopies, hhidden⟩ := exists_parseList_iff.2 hhidden
    exact ⟨⟨⟨sender.addrSpec, config.mailName⟩, recipients, copies, hiddenCopies⟩,
      addressees_eq_ok.2 ⟨senderOf_eq_ok.2 ⟨sender, hparse, rfl⟩, hrecipients, hne, hcopies, hhidden⟩⟩

theorem readAs_of_parseList {value what : Text} {as : List EmailAddress}
    (h : Address.parseList value what = .ok as) :
    List.Forall₂ ReadAs (Address.entries value) (as.map EmailAddress.addrSpec) := by
  rw [List.forall₂_map_right_iff]
  exact (parseList_eq_ok.1 h).imp fun e a he => ⟨a, he, rfl⟩

theorem envelope_of_addressees (h : addressees config user o = .ok a) :
    List.Forall₂ ReadAs o.entries a.envelope := by
  obtain ⟨-, hrecipients, -, hcopies, hhidden⟩ := addressees_eq_ok.1 h
  unfold Order.entries Addressees.envelope
  rw [List.map_append, List.map_append]
  exact List.rel_append (List.rel_append (readAs_of_parseList hrecipients) (readAs_of_parseList hcopies))
    (readAs_of_parseList hhidden)

/-! ## attachments -/

theorem exists_checkAttachments_iff {disk : Disk} {allowed ps : List Text} :
    (∃ paths, checkAttachments disk allowed ps = .ok paths) ↔
      ∀ p ∈ ps, (Attachment.check disk p allowed).2 = none := by
  induction ps with
  | nil => simp [checkAttachments]
  | cons p ps ih =>
    rw [List.forall_mem_cons, ← ih, checkAttachments]
    rcases Attachment.check disk p allowed with ⟨path, none | r⟩
    · cases checkAttachments disk allowed ps <;> simp [Except.map]
    · simp

/-- the refusal of a list of attachments is that of one of them -/
theorem exists_of_checkAttachments_eq_error {disk : Disk} {allowed ps : List Text}
    {r : Attachment.Refusal} (h : checkAttachments disk allowed ps = .error r) :
    ∃ p ∈ ps, (Attachment.check disk p allowed).2 = some r := by
  induction ps with
  | nil => cases h
  | cons p ps ih =>
    rw [checkAttachments] at h
    rcases hp : Attachment.check disk p allowed with ⟨path, none | r'⟩
    · rw [hp] at h
      cases hps : checkAttachments disk allowed ps with
      | ok paths =>
        rw [hps] at h
        cases h
      | error r' =>
        rw [hps] at h
        cases h
        obtain ⟨p', hp', hr⟩ := ih hps
        exact ⟨p', List.mem_cons_of_mem _ hp', hr⟩
    · rw [hp] at h
      cases h
      exact ⟨p, List.mem_cons_self, by rw [hp]⟩

/-! ## how sending ends -/

/-- a letter handed to what takes it away, once; a line is printed only if that comes back -/
def handedOver (deliver : Letter → Program Unit) (letter : Letter) (line : Text) (s : Session) :
    Except Fault (Option Message) × Session :=
  match (deliver letter).runIn s with
  | (.ok _, t) => (.ok (some letter.message), { t with output := t.output ++ line })
  | (.error f, t) => (.error f, t)

theorem letterOf_envelope {paths : List Text} {letter : Letter}
    (h : letterOf config user password s a paths o = .ok letter) :
    letter.sender = a.sender.addrSpec ∧ letter.envelope = a.envelope := by
  obtain ⟨draft, -, h⟩ := bind_eq_ok.1 h
  obtain ⟨time, -, h⟩ := bind_eq_ok.1 h
  obtain ⟨m, -, h⟩ := bind_eq_ok.1 h
  cases h
  exact ⟨rfl, rfl⟩

theorem runIn_sendWith_of_not_addressed (deliver : Letter → Program Unit) {e : AddressError}
    (ha : addressees config user o = .error e) :
    (sendWith deliver config user password o).runIn s = (.error (.address e), s) := by
  unfold sendWith
  rw [runIn_bind, runIn_session]
  dsimp only
  rw [ha, runIn_settle_bind]
  rfl

/-- what sending does once the addresses are read -/
theorem runIn_sendWith (deliver : Letter → Program Unit) (ha : addressees config user o = .ok a) :
    (sendWith deliver config user password o).runIn s =
      match checkAttachments s.disk config.allowedExtensions (Path.paths o.attachments) with
      | .error r => (.ok none, { s with output := s.output ++ ("==> " ++ r.message ++ ['\n']) })
      | .ok paths =>
        match letterOf config user password s a paths o with
        | .ok letter => handedOver deliver letter (report a.recipients letter.time ++ ['\n']) s
        | .error f => (.error f, s) := by
  unfold sendWith
  rw [runIn_bind, runIn_session]
  dsimp only
  rw [ha, runIn_settle_bind]
  dsimp only [orFault]
  cases checkAttachments s.disk config.allowedExtensions (Path.paths o.attachments) with
  | error r => rfl
  | ok paths =>
    dsimp only
    rw [runIn_settle_bind]
    cases letterOf config user password s a paths o with
    | error f => rfl
    | ok letter =>
      dsimp only [handedOver]
      rw [runIn_bind]
      cases (deliver letter).runIn s with
      | mk r t => cases r <;> rfl

theorem handedOver_ne_none (deliver : Letter → Program Unit) (letter : Letter) (line : Text)
    (s : Session) : (handedOver deliver letter line s).1 ≠ .ok none := by
  unfold handedOver
  split <;> exact nofun

/-- **All or nothing.**  If the sender or an entry of a list is not valid, or there is nobody to send to,
sending ends with an address fault; if the addresses are valid and an attachment is refused, it ends
without a message, having printed why.  In both cases nothing is handed over and nothing is asked of
the world.  Otherwise either the message cannot be made and nothing happens, or it is handed over once:
from the address of the sender to the addresses of all entries, in the order of the lists.  That it was
sent is printed only behind that. -/
theorem sendWith_all_or_nothing (deliver : Letter → Program Unit) (config : Config)
    (user password : Text) (o : Order) (s : Session) :
    (((sendWith deliver config user password o).runIn s).1 = .ok none ↔
      ValidAddresses config user o ∧ ¬ValidAttachments config s.disk o) ∧
    ((¬ValidAddresses config user o ∧
        ∃ e, (sendWith deliver config user password o).runIn s = (.error (.address e), s)) ∨
      (ValidAddresses config user o ∧ ¬ValidAttachments config s.disk o ∧
        ∃ p ∈ Path.paths o.attachments, ∃ r,
          (Attachment.check s.disk p config.allowedExtensions).2 = some r ∧
          (sendWith deliver config user password o).runIn s
            = (.ok none, { s with output := s.output ++ ("==> " ++ r.message ++ ['\n']) })) ∨
      (ValidAddresses config user o ∧ ValidAttachments config s.disk o ∧
        ((∃ f, (sendWith deliver config user password o).runIn s = (.error f, s)) ∨
          ∃ letter recipients,
            ReadAs (user ++ "@" ++ config.mailDomain) letter.sender ∧
            List.Forall₂ ReadAs o.entries letter.envelope ∧
            List.Forall₂ ReadAs (Address.entries o.recipients) (recipients.map EmailAddress.addrSpec) ∧
            (sendWith deliver config user password o).runIn s
              = handedOver deliver letter (report recipients letter.time ++ ['\n']) s))) := by
  -- the checks in the order in which they are made; each one that fails ends the run
  cases ha : addressees config user o with
  | error e =>
    have hinvalid : ¬ValidAddresses config user o := by
      rw [← exists_addressees_iff, ha]
      exact nofun
    rw [runIn_sendWith_of_not_addressed deliver ha]
    exact ⟨⟨nofun, fun h => absurd h.1 hinvalid⟩, .inl ⟨hinvalid, e, rfl⟩⟩
  | ok a =>
    have hvalid : ValidAddresses config user o := exists_addressees_iff.1 ⟨a, ha⟩
    rw [runIn_sendWith deliver ha]
    cases hpaths : checkAttachments s.disk config.allowedExtensions (Path.paths o.attachments) with
    | error r =>
      have hrefused : ¬ValidAttachments config s.disk o := by
        unfold ValidAttachments
        rw [← exists_checkAttachments_iff, hpaths]
        exact nofun
      obtain ⟨p, hp, hr⟩ := exists_of_checkAttachments_eq_error hpaths
      exact ⟨⟨fun _ => ⟨hvalid, hrefused⟩, fun _ => rfl⟩,
        .inr (.inl ⟨hvalid, hrefused, p, hp, r, hr, rfl⟩)⟩
    | ok paths =>
      have haccepted : ValidAttachments config s.disk o := exists_checkAttachments_iff.1 ⟨paths, hpaths⟩
      dsimp only
      cases hletter : letterOf config user password s a paths o with
      | error f =>
        exact ⟨⟨nofun, fun h => absurd haccepted h.2⟩,
          .inr (.inr ⟨hvalid, haccepted, .inl ⟨f, rfl⟩⟩)⟩
      | ok letter =>
        obtain ⟨hfrom, henvelope⟩ := letterOf_envelope hletter
        obtain ⟨hsender, hrecipients, -⟩ := addressees_eq_ok.1 ha
        obtain ⟨sender, hparse, hsender⟩ := senderOf_eq_ok.1 hsender
        have hsentFrom : ReadAs (user ++ "@" ++ config.mailDomain) letter.sender :=
          ⟨sender, hparse, by rw [hfrom, hsender]⟩
        have hsentTo : List.Forall₂ ReadAs o.entries letter.envelope :=
          henvelope ▸ envelope_of_addressees ha
        exact ⟨⟨fun h => absurd h (handedOver_ne_none _ _ _ _), fun h => absurd haccepted h.2⟩,
          .inr (.inr ⟨hvalid, haccepted, .inr ⟨letter, a.recipients, hsentFrom, hsentTo,
            readAs_of_parseList hrecipients, rfl⟩⟩)⟩

end Mailroom.Client
