import Mailroom.Proofs.Message.Beginning
import Mailroom.Proofs.Search.Finding

/-!
# Searching in headers

For a filter that looks at no body only the headers of the messages are fetched.  What is found then is
what would have been found in the whole messages, if these can be read.

* `Fetched.Alike`          messages that differ at most below their headers;
* `holds_alike`            a tree that looks at no body says the same of both;
* `Fetch.SameHeader`       a header that was fetched, and the message that begins with it;
* `findByFetching_headers_only`   the two searches end alike exactly if nothing below a header keeps the
  whole messages from being read;
* `findByFetching_broken_part`    a part with a broken header does.
-/

namespace Mailroom

variable {zone : Zone} {f g : Fetched}

/-! ## what a tree sees of a message -/

/-- two messages that differ at most below their headers -/
structure Fetched.Alike (f g : Fetched) : Prop where
  number : f.number = g.number
  flags : f.flags = g.flags
  size : f.size = g.size
  received : f.received = g.received
  header : f.message.header = g.message.header

theorem Leaf.holds_alike (h : f.Alike g) {l : Leaf} (hl : l.isBody = false) :
    l.holds zone f = l.holds zone g := by
  cases l with
  | body p => cases hl
  | subject p => simp only [Leaf.holds, h.header]
  | sender t => simp only [Leaf.holds, Message.addresses, h.header]
  | recipient k t => simp only [Leaf.holds, Message.addresses, h.header]
  | number n => simp only [Leaf.holds, h.number]
  | received cmp m => simp only [Leaf.holds, h.received]
  | sent cmp m => simp only [Leaf.holds, Fetched.sent, h.header]
  | size cmp n => rcases cmp with _ | _ | _ | _ <;> simp only [Leaf.holds, h.size]
  | flag name isSet => simp only [Leaf.holds, h.flags]

namespace Tree

variable {t : Tree} {s : Session}

theorem needsBody_pair {a b : Tree} {ls : List Leaf} (hls : ls = a.leaves ++ b.leaves)
    (h : ls.any Leaf.isBody = false) : a.needsBody = false ∧ b.needsBody = false := by
  rw [hls, List.any_append, Bool.or_eq_false_iff] at h
  exact h

theorem holds_alike (h : f.Alike g) (ht : t.needsBody = false) : t.holds zone f = t.holds zone g := by
  have hleaf : ∀ {l : Leaf}, [l].any Leaf.isBody = false → l.holds zone f = l.holds zone g :=
    fun hl => Leaf.holds_alike h (by simpa using hl)
  induction t with
  | leaf l => exact hleaf ht
  | neg l => simp only [Tree.holds, hleaf ht]
  | conj a b iha ihb =>
    obtain ⟨ha, hb⟩ := needsBody_pair rfl ht
    simp only [Tree.holds, iha ha, ihb hb]
  | disj a b iha ihb =>
    obtain ⟨ha, hb⟩ := needsBody_pair rfl ht
    simp only [Tree.holds, iha ha, ihb hb]
  | stray v => rfl

/-- the numbers of the messages that fulfil a test are those of messages that are alike -/
theorem numbers_aligned {fs gs : List Fetched} {p : Fetched → Bool}
    (h : List.Forall₂ (fun f g => f.number = g.number ∧ p f = p g) fs gs) :
    (fs.filter p).map Fetched.number = (gs.filter p).map Fetched.number := by
  induction h with
  | nil => rfl
  | @cons f g fs gs hfg _ ih =>
    obtain ⟨hnumber, hp⟩ := hfg
    cases hf : p f with
    | true => rw [List.filter_cons_of_pos hf, List.filter_cons_of_pos (hp ▸ hf), List.map_cons,
        List.map_cons, hnumber, ih]
    | false => rw [List.filter_cons_of_neg (by simp [hf]), List.filter_cons_of_neg (by simp [← hp, hf]), ih]

theorem numbersAmong_alike {fs gs : List Fetched} (h : List.Forall₂ Fetched.Alike fs gs)
    (ht : t.needsBody = false) {ns : List Int} :
    t.numbersAmong zone fs = .ok ns ↔ t.numbersAmong zone gs = .ok ns := by
  have hall : (∀ f ∈ fs, ∃ b, t.holds zone f = .ok b) ↔ ∀ g ∈ gs, ∃ b, t.holds zone g = .ok b :=
    forall_mem_iff_of_aligned h fun f g _ hfg => by rw [holds_alike hfg ht]
  have hnumbers := numbers_aligned (p := fun f => saysYes (t.holds zone f)) <|
    h.imp fun f g hfg => ⟨hfg.number, congrArg saysYes (holds_alike hfg ht)⟩
  rw [numbersAmong_eq_ok, numbersAmong_eq_ok, hall, hnumbers]

end Tree

/-! ## headers and whole messages -/

namespace Fetch

/-- a header that was fetched, and a message: the store says the same of both, it tells the size, and the
message begins with the header -/
structure SameHeader (zone : Zone) (p q : Octets × Octets) : Prop where
  number : WholeNumber.ofOctets (p.1.takeWhile (· ≠ 32)) = WholeNumber.ofOctets (q.1.takeWhile (· ≠ 32))
  flags : flags (Text.ofMail p.1) = flags (Text.ofMail q.1)
  size : size? (Text.ofMail p.1) = size? (Text.ofMail q.1)
  sized : size? (Text.ofMail p.1) ≠ .ok none
  received : received? zone (Text.ofMail p.1) = received? zone (Text.ofMail q.1)
  block : Message.IsHeaderBlock p.2
  body : ∃ body, q.2 = p.2 ++ body

variable {p q : Octets × Octets}

theorem message_eq_ok {about body : Octets} :
    message zone about body = .ok f ↔
      WholeNumber.ofOctets (about.takeWhile (· ≠ 32)) = .ok f.number ∧
      flags (Text.ofMail about) = .ok f.flags ∧
      (∃ size, size? (Text.ofMail about) = .ok size ∧ f.size = size.getD body.length) ∧
      received? zone (Text.ofMail about) = .ok f.received ∧
      Message.read body = .ok f.message := by
  unfold message
  simp only [bind_eq_ok, pure_eq_ok]
  constructor
  · rintro ⟨number, hnumber, flags, hflags, size, hsize, received, hreceived, m, hm, rfl⟩
    exact ⟨hnumber, hflags, ⟨size, hsize, rfl⟩, hreceived, hm⟩
  · rintro ⟨hnumber, hflags, ⟨size, hsize, hf⟩, hreceived, hm⟩
    exact ⟨_, hnumber, _, hflags, size, hsize, _, hreceived, _, hm, by rw [← hf]⟩

theorem SameHeader.size_eq (h : SameHeader zone p q) {size : Option Int}
    (hsize : size? (Text.ofMail p.1) = .ok size) (n n' : Int) : size.getD n = size.getD n' := by
  rcases size with _ | k
  · exact absurd hsize h.sized
  · rfl

/-- where the message can be read, its header can, and both are alike -/
theorem SameHeader.exists_alike (h : SameHeader zone p q) (hg : message zone q.1 q.2 = .ok g) :
    ∃ f, message zone p.1 p.2 = .ok f ∧ f.Alike g := by
  obtain ⟨hnumber, hflags, ⟨size, hsize, hgsize⟩, hreceived, hm⟩ := message_eq_ok.1 hg
  obtain ⟨body, hbody⟩ := h.body
  rw [hbody] at hm
  obtain ⟨m, hm, hheader⟩ := Message.read_block h.block hm
  refine ⟨⟨g.number, g.flags, g.size, g.received, m⟩, ?_, ⟨rfl, rfl, rfl, rfl, hheader⟩⟩
  rw [← h.size] at hsize
  exact message_eq_ok.2 ⟨h.number ▸ hnumber, h.flags ▸ hflags,
    ⟨size, hsize, hgsize.trans (h.size_eq hsize _ _)⟩, h.received ▸ hreceived, hm⟩

/-- where the header can be read and the octets of the message can, the message can be read -/
theorem SameHeader.exists_message (h : SameHeader zone p q) (hf : message zone p.1 p.2 = .ok f)
    (hread : ∃ m, Message.read q.2 = .ok m) : ∃ g, message zone q.1 q.2 = .ok g := by
  obtain ⟨hnumber, hflags, ⟨size, hsize, -⟩, hreceived, -⟩ := message_eq_ok.1 hf
  obtain ⟨m, hm⟩ := hread
  exact ⟨⟨f.number, f.flags, size.getD q.2.length, f.received, m⟩, message_eq_ok.2
    ⟨h.number ▸ hnumber, h.flags ▸ hflags, ⟨size, h.size ▸ hsize, rfl⟩, h.received ▸ hreceived, hm⟩⟩

end Fetch

/-! ## two searches -/

/-- two results that are equal, or two faults -/
def SameOutcome {ε α : Type} (x y : Except ε α) : Prop :=
  (∃ a, x = .ok a ∧ y = .ok a) ∨ (∃ e, x = .error e) ∧ ∃ e, y = .error e

/-- the session with this answer to every fetch -/
def Session.answering (s : Session) (status : Text) (items : List FetchItem) : Session :=
  { s with imap := { s.imap with fetch := some (.ok ⟨status, some items⟩) } }

namespace Tree

variable {t : Tree} {s : Session} {status : Text} {headers wholes items : List FetchItem}

/-- what is found, message by message, in this answer to the fetch -/
def foundIn (t : Tree) (s : Session) (status : Text) (items : List FetchItem) : Except Fault (List Int) :=
  (t.findByFetching.runIn (s.answering status items)).1

theorem foundIn_eq_ok {ns : List Int} :
    t.foundIn s status items = .ok ns ↔
      status = "OK".toList ∧
      ∃ fs, Fetch.read s.zone items = .ok fs ∧ t.numbersAmong s.zone fs = .ok ns := by
  have hrun : t.foundIn s status items
      = Imap.messagesOf s.zone "1:*" ⟨status, some items⟩ >>= t.numbersAmong s.zone := by
    unfold foundIn
    rw [runIn_findByFetching]
    rfl
  rw [hrun, bind_eq_ok]
  unfold Imap.messagesOf
  by_cases hok : status = "OK".toList
  · rw [if_neg (not_not_intro hok)]
    exact ⟨fun h => ⟨hok, h⟩, fun h => h.2⟩
  · rw [if_pos hok]
    constructor
    · rintro ⟨fs, h, -⟩
      cases h
    · exact fun h => absurd h.1 hok

section
variable (h : List.Forall₂ (Fetch.SameHeader s.zone) (Fetch.literals headers) (Fetch.literals wholes))
include h

theorem exists_read_headers {gs : List Fetched} (hgs : Fetch.read s.zone wholes = .ok gs) :
    ∃ fs, Fetch.read s.zone headers = .ok fs ∧ List.Forall₂ Fetched.Alike fs gs := by
  unfold Fetch.read at hgs ⊢
  simp only [mapM_eq_ok] at hgs ⊢
  generalize Fetch.literals headers = ps, Fetch.literals wholes = qs at h hgs
  induction h generalizing gs with
  | nil =>
    cases hgs
    exact ⟨[], .nil, .nil⟩
  | cons hpq _ ih =>
    obtain ⟨g, gs', hg, hgs', rfl⟩ := List.forall₂_cons_left_iff.1 hgs
    obtain ⟨f, hf, halike⟩ := hpq.exists_alike hg
    obtain ⟨fs, hfs, halikes⟩ := ih hgs'
    exact ⟨f :: fs, .cons hf hfs, .cons halike halikes⟩

theorem exists_read_wholes {fs : List Fetched} (hfs : Fetch.read s.zone headers = .ok fs)
    (hread : ∀ q ∈ Fetch.literals wholes, ∃ m, Message.read q.2 = .ok m) :
    ∃ gs, Fetch.read s.zone wholes = .ok gs := by
  refine exists_mapM_eq_ok.2 fun q hq => ?_
  obtain ⟨p, hp, hpq⟩ := exists_left_of_mem h hq
  obtain ⟨f, hf⟩ := exists_mapM_eq_ok.1 ⟨fs, hfs⟩ p hp
  exact hpq.exists_message hf (hread q hq)

/-- what is found in whole messages is found in their headers -/
theorem foundIn_headers (ht : t.needsBody = false) {ns : List Int}
    (hfound : t.foundIn s status wholes = .ok ns) : t.foundIn s status headers = .ok ns := by
  obtain ⟨hok, gs, hgs, hns⟩ := foundIn_eq_ok.1 hfound
  obtain ⟨fs, hfs, halike⟩ := exists_read_headers h hgs
  exact foundIn_eq_ok.2 ⟨hok, fs, hfs, (numbersAmong_alike halike ht).2 hns⟩

/-- what is found in headers is found in the messages, if these can be read -/
theorem foundIn_wholes (ht : t.needsBody = false) {ns : List Int}
    (hread : ∀ q ∈ Fetch.literals wholes, ∃ m, Message.read q.2 = .ok m)
    (hfound : t.foundIn s status headers = .ok ns) : t.foundIn s status wholes = .ok ns := by
  obtain ⟨hok, fs, hfs, hns⟩ := foundIn_eq_ok.1 hfound
  obtain ⟨gs, hgs⟩ := exists_read_wholes h hfs hread
  obtain ⟨fs', hfs', halike⟩ := exists_read_headers h hgs
  cases hfs.symm.trans hfs'
  exact foundIn_eq_ok.2 ⟨hok, gs, hgs, (numbersAmong_alike halike ht).1 hns⟩

end

theorem read_of_foundIn {ns : List Int} (hfound : t.foundIn s status wholes = .ok ns) :
    ∀ q ∈ Fetch.literals wholes, ∃ m, Message.read q.2 = .ok m := by
  intro q hq
  obtain ⟨-, gs, hgs, -⟩ := foundIn_eq_ok.1 hfound
  obtain ⟨g, hg⟩ := exists_mapM_eq_ok.1 ⟨gs, hgs⟩ q hq
  exact ⟨_, (Fetch.message_eq_ok.1 hg).2.2.2.2⟩

/-- **Headers are enough.**  For a tree that looks at no body, let a fetch answer once with headers and
once with messages that begin with these headers.  Either the same numbers are found or both searches
fail, exactly if all messages can be read or the search in the headers fails by itself. -/
theorem findByFetching_headers_only (ht : t.needsBody = false)
    (h : List.Forall₂ (Fetch.SameHeader s.zone) (Fetch.literals headers) (Fetch.literals wholes)) :
    SameOutcome (t.foundIn s status headers) (t.foundIn s status wholes) ↔
      (∀ q ∈ Fetch.literals wholes, ∃ m, Message.read q.2 = .ok m) ∨
        ∃ e, t.foundIn s status headers = .error e := by
  constructor
  · rintro (⟨ns, -, hwholes⟩ | ⟨hheaders, -⟩)
    · exact .inl (read_of_foundIn hwholes)
    · exact .inr hheaders
  · intro hcases
    cases hheaders : t.foundIn s status headers with
    | ok ns =>
      obtain hread | ⟨e, he⟩ := hcases
      · exact .inl ⟨ns, rfl, foundIn_wholes h ht hread hheaders⟩
      · cases hheaders.symm.trans he
    | error e =>
      refine .inr ⟨⟨e, rfl⟩, ?_⟩
      cases hwholes : t.foundIn s status wholes with
      | ok ns => cases hheaders.symm.trans (foundIn_headers h ht hwholes)
      | error e' => exact ⟨e', rfl⟩

/-! ## a part with a broken header -/

/-- a filter that asks for a name -/
def namedAnn : Tree := .leaf (.sender (.personal "Ann"))

/-- what a server says of a message, and which section of it was fetched -/
def about (part : Text) : Octets :=
  Text.toOctets ("1 (FLAGS () RFC822.SIZE 100 BODY[" ++ part ++ "] \x7b100\x7d")

/-- the header of a message with parts -/
def partedHeader : Octets :=
  Text.toOctets "From: Ann <a@b.org>\r\nContent-Type: multipart/mixed; boundary=X\r\n\r\n"

/-- one part, with these fields -/
def onePart (fields : Text) : Octets := Text.toOctets ("--X\r\n" ++ fields ++ "\r\nhi\r\n--X--\r\n")

theorem sameHeader_parted (body : Octets) :
    List.Forall₂ (Fetch.SameHeader Session.quiet.zone)
      (Fetch.literals [.literal (about "HEADER") partedHeader])
      (Fetch.literals [.literal (about []) (partedHeader ++ body)]) := by
  refine .cons ⟨rfl, rfl, rfl, ?_, rfl, ?_, ⟨body, rfl⟩⟩ .nil
  · have hsize : Fetch.size? (Text.ofMail (about "HEADER")) = .ok (some 100) := rfl
    rw [hsize]
    exact nofun
  · exact ⟨[Text.toOctets "From: Ann <a@b.org>\r\n",
      Text.toOctets "Content-Type: multipart/mixed; boundary=X\r\n"], [13, 10], rfl, rfl⟩

theorem findByFetching_headers_only_parted :
    namedAnn.needsBody = false ∧
    SameOutcome (namedAnn.foundIn Session.quiet "OK" [.literal (about "HEADER") partedHeader])
      (namedAnn.foundIn Session.quiet "OK" [.literal (about []) (partedHeader ++ onePart [])]) := by
  have hread : (Message.read (partedHeader ++ onePart [])).toOption.isSome = true := by decide +kernel
  have hwhole : ∃ m, Message.read (partedHeader ++ onePart []) = .ok m := by
    cases h : Message.read (partedHeader ++ onePart []) with
    | ok m => exact ⟨m, rfl⟩
    | error e =>
      rw [h] at hread
      cases hread
  refine ⟨rfl, (findByFetching_headers_only rfl (sameHeader_parted _)).2 (.inl ?_)⟩
  intro q hq
  rw [List.mem_singleton.1 hq]
  exact hwhole

/-- a part whose parameter breaks off keeps the message from being read, not its header: the message is
found if only headers are fetched -/
theorem findByFetching_broken_part :
    (namedAnn.foundIn Session.quiet "OK" [.literal (about "HEADER") partedHeader]).toOption = some [1] ∧
    ¬SameOutcome (namedAnn.foundIn Session.quiet "OK" [.literal (about "HEADER") partedHeader])
      (namedAnn.foundIn Session.quiet "OK" [.literal (about [])
        (partedHeader ++ onePart "Content-Type: text/plain; a*0*\r\n")]) := by
  have hheaders : (namedAnn.foundIn Session.quiet "OK"
      [.literal (about "HEADER") partedHeader]).toOption = some [1] := by decide +kernel
  have hwholes : (namedAnn.foundIn Session.quiet "OK" [.literal (about [])
      (partedHeader ++ onePart "Content-Type: text/plain; a*0*\r\n")]).toOption = none := by
    decide +kernel
  refine ⟨hheaders, ?_⟩
  rintro (⟨ns, -, h⟩ | ⟨⟨e, h⟩, -⟩)
  · rw [h] at hwholes
    cases hwholes
  · rw [h] at hheaders
    cases hheaders

end Tree
end Mailroom
