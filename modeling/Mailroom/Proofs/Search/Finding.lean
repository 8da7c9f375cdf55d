import Mathlib.Data.List.Sort
import Mailroom.Imap.Search
import Mailroom.Proofs.Imap.Answers
import Mailroom.Proofs.Lists

/-!
# What a search finds, and whom it asks

A filter is asked of the server once, and its answer decides how the search goes on; a filter that asks
for a name is never sent.

* `IsAscending`        the numbers of a list, in ascending order;
* `FoundByFetching`    the numbers of the fetched messages that fulfil a tree;
* `Lists`              an item of an answer lists some numbers;
* `find_asks_server`   what is asked and what is found, for every answer;
* `find_overlooks`     numbers behind the first item of an answer are not found.
-/

namespace Mailroom

open Program

/-! ## numbers in order -/

/-- a list holds the numbers of another list in ascending order -/
def IsAscending (ns listed : List Int) : Prop := ns.Pairwise (· ≤ ·) ∧ ns.Perm listed

theorem isAscending_iff {ns listed : List Int} : IsAscending ns listed ↔ ns = Tree.sorted listed := by
  have hsorted : (Tree.sorted listed).Pairwise (· ≤ ·) :=
    List.pairwise_mergeSort' (· ≤ ·) listed
  have hperm : (Tree.sorted listed).Perm listed := List.mergeSort_perm _ _
  constructor
  · rintro ⟨hns, hp⟩
    exact (hp.trans hperm.symm).eq_of_pairwise' hns hsorted
  · rintro rfl
    exact ⟨hsorted, hperm⟩

/-- numbers of one list in order are those of a longer one only if nothing was added -/
theorem IsAscending.append_iff {ns first others : List Int} (h : IsAscending ns first) :
    IsAscending ns (first ++ others) ↔ others = [] := by
  constructor
  · rintro ⟨-, hperm⟩
    have hlength := (h.2.symm.trans hperm).length_eq
    rw [List.length_append] at hlength
    exact List.length_eq_zero_iff.1 (by omega)
  · rintro rfl
    rwa [List.append_nil]

namespace Tree

variable {t : Tree} {zone : Zone} {s : Session} {criteria : Text}

/-! ## message by message -/

/-- the numbers of the messages that fulfil a tree, among the messages of the answer to a fetch of all;
the answer can be read, and the tree fails on none of them -/
def FoundByFetching (t : Tree) (s : Session) (ns : List Int) : Prop :=
  ∃ fs, s.imap.fetched "1:*" >>= Imap.messagesOf s.zone "1:*" = .ok fs ∧
    (∀ f ∈ fs, ∃ b, t.holds s.zone f = .ok b) ∧
    IsAscending ns ((fs.filter fun f => saysYes (t.holds s.zone f)).map Fetched.number)

/-- the fetch of all messages, with bodies only for a tree that looks at them -/
def fetchCall (t : Tree) : Call :=
  .fetch "1:*" (if t.needsBody then Imap.wholeItems else Imap.headerItems)

theorem numbersAmong_eq_ok {fs : List Fetched} {ns : List Int} :
    t.numbersAmong zone fs = .ok ns ↔
      (∀ f ∈ fs, ∃ b, t.holds zone f = .ok b) ∧
      IsAscending ns ((fs.filter fun f => saysYes (t.holds zone f)).map Fetched.number) := by
  unfold numbersAmong
  simp only [bind_eq_ok, filterM_eq_ok, pure_eq_ok, isAscending_iff]
  constructor
  · rintro ⟨_, ⟨hall, rfl⟩, rfl⟩
    exact ⟨hall, rfl⟩
  · rintro ⟨hall, rfl⟩
    exact ⟨_, ⟨hall, rfl⟩, rfl⟩

theorem runIn_findByFetching (t : Tree) (s : Session) :
    t.findByFetching.runIn s
      = (s.imap.fetched "1:*" >>= Imap.messagesOf s.zone "1:*" >>= t.numbersAmong s.zone,
        { s with calls := s.calls ++ [t.fetchCall] }) := by
  unfold findByFetching fetchCall
  rw [runIn_bind, Imap.runIn_fetchMessages]
  cases s.imap.fetched "1:*" >>= Imap.messagesOf s.zone "1:*" <;> rfl

theorem findByFetching_eq_ok {ns : List Int} :
    (t.findByFetching.runIn s).1 = .ok ns ↔ t.FoundByFetching s ns := by
  rw [runIn_findByFetching]
  simp only [FoundByFetching, bind_eq_ok (f := t.numbersAmong s.zone), numbersAmong_eq_ok]

theorem calls_findByFetching : (t.findByFetching.runIn s).2.calls = s.calls ++ [t.fetchCall] := by
  rw [runIn_findByFetching]

/-! ## the answer of the server -/

/-- an item of an answer lists these numbers, between blanks -/
def Lists (i : FetchItem) (ns : List Int) : Prop :=
  ∃ ws, Imap.words i = .ok ws ∧ ws.mapM WholeNumber.ofOctets = .ok ns

/-- the search for criteria: as text, or as octets where the text is not ASCII -/
def searchCall (criteria : Text) : Call :=
  if criteria.all Text.isAscii then .search none (.text criteria)
  else .search (some "UTF-8") (.octets (Utf8.encode criteria))

/-- the server says no to a search whose text is not ASCII -/
def Declines (criteria : Text) (r : Reply) : Prop :=
  r.status = "NO".toList ∧ criteria.all Text.isAscii = false

instance (criteria : Text) (r : Reply) : Decidable (Declines criteria r) :=
  inferInstanceAs (Decidable (_ ∧ _))

/-- the numbers of an answer are those of its first item -/
theorem numbersOf_of_lists {r : Reply} (hr : r.status = "OK".toList) {groups : List (List Int)}
    (h : List.Forall₂ Lists (r.data.getD []) groups) :
    numbersOf criteria r = .ok (sorted (groups.headD [])) := by
  unfold numbersOf Imap.firstWords
  rw [if_neg (not_not_intro hr)]
  rcases hdata : r.data with _ | _ | ⟨i, rest⟩ <;> rw [hdata] at h
  · cases h
    rfl
  · cases h
    rfl
  · obtain ⟨ns, nss, ⟨ws, hws, hns⟩, -, rfl⟩ := List.forall₂_cons_left_iff.1 h
    exact bind_eq_ok.2 ⟨ws, hws, bind_eq_ok.2 ⟨ns, hns, rfl⟩⟩

theorem numbersOf_of_not_ok {r : Reply} (hr : r.status ≠ "OK".toList) :
    ∃ text, numbersOf criteria r = .error (.imap text) := by
  unfold numbersOf
  rw [if_pos hr]
  exact ⟨_, rfl⟩

/-! ## whom a search asks -/

/-- the session behind a search that the server answered -/
def afterSearch (criteria : Text) (s : Session) : Session :=
  { s with calls := s.calls ++ [searchCall criteria], imap := s.imap.afterSearch }

theorem runIn_find_of_hasPersonal (hc : t.criteria s.zone = .ok criteria) (hp : t.hasPersonal = true) :
    t.find.runIn s = t.findByFetching.runIn s := by
  unfold find
  rw [runIn_bind, runIn_session]
  dsimp only
  rw [hc, runIn_settle_bind]
  dsimp only
  rw [if_pos hp]

/-- one search, and what its answer decides -/
theorem runIn_find_of_not_hasPersonal (hc : t.criteria s.zone = .ok criteria)
    (hp : t.hasPersonal = false) :
    t.find.runIn s = match s.imap.nextSearch with
      | .error f => (.error f, afterSearch criteria s)
      | .ok r =>
        if Declines criteria r then t.findByFetching.runIn (afterSearch criteria s)
        else (numbersOf criteria r, afterSearch criteria s) := by
  unfold find afterSearch searchCall
  rw [runIn_bind, runIn_session]
  dsimp only
  rw [hc, runIn_settle_bind]
  dsimp only
  rw [if_neg (by rw [hp]; exact Bool.false_ne_true)]
  by_cases hascii : criteria.all Text.isAscii = true
  · rw [if_pos hascii, if_pos hascii, runIn_bind, Imap.runIn_search]
    cases s.imap.nextSearch with
    | error f => rfl
    | ok r =>
      have hgoes : ¬Declines criteria r := fun h => Bool.false_ne_true (h.2.symm.trans hascii)
      dsimp only
      rw [if_neg hgoes]
      rfl
  · rw [if_neg hascii, if_neg hascii, runIn_bind, Imap.runIn_search]
    cases s.imap.nextSearch with
    | error f => rfl
    | ok r =>
      dsimp only
      by_cases hno : r.status = "NO".toList
      · have hdeclined : Declines criteria r := ⟨hno, Bool.eq_false_iff.2 hascii⟩
        rw [if_pos hno, if_pos hdeclined]
      · have hgoes : ¬Declines criteria r := fun h => hno h.1
        rw [if_neg hno, if_neg hgoes]
        rfl

theorem foundByFetching_afterSearch {ns : List Int} :
    t.FoundByFetching (afterSearch criteria s) ns ↔ t.FoundByFetching s ns := by
  unfold FoundByFetching afterSearch
  rw [ImapScript.fetched_afterSearch]

/-- how a search goes on by the answer of the server -/
structure Answered (t : Tree) (criteria : Text) (s : Session) (r : Reply) : Prop where
  /-- a text that the server does not read is evaluated message by message -/
  declined : Declines criteria r →
    (t.find.runIn s).2.calls = s.calls ++ [searchCall criteria, t.fetchCall] ∧
    ∀ ns, (t.find.runIn s).1 = .ok ns ↔ t.FoundByFetching s ns
  /-- an answer that is accepted gives the numbers of its first item, which are all its numbers exactly
  if the other items list none -/
  accepted : r.status = "OK".toList →
    (t.find.runIn s).2.calls = s.calls ++ [searchCall criteria] ∧
    ∀ groups, List.Forall₂ Lists (r.data.getD []) groups →
      ∃ ns, (t.find.runIn s).1 = .ok ns ∧ IsAscending ns (groups.headD []) ∧
        (IsAscending ns groups.flatten ↔ groups.tail.flatten = [])
  /-- every other answer is a fault -/
  refused : ¬Declines criteria r → r.status ≠ "OK".toList →
    (t.find.runIn s).2.calls = s.calls ++ [searchCall criteria] ∧
    ∃ text, (t.find.runIn s).1 = .error (.imap text)

theorem answered_of_nextSearch (hc : t.criteria s.zone = .ok criteria) (hp : t.hasPersonal = false)
    {r : Reply} (hr : s.imap.nextSearch = .ok r) : t.Answered criteria s r := by
  have hrun := runIn_find_of_not_hasPersonal hc hp
  rw [hr] at hrun
  dsimp only at hrun
  constructor
  case declined =>
    intro hno
    rw [hrun, if_pos hno]
    refine ⟨?_, fun ns => findByFetching_eq_ok.trans foundByFetching_afterSearch⟩
    rw [calls_findByFetching]
    exact List.append_assoc _ _ _
  case accepted =>
    intro hok
    have hgoes : ¬Declines criteria r := by
      rintro ⟨hno, -⟩
      exact absurd (hok.symm.trans hno) (by decide)
    rw [hrun, if_neg hgoes]
    refine ⟨rfl, fun groups hgroups => ⟨_, numbersOf_of_lists hok hgroups, ?_⟩⟩
    have hfirst : IsAscending (sorted (groups.headD [])) (groups.headD []) := isAscending_iff.2 rfl
    refine ⟨hfirst, ?_⟩
    rw [← hfirst.append_iff]
    cases groups <;> rfl
  case refused =>
    intro hgoes hbad
    rw [hrun, if_neg hgoes]
    exact ⟨rfl, numbersOf_of_not_ok hbad⟩

/-- **Whom a search asks and what it finds.**  A tree that can be written as a search program and asks
for a name is never sent: all messages are fetched, and those that fulfil it are found.  Every other tree
is sent once.  If the server fails, so does the search; otherwise it goes on by the answer. -/
theorem find_asks_server (hc : t.criteria s.zone = .ok criteria) :
    (t.hasPersonal = true →
      (t.find.runIn s).2.calls = s.calls ++ [t.fetchCall] ∧
      ∀ ns, (t.find.runIn s).1 = .ok ns ↔ t.FoundByFetching s ns) ∧
    (t.hasPersonal = false →
      (∀ f, s.imap.nextSearch = .error f →
        (t.find.runIn s).1 = .error f ∧
        (t.find.runIn s).2.calls = s.calls ++ [searchCall criteria]) ∧
      ∀ r, s.imap.nextSearch = .ok r → t.Answered criteria s r) := by
  refine ⟨fun hp => ?_, fun hp => ⟨fun f hf => ?_, fun r hr => answered_of_nextSearch hc hp hr⟩⟩
  · rw [runIn_find_of_hasPersonal hc hp]
    exact ⟨calls_findByFetching, fun ns => findByFetching_eq_ok⟩
  · rw [runIn_find_of_not_hasPersonal hc hp, hf]
    exact ⟨rfl, rfl⟩

/-! ## lines of numbers -/

/-- an answer of lines to a search that was accepted -/
def lines (bs : List Octets) : Reply := ⟨"OK", some (bs.map .line)⟩

/-- a session whose server answers searches with these lines -/
def listing (bs : List Octets) : Session :=
  { Session.quiet with imap := { Session.quiet.imap with search := [.ok (lines bs)] } }

/-- the filter `flag:seen` -/
def seen : Tree := .leaf (.flag seenFlag true)

theorem find_asks_server_listing :
    seen.criteria (listing [[55, 32, 50], []]).zone = .ok "(SEEN)" ∧ seen.hasPersonal = false ∧
    seen.Answered "(SEEN)" (listing [[55, 32, 50], []]) (lines [[55, 32, 50], []]) :=
  ⟨rfl, rfl, ((find_asks_server rfl).2 rfl).2 _ rfl⟩

/-- an answer of two lines, `1 2` and `3`, finds the messages of the first line only -/
theorem find_overlooks :
    (seen.find.runIn (listing [[49, 32, 50], [51]])).1 = .ok [1, 2] ∧
    List.Forall₂ Lists [.line [49, 32, 50], .line [51]] [[1, 2], [3]] ∧
    ¬IsAscending [1, 2] [1, 2, 3] := by
  have hlists : List.Forall₂ Lists ((lines [[49, 32, 50], [51]]).data.getD []) [[1, 2], [3]] :=
    .cons ⟨[[49], [50]], rfl, rfl⟩ (.cons ⟨[[51]], rfl, rfl⟩ .nil)
  have hnumbers : numbersOf "(SEEN)" (lines [[49, 32, 50], [51]]) = .ok (sorted [1, 2]) :=
    numbersOf_of_lists rfl hlists
  have hsorted : sorted [1, 2] = [1, 2] := (isAscending_iff.1 ⟨by decide, .refl _⟩).symm
  have hrun : seen.find.runIn (listing [[49, 32, 50], [51]])
      = (numbersOf "(SEEN)" (lines [[49, 32, 50], [51]]),
        afterSearch "(SEEN)" (listing [[49, 32, 50], [51]])) :=
    runIn_find_of_not_hasPersonal rfl rfl
  rw [hrun, hnumbers, hsorted]
  exact ⟨rfl, hlists, fun h => absurd h.2.length_eq (by decide)⟩

end Tree
end Mailroom
