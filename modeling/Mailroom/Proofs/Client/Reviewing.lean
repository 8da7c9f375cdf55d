import Mathlib.Data.List.DropRight
import Mailroom.Proofs.Client.Paging
import Mailroom.Proofs.Client.Reading

/-!
# What reviewing a folder does

A folder is reviewed in steps: its unread messages are counted, its messages are chosen, and those are
shown one after the other.  Up to the choice only searches and fetches are asked for.

* `Session.Looked`       what counting and choosing do to a session;
* `IsLooking`            the calls by which a filter is looked for;
* `Reviewed`, `reviewed_of_run`   the ways a review can go;
* `Matching`             the numbers of the messages that match;
* `chosenOf`, `inOrder`  which of them are chosen, and in which order they are shown;
* `review_shows`         the messages that are shown, and when all of them are.
-/

namespace Mailroom

open Program

/-- something was printed -/
def Session.say (s : Session) (text : Text) : Session := { s with output := s.output ++ text }

theorem Session.say_say (s : Session) (a b : Text) : (s.say a).say b = s.say (a ++ b) := by
  unfold Session.say
  rw [List.append_assoc]

/-- these calls were made, and nothing was used up but answers to searches -/
structure Session.Looked (s : Session) (cs : List Call) (t : Session) : Prop where
  rest : t = { s with
    imap := { s.imap with search := t.imap.search }, calls := s.calls ++ cs, output := t.output }
  output : s.output <+: t.output
  answers : t.imap.answers ⊆ s.imap.answers

namespace Session.Looked

variable {s₀ s t u : Session} {cs ds : List Call}

theorem refl (s : Session) : s.Looked [] s :=
  ⟨by rw [List.append_nil], List.prefix_rfl, List.Subset.refl _⟩

theorem trans (h : s.Looked cs t) (h' : t.Looked ds u) : s.Looked (cs ++ ds) u :=
  ⟨by rw [h'.rest, h.rest, List.append_assoc], h.output.trans h'.output,
    List.Subset.trans h'.answers h.answers⟩

theorem say (h : s.Looked cs t) (text : Text) : s.Looked cs (t.say text) := by
  refine ⟨?_, h.output.trans (List.prefix_append _ _), h.answers⟩
  rw [h.rest]
  rfl

theorem calls (h : s.Looked cs t) : t.calls = s.calls ++ cs := by rw [h.rest]

theorem follows (h : s.Looked cs t) : s.Follows t := by
  refine ⟨?_, ?_, ?_, ?_, ?_, h.answers⟩ <;> rw [h.rest]

/-- a search was asked for -/
theorem searched (s : Session) (c : Call) :
    s.Looked [c] { s with calls := s.calls ++ [c], imap := s.imap.afterSearch } := by
  refine ⟨?_, List.prefix_rfl, ImapScript.answers_afterSearch⟩
  unfold ImapScript.afterSearch
  split <;> rfl

/-- a fetch was asked for -/
theorem called (s : Session) (c : Call) : s.Looked [c] { s with calls := s.calls ++ [c] } :=
  ⟨rfl, List.prefix_rfl, List.Subset.refl _⟩

end Session.Looked

/-! ## counting and looking -/

namespace Imap

/-- the search for unread messages -/
def unseenCall : Call := .search none (.text "UNSEEN")

theorem looked_unseenCount (s : Session) : s.Looked [unseenCall] (unseenCount.runIn s).2 := by
  unfold unseenCount
  rw [runIn_bind, runIn_search]
  have hsearched := Session.Looked.searched s unseenCall
  cases s.imap.nextSearch with
  | error f => exact hsearched
  | ok r =>
    dsimp only
    split
    · rw [runIn_bind, runIn_settle]
      cases firstWords r <;> exact hsearched
    · exact hsearched

end Imap

namespace Tree

variable {t : Tree} {criteria : Text} {s : Session}

/-- a filter is looked for by at most one search and at most one fetch of all messages -/
theorem looked_find (hc : t.criteria s.zone = .ok criteria) :
    ∃ cs, s.Looked cs (t.find.runIn s).2 ∧ cs.Sublist [searchCall criteria, t.fetchCall] := by
  have hfetching : ∀ u : Session, u.Looked [t.fetchCall] (t.findByFetching.runIn u).2 := fun u => by
    rw [runIn_findByFetching]
    exact .called u _
  cases hp : t.hasPersonal with
  | true =>
    rw [runIn_find_of_hasPersonal hc hp]
    exact ⟨_, hfetching s, .cons _ (.refl _)⟩
  | false =>
    rw [runIn_find_of_not_hasPersonal hc hp]
    have hsearched : s.Looked [searchCall criteria] (afterSearch criteria s) := .searched s _
    have hone : [searchCall criteria].Sublist [searchCall criteria, t.fetchCall] :=
      (List.nil_sublist _).cons_cons _
    cases s.imap.nextSearch with
    | error f => exact ⟨_, hsearched, hone⟩
    | ok r =>
      dsimp only
      split
      · exact ⟨_, hsearched.trans (hfetching _), .refl _⟩
      · exact ⟨_, hsearched, hone⟩

end Tree

namespace Client

variable {s t : Session} {tree : Option Tree} {count : Int}

/-- the calls by which a filter is looked for: in a folder that is not empty at most one search, and at
most one fetch of all messages -/
def IsLooking (zone : Zone) (tree : Option Tree) (count : Int) (cs : List Call) : Prop :=
  cs = [] ∨ count ≠ 0 ∧ ∃ t criteria, tree = some t ∧ t.criteria zone = .ok criteria ∧
    cs.Sublist [Tree.searchCall criteria, t.fetchCall]

theorem runIn_select (hcount : count ≠ 0) (tree : Option Tree) (limit : Option Int) (oldest : Bool)
    (s : Session) :
    (select count tree limit oldest).runIn s = match tree with
      | none => (.ok (chosenFrom (allNumbers count) limit oldest), s)
      | some t => ((t.find.runIn s).1.map (chosenFrom · limit oldest), (t.find.runIn s).2) := by
  unfold select
  rw [if_neg hcount]
  cases tree with
  | none => rfl
  | some t => exact runIn_bind_pure t.find _ s

theorem looked_select (hc : ∀ t, tree = some t → ∃ c, t.criteria s.zone = .ok c) (count : Int)
    (limit : Option Int) (oldest : Bool) :
    ∃ cs, s.Looked cs ((select count tree limit oldest).runIn s).2 ∧ IsLooking s.zone tree count cs := by
  by_cases hempty : count = 0
  · unfold select
    rw [if_pos hempty]
    exact ⟨[], .refl s, .inl rfl⟩
  rw [runIn_select hempty]
  cases tree with
  | none => exact ⟨[], .refl s, .inl rfl⟩
  | some t =>
    obtain ⟨criteria, hcriteria⟩ := hc t rfl
    obtain ⟨cs, hlooked, hsub⟩ := Tree.looked_find hcriteria
    exact ⟨cs, hlooked, .inr ⟨hempty, t, criteria, rfl, hcriteria, hsub⟩⟩

/-! ## the ways of a review -/

/-- messages that are chosen, in the order in which they are shown -/
def inOrder (options : Options) (chosen : List Int) : List Int :=
  if options.reverse then chosen else chosen.reverse

/-- the directory below which parts are saved, if they are -/
def belowOf (options : Options) (s : Session) : Option Text :=
  if options.download then some s.disk.home else none

/-- the ways of a review: its filter is refused; the unread messages cannot be counted; the messages
cannot be chosen; none is chosen; or those that are chosen are shown -/
inductive Reviewed (s : Session) (count : Int) (options : Options) (own : Option Mailbox) (limit : Int) :
    Except Fault Nat → Session → Prop
  | refused {x : Text} {e : Fault} (hx : options.filter = some x)
      (he : Filter.compile s.zone x = .error e) : Reviewed s count options own limit (.error e) s
  | uncounted {tree : Option Tree} {e : Fault} {u : Session}
      (htree : IsTreeOf s.zone options.filter tree) (hunseen : Imap.unseenCount.runIn s = (.error e, u)) :
      Reviewed s count options own limit (.error e) u
  | unchosen {tree : Option Tree} {unseen : Nat} {line : Text} {e : Fault} {u v : Session}
      (htree : IsTreeOf s.zone options.filter tree)
      (hunseen : Imap.unseenCount.runIn s = (.ok unseen, u))
      (hchosen : (select count tree options.limit options.oldest).runIn (u.say line) = (.error e, v)) :
      Reviewed s count options own limit (.error e) v
  | empty {tree : Option Tree} {unseen : Nat} {line lines : Text} {chosen : Selection} {u v : Session}
      (htree : IsTreeOf s.zone options.filter tree)
      (hunseen : Imap.unseenCount.runIn s = (.ok unseen, u))
      (hchosen : (select count tree options.limit options.oldest).runIn (u.say line) = (.ok chosen, v))
      (hnone : chosen.numbers = []) : Reviewed s count options own limit (.ok 0) (v.say lines)
  | paged {tree : Option Tree} {unseen : Nat} {line lines : Text} {chosen : Selection} {u v t : Session}
      {r : Except Fault Nat} (htree : IsTreeOf s.zone options.filter tree)
      (hunseen : Imap.unseenCount.runIn s = (.ok unseen, u))
      (hchosen : (select count tree options.limit options.oldest).runIn (u.say line) = (.ok chosen, v))
      (hsome : chosen.numbers ≠ [])
      (hpage : (page own (belowOf options s) limit (inOrder options chosen.numbers)).runIn (v.say lines)
        = (r, t)) : Reviewed s count options own limit r t

/-- a tree that comes of a filter can be written for the server -/
theorem criteria_of_isTreeOf {zone : Zone} {filter : Option Text} (h : IsTreeOf zone filter tree) :
    ∀ t, tree = some t → ∃ c, t.criteria zone = .ok c := by
  rintro t rfl
  cases filter with
  | none => cases h
  | some x =>
    obtain ⟨t', hcompile, ht⟩ := h
    cases ht
    exact (Search.written_of_compile hcompile).1

/-- chosen messages shown -/
def showing (options : Options) (own : Option Mailbox) (limit : Int) (chosen : Selection) :
    Program Nat := do
  if chosen.numbers.isEmpty then return 0
  else page own (belowOf options (← session)) limit (inOrder options chosen.numbers)

/-- counting, choosing and showing, with some lines between them -/
theorem reviewed_of_steps {options : Options} {own : Option Mailbox} {limit : Int}
    (htree : IsTreeOf s.zone options.filter tree) {line : Nat → Text} {rest : Selection → Program Nat}
    (hrest : ∀ chosen v, v.zone = s.zone → ∃ lines,
      (rest chosen).runIn v = (showing options own limit chosen).runIn (v.say lines))
    {r : Except Fault Nat}
    (h : (do
      let unseen ← Imap.unseenCount
      printLine (line unseen)
      let chosen ← select count tree options.limit options.oldest
      rest chosen).runIn s = (r, t)) : Reviewed s count options own limit r t := by
  have hcounted := Imap.looked_unseenCount s
  rw [runIn_bind] at h
  cases hunseen : Imap.unseenCount.runIn s with
  | mk r' u =>
    rw [hunseen] at h hcounted
    cases r' with
    | error e =>
      cases h
      exact .uncounted htree hunseen
    | ok unseen =>
      have hsaid : s.Looked [Imap.unseenCall] (u.say (line unseen ++ ['\n'])) := hcounted.say _
      have hc := criteria_of_isTreeOf htree
      rw [← hsaid.follows.zone] at hc
      obtain ⟨cs, hlooked, -⟩ := looked_select hc count options.limit options.oldest
      change (select count tree options.limit options.oldest >>= rest).runIn
        (u.say (line unseen ++ ['\n'])) = (r, t) at h
      rw [runIn_bind] at h
      cases hchosen : (select count tree options.limit options.oldest).runIn
          (u.say (line unseen ++ ['\n'])) with
      | mk r' v =>
        rw [hchosen] at h hlooked
        cases r' with
        | error e =>
          cases h
          exact .unchosen htree hunseen hchosen
        | ok chosen =>
          have hall := hsaid.trans hlooked
          obtain ⟨lines, hrun⟩ := hrest chosen v hall.follows.zone
          dsimp only at h
          rw [hrun] at h
          unfold showing at h
          by_cases hnone : chosen.numbers = []
          · rw [if_pos (List.isEmpty_iff.2 hnone)] at h
            cases h
            exact .empty htree hunseen hchosen hnone
          · rw [if_neg (fun he => hnone (List.isEmpty_iff.1 he)), runIn_bind, runIn_session] at h
            have hbelow : belowOf options (v.say lines) = belowOf options s := by
              unfold belowOf
              rw [show (v.say lines).disk.home = s.disk.home from hall.follows.home]
            dsimp only at h
            rw [hbelow] at h
            exact .paged htree hunseen hchosen hnone h

/-- a review goes one of these ways -/
theorem reviewed_of_run {folder : Text} {options : Options} {own : Option Mailbox} {limit : Int}
    {r : Except Fault Nat} (h : (review count folder options own limit).runIn s = (r, t)) :
    Reviewed s count options own limit r t := by
  unfold review at h
  rw [runIn_bind, runIn_session] at h
  dsimp only at h
  cases hfilter : options.filter with
  | none =>
    rw [hfilter] at h
    have htree : IsTreeOf s.zone options.filter none := by rw [hfilter]; rfl
    exact reviewed_of_steps htree (fun _ _ _ => ⟨_, rfl⟩) h
  | some x =>
    rw [hfilter] at h
    dsimp only at h
    cases hcompile : Filter.compile s.zone x with
    | error e =>
      rw [hcompile] at h
      cases h
      exact .refused hfilter hcompile
    | ok tree =>
      rw [hcompile] at h
      obtain ⟨shown, hshown⟩ : ∃ shown, tree.describe s.zone = .ok shown :=
        Tree.exists_describe (Filter.isWhole_of_compile hcompile) (Filter.resolved_of_compile hcompile)
      have htree : IsTreeOf s.zone options.filter (some tree) := by
        rw [hfilter]
        exact ⟨tree, hcompile, rfl⟩
      refine reviewed_of_steps htree (fun _ _ _ => ?_) h
      dsimp only
      rw [hshown]
      -- the lines of the filter, of the messages found and of those chosen
      exact ⟨_, congrArg (showing options own limit _).runIn ((Session.say_say _ _ _).trans
        (Session.say_say _ _ _))⟩

end Client

/-! ## messages that match -/

/-- the answer to the next search lists no numbers behind its first item -/
def ImapScript.ListsAtOnce (script : ImapScript) : Prop :=
  ∀ r groups, script.nextSearch = .ok r → List.Forall₂ Tree.Lists (r.data.getD []) groups →
    groups.tail.flatten = []

/-- the numbers of the messages that match a filter, ascending: of those that fulfil it, where it asks for
a name or the server cannot read it, and else all that the server lists -/
inductive Tree.Matched (t : Tree) (criteria : Text) (s : Session) (ns : List Int) : Prop
  | named (hp : t.hasPersonal = true) (h : t.FoundByFetching s ns) : t.Matched criteria s ns
  | declined {r : Reply} (hp : t.hasPersonal = false) (hr : s.imap.nextSearch = .ok r)
      (hno : Declines criteria r) (h : t.FoundByFetching s ns) : t.Matched criteria s ns
  | listed {r : Reply} {groups : List (List Int)} (hp : t.hasPersonal = false)
      (hr : s.imap.nextSearch = .ok r) (hok : r.status = "OK".toList)
      (hgroups : List.Forall₂ Lists (r.data.getD []) groups) (h : IsAscending ns groups.flatten) :
      t.Matched criteria s ns

theorem Tree.find_of_matched {t : Tree} {criteria : Text} {s : Session} {ns : List Int}
    (hc : t.criteria s.zone = .ok criteria) (h : t.Matched criteria s ns)
    (honce : s.imap.ListsAtOnce) : (t.find.runIn s).1 = .ok ns := by
  cases h with
  | named hp h =>
    rw [runIn_find_of_hasPersonal hc hp]
    exact findByFetching_eq_ok.2 h
  | declined hp hr hno h => exact (((answered_of_nextSearch hc hp hr).declined hno).2 ns).2 h
  | listed hp hr hok hgroups h =>
    obtain ⟨ns', hrun, -, hall⟩ := ((answered_of_nextSearch hc hp hr).accepted hok).2 _ hgroups
    have hsame : ns' = ns :=
      (isAscending_iff.1 (hall.2 (honce _ _ hr hgroups))).trans (isAscending_iff.1 h).symm
    rw [hrun, hsame]

namespace Client

variable {s t : Session} {tree : Option Tree} {count : Int}

/-- the session behind the count of unread messages -/
def counted (s : Session) : Session := (Imap.unseenCount.runIn s).2

/-- the numbers of the messages that match, ascending: all messages without a filter -/
inductive Matching (s : Session) (count : Int) : Option Tree → List Int → Prop
  | all : Matching s count none (allNumbers count)
  | empty {t : Tree} (h : count = 0) : Matching s count (some t) []
  | filter {t : Tree} {criteria : Text} {ns : List Int} (h : count ≠ 0)
      (hc : t.criteria s.zone = .ok criteria) (ht : t.Matched criteria (counted s) ns) :
      Matching s count (some t) ns

/-- the messages that are chosen: the last ones up to a limit, or the first ones -/
def chosenOf (options : Options) (ns : List Int) : List Int :=
  match options.limit with
  | none => ns
  | some n => if options.oldest then ns.take n.toNat else ns.rtake n.toNat

theorem chosenOf_nil (options : Options) : chosenOf options [] = [] := by
  unfold chosenOf
  split
  · rfl
  · split
    · exact List.take_nil
    · exact List.rtake_nil _

theorem chosenFrom_eq {options : Options} (hlimit : ∀ n, options.limit = some n → 1 ≤ n)
    (ns : List Int) :
    chosenFrom ns options.limit options.oldest = ⟨chosenOf options ns, ns.length⟩ := by
  unfold chosenFrom chosenOf
  cases hn : options.limit with
  | none => rfl
  | some n =>
    have hpos := hlimit n hn
    dsimp only
    congr 1
    unfold limited List.rtake
    by_cases hle : n < ns.length
    · rw [if_pos hle]
      by_cases hold : options.oldest = true
      · rw [if_pos hold, if_pos hold, if_neg (by omega)]
      · rw [if_neg hold, if_neg hold, if_neg (by omega)]
    · rw [if_neg hle]
      split
      · rw [List.take_of_length_le (by omega)]
      · rw [show ns.length - n.toNat = 0 by omega, List.drop_zero]

/-- of the messages that match those are chosen -/
theorem select_of_matching {options : Options} (hlimit : ∀ n, options.limit = some n → 1 ≤ n)
    {ns : List Int} (h : Matching s count tree ns) (honce : (counted s).imap.ListsAtOnce) (line : Text) :
    ∃ matched, ((select count tree options.limit options.oldest).runIn ((counted s).say line)).1
      = .ok ⟨chosenOf options ns, matched⟩ := by
  have hnone : count = 0 → ((select count tree options.limit options.oldest).runIn
      ((counted s).say line)).1 = .ok ⟨chosenOf options [], 0⟩ := by
    intro hzero
    rw [chosenOf_nil]
    unfold select
    rw [if_pos hzero]
    rfl
  cases h with
  | all =>
    by_cases hzero : count = 0
    · rw [hzero] at hnone ⊢
      exact ⟨0, hnone rfl⟩
    · rw [runIn_select hzero, chosenFrom_eq hlimit]
      exact ⟨_, rfl⟩
  | empty hzero => exact ⟨0, hnone hzero⟩
  | @filter t criteria _ hcount hc ht =>
    have hzone : (counted s).zone = s.zone := (Imap.looked_unseenCount s).follows.zone
    have hsaid : t.Matched criteria ((counted s).say line) ns := by
      cases ht with
      | named hp h => exact .named hp h
      | declined hp hr hno h => exact .declined hp hr hno h
      | listed hp hr hok hgroups h => exact .listed hp hr hok hgroups h
    have hfound : (t.find.runIn ((counted s).say line)).1 = .ok ns :=
      Tree.find_of_matched (hzone.symm ▸ hc) hsaid honce
    rw [runIn_select hcount]
    dsimp only
    rw [hfound]
    exact ⟨_, congrArg Except.ok (chosenFrom_eq hlimit ns)⟩

/-! ## what is shown -/

/-- the line behind the messages that were shown -/
def closing (numbers : List Int) : Text := if numbers = [] then [] else asLines [View.rule]

/-- a review shows these messages: a plan is made of them and of the answers, and behind the searches for
unread messages and for the filter it is followed -/
structure Shows (s : Session) (count : Int) (tree : Option Tree) (own : Option Mailbox)
    (below : Option Text) (limit : Int) (numbers : List Int) (r : Except Fault Nat) (t : Session) :
    Prop where
  /-- the messages of the plan are the first ones, up to the one behind which the user ends the paging -/
  names : (plan numbers s.answers).map Prod.fst = numbers.take (visited numbers.length s.answers)
  /-- they are fetched and shown one after the other, until the plan is over or a message stops it -/
  run : ∃ looking front k d cs out further last, IsLooking s.zone tree count looking ∧
    Pages s own below limit numbers.length 1 ((plan numbers s.answers).take k) s.disk cs out d ∧
    PagesEnd s own below limit (closing numbers) 1 (plan numbers s.answers)
      (Suffice numbers.length s.answers) d k further last r ∧
    t.calls = s.calls ++ (Imap.unseenCall :: looking ++ (cs ++ further)) ∧
    t.output = s.output ++ (front ++ (out ++ last))
  /-- if they can be shown, none of them stops it, and the result is how many they are -/
  complete :
    Showable s own below limit 1 (numbers.take (visited numbers.length s.answers)) s.disk →
      (Suffice numbers.length s.answers → r = .ok (visited numbers.length s.answers)) ∧
      (¬Suffice numbers.length s.answers → r = .error s.silence)

variable {own : Option Mailbox} {below : Option Text} {limit : Int} {numbers : List Int}
  {r : Except Fault Nat}

theorem shows_of_run {looking : List Call} (front : Text) {k : Nat} {d : Disk} {cs further : List Call}
    {out last : Text} (hlooking : IsLooking s.zone tree count looking)
    (hpages : Pages s own below limit numbers.length 1 ((plan numbers s.answers).take k) s.disk cs out d)
    (hend : PagesEnd s own below limit (closing numbers) 1 (plan numbers s.answers)
      (Suffice numbers.length s.answers) d k further last r)
    (hcalls : t.calls = s.calls ++ (Imap.unseenCall :: looking ++ (cs ++ further)))
    (houtput : t.output = s.output ++ (front ++ (out ++ last))) :
    Shows s count tree own below limit numbers r t := by
  have hnames := map_fst_plan numbers s.answers
  refine ⟨hnames, ⟨looking, front, k, d, cs, out, further, last, hlooking, hpages, hend, hcalls, houtput⟩, ?_⟩
  intro hshowable
  rw [← hnames] at hshowable
  rw [← length_plan]
  cases hend with
  | shown h => exact ⟨fun _ => rfl, fun h' => absurd h h'⟩
  | silent h => exact ⟨fun h' => absurd h' h, fun _ => rfl⟩
  | stopped hn h => exact absurd h (hshowable.not_pageFault hpages hn _)

theorem IsTreeOf.unique {zone : Zone} {filter : Option Text} {tree' : Option Tree}
    (h : IsTreeOf zone filter tree) (h' : IsTreeOf zone filter tree') : tree' = tree := by
  cases filter with
  | none => exact Eq.trans h' (Eq.symm h)
  | some x =>
    obtain ⟨t, ht, rfl⟩ := h
    obtain ⟨t', ht', rfl⟩ := h'
    cases ht.symm.trans ht'
    rfl

/-- what was done up to the choice of the messages -/
theorem looked_of_chosen (htree : ∀ t, tree = some t → ∃ c, t.criteria s.zone = .ok c) {unseen : Nat}
    {u v : Session} {line : Text} {chosen : Except Fault Selection} {limit? : Option Int} {oldest : Bool}
    (hunseen : Imap.unseenCount.runIn s = (.ok unseen, u))
    (hchosen : (select count tree limit? oldest).runIn (u.say line) = (chosen, v)) :
    ∃ looking, s.Looked (Imap.unseenCall :: looking) v ∧ IsLooking s.zone tree count looking := by
  have hcounted := Imap.looked_unseenCount s
  rw [hunseen] at hcounted
  have hsaid : s.Looked [Imap.unseenCall] (u.say line) := hcounted.say line
  rw [← hsaid.follows.zone] at htree ⊢
  obtain ⟨looking, hlooked, hlooking⟩ := looked_select htree count limit? oldest
  rw [hchosen] at hlooked
  exact ⟨looking, hsaid.trans hlooked, hlooking⟩

/-- **The messages that are shown, and their order.**  Of the messages that match, the last ones up to the
limit are chosen, or the first ones, and shown from the last to the first, or the other way round.  The
first of them is shown, and a further one for each answer that goes on; the plan ends behind the first
answer that ends the paging.  If these messages can be shown, that is what happens, and the result is how
many they are; the user falls silent if the answers are not enough.  Otherwise the first one that cannot
be shown stops the review. -/
theorem review_shows {options : Options} {folder : Text} {ns : List Int}
    (htree : IsTreeOf s.zone options.filter tree)
    (hlimit : ∀ n, options.limit = some n → 1 ≤ n)
    (hunseen : ∃ unseen, (Imap.unseenCount.runIn s).1 = .ok unseen)
    (hnumbers : Matching s count tree ns) (honce : (counted s).imap.ListsAtOnce)
    (h : (review count folder options own limit).runIn s = (r, t)) :
    Shows s count tree own (belowOf options s) limit (inOrder options (chosenOf options ns)) r t := by
  have hselect : ∀ {unseen u line chosen v}, Imap.unseenCount.runIn s = (.ok unseen, u) →
      (select count tree options.limit options.oldest).runIn (u.say line) = (chosen, v) →
      ∃ matched, chosen = .ok ⟨chosenOf options ns, matched⟩ := by
    intro unseen u line chosen v hu hv
    have hsame : u = counted s := (congrArg Prod.snd hu).symm
    obtain ⟨matched, hmatched⟩ := select_of_matching hlimit hnumbers honce line
    rw [← hsame, hv] at hmatched
    exact ⟨matched, hmatched⟩
  -- the ways that end before the choice are against what is known of the filter and the searches
  cases reviewed_of_run h with
  | refused hx he =>
    rw [hx] at htree
    obtain ⟨t, hcompile, -⟩ := htree
    cases he.symm.trans hcompile
  | uncounted _ hfault =>
    obtain ⟨unseen, hunseen⟩ := hunseen
    rw [hfault] at hunseen
    cases hunseen
  | unchosen htree' hunseen' hfault =>
    cases htree.unique htree'
    obtain ⟨_, hok⟩ := hselect hunseen' hfault
    cases hok
  | @empty _ _ _ lines chosen _ v htree' hunseen' hchosen hnone =>
    cases htree.unique htree'
    obtain ⟨_, hok⟩ := hselect hunseen' hchosen
    cases hok
    obtain ⟨looking, hlooked, hlooking⟩ := looked_of_chosen (criteria_of_isTreeOf htree) hunseen' hchosen
    obtain ⟨front, hfront⟩ := (hlooked.say lines).output
    have hnone : chosenOf options ns = [] := hnone
    have hnothing : inOrder options (chosenOf options ns) = [] := by
      rw [hnone]
      exact ite_self _
    rw [hnothing]
    refine shows_of_run front (k := 0) hlooking .nil (.shown (.inl (Nat.zero_le _))) ?_ ?_
    · rw [(hlooked.say lines).calls]
      exact congrArg _ (List.append_nil _).symm
    · rw [← hfront]
      exact congrArg _ (List.append_nil _).symm
  | @paged _ _ _ lines chosen _ v _ _ htree' hunseen' hchosen hsome hpage =>
    cases htree.unique htree'
    obtain ⟨_, hok⟩ := hselect hunseen' hchosen
    cases hok
    obtain ⟨looking, hlooked, hlooking⟩ := looked_of_chosen (criteria_of_isTreeOf htree) hunseen' hchosen
    obtain ⟨front, hfront⟩ := (hlooked.say lines).output
    have hsaid := hlooked.say lines
    have hanswers : (v.say lines).answers = s.answers := by rw [hsaid.rest]
    have hdisk : (v.say lines).disk = s.disk := by rw [hsaid.rest]
    have hsome : inOrder options (chosenOf options ns) ≠ [] := by
      unfold inOrder
      split
      · exact hsome
      · exact fun hnil => hsome (List.reverse_eq_nil_iff.1 hnil)
    obtain ⟨-, k, d, cs, out, further, last, hpages, hend, hcalls, houtput⟩ :=
      paged_page hsaid.follows hpage
    rw [hanswers] at hpages hend
    rw [hdisk] at hpages
    refine shows_of_run front hlooking hpages (by rwa [closing, if_neg hsome]) ?_ ?_
    · rw [hcalls, hsaid.calls, List.append_assoc]
    · rw [houtput, ← hfront, List.append_assoc]

/-! ## two reviews -/

/-- three messages, each with a subject, and a search that lists them -/
def threeListed : ImapScript :=
  let message (digit : UInt8) : List FetchItem :=
    [.literal ([digit] ++ Text.toOctets " (FLAGS (\\Seen) BODY[] {16}") (Text.toOctets "Subject: a\r\n\r\nA"),
      .line [41]]
  { Session.quiet.imap with
    search := [.ok (Tree.lines [[]]), .ok (Tree.lines [[49, 32, 50, 32, 51]])]
    messages := [message 49, message 50, message 51] }

/-- a user who is not understood at first, then goes on and then ends the paging -/
def leaving : Session := { Session.quiet with imap := threeListed, answers := ["x", "", "Q"] }

theorem review_shows_leaving :
    IsTreeOf leaving.zone (some "flag:seen") (some Tree.seen) ∧
    Matching leaving 3 (some Tree.seen) [1, 2, 3] ∧ (counted leaving).imap.ListsAtOnce ∧
    ∃ t, (review 3 "INBOX" ⟨some "flag:seen", some 3, false, false, false⟩ none 150).runIn leaving
        = (.ok 2, t) ∧
      Shows leaving 3 (some Tree.seen) none none 150 [3, 2, 1] (.ok 2) t := by
  have htree : IsTreeOf leaving.zone (some "flag:seen") (some Tree.seen) := ⟨Tree.seen, rfl, rfl⟩
  have hmatching : Matching leaving 3 (some Tree.seen) [1, 2, 3] := by
    have hcriteria : Tree.seen.criteria leaving.zone = .ok "(SEEN)" := rfl
    have hlists : List.Forall₂ Tree.Lists ((Tree.lines [[49, 32, 50, 32, 51]]).data.getD []) [[1, 2, 3]] :=
      .cons ⟨[[49], [50], [51]], rfl, rfl⟩ .nil
    exact .filter (by decide) hcriteria (.listed rfl rfl rfl hlists ⟨by decide, .refl _⟩)
  have honce : (counted leaving).imap.ListsAtOnce := by
    intro r groups hr hgroups
    cases hr
    cases hgroups with
    | cons _ hrest =>
      cases hrest
      rfl
  refine ⟨htree, hmatching, honce, ?_⟩
  cases hrun : (review 3 "INBOX" ⟨some "flag:seen", some 3, false, false, false⟩ none 150).runIn leaving with
  | mk r t =>
    have hshows := review_shows htree (by rintro n hn; cases hn; decide) ⟨0, rfl⟩ hmatching honce hrun
    have hshowable : Showable leaving none none 150 1 [3, 2] leaving.disk :=
      showable_of_isPrintable (by decide +kernel)
    have hresult : r = .ok 2 := (hshows.complete hshowable).1 (by decide)
    rw [hresult] at hshows ⊢
    exact ⟨t, rfl, hshows⟩

/-- a message whose date is the last day of the calendar, an hour before the day ends in the west -/
def late : Session :=
  let date := "Date: Fri, 31 Dec 9999 23:30:00 -0500\r\n\r\nhi"
  { Session.quiet with imap := { Session.quiet.imap with
      messages := [[.literal (Text.toOctets "1 (FLAGS () BODY[] {43}") (Text.toOctets date), .line [41]]] } }

/-- the only message of a folder comes when it is fetched, but no clock shows its date, and the review stops
without it -/
theorem review_stops_late :
    Matching late 1 none [1] ∧ (∃ f, late.messagesAt (Text.decimalInt 1) = .ok [f]) ∧
    visited 1 late.answers = 1 ∧ Suffice 1 late.answers ∧
    ((review 1 "INBOX" ⟨none, none, false, false, false⟩ none 150).runIn late).1
      = .error (.clock .dateOutOfRange) := by
  have hcomes : (late.messagesAt (Text.decimalInt 1)).toOption.map List.length = some 1 := by decide
  have hstops : (match ((review 1 "INBOX" ⟨none, none, false, false, false⟩ none 150).runIn late).1 with
      | .error e => some e
      | .ok _ => none) = some (.clock .dateOutOfRange) := by decide
  refine ⟨.all, ?_, by decide, by decide, ?_⟩
  · cases hfetched : late.messagesAt (Text.decimalInt 1) with
    | error e =>
      rw [hfetched] at hcomes
      cases hcomes
    | ok fs =>
      rw [hfetched] at hcomes
      obtain ⟨f, rfl⟩ := List.length_eq_one_iff.1 (Option.some.inj hcomes)
      exact ⟨f, rfl⟩
  · revert hstops
    cases ((review 1 "INBOX" ⟨none, none, false, false, false⟩ none 150).runIn late).1 with
    | error e => exact fun h => congrArg Except.error (Option.some.inj h)
    | ok k => exact nofun

end Client
end Mailroom
