import Mailroom.Client.Read
import Mailroom.Proofs.Filter.Unambiguous
import Mailroom.Proofs.Search.Agreement
import Mailroom.Proofs.Search.Finding
import Mailroom.Proofs.View.Faults

/-!
# What stops reading a folder

The answers of a mail server are read in many places, and each of them can be nothing that the program
understands.

* `Session.Tells`   the numbers of messages that the answers tell;
* `ReadingFault`    the faults that come of answers that cannot be read, and of messages that cannot be
  shown;
* `ends_find`, `ends_pageFrom`, `ends_review`   how the steps of reading end;
* `ends_read`       reading a folder ends well, with a fault that is told, or with one of these.
-/

namespace Mailroom

open Program

/-- a number that the answers tell: one up to the count of messages, one that a search lists, or the
number of a message that was fetched -/
inductive Session.Tells (s : Session) : Int → Prop
  | counted {r : Reply} {c n : Int} (hr : s.imap.selected = .ok r) (hc : Imap.countOf r = .ok c)
      (hn : 1 ≤ n ∧ n ≤ c) : Tells s n
  | listed {r : Reply} {ws : List Octets} {ns : List Int} {n : Int} (hr : .ok r ∈ s.imap.answers)
      (hws : Imap.firstWords r = .ok ws) (hns : ws.mapM WholeNumber.ofOctets = .ok ns) (hn : n ∈ ns) :
      Tells s n
  | fetched {fs : List Fetched} {f : Fetched} (hfs : s.messagesAt "1:*" = .ok fs) (hf : f ∈ fs) :
      Tells s f.number

/-- what stops reading a folder, besides the faults that are told -/
inductive ReadingFault (s : Session) (tree : Option Tree) (download : Bool) (limit : Int) : Fault → Prop
  /-- the answer to the choice of the folder tells no number -/
  | count {r : Reply} {e : Fault} (hr : s.imap.selected = .ok r) (hok : r.status = "OK".toList)
      (h : Imap.countOf r = .error e) : ReadingFault s tree download limit e
  /-- the answer to a search holds no words -/
  | words {r : Reply} {e : Fault} (hr : .ok r ∈ s.imap.answers) (hok : r.status = "OK".toList)
      (h : Imap.firstWords r = .error e) : ReadingFault s tree download limit e
  /-- the answer to the search for a filter holds a word that is no number -/
  | number {t : Tree} {r : Reply} {ws : List Octets} {e : Fault} (ht : tree = some t)
      (hr : .ok r ∈ s.imap.answers) (hok : r.status = "OK".toList) (hws : Imap.firstWords r = .ok ws)
      (h : ws.mapM WholeNumber.ofOctets = .error e) : ReadingFault s tree download limit e
  /-- a message cannot be read when all are fetched for a filter -/
  | fetchAll {t : Tree} {e : Fault} (ht : tree = some t) (h : s.messagesAt "1:*" = .error e) :
      ReadingFault s tree download limit e
  /-- a message cannot be compared with a filter -/
  | compare {t : Tree} {fs : List Fetched} {f : Fetched} {e : Fault} (ht : tree = some t)
      (hfs : s.messagesAt "1:*" = .ok fs) (hf : f ∈ fs) (h : t.holds s.zone f = .error e) :
      ReadingFault s tree download limit e
  /-- a message cannot be read when it is fetched to be shown -/
  | fetch {n : Int} {e : Fault} (hn : s.Tells n) (h : s.messagesAt (Text.decimalInt n) = .error e) :
      ReadingFault s tree download limit e
  /-- no message comes with a number that was told -/
  | missing {n : Int} (hn : s.Tells n) (h : s.messagesAt (Text.decimalInt n) = .ok []) :
      ReadingFault s tree download limit .noSuchItem
  /-- a message cannot be shown -/
  | display {n : Int} {f : Fetched} {fs : List Fetched} {e : Fault} (hn : s.Tells n)
      (hfs : s.messagesAt (Text.decimalInt n) = .ok (f :: fs))
      (h : View.DisplayFault s.zone s.serial (if download then some s.disk.home else none) limit f e) :
      ReadingFault s tree download limit e

variable {s₀ : Session} {P : Fault → Prop} {tree : Option Tree} {download : Bool} {limit : Int}

section
variable (hw : s₀.Worldly) (hP : ∀ f, f.isTold = true → P f)
  (hfault : ∀ e, ReadingFault s₀ tree download limit e → P e)
include hw hP hfault

/-! ## searching -/

namespace Tree

omit hw hP in
theorem ends_findByFetching {t : Tree} (ht : tree = some t) :
    Ends s₀.Follows P (fun ns => ∀ n ∈ ns, s₀.Tells n) t.findByFetching := by
  refine Ends.bind (Imap.ends_fetchMessages _ _ fun e he => hfault e (.fetchAll ht he)) fun fs hfs =>
    Ends.session_bind fun s hs => ?_
  rw [hs.zone]
  refine Ends.settle (fun ns hns n hn => ?_) fun e he => ?_
  · obtain ⟨-, -, hperm⟩ := numbersAmong_eq_ok.1 hns
    obtain ⟨f, hf, rfl⟩ := List.mem_map.1 (hperm.mem_iff.1 hn)
    exact .fetched hfs (List.mem_of_mem_filter hf)
  · rcases bind_eq_error.1 he with he | ⟨_, -, he⟩
    · obtain ⟨f, hf, he⟩ := exists_of_filterM_eq_error he
      exact hfault e (.compare ht hfs hf he)
    · cases he

omit hw in
theorem ends_numbersOf {t : Tree} (ht : tree = some t) (criteria : Text) {r : Reply}
    (hr : .ok r ∈ s₀.imap.answers) :
    Ends s₀.Follows P (fun ns => ∀ n ∈ ns, s₀.Tells n) (settle (numbersOf criteria r)) := by
  unfold numbersOf
  by_cases hok : r.status = "OK".toList
  · rw [if_neg (not_not_intro hok)]
    refine Ends.settle (fun ns hns n hn => ?_) fun e he => ?_
    · obtain ⟨ws, hws, hns⟩ := bind_eq_ok.1 hns
      obtain ⟨listed, hlisted, hns⟩ := bind_eq_ok.1 hns
      cases hns
      exact .listed hr hws hlisted ((List.mergeSort_perm _ _).mem_iff.1 hn)
    · rcases bind_eq_error.1 he with he | ⟨ws, hws, he⟩
      · exact hfault e (.words hr hok he)
      · rcases bind_eq_error.1 he with he | ⟨_, -, he⟩
        · exact hfault e (.number ht hr hok hws he)
        · cases he
  · rw [if_pos hok]
    exact Ends.throw (hP _ rfl)

/-- a tree that can be written finds numbers that the server tells -/
theorem ends_find {t : Tree} (ht : tree = some t) (hc : ∃ c, t.criteria s₀.zone = .ok c) :
    Ends s₀.Follows P (fun ns => ∀ n ∈ ns, s₀.Tells n) t.find := by
  obtain ⟨c, hc⟩ := hc
  have hfetching := ends_findByFetching hfault ht
  refine Ends.session_bind fun s hs => ?_
  rw [hs.zone, hc]
  refine Ends.bind (Ends.pure rfl) fun c' hc' => ?_
  split
  · exact hfetching
  split
  · exact Ends.bind (Imap.ends_search hw hP _ _) fun r hr => ends_numbersOf hP hfault ht _ hr
  · refine Ends.bind (Imap.ends_search hw hP _ _) fun r hr => ?_
    split
    · exact hfetching
    · exact ends_numbersOf hP hfault ht _ hr

end Tree

namespace Client

/-! ## choosing -/

omit hw hP hfault in
theorem mem_of_mem_limited {α : Type} {n : Int} {oldest : Bool} {xs : List α} {x : α}
    (h : x ∈ limited n oldest xs) : x ∈ xs := by
  unfold limited at h
  split at h
  · exact List.mem_of_mem_take h
  · split at h
    · cases h
    · exact List.mem_of_mem_drop h

omit hw hP hfault in
theorem mem_allNumbers {count n : Int} (h : n ∈ allNumbers count) : 1 ≤ n ∧ n ≤ count := by
  obtain ⟨i, hi, rfl⟩ := List.mem_map.1 h
  have hlt := List.mem_range.1 hi
  omega

omit hw hP hfault in
theorem mem_of_mem_chosenFrom {ns : List Int} {limit? : Option Int} {oldest : Bool} {n : Int}
    (h : n ∈ (chosenFrom ns limit? oldest).numbers) : n ∈ ns := by
  unfold chosenFrom at h
  split at h
  · dsimp only at h
    split at h
    · exact mem_of_mem_limited h
    · exact h
  · exact h

theorem ends_select {count : Int} (hcount : ∃ r, s₀.imap.selected = .ok r ∧ Imap.countOf r = .ok count)
    (hc : ∀ t, tree = some t → ∃ c, t.criteria s₀.zone = .ok c) (limit? : Option Int) (oldest : Bool) :
    Ends s₀.Follows P (fun chosen => ∀ n ∈ chosen.numbers, s₀.Tells n) (select count tree limit? oldest) := by
  obtain ⟨r, hr, hcount⟩ := hcount
  unfold select
  split
  · exact Ends.pure nofun
  have hchosen : ∀ ns : List Int, (∀ n ∈ ns, s₀.Tells n) →
      Ends s₀.Follows P (fun chosen : Selection => ∀ n ∈ chosen.numbers, s₀.Tells n)
        (pure (chosenFrom ns limit? oldest)) := fun ns hns =>
    Ends.pure fun n hn => hns n (mem_of_mem_chosenFrom hn)
  cases tree with
  | none => exact hchosen _ fun n hn => .counted hr hcount (mem_allNumbers hn)
  | some t => exact Ends.bind (Tree.ends_find hw hP hfault rfl (hc t rfl)) hchosen

/-! ## paging -/

omit hfault in
theorem ends_ask (prompt : Text) : Ends s₀.Follows P (fun _ => True) (ask prompt) := by
  refine Ends.bind (Ends.record (Session.Follows.isOpen s₀) _) fun _ _ =>
    Ends.bind Imap.ends_pause fun _ _ => Ends.session_bind fun s hs => ?_
  rcases s.answers with _ | ⟨a, rest⟩
  · refine Ends.throw (hP _ (Fault.isTold_of_isWorldly ?_))
    rw [hs.silence]
    exact hw.silence
  · exact Ends.bind (Ends.change fun t ht => ⟨ht.zone, ht.home, ht.serial, ht.silence, ht.imap, ht.answers⟩)
      fun _ _ => Ends.pure trivial

omit hfault in
theorem ends_wantsMore (tries : Nat) : Ends s₀.Follows P (fun _ => True) (wantsMore tries) := by
  induction tries with
  | zero => exact Ends.throw (hP _ rfl)
  | succ n ih =>
    refine Ends.bind (ends_ask hw hP _) fun a _ => ?_
    split
    · exact Ends.pure trivial
    · split
      · exact Ends.pure trivial
      · exact ih

/-- every message that is shown comes with a number that the server tells -/
theorem ends_pageFrom {own : Option Mailbox} {total position : Nat} {numbers : List Int}
    (hnumbers : ∀ n ∈ numbers, s₀.Tells n) :
    Ends s₀.Follows P (fun _ => True)
      (pageFrom own (if download then some s₀.disk.home else none) limit total position numbers) := by
  -- a message is fetched by a number only if that number was told, and this passes to the rest
  induction numbers generalizing position with
  | nil => exact Ends.pure trivial
  | cons n ns ih =>
    have hn := hnumbers n List.mem_cons_self
    have hrest : ∀ position, Ends s₀.Follows P (fun _ => True)
        (pageFrom own (if download then some s₀.disk.home else none) limit total position ns) :=
      fun position => ih fun m hm => hnumbers m (List.mem_cons_of_mem _ hm)
    have hprint := fun t => Ends.print (P := P) (Session.Follows.isOpen s₀) t
    refine Ends.bind (Imap.ends_fetchMessages _ _ fun e he => hfault e (.fetch hn he)) fun fs hfs => ?_
    rcases fs with _ | ⟨f, fs⟩
    · exact Ends.throw (hfault _ (.missing hn hfs))
    refine Ends.bind (View.ends_display hP fun e he => hfault e (.display hn hfs he)) fun _ _ => ?_
    split
    · exact Ends.bind (hrest _) fun _ _ => Ends.pure trivial
    refine Ends.bind (hprint _) fun _ _ => Ends.bind (hprint _) fun _ _ => ?_
    split
    · exact Ends.bind (hprint _) fun _ _ => Ends.pure trivial
    refine Ends.session_bind fun s _ =>
      Ends.bind (Imap.ends_watched (ends_wantsMore hw hP _)) fun more _ => ?_
    cases more with
    | true => exact Ends.bind (hrest _) fun _ _ => Ends.pure trivial
    | false => exact Ends.pure trivial

/-! ## the whole folder -/

/-- the filter of some options is this tree, and no filter is no tree -/
def IsTreeOf (zone : Zone) (filter : Option Text) (tree : Option Tree) : Prop :=
  match filter with
  | none => tree = none
  | some e => ∃ t, Filter.compile zone e = .ok t ∧ tree = some t

/-- chosen messages are announced and shown -/
theorem ends_showing {chosen : Selection} (hchosen : ∀ n ∈ chosen.numbers, s₀.Tells n) (line : Text)
    (own : Option Mailbox) (reverse : Bool) :
    Ends s₀.Follows P (fun _ => True) (do
      printLine line
      if chosen.numbers.isEmpty then return 0
      else
        let home := (← session).disk.home
        let below := if download then some home else none
        page own below limit (if reverse then chosen.numbers else chosen.numbers.reverse)) := by
  have hopen := Session.Follows.isOpen s₀
  refine Ends.bind (Ends.printLine hopen _) fun _ _ => ?_
  split
  · exact Ends.pure trivial
  refine Ends.session_bind fun s hs => ?_
  rw [hs.home]
  have hordered : ∀ n ∈ (if reverse then chosen.numbers else chosen.numbers.reverse), s₀.Tells n := by
    intro n hn
    split at hn
    · exact hchosen n hn
    · exact hchosen n (List.mem_reverse.1 hn)
  exact Ends.bind (ends_pageFrom hw hP hfault hordered) fun _ _ =>
    Ends.bind (Ends.printLine hopen _) fun _ _ => Ends.pure trivial

theorem ends_review {options : Options} (htree : IsTreeOf s₀.zone options.filter tree)
    (hdownload : options.download = download) {count : Int}
    (hcount : ∃ r, s₀.imap.selected = .ok r ∧ Imap.countOf r = .ok count) (folder : Text)
    (own : Option Mailbox) :
    Ends s₀.Follows P (fun _ => True) (review count folder options own limit) := by
  subst hdownload
  have hopen := Session.Follows.isOpen s₀
  have hunseen := Imap.ends_unseenCount hw hP fun r f hr hok hf => hfault f (.words hr hok hf)
  have hshowing := fun (chosen : Selection) (hchosen : ∀ n ∈ chosen.numbers, s₀.Tells n) line =>
    ends_showing hw hP hfault hchosen line own options.reverse
  refine Ends.session_bind fun s hs => ?_
  rw [hs.zone]
  unfold IsTreeOf at htree
  cases hfilter : options.filter with
  | none =>
    rw [hfilter] at htree
    subst htree
    refine Ends.pure_bind (Ends.bind hunseen fun _ _ => Ends.bind (Ends.printLine hopen _) fun _ _ => ?_)
    exact Ends.bind (ends_select hw hP hfault hcount nofun _ _) fun chosen hchosen =>
      hshowing chosen hchosen _
  | some e =>
    rw [hfilter] at htree
    obtain ⟨t, hcompile, rfl⟩ := htree
    have hcriteria : ∀ u, some t = some u → ∃ c, u.criteria s₀.zone = .ok c := by
      rintro u hu
      cases hu
      exact (Search.written_of_compile hcompile).1
    obtain ⟨shown, hshown⟩ : ∃ shown, t.describe s₀.zone = .ok shown :=
      Tree.exists_describe (Filter.isWhole_of_compile hcompile) (Filter.resolved_of_compile hcompile)
    dsimp only
    rw [hcompile]
    -- a tree that was compiled can be written for the server and described
    refine Ends.pure_bind (a := t) (Ends.pure_bind (a := some t) ?_)
    refine Ends.bind hunseen fun _ _ => Ends.bind (Ends.printLine hopen _) fun _ _ => ?_
    refine Ends.bind (ends_select hw hP hfault hcount hcriteria _ _) fun chosen hchosen => ?_
    dsimp only
    rw [hshown]
    refine Ends.pure_bind (a := shown) (Ends.bind (Ends.printLine hopen _) fun _ _ => ?_)
    exact Ends.bind (Ends.printLine hopen _) fun _ _ => hshowing chosen hchosen _

theorem ends_opened {config : Config} (user password : Text) (folder : Option Text) :
    Ends s₀.Follows P
      (fun count => ∀ c, count = some c → ∃ r, s₀.imap.selected = .ok r ∧ Imap.countOf r = .ok c)
      (opened config user password folder) := by
  have hopened := Imap.ends_openFolder (P := fun f => P f ∨ ∃ name server, f = .noFolder name server) hw
    (fun f hf => .inl (hP f hf)) (fun name server => .inr ⟨name, server, rfl⟩)
    (fun r f hr hok hf => .inl (hfault f (.count hr hok hf))) config user password folder
  refine Ends.handling (Ends.bind hopened fun c hc => Ends.pure fun c' hc' => ?_) ?_ ?_
  · cases hc'
    exact hc
  · rintro f p - hp
    split at hp
    · cases hp
      exact Ends.bind (Ends.printLine (Session.Follows.isOpen s₀) _) fun _ _ => Ends.pure nofun
    · cases hp
  · rintro f (hf | ⟨name, server, rfl⟩) hnone
    · exact hf
    · cases hnone

/-- reading a folder ends well, with a fault that is told, or with one of those -/
theorem ends_read {config : Config} (user password : Text) (folder : Option Text) {options : Options}
    (htree : IsTreeOf s₀.zone options.filter tree) (hdownload : options.download = download)
    (hlimit : config.maxFilenameLength = limit) :
    Ends s₀.Follows P (fun _ => True) (read config user password folder options) := by
  subst hlimit
  refine Ends.bind (ends_opened hw hP hfault user password folder) fun count hcount => ?_
  cases count with
  | none => exact Ends.pure trivial
  | some c =>
    have hreview := ends_review hw hP hfault htree hdownload (hcount c rfl) (Imap.folderName config folder)
      (some ⟨config.mailName, user ++ "@" ++ config.mailDomain⟩)
    exact Ends.bind (Ends.ensuring hreview (Imap.ends_disconnect hw hP)) fun _ _ => Ends.pure trivial

end Client
end
end Mailroom
