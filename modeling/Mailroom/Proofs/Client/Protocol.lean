import Mailroom.Proofs.Client.Closing
import Mailroom.Proofs.Text.Decimal

/-!
# The protocol of a reading

A reading connects, logs in, opens a folder only to be read and searches it for unread messages.  Then it
looks for a filter, if there is one and the folder is not empty, and fetches the messages that are shown one
by one, with signs of life behind each.  At the end the folder is closed and the connection ended.  A
reading that is stopped has begun a word of this protocol, and may have let go of the connection behind it.

* `commands`            the calls that reach the server;
* `IsWord`              the words of the protocol;
* `KeepsProtocol`       what has begun a word, with letting go of the connection behind it or without;
* `Peeks`               items of a fetch that leave messages unread;
* `Spoken`, `spoken_of_run`   the calls of a reading, by the ways it can go;
* `read_keeps_protocol` the protocol is kept, with one exception.
-/

namespace Mailroom

open Program

namespace Call

/-- whether a call asks the user -/
def isQuestion : Call → Bool
  | .ask _ => true
  | _ => false

/-- whether a call looks into the messages of a folder -/
def isLook : Call → Bool
  | .search _ _ | .fetch _ _ => true
  | _ => false

/-- whether a call fetches a single message -/
def isSingleFetch : Call → Bool
  | .fetch numbers _ => numbers != "1:*".toList
  | _ => false

end Call

namespace Client

variable {s t : Session} {config : Config} {user password : Text} {folder : Option Text}
  {options : Options}

/-! ## the protocol -/

/-- the commands among some calls: all calls but the questions to the user -/
def commands (cs : List Call) : List Call := cs.filter fun c => !c.isQuestion

/-- so many single messages fetched one after the other, with signs of life behind each -/
inductive Fetching : Nat → List Call → Prop
  | nil : Fetching 0 []
  | cons {k signs : Nat} {n : Int} {cs : List Call} (rest : Fetching k cs) :
      Fetching (k + 1) (pageFetch n :: (List.replicate signs .noop ++ cs))

/-- the words of the protocol: a folder is opened and searched for unread messages, a filter is looked for
in a folder that is not empty, single messages are fetched, and the connection is let go of -/
def IsWord (s : Session) (config : Config) (user password : Text) (folder filter : Option Text)
    (word : List Call) : Prop :=
  ∃ looking fetching k,
    (looking = [] ∨ ∃ count tree, Opens s count ∧ IsTreeOf s.zone filter tree ∧
      IsLooking s.zone tree count looking) ∧
    Fetching k fetching ∧
    word = openingCalls config user password folder ++ (Imap.unseenCall :: looking ++ fetching)
      ++ [.close, .logout]

/-- a word of the protocol was begun, and the connection was perhaps let go of behind that -/
def KeepsProtocol (s : Session) (config : Config) (user password : Text) (folder filter : Option Text)
    (cs : List Call) : Prop :=
  ∃ word begun parting, IsWord s config user password folder filter word ∧ begun <+: word ∧
    (parting = [] ∨ parting = [.close, .logout]) ∧ cs = begun ++ parting

/-- of a message its flags, its size and its date are asked for, and of its content what can be seen
without marking it as read -/
def Peeks (items : Text) : Prop :=
  ∃ names : List Text, items = "(" ++ [' '].intercalate names ++ ")" ∧
    ∀ name ∈ names, name ∈ (["FLAGS", "RFC822.SIZE", "INTERNALDATE"] : List Text) ∨
      ("BODY.PEEK[" : Text) <+: name

theorem peeks_wholeItems : Peeks Imap.wholeItems :=
  ⟨["FLAGS", "RFC822.SIZE", "INTERNALDATE", "BODY.PEEK[]"], rfl, by decide⟩

theorem peeks_headerItems : Peeks Imap.headerItems :=
  ⟨["FLAGS", "RFC822.SIZE", "INTERNALDATE", "BODY.PEEK[HEADER]"], rfl, by decide⟩

/-- the single messages that are fetched are shown one after the other, but for the last one where the
reading ends without a result -/
def FetchesShown (s : Session) (own : Option Mailbox) (below : Option Text) (limit : Int)
    (r : Except Fault (Option Nat)) (cs : List Call) : Prop :=
  ∃ total ps pages out d further, Pages s own below limit total 1 ps s.disk pages out d ∧
    cs.filter Call.isSingleFetch = ps.map (fun p => pageFetch p.1) ++ further ∧
    (further = [] ∨ ∃ n, further = [pageFetch n]) ∧
    ∀ k, r = .ok (some k) → further = [] ∧ ps.length = k

/-! ## commands -/

@[simp]
theorem commands_append (cs ds : List Call) : commands (cs ++ ds) = commands cs ++ commands ds :=
  List.filter_append _ _

theorem commands_eq_self {cs : List Call} (h : ∀ c ∈ cs, c.isQuestion = false) : commands cs = cs :=
  List.filter_eq_self.2 fun c hc => by rw [h c hc, Bool.not_false]

theorem commands_openingCalls :
    commands (openingCalls config user password folder) = openingCalls config user password folder := rfl

theorem commands_of_isInterlude {asks : Nat} {cs : List Call} (h : IsInterlude asks cs) :
    ∃ signs, commands cs = List.replicate signs .noop := by
  refine ⟨(commands cs).length, List.eq_replicate_of_mem fun c hc => ?_⟩
  obtain ⟨hmem, hcommand⟩ := List.mem_filter.1 hc
  rcases h.mem hmem with rfl | rfl
  · rfl
  · cases hcommand

section
variable {own : Option Mailbox} {below : Option Text} {limit : Int} {total position k : Nat}
  {ps : List (Int × Nat)} {d d' : Disk} {cs : List Call} {out : Text}

theorem Fetching.append (h : Fetching k cs) (n : Int) : Fetching (k + 1) (cs ++ [pageFetch n]) := by
  induction h with
  | nil =>
    have hquiet : pageFetch n :: (List.replicate 0 .noop ++ []) = [pageFetch n] := rfl
    exact hquiet ▸ .cons .nil
  | cons _ ih =>
    rw [List.cons_append, List.append_assoc]
    exact .cons ih

/-- messages that are shown are fetched one by one -/
theorem Pages.fetching (h : Pages s own below limit total position ps d cs out d') :
    Fetching ps.length (commands cs) := by
  induction h with
  | nil => exact .nil
  | cons _ _ _ hasked _ _ ih =>
    obtain ⟨signs, hsigns⟩ := commands_of_isInterlude hasked
    rw [commands_append, show ∀ n ds, commands (pageFetch n :: ds) = pageFetch n :: commands ds from
      fun _ _ => rfl, hsigns]
    exact .cons ih

end

/-! ## what is asked of single messages -/

/-- a number is not the range of all messages -/
theorem isSingleFetch_pageFetch (n : Int) : (pageFetch n).isSingleFetch = true := by
  have hstar : '*' ∉ Text.decimalInt n := by
    intro hmem
    cases n with
    | ofNat m => exact absurd (Text.isDigit_of_mem_decimal hmem) (by decide)
    | negSucc m =>
      rcases List.mem_cons.1 hmem with hminus | hmem
      · exact absurd hminus (by decide)
      · exact absurd (Text.isDigit_of_mem_decimal hmem) (by decide)
  refine bne_iff_ne.2 fun hall => hstar ?_
  rw [hall]
  decide

section
variable {own : Option Mailbox} {below : Option Text} {limit : Int} {total position k : Nat}
  {ps : List (Int × Nat)} {d d' : Disk} {cs : List Call} {out : Text}

theorem Pages.filter_isSingleFetch (h : Pages s own below limit total position ps d cs out d') :
    cs.filter Call.isSingleFetch = ps.map fun p => pageFetch p.1 := by
  induction h with
  | nil => rfl
  | cons _ _ _ hasked _ _ ih =>
    have hnone : ∀ {asks asked}, IsInterlude asks asked → asked.filter Call.isSingleFetch = [] := by
      intro asks asked hasked
      refine List.filter_eq_nil_iff.2 fun c hc => ?_
      rcases hasked.mem hc with rfl | rfl <;> exact nofun
    rw [List.cons_append, List.filter_cons_of_pos (isSingleFetch_pageFetch _), List.filter_append,
      hnone hasked, ih, List.map_cons, List.nil_append]

/-- what is shown does not depend on the calls before -/
theorem Pages.of_calls {before : List Call}
    (h : Pages { s with calls := before } own below limit total position ps d cs out d') :
    Pages s own below limit total position ps d cs out d' := by
  induction h with
  | nil => exact .nil
  | cons hfetched hshown hprinted hasked hremark _ ih =>
    obtain ⟨u, v, hu, hd, hrun, hd'⟩ := hshown
    exact .cons hfetched ⟨u, v, ⟨hu.zone, hu.home, hu.serial, hu.silence, hu.imap, hu.answers⟩, hd, hrun, hd'⟩
      hprinted hasked hremark ih

end

theorem ReviewCalls.of_calls {before cs : List Call} {count limit : Int} {own : Option Mailbox}
    {r : Except Fault Nat}
    (h : ReviewCalls { s with calls := before } count options own limit r cs) :
    ReviewCalls s count options own limit r cs := by
  cases h with
  | refused hr => exact .refused hr
  | asked htree hlooking hpages hfurther hresult =>
    exact .asked htree hlooking hpages.of_calls hfurther hresult

/-! ## the ways of a reading -/

/-- the sender that a reading takes messages of the user to have -/
def ownOf (config : Config) (user : Text) : Mailbox := ⟨config.mailName, user ++ "@" ++ config.mailDomain⟩

/-- the calls of a reading: no folder is opened; the folder is not there, and the connection is let go of; or
the folder is reviewed, and the connection is let go of -/
inductive Spoken (s : Session) (config : Config) (user password : Text) (folder : Option Text)
    (options : Options) (r : Except Fault (Option Nat)) : List Call → Prop
  | unopened {cs : List Call} (hcs : cs <+: openingCalls config user password folder)
      (hr : ∀ k, r ≠ .ok (some k)) : Spoken s config user password folder options r cs
  | missing (hr : ∀ k, r ≠ .ok (some k)) :
      Spoken s config user password folder options r
        (openingCalls config user password folder ++ s.imap.releases)
  | reviewed {count : Int} {r' : Except Fault Nat} {looks : List Call} (hopens : Opens s count)
      (hlooks : ReviewCalls s count options (some (ownOf config user)) config.maxFilenameLength r' looks)
      (hr : ∀ k, r = .ok (some k) → r' = .ok k) :
      Spoken s config user password folder options r
        (openingCalls config user password folder ++ looks ++ s.imap.releases)

theorem spoken_of_run {r : Except Fault (Option Nat)}
    (h : (read config user password folder options).runIn s = (r, t)) :
    ∃ cs, t.calls = s.calls ++ cs ∧ Spoken s config user password folder options r cs := by
  cases hopen : (opened config user password folder).runIn s with
  | mk r₀ u =>
    -- where no folder was opened, nothing is left to do
    have hunopened : (∀ count, r₀ ≠ .ok (some count)) → t = u ∧ ∀ k, r ≠ .ok (some k) := by
      intro hr₀
      unfold read at h
      rw [runIn_bind, hopen] at h
      rcases r₀ with e | none | count
      · cases h
        exact ⟨rfl, nofun⟩
      · cases h
        exact ⟨rfl, nofun⟩
      · exact absurd rfl (hr₀ count)
    cases opened_of_run hopen with
    | failed hcs hr₀ =>
      obtain ⟨rfl, hr⟩ := hunopened hr₀
      exact ⟨_, rfl, .unopened hcs hr⟩
    | missing hr₀ =>
      obtain ⟨rfl, hr⟩ := hunopened hr₀
      exact ⟨_, rfl, .missing hr⟩
    | @opened count hopens =>
      cases hreview : (review count (Imap.folderName config folder) options
          (some (ownOf config user)) config.maxFilenameLength).runIn
          { s with calls := s.calls ++ openingCalls config user password folder } with
      | mk r' v =>
        rw [runIn_read hopen hreview] at h
        cases h
        obtain ⟨cs, hcalls, hcs, -⟩ := reviewCalls_of_run hreview
        refine ⟨openingCalls config user password folder ++ cs ++ s.imap.releases, ?_, ?_⟩
        · dsimp only
          rw [hcalls, List.append_assoc, List.append_assoc, List.append_assoc]
        · refine .reviewed hopens hcs.of_calls fun k hk => ?_
          split at hk
          · cases r' with
            | error e => cases hk
            | ok k' =>
              cases hk
              rfl
          · cases hk

/-! ## what holds of them -/

theorem quiet_of_mem_openingCalls {c : Call} (hc : c ∈ openingCalls config user password folder) :
    c.isLook = false ∧ c.isQuestion = false := by
  rcases mem_openingCalls hc with ⟨_, _, rfl⟩ | ⟨_, _, rfl⟩ | ⟨_, rfl⟩ <;> exact ⟨rfl, rfl⟩

theorem releases_cases (script : ImapScript) :
    script.releases = [.close, .logout] ∨
      script.releases = [.close] ∧ ∃ f, script.close = some f ∧ f.isImap = false := by
  unfold ImapScript.releases
  split
  · exact .inl rfl
  · rename_i hclose
    cases hf : script.close with
    | none => exact absurd (by rw [hf]; rfl) hclose
    | some f =>
      rw [hf] at hclose
      exact .inr ⟨rfl, f, rfl, Bool.eq_false_iff.2 hclose⟩

theorem releases_prefix (script : ImapScript) : script.releases <+: [.close, .logout] := by
  unfold ImapScript.releases
  split
  · exact List.prefix_rfl
  · exact ⟨[.logout], rfl⟩

theorem quiet_of_mem_releases {script : ImapScript} {c : Call} (hc : c ∈ script.releases) :
    c.isLook = false ∧ c.isQuestion = false := by
  rcases releases_cases script with h | ⟨h, -⟩ <;> rw [h] at hc
  · rcases List.mem_pair.1 hc with rfl | rfl <;> exact ⟨rfl, rfl⟩
  · rw [List.mem_singleton.1 hc]
    exact ⟨rfl, rfl⟩

theorem isWord_plain (s : Session) (config : Config) (user password : Text) (folder filter : Option Text) :
    IsWord s config user password folder filter
      (openingCalls config user password folder ++ [Imap.unseenCall] ++ [.close, .logout]) :=
  ⟨[], [], 0, .inl rfl, .nil, rfl⟩

/-- to close a folder that was not searched, and not to end the connection, is against the protocol -/
theorem not_keepsProtocol {filter : Option Text} :
    ¬KeepsProtocol s config user password folder filter
      (openingCalls config user password folder ++ [.close]) := by
  rintro ⟨word, begun, parting, ⟨looking, fetching, k, -, -, rfl⟩, hbegun, hparting, heq⟩
  -- a word goes on with a search behind the opening, and the parting ends with the logout
  rcases hparting with rfl | rfl
  · rw [List.append_nil] at heq
    rw [← heq, List.append_assoc, List.prefix_append_right_inj] at hbegun
    have hfirst := (List.cons_prefix_cons.1 hbegun).1
    cases hfirst
  · have hlast := congrArg List.getLast? heq
    rw [List.getLast?_append, List.getLast?_append] at hlast
    cases hlast

section
variable {r : Except Fault (Option Nat)} {cs : List Call}

theorem IsLooking.commands_eq {zone : Zone} {tree : Option Tree} {count : Int}
    (h : IsLooking zone tree count cs) : commands cs = cs := by
  refine commands_eq_self fun c hc => ?_
  rcases h.mem hc with ⟨criteria, rfl⟩ | ⟨t, rfl⟩
  · obtain ⟨charset, argument, hsearch⟩ := exists_searchCall criteria
    rw [hsearch]
    rfl
  · rfl

theorem IsLooking.filter_isSingleFetch {zone : Zone} {tree : Option Tree} {count : Int}
    (h : IsLooking zone tree count cs) : cs.filter Call.isSingleFetch = [] := by
  refine List.filter_eq_nil_iff.2 fun c hc => ?_
  rcases h.mem hc with ⟨criteria, rfl⟩ | ⟨t, rfl⟩
  · obtain ⟨charset, argument, hsearch⟩ := exists_searchCall criteria
    rw [hsearch]
    exact nofun
  · exact Bool.false_ne_true

/-- a folder that was opened is let go of as the protocol has it, but for a fault that it is closed with -/
theorem keepsProtocol_or_of_releases (s : Session) (config : Config) (user password : Text)
    (folder filter : Option Text) :
    KeepsProtocol s config user password folder filter
        (openingCalls config user password folder ++ s.imap.releases) ∨
      openingCalls config user password folder ++ s.imap.releases
          = openingCalls config user password folder ++ [.close] ∧
        ∃ f, s.imap.close = some f ∧ f.isImap = false := by
  rcases releases_cases s.imap with hreleases | ⟨hreleases, hclose⟩ <;> rw [hreleases]
  · refine .inl ⟨_, _, _, isWord_plain s config user password folder filter, ?_, .inr rfl, rfl⟩
    rw [List.append_assoc]
    exact List.prefix_append _ _
  · exact .inr ⟨rfl, hclose⟩

theorem Spoken.keepsProtocol_or (h : Spoken s config user password folder options r cs) :
    KeepsProtocol s config user password folder options.filter (commands cs) ∨
      commands cs = openingCalls config user password folder ++ [.close] ∧
        ∃ f, s.imap.close = some f ∧ f.isImap = false := by
  have hreleases : commands s.imap.releases = s.imap.releases :=
    commands_eq_self fun c hc => (quiet_of_mem_releases hc).2
  cases h with
  | unopened hcs _ =>
    rw [commands_eq_self fun c hc => (quiet_of_mem_openingCalls (hcs.subset hc)).2]
    refine .inl ⟨_, cs, [], isWord_plain s config user password folder options.filter, ?_, .inl rfl,
      (List.append_nil _).symm⟩
    rw [List.append_assoc]
    exact hcs.trans (List.prefix_append _ _)
  | missing _ =>
    rw [commands_append, commands_openingCalls, hreleases]
    exact keepsProtocol_or_of_releases s config user password folder options.filter
  | @reviewed count _ _ hopens hlooks _ =>
    cases hlooks with
    | refused _ =>
      rw [List.append_nil, commands_append, commands_openingCalls, hreleases]
      exact keepsProtocol_or_of_releases s config user password folder options.filter
    | @asked tree looking pages further _ ps _ _ htree hlooking hpages hfurther _ =>
      -- a message that was fetched and not shown is one more message of the word
      obtain ⟨k, hfetching⟩ : ∃ k, Fetching k (commands pages ++ commands further) := by
        rcases hfurther with rfl | ⟨n, rfl⟩
        · rw [show commands [] = [] from rfl, List.append_nil]
          exact ⟨_, hpages.fetching⟩
        · exact ⟨_, hpages.fetching.append n⟩
      have hunseen : commands (Imap.unseenCall :: looking) = Imap.unseenCall :: looking :=
        congrArg (Imap.unseenCall :: ·) hlooking.commands_eq
      rw [commands_append, commands_append, commands_openingCalls, hreleases, commands_append, hunseen,
        commands_append]
      refine .inl ⟨_, _, [], ⟨looking, _, k, .inr ⟨count, tree, hopens, htree, hlooking⟩, hfetching, rfl⟩,
        ?_, .inl rfl, (List.append_nil _).symm⟩
      rw [List.prefix_append_right_inj]
      exact releases_prefix s.imap

/-- the calls that look into messages are those of a review -/
theorem Spoken.isReviewCall (h : Spoken s config user password folder options r cs) {c : Call}
    (hc : c ∈ cs) (hlook : c.isLook = true) : IsReviewCall c := by
  have hopening : c ∉ openingCalls config user password folder := fun hmem =>
    Bool.false_ne_true ((quiet_of_mem_openingCalls hmem).1.symm.trans hlook)
  have hreleases : c ∉ s.imap.releases := fun hmem =>
    Bool.false_ne_true ((quiet_of_mem_releases hmem).1.symm.trans hlook)
  cases h with
  | unopened hcs _ => exact absurd (hcs.subset hc) hopening
  | missing _ =>
    rcases List.mem_append.1 hc with hc | hc
    · exact absurd hc hopening
    · exact absurd hc hreleases
  | reviewed _ hlooks _ =>
    rw [List.mem_append, List.mem_append] at hc
    rcases hc with (hc | hc) | hc
    · exact absurd hc hopening
    · exact hlooks.isReviewCall hc
    · exact absurd hc hreleases

theorem IsReviewCall.peeks {numbers items : Text} (h : IsReviewCall (.fetch numbers items)) :
    Peeks items := by
  generalize hc : Call.fetch numbers items = c at h
  cases h with
  | unseen | noop | ask => cases hc
  | search criteria =>
    obtain ⟨charset, argument, hsearch⟩ := exists_searchCall criteria
    cases hc.trans hsearch
  | fetchAll t =>
    cases hc
    split
    · exact peeks_wholeItems
    · exact peeks_headerItems
  | fetch n =>
    cases hc
    exact peeks_wholeItems

/-- the calls that look into messages stand behind those of opening the folder -/
theorem Spoken.opened_before (h : Spoken s config user password folder options r cs)
    {before after : List Call} {c : Call} (hcs : cs = before ++ c :: after) (hlook : c.isLook = true) :
    (∃ count, Opens s count) ∧ openingCalls config user password folder <+: before := by
  have hc : c ∈ cs := by
    rw [hcs]
    exact List.mem_append_right _ List.mem_cons_self
  have hopening : c ∉ openingCalls config user password folder := fun hmem =>
    Bool.false_ne_true ((quiet_of_mem_openingCalls hmem).1.symm.trans hlook)
  cases h with
  | unopened hcs' _ => exact absurd (hcs'.subset hc) hopening
  | missing _ =>
    rcases List.mem_append.1 hc with hc | hc
    · exact absurd hc hopening
    · exact absurd ((quiet_of_mem_releases hc).1.symm.trans hlook) Bool.false_ne_true
  | reviewed hopens _ _ =>
    refine ⟨⟨_, hopens⟩, ?_⟩
    -- the calls of opening stand in front of it, for it is none of them
    rw [List.append_assoc, List.append_eq_append_iff] at hcs
    rcases hcs with ⟨ds, rfl, -⟩ | ⟨ds, heq, hds⟩
    · exact List.prefix_append _ _
    · cases ds with
      | nil =>
        have hsame : openingCalls config user password folder = before := heq.trans (List.append_nil _)
        exact hsame ▸ List.prefix_rfl
      | cons d ds =>
        cases hds
        exact absurd (heq ▸ List.mem_append_right _ List.mem_cons_self) hopening

/-- the single messages that are fetched are those that are shown, and at most one more -/
theorem Spoken.fetchesShown (h : Spoken s config user password folder options r cs) :
    FetchesShown s (some (ownOf config user)) (belowOf options s) config.maxFilenameLength r cs := by
  have hnone : ∀ ds : List Call, (∀ c ∈ ds, c.isLook = false) → ds.filter Call.isSingleFetch = [] := by
    intro ds hds
    refine List.filter_eq_nil_iff.2 fun c hc => ?_
    cases c with
    | fetch _ _ => exact absurd (hds _ hc) nofun
    | _ => exact nofun
  have hopening := hnone (openingCalls config user password folder) fun c hc => (quiet_of_mem_openingCalls hc).1
  have hreleases := hnone s.imap.releases fun c hc => (quiet_of_mem_releases hc).1
  cases h with
  | unopened hcs hr =>
    refine ⟨0, [], [], [], s.disk, [], .nil, ?_, .inl rfl, fun k hk => absurd hk (hr k)⟩
    exact hnone cs fun c hc => (quiet_of_mem_openingCalls (hcs.subset hc)).1
  | missing hr =>
    refine ⟨0, [], [], [], s.disk, [], .nil, ?_, .inl rfl, fun k hk => absurd hk (hr k)⟩
    rw [List.filter_append, hopening, hreleases]
    rfl
  | reviewed _ hlooks hr =>
    cases hlooks with
    | refused he =>
      refine ⟨0, [], [], [], s.disk, [], .nil, ?_, .inl rfl, fun k hk => ?_⟩
      · rw [List.append_nil, List.filter_append, hopening, hreleases]
        rfl
      · cases he.symm.trans (hr k hk)
    | @asked _ looking pages further _ ps _ _ _ hlooking hpages hfurther hresult =>
      refine ⟨_, ps, pages, _, _, further, hpages, ?_, hfurther, fun k hk => hresult k (hr k hk)⟩
      have hunseen : (Imap.unseenCall :: looking).filter Call.isSingleFetch = [] :=
        hlooking.filter_isSingleFetch
      have hone : further.filter Call.isSingleFetch = further := by
        rcases hfurther with rfl | ⟨n, rfl⟩
        · rfl
        · exact List.filter_cons_of_pos (isSingleFetch_pageFetch n)
      rw [List.filter_append, List.filter_append, hopening, hreleases, List.filter_append, List.filter_append,
        hunseen, hpages.filter_isSingleFetch, hone, List.nil_append, List.nil_append, List.append_nil]

end

/-! ## the protocol is kept -/

/-- **The protocol of a reading.**  The commands of a reading begin a word of the protocol, with letting go
of the connection behind that or without.  The one exception is a folder that is closed with a fault which
is not the server's, before it was searched: the connection is not ended.  What is fetched of a message
leaves it unread, nothing is searched or fetched before a folder was opened only to be read, and the single
messages that are fetched are those that are shown, with at most one more that ends the reading. -/
theorem read_keeps_protocol (s : Session) (config : Config) (user password : Text) (folder : Option Text)
    (options : Options) :
    ∃ cs, ((read config user password folder options).runIn s).2.calls = s.calls ++ cs ∧
      (KeepsProtocol s config user password folder options.filter (commands cs) ↔
        commands cs ≠ openingCalls config user password folder ++ [.close]) ∧
      (commands cs = openingCalls config user password folder ++ [.close] →
        ∃ f, s.imap.close = some f ∧ f.isImap = false) ∧
      (∀ numbers items, .fetch numbers items ∈ cs → Peeks items) ∧
      (∀ before c after, cs = before ++ c :: after → c.isLook = true →
        (∃ count, Opens s count) ∧ openingCalls config user password folder <+: before) ∧
      FetchesShown s (some (ownOf config user)) (belowOf options s) config.maxFilenameLength
        ((read config user password folder options).runIn s).1 cs := by
  cases hrun : (read config user password folder options).runIn s with
  | mk r t =>
    obtain ⟨cs, hcalls, hspoken⟩ := spoken_of_run hrun
    have hkept := hspoken.keepsProtocol_or
    refine ⟨cs, hcalls, ⟨fun h hcs => not_keepsProtocol (hcs ▸ h), fun hcs => ?_⟩, fun hcs => ?_,
      fun _ _ hc => (hspoken.isReviewCall hc rfl).peeks, fun _ _ _ => hspoken.opened_before,
      hspoken.fetchesShown⟩
    · exact hkept.resolve_right fun h => hcs h.1
    · exact (hkept.resolve_left fun h => not_keepsProtocol (hcs ▸ h)).2

/-- a filter is refused and the line breaks when the folder is closed: the folder was not searched, and the
connection is not ended -/
theorem read_breaks_protocol :
    ¬KeepsProtocol (givingUp (some (.system "broken pipe")) none) .plain "ann" "secret" none
      (some "nosuch:x") (commands ((read .plain "ann" "secret" none { Options.plain with
        filter := some "nosuch:x" }).runIn (givingUp (some (.system "broken pipe")) none)).2.calls) := by
  have hcalls : ((read .plain "ann" "secret" none { Options.plain with filter := some "nosuch:x" }).runIn
        (givingUp (some (.system "broken pipe")) none)).2.calls
      = openingCalls .plain "ann" "secret" none ++ [.close] := by
    decide
  rw [hcalls]
  exact not_keepsProtocol

end Client
end Mailroom
