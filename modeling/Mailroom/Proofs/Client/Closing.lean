import Mailroom.Proofs.Client.Reviewing

/-!
# Letting go of the connection

Whatever comes of reading a folder that was opened, the folder is closed and the connection ended.
Complaints about that do not matter, with one exception: a fault of the system that the folder is closed
with is raised, and the connection is not ended.

* `ImapScript.releases`, `ImapScript.releaseFault`   the calls of letting go, and what is raised by them;
* `runIn_openFolder`          opening a folder, step by step;
* `Opened`, `opened_of_run`   the ways of opening a folder;
* `ReviewCalls`, `reviewCalls_of_run`   the calls of a review;
* `runIn_read`                what becomes of reading a folder that is open;
* `read_lets_go`              letting go of a connection that was opened.
-/

namespace Mailroom

open Program

/-! ## letting go -/

/-- a complaint about the end of a connection that does not matter -/
def Fault.isParting (f : Fault) : Bool := f.isImap || f.isSystem

/-- a complaint of the system is none of the server -/
theorem Fault.not_isImap_of_isSystem {f : Fault} (h : f.isSystem = true) : f.isImap = false := by
  cases f with
  | imap _ => cases h
  | _ => rfl

namespace ImapScript

variable {script : ImapScript}

/-- the calls by which a connection is let go of -/
def releases (script : ImapScript) : List Call :=
  if script.close.all Fault.isImap then [.close, .logout] else [.close]

/-- what letting go of a connection raises -/
def releaseFault (script : ImapScript) : Option Fault :=
  if script.close.all Fault.isImap then script.logout.filter fun f => !f.isParting else script.close

/-- letting go raises nothing if the faults of its two calls do not matter -/
theorem releaseFault_eq_none (hclose : script.close.all Fault.isImap = true)
    (hlogout : ∀ f, script.logout = some f → f.isParting = true) : script.releaseFault = none := by
  rw [releaseFault, if_pos hclose]
  cases h : script.logout with
  | none => rfl
  | some f => simp [Option.filter, hlogout f h]

end ImapScript

/-- the result of a call that can do nothing but raise a fault -/
def raised (f? : Option Fault) : Except Fault Unit :=
  match f? with
  | some f => .error f
  | none => .ok ()

namespace Imap

theorem runIn_command (c : Call) (field : ImapScript → Option Fault) (s : Session) :
    (do record c; complain (field (← session).imap) : Program Unit).runIn s
      = (raised (field s.imap), { s with calls := s.calls ++ [c] }) := by
  rw [record, runIn_bind, runIn_change]
  dsimp only
  rw [runIn_bind, runIn_session]
  dsimp only
  cases field s.imap <;> rfl

/-- a call whose faults of a kind do not matter -/
theorem runIn_ignoring (kind : Fault → Bool) (c : Call) (field : ImapScript → Option Fault) (s : Session) :
    (ignoring kind (do record c; complain (field (← session).imap))).runIn s
      = (raised ((field s.imap).filter fun f => !kind f), { s with calls := s.calls ++ [c] }) := by
  unfold ignoring
  rw [runIn_handling, runIn_command]
  cases field s.imap with
  | none => rfl
  | some f =>
    cases hf : kind f with
    | true =>
      simp only [raised, Option.filter, hf]
      rfl
    | false =>
      simp only [raised, Option.filter, hf]
      rfl

theorem runIn_disconnect (s : Session) :
    disconnect.runIn s
      = (raised s.imap.releaseFault, { s with calls := s.calls ++ s.imap.releases }) := by
  have hclose : (ignoring Fault.isImap close).runIn s = _ :=
    runIn_ignoring Fault.isImap .close ImapScript.close s
  have hlogout : (ignoring Fault.isParting logout).runIn { s with calls := s.calls ++ [.close] } = _ :=
    runIn_ignoring Fault.isParting .logout ImapScript.logout _
  unfold disconnect ImapScript.releaseFault ImapScript.releases
  rw [runIn_bind, hclose]
  -- a fault that does not matter is dropped; any other one is raised in front of the logout
  have hkept : ∀ f? : Option Fault, f?.filter (fun f => !f.isImap) = if f?.all Fault.isImap then none else f? := by
    intro f?
    cases f? with
    | none => rfl
    | some f => cases hf : f.isImap <;> simp [Option.filter, hf]
  rw [hkept]
  by_cases hsmall : s.imap.close.all Fault.isImap = true
  · rw [if_pos hsmall, if_pos hsmall, if_pos hsmall]
    refine Eq.trans hlogout ?_
    rw [List.append_assoc]
    rfl
  · rw [if_neg hsmall, if_neg hsmall, if_neg hsmall]
    cases hscript : s.imap.close with
    | none =>
      rw [hscript] at hsmall
      exact absurd rfl hsmall
    | some f => rfl

end Imap

namespace Client

variable {s t u : Session} {config : Config} {user password : Text} {folder : Option Text}

/-! ## opening a folder -/

/-- the calls by which a folder is opened, only to be read -/
def openingCalls (config : Config) (user password : Text) (folder : Option Text) : List Call :=
  [.imapConnect config.imapServer config.imapPort, .login user password,
    .select (Imap.folderArgument (Imap.folderName config folder)) true]

/-- the folder can be opened, and has so many messages -/
def Opens (s : Session) (count : Int) : Prop :=
  ∃ reply, s.imap.selected = .ok reply ∧ reply.status = "OK".toList ∧ Imap.countOf reply = .ok count

/-- the ways of opening a folder: it fails before the folder is chosen or when its messages are counted; it
is not there, and the connection is let go of; or it is open -/
inductive Opened (s : Session) (config : Config) (user password : Text) (folder : Option Text) :
    Except Fault (Option Int) → Session → Prop
  | failed {cs : List Call} {r : Except Fault (Option Int)} {output : Text}
      (hcs : cs <+: openingCalls config user password folder) (hr : ∀ count, r ≠ .ok (some count)) :
      Opened s config user password folder r { s with calls := s.calls ++ cs, output }
  | missing {r : Except Fault (Option Int)} {output : Text} (hr : ∀ count, r ≠ .ok (some count)) :
      Opened s config user password folder r
        { s with calls := s.calls ++ (openingCalls config user password folder ++ s.imap.releases), output }
  | opened {count : Int} (h : Opens s count) :
      Opened s config user password folder (.ok (some count))
        { s with calls := s.calls ++ openingCalls config user password folder }

/-- whether the folder is refused -/
def refusesFolder (script : ImapScript) : Bool :=
  match script.selected with
  | .ok reply => reply.status ≠ "OK".toList
  | .error _ => false

theorem refusesFolder_eq {script : ImapScript} {reply : Reply} (h : script.selected = .ok reply) :
    refusesFolder script = decide (reply.status ≠ "OK".toList) := by
  rw [refusesFolder, h]

/-- the calls made for opening a folder: up to the first that fails, and those of letting go if the folder
is refused -/
def callsOfOpening (script : ImapScript) (config : Config) (user password : Text) (folder : Option Text) :
    List Call :=
  if script.connect.isSome then (openingCalls config user password folder).take 1
  else if script.login.isSome then (openingCalls config user password folder).take 2
  else if refusesFolder script then openingCalls config user password folder ++ script.releases
  else openingCalls config user password folder

/-- what comes of opening a folder, with the fault for one that is refused -/
def resultOfOpening (script : ImapScript) (refusal : Fault) : Except Fault Int := do
  raised script.connect
  raised script.login
  let reply ← script.selected
  if refusesFolder script then .error (script.releaseFault.getD refusal) else Imap.countOf reply

/-- opening a folder, step by step -/
theorem runIn_openFolder (config : Config) (user password : Text) (folder : Option Text) (s : Session) :
    ∃ refusal, (Imap.openFolder config user password folder).runIn s
      = (resultOfOpening s.imap refusal,
        { s with calls := s.calls ++ callsOfOpening s.imap config user password folder }) := by
  have hconnect : ∀ host port s, (Imap.connect host port).runIn s
      = (raised s.imap.connect, { s with calls := s.calls ++ [.imapConnect host port] }) :=
    fun host port s => Imap.runIn_command (.imapConnect host port) ImapScript.connect s
  have hlogin : ∀ user password s, (Imap.login user password).runIn s
      = (raised s.imap.login, { s with calls := s.calls ++ [.login user password] }) :=
    fun user password s => Imap.runIn_command (.login user password) ImapScript.login s
  refine ⟨.noFolder (Imap.folderName config folder) ("imaps://" ++ user ++ "@" ++ config.imapServer ++ "/"
    ++ Imap.folderName config folder), ?_⟩
  unfold Imap.openFolder callsOfOpening resultOfOpening
  dsimp only
  -- command by command: what one of them raises ends the opening behind it
  rw [runIn_bind, hconnect]
  cases s.imap.connect with
  | some e => rfl
  | none =>
    change (Imap.login user password >>= _).runIn _ = _
    rw [runIn_bind, hlogin]
    cases s.imap.login with
    | some e =>
      simp only [List.append_assoc]
      rfl
    | none =>
      change (Imap.select (Imap.folderArgument (Imap.folderName config folder)) true >>= _).runIn _ = _
      rw [runIn_bind, Imap.runIn_select]
      simp only [List.append_assoc]
      cases hselected : s.imap.selected with
      | error e =>
        rw [refusesFolder, hselected]
        rfl
      | ok reply =>
        rw [refusesFolder_eq hselected]
        dsimp only
        by_cases hok : reply.status = "OK".toList
        · rw [if_neg (not_not_intro hok), runIn_settle, decide_eq_false (not_not_intro hok)]
          rfl
        · rw [if_pos hok, runIn_bind, Imap.runIn_disconnect, decide_eq_true hok]
          simp only [List.append_assoc]
          cases s.imap.releaseFault <;> rfl

/-- a folder is opened with a count of its messages, or with a fault: before the connection is let go of, or
behind that -/
theorem openFolder_of_run {r : Except Fault Int}
    (h : (Imap.openFolder config user password folder).runIn s = (r, t)) :
    (∃ e cs, r = .error e ∧ cs <+: openingCalls config user password folder ∧
      t = { s with calls := s.calls ++ cs }) ∨
    (∃ e, r = .error e ∧ t = { s with
      calls := s.calls ++ (openingCalls config user password folder ++ s.imap.releases) }) ∨
    ∃ count, r = .ok count ∧ Opens s count ∧
      t = { s with calls := s.calls ++ openingCalls config user password folder } := by
  obtain ⟨refusal, hrun⟩ := runIn_openFolder config user password folder s
  rw [hrun] at h
  cases h
  unfold resultOfOpening callsOfOpening
  cases s.imap.connect with
  | some e => exact .inl ⟨e, _, rfl, List.take_prefix 1 _, rfl⟩
  | none =>
    cases s.imap.login with
    | some e => exact .inl ⟨e, _, rfl, List.take_prefix 2 _, rfl⟩
    | none =>
      cases hselected : s.imap.selected with
      | error e =>
        rw [refusesFolder, hselected]
        exact .inl ⟨e, _, rfl, List.prefix_rfl, rfl⟩
      | ok reply =>
        rw [refusesFolder_eq hselected]
        by_cases hok : reply.status = "OK".toList
        · rw [decide_eq_false (not_not_intro hok)]
          cases hcount : Imap.countOf reply with
          | error e => exact .inl ⟨e, _, hcount, List.prefix_rfl, rfl⟩
          | ok count => exact .inr (.inr ⟨count, hcount, ⟨reply, hselected, hok, hcount⟩, rfl⟩)
        · rw [decide_eq_true hok]
          exact .inr (.inl ⟨_, rfl, rfl⟩)

/-- a folder is opened in one of these ways -/
theorem opened_of_run {r : Except Fault (Option Int)}
    (h : (opened config user password folder).runIn s = (r, t)) :
    Opened s config user password folder r t := by
  unfold opened at h
  rw [runIn_handling, runIn_bind_pure] at h
  cases hrun : (Imap.openFolder config user password folder).runIn s with
  | mk r' u =>
    rw [hrun] at h
    -- a missing folder is told, and every other fault stays
    have hfault : ∀ {e}, r' = .error e →
        (∀ count, r ≠ .ok (some count)) ∧ ∃ output, t = { u with output } := by
      rintro e rfl
      dsimp only [Except.map] at h
      split at h
      case h_1 p hhandled =>
        split at hhandled
        · cases hhandled
          cases h
          exact ⟨nofun, _, rfl⟩
        · cases hhandled
      case h_2 =>
        cases h
        exact ⟨nofun, t.output, rfl⟩
    rcases openFolder_of_run hrun with ⟨e, cs, he, hcs, hu⟩ | ⟨e, he, hu⟩ | ⟨count, rfl, hopens, hu⟩
    · obtain ⟨hr, output, rfl⟩ := hfault he
      rw [hu]
      exact .failed hcs hr
    · obtain ⟨hr, output, rfl⟩ := hfault he
      rw [hu]
      exact .missing hr
    · cases h
      rw [hu]
      exact .opened hopens

/-! ## the calls of a review -/

/-- the calls of a review: none, if its filter is refused; or the search for unread messages, those for a
filter, and the pages, behind which a message may have been fetched that could not be shown -/
inductive ReviewCalls (s : Session) (count : Int) (options : Options) (own : Option Mailbox) (limit : Int)
    (r : Except Fault Nat) : List Call → Prop
  | refused {e : Fault} (hr : r = .error e) : ReviewCalls s count options own limit r []
  | asked {tree : Option Tree} {looking cs further : List Call} {total : Nat} {ps : List (Int × Nat)}
      {out : Text} {d : Disk} (htree : IsTreeOf s.zone options.filter tree)
      (hlooking : IsLooking s.zone tree count looking)
      (hpages : Pages s own (belowOf options s) limit total 1 ps s.disk cs out d)
      (hfurther : further = [] ∨ ∃ n, further = [pageFetch n])
      (hresult : ∀ k, r = .ok k → further = [] ∧ ps.length = k) :
      ReviewCalls s count options own limit r (Imap.unseenCall :: looking ++ (cs ++ further))

variable {count limit : Int} {options : Options} {own : Option Mailbox}

theorem ReviewCalls.of_looking {tree : Option Tree} {looking : List Call} {r : Except Fault Nat}
    (htree : IsTreeOf s.zone options.filter tree) (hlooking : IsLooking s.zone tree count looking)
    (hr : ∀ k, r = .ok k → k = 0) :
    ReviewCalls s count options own limit r (Imap.unseenCall :: looking) := by
  have hnone : Imap.unseenCall :: looking = Imap.unseenCall :: looking ++ ([] ++ []) :=
    (List.append_nil _).symm
  rw [hnone]
  have hpages : Pages s own (belowOf options s) limit 0 1 [] s.disk [] [] s.disk := .nil
  exact .asked htree hlooking hpages (.inl rfl) fun k hk => ⟨rfl, (hr k hk).symm⟩

/-- a review makes these calls, and leaves the script of the connection's end as it is -/
theorem reviewCalls_of_run {text : Text} {r : Except Fault Nat}
    (h : (review count text options own limit).runIn s = (r, t)) :
    ∃ cs, t.calls = s.calls ++ cs ∧ ReviewCalls s count options own limit r cs ∧
      t.imap.close = s.imap.close ∧ t.imap.logout = s.imap.logout := by
  have hends : ∀ {cs} {v : Session}, s.Looked cs v →
      v.imap.close = s.imap.close ∧ v.imap.logout = s.imap.logout := by
    intro cs v hv
    constructor <;> rw [hv.rest]
  cases reviewed_of_run h with
  | refused hx he => exact ⟨[], (List.append_nil _).symm, .refused rfl, rfl, rfl⟩
  | uncounted htree hfault =>
    have hlooked := Imap.looked_unseenCount s
    rw [hfault] at hlooked
    exact ⟨_, hlooked.calls, .of_looking htree (.inl rfl) nofun, hends hlooked⟩
  | unchosen htree hunseen hchosen =>
    obtain ⟨looking, hlooked, hlooking⟩ := looked_of_chosen (criteria_of_isTreeOf htree) hunseen hchosen
    exact ⟨_, hlooked.calls, .of_looking htree hlooking nofun, hends hlooked⟩
  | empty htree hunseen hchosen hnone =>
    obtain ⟨looking, hlooked, hlooking⟩ := looked_of_chosen (criteria_of_isTreeOf htree) hunseen hchosen
    refine ⟨_, (hlooked.say _).calls, .of_looking htree hlooking ?_, hends (hlooked.say _)⟩
    rintro k hk
    cases hk
    rfl
  | @paged _ _ _ lines chosen _ v _ _ htree hunseen hchosen hsome hpage =>
    obtain ⟨looking, hlooked, hlooking⟩ := looked_of_chosen (criteria_of_isTreeOf htree) hunseen hchosen
    have hsaid := hlooked.say lines
    have hdisk : (v.say lines).disk = s.disk := by rw [hsaid.rest]
    obtain ⟨hrest, k, d, cs, out, further, last, hpages, hend, hcalls, -⟩ := paged_page hsaid.follows hpage
    rw [hdisk] at hpages
    have himap : t.imap = (v.say lines).imap := by rw [hrest]
    refine ⟨Imap.unseenCall :: looking ++ (cs ++ further), hcalls.trans ?_,
      .asked htree hlooking hpages ?_ ?_, by rw [himap]; exact hends hsaid⟩
    · rw [hsaid.calls, List.append_assoc]
    · cases hend with
      | shown _ | silent _ => exact .inl rfl
      | stopped _ _ => exact .inr ⟨_, rfl⟩
    · rintro m rfl
      cases hend with
      | shown _ => exact ⟨rfl, by rw [List.take_length]⟩

/-! ## whatever comes of it -/

theorem exists_searchCall (criteria : Text) :
    ∃ charset argument, Tree.searchCall criteria = .search charset argument := by
  unfold Tree.searchCall
  split <;> exact ⟨_, _, rfl⟩

theorem IsLooking.mem {zone : Zone} {tree : Option Tree} {cs : List Call} (h : IsLooking zone tree count cs)
    {c : Call} (hc : c ∈ cs) : (∃ criteria, c = Tree.searchCall criteria) ∨ ∃ t : Tree, c = t.fetchCall := by
  rcases h with rfl | ⟨-, t, criteria, -, -, hsub⟩
  · cases hc
  · rcases List.mem_pair.1 (hsub.subset hc) with rfl | rfl
    · exact .inl ⟨criteria, rfl⟩
    · exact .inr ⟨t, rfl⟩

theorem IsInterlude.mem {asks : Nat} {cs : List Call} (h : IsInterlude asks cs) {c : Call} (hc : c ∈ cs) :
    c = .noop ∨ c = .ask pagePrompt := by
  by_cases hnoop : c = .noop
  · exact .inl hnoop
  · have hmem : c ∈ cs.filter (· ≠ .noop) := List.mem_filter.2 ⟨hc, decide_eq_true hnoop⟩
    rw [h] at hmem
    exact .inr (List.eq_of_mem_replicate hmem)

theorem Pages.mem_calls {total position : Nat} {ps : List (Int × Nat)} {d d' : Disk} {cs : List Call}
    {out : Text} {below : Option Text} (h : Pages s own below limit total position ps d cs out d') {c : Call}
    (hc : c ∈ cs) : (∃ n, c = pageFetch n) ∨ c = .noop ∨ c = .ask pagePrompt := by
  induction h with
  | nil => cases hc
  | cons _ _ _ hasked _ _ ih =>
    rw [List.cons_append, List.mem_cons, List.mem_append] at hc
    rcases hc with rfl | hc | hc
    · exact .inl ⟨_, rfl⟩
    · exact .inr (hasked.mem hc)
    · exact ih hc

/-- whether a call lets go of a connection -/
def isRelease (c : Call) : Bool := c == .close || c == .logout

theorem mem_openingCalls {c : Call} (hc : c ∈ openingCalls config user password folder) :
    (∃ host port, c = .imapConnect host port) ∨ (∃ user password, c = .login user password) ∨
      ∃ folder, c = .select folder true := by
  simp only [openingCalls, List.mem_cons, List.not_mem_nil, or_false] at hc
  rcases hc with rfl | rfl | rfl
  · exact .inl ⟨_, _, rfl⟩
  · exact .inr (.inl ⟨_, _, rfl⟩)
  · exact .inr (.inr ⟨_, rfl⟩)

/-- the calls that a review is made of -/
inductive IsReviewCall : Call → Prop
  | unseen : IsReviewCall Imap.unseenCall
  | search (criteria : Text) : IsReviewCall (Tree.searchCall criteria)
  | fetchAll (t : Tree) : IsReviewCall t.fetchCall
  | fetch (n : Int) : IsReviewCall (pageFetch n)
  | noop : IsReviewCall .noop
  | ask : IsReviewCall (.ask pagePrompt)

theorem IsReviewCall.not_isRelease {c : Call} (h : IsReviewCall c) : isRelease c = false := by
  cases h with
  | search criteria =>
    obtain ⟨charset, argument, hsearch⟩ := exists_searchCall criteria
    rw [hsearch]
    rfl
  | _ => rfl

/-- a review is made of these calls -/
theorem ReviewCalls.isReviewCall {r : Except Fault Nat} {cs : List Call}
    (h : ReviewCalls s count options own limit r cs) {c : Call} (hc : c ∈ cs) : IsReviewCall c := by
  cases h with
  | refused _ => cases hc
  | asked _ hlooking hpages hfurther _ =>
    rw [List.cons_append, List.mem_cons, List.mem_append, List.mem_append] at hc
    rcases hc with rfl | hc | hc | hc
    · exact .unseen
    · rcases hlooking.mem hc with ⟨criteria, rfl⟩ | ⟨t, rfl⟩
      · exact .search criteria
      · exact .fetchAll t
    · rcases hpages.mem_calls hc with ⟨n, rfl⟩ | rfl | rfl
      · exact .fetch n
      · exact .noop
      · exact .ask
    · rcases hfurther with rfl | ⟨n, rfl⟩
      · cases hc
      · rw [List.mem_singleton.1 hc]
        exact .fetch n

/-- a folder is open in a session that differs by the calls of opening it -/
theorem opened_eq_ok (h : (opened config user password folder).runIn s = (.ok (some count), t)) :
    Opens s count ∧ t = { s with calls := s.calls ++ openingCalls config user password folder } := by
  cases opened_of_run h with
  | failed _ hr => exact absurd rfl (hr count)
  | missing hr => exact absurd rfl (hr count)
  | opened hopens => exact ⟨hopens, rfl⟩

section
variable (hopen : (opened config user password folder).runIn s = (.ok (some count), t))
  {r : Except Fault Nat} (hreview : (review count (Imap.folderName config folder) options
    (some ⟨config.mailName, user ++ "@" ++ config.mailDomain⟩) config.maxFilenameLength).runIn t = (r, u))
include hopen hreview

/-- a folder that is open is reviewed, and then the connection is let go of -/
theorem runIn_read : (read config user password folder options).runIn s
    = (match s.imap.releaseFault with
        | none => r.map some
        | some f => .error f,
      { u with calls := u.calls ++ s.imap.releases }) := by
  obtain ⟨-, ht⟩ := opened_eq_ok hopen
  obtain ⟨cs, hcalls, -, hclose, hlogout⟩ := reviewCalls_of_run hreview
  -- what the end of the connection will raise is the same behind the review as before the reading
  rw [show t.imap = s.imap by rw [ht]] at hclose hlogout
  have hreleases : u.imap.releases = s.imap.releases := by rw [ImapScript.releases, hclose]; rfl
  have hfault : u.imap.releaseFault = s.imap.releaseFault := by
    rw [ImapScript.releaseFault, hclose, hlogout]
    rfl
  unfold read
  rw [runIn_bind, hopen]
  dsimp only
  rw [runIn_map, runIn_ensuring, hreview]
  dsimp only
  rw [Imap.runIn_disconnect, hreleases, hfault]
  cases s.imap.releaseFault <;> rfl

/-- **Letting go of the connection.**  A folder that was opened is reviewed, and nothing lets go of the
connection before that is over.  If the calls of letting go raise nothing but faults of the server and of
the system, then the folder is closed and the connection ended, and the outcome is that of the review,
exactly if the folder is not closed with a fault of the system; such a fault is raised, and the connection
is not ended. -/
theorem read_lets_go (hclose : ∀ f, s.imap.close = some f → f.isParting = true)
    (hlogout : ∀ f, s.imap.logout = some f → f.isParting = true) :
    (∃ cs, u.calls = s.calls ++ cs ∧ ∀ c ∈ cs, isRelease c = false) ∧
    ((read config user password folder options).runIn s
        = (r.map some, { u with calls := u.calls ++ [.close, .logout] }) ↔
      ∀ f, s.imap.close = some f → f.isSystem = false) ∧
    ∀ f, s.imap.close = some f → f.isSystem = true →
      (read config user password folder options).runIn s
        = (.error f, { u with calls := u.calls ++ [.close] }) := by
  obtain ⟨hopens, ht⟩ := opened_eq_ok hopen
  obtain ⟨cs, hcalls, hreviewed, -⟩ := reviewCalls_of_run hreview
  have hread := runIn_read hopen hreview
  have hsystem : ∀ f, s.imap.close = some f → f.isSystem = true →
      (read config user password folder options).runIn s
        = (.error f, { u with calls := u.calls ++ [.close] }) := by
    intro f hf hfsystem
    rw [hread, ImapScript.releaseFault, ImapScript.releases, hf]
    simp only [Option.all_some, Fault.not_isImap_of_isSystem hfsystem, Bool.false_eq_true, if_false]
  refine ⟨⟨openingCalls config user password folder ++ cs, ?_, ?_⟩, ⟨?_, ?_⟩, hsystem⟩
  · rw [hcalls, ht, List.append_assoc]
  · intro c hc
    rcases List.mem_append.1 hc with hc | hc
    · rcases mem_openingCalls hc with ⟨_, _, rfl⟩ | ⟨_, _, rfl⟩ | ⟨_, rfl⟩ <;> rfl
    · exact (hreviewed.isReviewCall hc).not_isRelease
  · intro hwhole f hf
    -- a fault of the system would have kept the connection from being ended
    refine Bool.eq_false_iff.2 fun hfsystem => ?_
    have hsame : u.calls ++ [.close] = u.calls ++ [.close, .logout] :=
      congrArg (fun x => x.2.calls) ((hsystem f hf hfsystem).symm.trans hwhole)
    have hshort := List.append_cancel_left hsame
    cases hshort
  · intro hsmall
    have hall : s.imap.close.all Fault.isImap = true := by
      cases hf : s.imap.close with
      | none => rfl
      | some f =>
        have hparting := hclose f hf
        rw [Fault.isParting, hsmall f hf, Bool.or_false] at hparting
        exact hparting
    rw [hread, ImapScript.releaseFault_eq_none hall hlogout, ImapScript.releases, if_pos hall]

end

/-- a session whose user gives up on the search for unread messages, with these faults at the end -/
def givingUp (close logout : Option Fault) : Session :=
  { Session.quiet with imap := { Session.quiet.imap with
      select := some (.ok ⟨"OK", some [.line [48]]⟩), search := [.error (.interrupt "enough")], close, logout } }

/-- how nothing in particular is read -/
def Options.plain : Options := ⟨none, none, false, false, false⟩

/-- an empty folder is open in such a session, and its review is given up -/
theorem givingUp_runs (close logout : Option Fault) :
    ∃ t u : Session,
      (opened .plain "ann" "secret" none).runIn (givingUp close logout) = (.ok (some 0), t) ∧
      (review 0 (Imap.folderName .plain none) .plain (some ⟨"Ann", "ann@c.org"⟩) 150).runIn t
        = (.error (.interrupt "enough"), u) :=
  ⟨_, _, Prod.ext rfl rfl, Prod.ext rfl rfl⟩

/-- the server complains about the end of a folder and the line breaks, and the user's giving up comes out -/
theorem read_lets_go_giving_up :
    ∃ t u : Session,
      (opened .plain "ann" "secret" none).runIn
          (givingUp (some (.imap "CLOSE illegal")) (some (.system "broken pipe"))) = (.ok (some 0), t) ∧
      (review 0 (Imap.folderName .plain none) .plain (some ⟨"Ann", "ann@c.org"⟩) 150).runIn t
        = (.error (.interrupt "enough"), u) ∧
      (read .plain "ann" "secret" none .plain).runIn
          (givingUp (some (.imap "CLOSE illegal")) (some (.system "broken pipe")))
        = (.error (.interrupt "enough"), { u with calls := u.calls ++ [.close, .logout] }) := by
  obtain ⟨t, u, hopen, hreview⟩ :=
    givingUp_runs (some (.imap "CLOSE illegal")) (some (.system "broken pipe"))
  have hclose : ∀ f, some (Fault.imap "CLOSE illegal") = some f → f.isParting = true := by
    rintro f hf
    cases hf
    rfl
  have hlogout : ∀ f, some (Fault.system "broken pipe") = some f → f.isParting = true := by
    rintro f hf
    cases hf
    rfl
  refine ⟨t, u, hopen, hreview, (read_lets_go hopen hreview hclose hlogout).2.1.2 ?_⟩
  rintro f hf
  cases hf
  rfl

/-- the line breaks when the folder is closed: that is what comes out in place of the user's giving up, and
the connection is not ended -/
theorem read_keeps_connection :
    ∃ t u : Session,
      (opened .plain "ann" "secret" none).runIn (givingUp (some (.system "broken pipe")) none)
        = (.ok (some 0), t) ∧
      (review 0 (Imap.folderName .plain none) .plain (some ⟨"Ann", "ann@c.org"⟩) 150).runIn t
        = (.error (.interrupt "enough"), u) ∧
      (read .plain "ann" "secret" none .plain).runIn (givingUp (some (.system "broken pipe")) none)
        = (.error (.system "broken pipe"), { u with calls := u.calls ++ [.close] }) :=
  ⟨_, _, Prod.ext rfl rfl, Prod.ext rfl rfl, Prod.ext rfl rfl⟩

end Client
end Mailroom
