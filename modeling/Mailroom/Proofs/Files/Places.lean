import Mailroom.Files.Disk
import Mailroom.Proofs.Outcome
import Mailroom.Proofs.Text.Pieces

/-!
# Where paths lead

There are no links, so the names of a path alone tell where it leads.  What is made and written on a
disk lies there.

* `locate`, `passed`      the place that a path names, and the places on its way;
* `locate_join`, `passed_join`   a path with one more name leads one place further;
* `Change`, `Confined`    what may become of the entries of a disk: some directories are made where
  there was nothing, and files are written directly inside one place;
* `confined_makeDirectory`, `confined_write`   what is made and written is confined.
-/

namespace Mailroom

namespace Disk

/-- the places that names lead to, one after the other -/
def way (p : Place) : List Text → List Place
  | [] => []
  | n :: ns => enter p n :: way (enter p n) ns

/-- the place that a path names, whether there is something or not -/
def locate (d : Disk) (path : Text) : Place :=
  (Text.splitOn '/' (d.start path).2).foldl enter (d.start path).1

/-- the places on the way of a path, the one it names among them -/
def passed (d : Disk) (path : Text) : List Place :=
  way (d.start path).1 (Text.splitOn '/' (d.start path).2)

variable {d d' : Disk}

/-! ## steps -/

theorem step?_eq_some {p q : Place} {n : Text} :
    d.step? p n = some q ↔ d.isDirectory p = true ∧ (d.at? (enter p n)).isSome ∧ q = enter p n := by
  unfold step?
  by_cases h : (d.isDirectory p && (d.at? (enter p n)).isSome) = true
  · rw [if_pos h]
    rw [Bool.and_eq_true] at h
    simp [h.1, h.2, eq_comm]
  · rw [if_neg h]
    simp only [Bool.and_eq_true, not_and] at h
    simp only [reduceCtorEq, false_iff, not_and]
    intro hp he
    exact absurd he (h hp)

theorem foldlM_step? {p q : Place} {ns : List Text} (h : ns.foldlM d.step? p = some q) :
    q = ns.foldl enter p ∧ ∀ r ∈ way p ns, d.at? r ≠ none := by
  induction ns generalizing p with
  | nil =>
    cases h
    exact ⟨rfl, nofun⟩
  | cons n ns ih =>
    rw [List.foldlM_cons, Option.bind_eq_bind, Option.bind_eq_some_iff] at h
    obtain ⟨p', hp, h⟩ := h
    obtain ⟨-, he, rfl⟩ := step?_eq_some.1 hp
    obtain ⟨hq, hway⟩ := ih h
    refine ⟨hq, fun r hr => ?_⟩
    rcases List.mem_cons.1 hr with rfl | hr
    · exact Option.isSome_iff_ne_none.1 he
    · exact hway r hr

/-- on the way of a path that leads somewhere nothing is missing -/
theorem at?_of_mem_passed {path : Text} {p q : Place} (h : d.place? path = some p)
    (hq : q ∈ d.passed path) : d.at? q ≠ none := by
  unfold place? at h
  split at h
  · cases h
  · exact (foldlM_step? h).2 q hq

theorem foldl_enter_append (p : Place) (ns : List Text) (n : Text) :
    (ns ++ [n]).foldl enter p = enter (ns.foldl enter p) n := by
  rw [List.foldl_append]
  rfl

theorem way_append (p : Place) (ns : List Text) (n : Text) :
    way p (ns ++ [n]) = way p ns ++ [enter (ns.foldl enter p) n] := by
  induction ns generalizing p with
  | nil => rfl
  | cons m ns ih =>
    rw [List.cons_append, way, ih]
    rfl

theorem enter_nil (p : Place) : enter p [] = p := rfl

/-! ## a path with one more name -/

/-- a text behind which a name needs no slash: an empty one, or one that ends with a slash -/
def IsOpen (front : Text) : Prop := ∀ c ∈ front.getLast?, c = '/'

theorem isOpen_append (a r : Text) : IsOpen (a ++ '/' :: r) ↔ IsOpen r := by
  unfold IsOpen
  rw [List.getLast?_append, List.getLast?_cons, Option.some_or]
  cases r.getLast? <;> simp

/-- a text with one more name behind it -/
def Joined (front name s : Text) : Prop :=
  s = front ++ '/' :: name ∧ ¬IsOpen front ∨ s = front ++ name ∧ IsOpen front

theorem joined_join {dir name : Text} (h : '/' ∉ name) : Joined dir name (Path.join dir name) := by
  unfold Path.join
  split
  · exact absurd List.mem_cons_self h
  have hopen : IsOpen dir ↔ dir.getLast? = some '/' ∨ dir.isEmpty := by
    unfold IsOpen
    rw [List.isEmpty_iff, ← List.getLast?_eq_none_iff]
    cases dir.getLast? <;> simp
  split
  · rename_i hdir
    exact .inr ⟨rfl, hopen.2 hdir⟩
  · rename_i hdir
    exact .inl ⟨rfl, fun h => hdir (hopen.1 h)⟩

/-- the names of the text are those in front, without an empty one at the end, and the one behind -/
theorem Joined.splitOn {front name s : Text} (h : Joined front name s) (hn : '/' ∉ name) :
    ∃ ns, (Text.splitOn '/' front = ns ∨ Text.splitOn '/' front = ns ++ [[]]) ∧
      Text.splitOn '/' s = ns ++ [name] := by
  have hname := Text.splitOn_of_not_mem hn
  rcases h with ⟨rfl, -⟩ | ⟨rfl, hopen⟩
  · exact ⟨_, .inl rfl, by rw [Text.splitOn_append_cons, hname]⟩
  cases hlast : front.getLast? with
  | none =>
    rw [List.getLast?_eq_none_iff.1 hlast]
    exact ⟨[], .inr rfl, hname⟩
  | some c =>
    obtain ⟨u, rfl⟩ := List.getLast?_eq_some_iff.1 hlast
    obtain rfl := hopen c hlast
    refine ⟨Text.splitOn '/' u, .inr (Text.splitOn_append_cons '/' u []), ?_⟩
    rw [List.append_assoc, List.singleton_append, Text.splitOn_append_cons, hname]

theorem belowHome?_eq_some {path r : Text} :
    d.belowHome? path = some r ↔ path = d.homePath ∧ r = [] ∨ path = d.homePath ++ '/' :: r := by
  unfold belowHome?
  cases h : Text.after? d.homePath path with
  | none =>
    simp only [reduceCtorEq, false_iff, not_or, not_and]
    have hnone : ∀ t, path ≠ d.homePath ++ t := by
      intro t ht
      rw [Text.after?_eq_some.2 ht] at h
      cases h
    exact ⟨fun e => absurd e (by simpa using hnone []), hnone _⟩
  | some t =>
    obtain rfl := Text.after?_eq_some.1 h
    split
    · rename_i e
      cases e
      simp [eq_comm]
    · rename_i r' e
      cases e
      simp [eq_comm]
    · rename_i hnil hslash
      simp only [reduceCtorEq, false_iff, not_or, not_and, List.append_cancel_left_eq]
      constructor
      · intro e
        have ht : t = [] := by simpa using e
        exact absurd (by rw [ht]) hnil
      · rintro rfl
        exact absurd rfl (hslash r)

/-- the path of the home directory is empty or does not end with a slash -/
theorem homePath_eq_nil (h : IsOpen d.homePath) : d.homePath = [] := by
  cases hlast : d.homePath.getLast? with
  | none => exact List.getLast?_eq_none_iff.1 hlast
  | some c =>
    have hhead := List.head?_dropWhile_not (fun c : Char => c == '/') d.home.reverse
    unfold homePath Text.trimEndWhere at h hlast
    rw [List.getLast?_reverse] at hlast
    rw [hlast] at hhead
    obtain rfl := h c (by rw [List.getLast?_reverse, hlast]; rfl)
    simp at hhead

theorem start_of_belowHome {path r : Text} (h : d.belowHome? path = some r) :
    d.start path = (d.homeAt, r) := by
  unfold start
  rw [h]

theorem start_of_not_belowHome {path : Text} (h : d.belowHome? path = none) :
    d.start path = (if path.head? = some '/' then [] else d.homeAt, path) := by
  unfold start
  rw [h]

section
variable {dir name s : Text} (hs : Joined dir name s) (hn : '/' ∉ name)
include hs hn

theorem Joined.head?_eq_slash : s.head? = some '/' ↔ dir.head? = some '/' := by
  cases dir with
  | cons c r => rcases hs with ⟨rfl, -⟩ | ⟨rfl, -⟩ <;> rfl
  | nil =>
    rcases hs with ⟨-, hopen⟩ | ⟨rfl, -⟩
    · exact absurd nofun hopen
    · simp only [List.head?_nil, reduceCtorEq, iff_false]
      exact fun h => hn (List.mem_of_mem_head? h)

theorem start_joined_of_belowHome {r : Text} (h : d.belowHome? dir = some r) (hhome : s ≠ d.homePath) :
    ∃ r', d.start s = (d.homeAt, r') ∧ Joined r name r' := by
  rcases belowHome?_eq_some.1 h with ⟨rfl, rfl⟩ | rfl
  · rcases hs with ⟨rfl, -⟩ | ⟨rfl, hopen⟩
    · exact ⟨name, start_of_belowHome (belowHome?_eq_some.2 (.inr rfl)), .inr ⟨rfl, nofun⟩⟩
    · -- the path of the home directory is empty here, and the name stands for itself
      have hnil := homePath_eq_nil hopen
      rw [hnil, List.nil_append] at hhome ⊢
      have hnone : d.belowHome? name = none := by
        rw [Option.eq_none_iff_forall_ne_some]
        intro r hr
        rcases belowHome?_eq_some.1 hr with ⟨e, -⟩ | e
        · exact hhome (e.trans hnil)
        · rw [hnil] at e
          exact hn (e ▸ List.mem_cons_self)
      refine ⟨name, ?_, .inr ⟨rfl, nofun⟩⟩
      rw [start_of_not_belowHome hnone, if_neg]
      exact fun hslash => hn (List.mem_of_mem_head? hslash)
  · rcases hs with ⟨rfl, hopen⟩ | ⟨rfl, hopen⟩
    · refine ⟨r ++ '/' :: name, start_of_belowHome (belowHome?_eq_some.2 (.inr ?_)), .inl ⟨rfl, ?_⟩⟩
      · rw [List.append_assoc, List.cons_append]
      · rwa [isOpen_append] at hopen
    · refine ⟨r ++ name, start_of_belowHome (belowHome?_eq_some.2 (.inr ?_)), .inr ⟨rfl, ?_⟩⟩
      · rw [List.append_assoc, List.cons_append]
      · rwa [isOpen_append] at hopen

theorem belowHome?_joined_eq_none (h : d.belowHome? dir = none) (hhome : s ≠ d.homePath) :
    d.belowHome? s = none := by
  rw [Option.eq_none_iff_forall_ne_some] at h ⊢
  intro r hr
  have hs' := (belowHome?_eq_some.1 hr).resolve_left fun e => hhome e.1
  -- the slash behind the home directory is not one of `dir`, and the name has none
  have hslash : ∀ back, dir ++ back = d.homePath ++ '/' :: r → ∃ t, t ≠ [] ∧ back = t ++ '/' :: r := by
    intro back e
    rcases List.append_eq_append_iff.1 e with ⟨t, hbase, hback⟩ | ⟨t, hdir, hr⟩
    · refine ⟨t, ?_, hback⟩
      rintro rfl
      exact h [] (belowHome?_eq_some.2 (.inl ⟨by rw [hbase, List.append_nil], rfl⟩))
    · cases t with
      | nil => exact absurd (belowHome?_eq_some.2 (.inl ⟨by rw [hdir, List.append_nil], rfl⟩)) (h [])
      | cons c t =>
        cases hr
        exact absurd (belowHome?_eq_some.2 (.inr hdir)) (h t)
  rcases hs with ⟨rfl, -⟩ | ⟨rfl, -⟩
  · obtain ⟨t, hne, ht⟩ := hslash _ hs'
    cases t with
    | nil => exact absurd rfl hne
    | cons c t =>
      cases ht
      exact hn (List.mem_append_right _ List.mem_cons_self)
  · obtain ⟨t, -, rfl⟩ := hslash _ hs'
    exact hn (List.mem_append_right _ List.mem_cons_self)

theorem start_joined (hhome : s ≠ d.homePath) :
    (d.start s).1 = (d.start dir).1 ∧ Joined (d.start dir).2 name (d.start s).2 := by
  cases h : d.belowHome? dir with
  | some r =>
    obtain ⟨r', hr', hj⟩ := start_joined_of_belowHome hs hn h hhome
    rw [start_of_belowHome h, hr']
    exact ⟨rfl, hj⟩
  | none =>
    rw [start_of_not_belowHome h, start_of_not_belowHome (belowHome?_joined_eq_none hs hn h hhome)]
    refine ⟨?_, hs⟩
    simp only [hs.head?_eq_slash hn]

end

section
variable {dir name : Text} (hn : '/' ∉ name) (hhome : Path.join dir name ≠ d.homePath)
include hn hhome

theorem locate_join : d.locate (Path.join dir name) = enter (d.locate dir) name := by
  obtain ⟨hstart, hj⟩ := start_joined (joined_join hn) hn hhome
  obtain ⟨ns, hdir, hjoin⟩ := hj.splitOn hn
  unfold locate
  rw [hstart, hjoin, foldl_enter_append]
  rcases hdir with e | e
  · rw [e]
  · rw [e, foldl_enter_append, enter_nil]

theorem passed_join {q : Place} (hq : q ∈ d.passed (Path.join dir name)) :
    q = enter (d.locate dir) name ∨ q ∈ d.passed dir := by
  have hlast := locate_join hn hhome
  obtain ⟨hstart, hj⟩ := start_joined (joined_join hn) hn hhome
  obtain ⟨ns, hdir, hjoin⟩ := hj.splitOn hn
  unfold locate at hlast
  unfold passed at hq ⊢
  rw [hjoin, foldl_enter_append] at hlast
  rw [hjoin, way_append, List.mem_append, List.mem_singleton, hlast, hstart] at hq
  rcases hq with hq | hq
  · right
    rcases hdir with e | e
    · rwa [e]
    · rw [e, way_append]
      exact List.mem_append_left _ hq
  · exact .inl hq

end

/-! ## what becomes of a disk -/

theorem at?_put_of_ne {p q : Place} (h : q ≠ p) (content : Option Octets) :
    (d.put p content).at? q = d.at? q := by
  have hfind : (d.entries.filter (·.1 != p) ++ [(p, content)]).find? (·.1 == q)
      = d.entries.find? (·.1 == q) := by
    rw [List.find?_append, List.find?_filter]
    have hother : ((p, content).1 == q) = false := by simpa using Ne.symm h
    rw [List.find?_singleton, hother, if_neg Bool.false_ne_true, Option.or_none]
    congr 1
    funext e
    by_cases he : e.1 = q
    · simp [he, h]
    · simp [he]
  unfold put at?
  rw [hfind]

theorem at?_put_self {p : Place} (h : d.at? p ≠ some none) (content : Option Octets) :
    (d.put p content).at? p = some content := by
  have hhome : ¬p.isPrefixOf d.homeAt = true := fun hp => h (if_pos hp)
  have hfilter : (d.entries.filter (·.1 != p)).find? (·.1 == p) = none := by simp
  unfold put at?
  rw [if_neg hhome, List.find?_append, hfilter]
  simp

/-- what may become of the entry of a place `q`: it is as before, a directory is made where there was
nothing, or a file is written -/
inductive Change (ways : List Place) (p q : Place) :
    Option (Option Octets) → Option (Option Octets) → Prop where
  | same {x} : Change ways p q x x
  | made : q ∈ ways → Change ways p q none (some none)
  | written {x name content} : '/' ∉ name → name ≠ [] → q = p ++ [name] → x ≠ some none →
      Change ways p q x (some (some content))

theorem Change.trans {ways : List Place} {p q : Place} {x y z : Option (Option Octets)}
    (h : Change ways p q x y) (h' : Change ways p q y z) : Change ways p q x z := by
  cases h with
  | same => exact h'
  | made hq =>
    cases h' with
    | same => exact .made hq
    | written _ _ _ hx => exact absurd rfl hx
  | written hn hne hq hx =>
    cases h' with
    | same => exact .written hn hne hq hx
    | written hn' hne' hq' _ => exact .written hn' hne' hq' hx

/-- a disk that differs from another one only by directories on some ways and by files directly inside
one place -/
structure Confined (ways : List Place) (p : Place) (d d' : Disk) : Prop where
  home : d'.home = d.home
  homeAt : d'.homeAt = d.homeAt
  entries : ∀ q, Change ways p q (d.at? q) (d'.at? q)

variable {ways : List Place} {p : Place}

theorem Confined.refl (d : Disk) : Confined ways p d d := ⟨rfl, rfl, fun _ => .same⟩

theorem Confined.trans {d'' : Disk} (h : Confined ways p d d') (h' : Confined ways p d' d'') :
    Confined ways p d d'' :=
  ⟨h'.home.trans h.home, h'.homeAt.trans h.homeAt, fun q => (h.entries q).trans (h'.entries q)⟩

/-- of the directories that are made only those count that are missing -/
theorem Confined.mono {ways' : List Place} (h : Confined ways p d d')
    (hways : ∀ q ∈ ways, d.at? q = none → q ∈ ways') : Confined ways' p d d' := by
  refine ⟨h.home, h.homeAt, fun q => ?_⟩
  have hq := h.entries q
  generalize hx : d.at? q = x at hq ⊢
  generalize d'.at? q = y at hq ⊢
  cases hq with
  | same => exact .same
  | made hmem => exact .made (hways q hmem hx)
  | written hn hne hplace hdir => exact .written hn hne hplace hdir

theorem Confined.start_eq (h : Confined ways p d d') (path : Text) : d'.start path = d.start path := by
  unfold start belowHome? homePath
  rw [h.home, h.homeAt]

theorem Confined.locate_eq (h : Confined ways p d d') (path : Text) : d'.locate path = d.locate path := by
  unfold locate
  rw [h.start_eq]

theorem Confined.passed_eq (h : Confined ways p d d') (path : Text) : d'.passed path = d.passed path := by
  unfold passed
  rw [h.start_eq]

theorem confined_put {q : Place} (hq : q ∈ ways) (hnew : d.at? q = none) :
    Confined ways p d (d.put q none) := by
  refine ⟨rfl, rfl, fun r => ?_⟩
  by_cases hr : r = q
  · subst hr
    rw [at?_put_self (by simp [hnew]), hnew]
    exact .made hq
  · rw [at?_put_of_ne hr]
    exact .same

theorem confined_makeSteps {from' : Place} {path : Text} {ns : List Text}
    (hways : ∀ q ∈ way from' ns, q ∈ ways) : Confined ways p d (d.makeSteps path from' ns).2 := by
  induction ns generalizing d from' with
  | nil => exact Confined.refl d
  | cons n ns ih =>
    have hrest : ∀ q ∈ way (enter from' n) ns, q ∈ ways := fun q hq => hways q (List.mem_cons_of_mem _ hq)
    rw [makeSteps]
    cases hstep : d.step? from' n with
    | some q =>
      obtain ⟨-, -, rfl⟩ := step?_eq_some.1 hstep
      exact ih hrest
    | none =>
      dsimp only
      by_cases hdir : d.isDirectory from' = true
      · rw [if_pos hdir]
        have hnew : d.at? (enter from' n) = none := by
          refine Option.not_isSome_iff_eq_none.1 fun hsome => ?_
          rw [step?_eq_some.2 ⟨hdir, hsome, rfl⟩] at hstep
          cases hstep
        exact (confined_put (hways _ List.mem_cons_self) hnew).trans (ih hrest)
      · rw [if_neg hdir]
        exact Confined.refl d

theorem confined_makeDirectory (path : Text) :
    Confined (d.passed path) p d (d.makeDirectory path).2 := by
  unfold makeDirectory
  split
  · exact Confined.refl d
  · exact confined_makeSteps fun _ => id

/-- what a path with one more name says of the directory and the name, unless it leads to the home
directory -/
theorem directoryOf_join {dir name n : Text} {q : Place} (hn : '/' ∉ name)
    (h : d.directoryOf (Path.join dir name) = (some q, n)) (hne : n ≠ []) :
    n = name ∧ q = d.locate dir := by
  unfold directoryOf at h
  dsimp only at h
  by_cases hhome : Path.join dir name = d.homePath
  · -- the path of the home directory ends with an empty name
    have hstart : d.start (Path.join dir name) = (d.homeAt, []) :=
      start_of_belowHome (belowHome?_eq_some.2 (.inl ⟨hhome, rfl⟩))
    rw [hstart] at h
    exact absurd (Prod.mk.inj h).2.symm hne
  · obtain ⟨hstart, hj⟩ := start_joined (joined_join hn) hn hhome
    obtain ⟨ns, hdir, hjoin⟩ := hj.splitOn hn
    rw [hstart, hjoin, List.dropLast_concat, List.getLast?_concat] at h
    obtain ⟨hq, hname⟩ := Prod.mk.inj h
    refine ⟨hname.symm, (foldlM_step? hq).1.trans ?_⟩
    unfold locate
    rcases hdir with e | e
    · rw [e]
    · rw [e, foldl_enter_append, enter_nil]

/-- a file that is written lies directly inside the place of the directory that its path names -/
theorem write_join_eq_ok {dir name : Text} {content : Octets} (hn : '/' ∉ name)
    (h : d.write (Path.join dir name) content = .ok d') :
    d' = d.put (d.locate dir ++ [name]) (some content) ∧ name ≠ [] ∧
      d.at? (d.locate dir ++ [name]) ≠ some none := by
  obtain ⟨_, -, h⟩ := bind_eq_ok.1 h
  split at h
  · rename_i q n hq
    split at h
    · cases h
    split at h
    · cases h
    split at h
    · cases h
    rename_i hspecial hdir
    cases h
    rw [not_or, List.isEmpty_iff] at hspecial
    obtain ⟨rfl, rfl⟩ := directoryOf_join hn hq hspecial.1
    exact ⟨rfl, hspecial.1, hdir⟩
  · cases h

theorem confined_write {dir name : Text} {content : Octets} (hn : '/' ∉ name)
    (h : d.write (Path.join dir name) content = .ok d') : Confined ways (d.locate dir) d d' := by
  obtain ⟨rfl, hne, hdir⟩ := write_join_eq_ok hn h
  refine ⟨rfl, rfl, fun r => ?_⟩
  by_cases hr : r = d.locate dir ++ [name]
  · subst hr
    rw [at?_put_self hdir]
    exact .written hn hne rfl hdir
  · rw [at?_put_of_ne hr]
    exact .same

/-- where directories are made files stay as they are -/
theorem file_makeDirectory (path : Text) (q : Place) (content : Octets) :
    (d.makeDirectory path).2.at? q = some (some content) ↔ d.at? q = some (some content) := by
  -- whatever is made, it is no file directly inside `q`
  have hchange := (confined_makeDirectory (d := d) (p := q) path).entries q
  generalize d.at? q = x at hchange ⊢
  generalize (d.makeDirectory path).2.at? q = y at hchange ⊢
  cases hchange with
  | same => rfl
  | made _ => simp
  | written _ _ hq _ => exact absurd hq (by simp)

end Disk
end Mailroom
