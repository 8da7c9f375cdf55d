import Mathlib.Data.List.Nodup
import Mathlib.Data.List.Perm.Subperm
import Mathlib.Data.List.TakeWhile
import Mailroom.Proofs.Time.Spoken
import Mailroom.Proofs.View.Saving

/-!
# What becomes of saved parts

Every part that is saved becomes a file of the directory, whose name is suggested by the part or made
from the place of the part.  Nothing keeps two parts from having the same name, and then the later one
takes the place of the earlier one.

* `savedFile`             the name and the content of the file of a part;
* `Holds`                 the files of a directory are those that were written last under their names;
* `runIn_save_eq_ok`      saving a part writes its file;
* `holds_saveAll`         saving parts one after the other writes their files in this order;
* `saved_apart_iff`       every part that was saved is still there exactly if the names differ;
* `madeName_eq_iff`       when two names that are made from places are the same.
-/

namespace Mailroom.View

open Program

/-- name and content of the file of a part -/
def savedFile (directory : Text) (call : Message × Spot) : Except Fault (Text × Octets) := do
  let name ← call.1.header.filename?
  let content ← call.1.content?
  return (savedName (Path.baseName directory) call.2 name, content.getD [])

/-- the files of some parts, in the same order -/
def Files (directory : Text) (calls : List (Message × Spot)) (files : List (Text × Octets)) : Prop :=
  List.Forall₂ (fun call file => savedFile directory call = .ok file) calls files

/-- the files directly inside a place are those of a list, the last one of each name -/
def Holds (d : Disk) (p : Place) (files : List (Text × Octets)) : Prop :=
  ∀ name content, d.at? (p ++ [name]) = some (some content) ↔
    files.reverse.lookup name = some content

variable {directory : Text} {s t : Session} {call : Message × Spot} {calls : List (Message × Spot)}
  {files : List (Text × Octets)}

theorem not_mem_savedFile {file : Text × Octets} (h : savedFile directory call = .ok file) :
    '/' ∉ file.1 := by
  obtain ⟨name, -, h⟩ := bind_eq_ok.1 h
  obtain ⟨content, -, h⟩ := bind_eq_ok.1 h
  cases h
  exact not_mem_savedName _ _ _

/-! ## steps -/

/-- saving a part makes the directory and writes the file of the part -/
theorem runIn_save_eq_ok (h : (save directory call.1 call.2).runIn s = (.ok (), t)) :
    ∃ file, savedFile directory call = .ok file ∧
      (s.disk.makeDirectory directory).2.write (Path.join directory file.1) file.2 = .ok t.disk := by
  obtain ⟨_, _, hsession, h⟩ := runIn_bind_eq_ok.1 h
  cases hsession
  -- the disk with the directory made, under a name of its own
  generalize s.disk.makeDirectory directory = made at h ⊢
  obtain ⟨done, made⟩ := made
  obtain ⟨_, _, hchange, h⟩ := runIn_bind_eq_ok.1 h
  cases hchange
  obtain ⟨_, _, hdone, h⟩ := runIn_bind_eq_ok.1 h
  obtain ⟨-, rfl⟩ := runIn_settle_eq_ok.1 hdone
  obtain ⟨name, _, hsuggested, h⟩ := runIn_bind_eq_ok.1 h
  obtain ⟨hname, rfl⟩ := runIn_settle_eq_ok.1 hsuggested
  obtain ⟨content, _, hread, h⟩ := runIn_bind_eq_ok.1 h
  obtain ⟨hcontent, rfl⟩ := runIn_settle_eq_ok.1 hread
  obtain ⟨written, _, hput, h⟩ := runIn_bind_eq_ok.1 h
  obtain ⟨hwritten, rfl⟩ := runIn_settle_eq_ok.1 hput
  cases h
  refine ⟨(savedName (Path.baseName directory) call.2 name, content.getD []), ?_, hwritten⟩
  exact bind_eq_ok.2 ⟨name, hname, bind_eq_ok.2 ⟨content, hcontent, rfl⟩⟩

theorem locate_of_save (h : (save directory call.1 call.2).runIn s = (.ok (), t)) :
    t.disk.locate directory = s.disk.locate directory := by
  have hkeeps := keeps_save directory call.1 call.2 s
  rw [h] at hkeeps
  exact Disk.Confined.locate_eq hkeeps directory

/-- one part more is one file more -/
theorem holds_save (hs : Holds s.disk (s.disk.locate directory) files)
    (h : (save directory call.1 call.2).runIn s = (.ok (), t)) :
    ∃ file, savedFile directory call = .ok file ∧
      Holds t.disk (s.disk.locate directory) (files ++ [file]) := by
  obtain ⟨file, hfile, hwritten⟩ := runIn_save_eq_ok h
  refine ⟨file, hfile, ?_⟩
  have hmade : Disk.Confined (s.disk.passed directory) [] s.disk
      (s.disk.makeDirectory directory).2 := Disk.confined_makeDirectory directory
  obtain ⟨hput, -, hdir⟩ := Disk.write_join_eq_ok (not_mem_savedFile hfile) hwritten
  rw [hmade.locate_eq] at hput hdir
  intro name content
  rw [hput, List.reverse_append, List.reverse_singleton, List.singleton_append, List.lookup_cons]
  by_cases hname : name = file.1
  · rw [hname, Disk.at?_put_self hdir]
    simp
  · have hother : s.disk.locate directory ++ [name] ≠ s.disk.locate directory ++ [file.1] := by
      intro e
      exact hname (by simpa using e)
    have hbeq : (name == file.1) = false := by simpa using hname
    rw [Disk.at?_put_of_ne hother, Disk.file_makeDirectory, hs name content, hbeq]

/-! ## runs -/

/-- parts saved one after the other are files written in the same order -/
theorem holds_saveAll (hs : Holds s.disk (s.disk.locate directory) files)
    (h : (saveAll directory calls).runIn s = (.ok (), t)) :
    ∃ new, Files directory calls new ∧ Holds t.disk (s.disk.locate directory) (files ++ new) := by
  -- `Holds` is carried from part to part; the place stays the same, since saving changes no name above it
  induction calls generalizing s files with
  | nil =>
    cases h
    exact ⟨[], .nil, by rwa [List.append_nil]⟩
  | cons call calls ih =>
    obtain ⟨_, u, hsave, hrest⟩ := runIn_bind_eq_ok.1 h
    obtain ⟨file, hfile, hu⟩ := holds_save hs hsave
    have hlocate := locate_of_save hsave
    rw [← hlocate] at hu
    obtain ⟨new, hnew, ht⟩ := ih hu hrest
    refine ⟨file :: new, .cons hfile hnew, ?_⟩
    rwa [hlocate, List.append_assoc, List.singleton_append] at ht

/-! ## parts that are still there -/

/-- how many files lie directly inside a place -/
def HoldsCount (d : Disk) (p : Place) (n : Nat) : Prop :=
  ∃ names : List Text, names.Nodup ∧ names.length = n ∧
    ∀ name, name ∈ names ↔ ∃ content, d.at? (p ++ [name]) = some (some content)

theorem lookup_of_mem {file : Text × Octets} (hn : (files.map Prod.fst).Nodup) (h : file ∈ files) :
    files.lookup file.1 = some file.2 := by
  obtain ⟨before, after, rfl⟩ := List.append_of_mem h
  rw [List.lookup_eq_some_iff]
  refine ⟨before, after, rfl, fun other hother => ?_⟩
  rw [List.map_append, List.map_cons, List.nodup_append] at hn
  have hne := hn.2.2 other.1 (List.mem_map_of_mem hother) file.1 List.mem_cons_self
  simpa using Ne.symm hne

theorem Holds.mem_names_iff {d : Disk} {p : Place} (h : Holds d p files) (name : Text) :
    name ∈ files.map Prod.fst ↔ ∃ content, d.at? (p ++ [name]) = some (some content) := by
  have hlookup : (∃ content, files.reverse.lookup name = some content) ↔ name ∈ files.map Prod.fst := by
    rw [← Option.isSome_iff_exists, List.lookup_isSome_iff, List.mem_map]
    simp only [List.mem_reverse, beq_iff_eq, eq_comm (b := name)]
  rw [← hlookup]
  exact exists_congr fun content => (h name content).symm

/-- there are as many files as were written exactly if their names differ, and then each of them has
its content -/
theorem Holds.apart_iff {d : Disk} {p : Place} (h : Holds d p files) :
    (HoldsCount d p files.length ∧
      ∀ file ∈ files, d.at? (p ++ [file.1]) = some (some file.2)) ↔ (files.map Prod.fst).Nodup := by
  constructor
  · rintro ⟨⟨names, hnodup, hlength, hmem⟩, -⟩
    have hsubset : names ⊆ files.map Prod.fst := by
      intro name hname
      exact (h.mem_names_iff name).2 ((hmem name).1 hname)
    -- as many different names as names at all: none of them is there twice
    have hle : (files.map Prod.fst).length ≤ names.length :=
      Nat.le_of_eq ((List.length_map _).trans hlength.symm)
    have hperm := (List.subperm_of_subset hnodup hsubset).perm_of_length_le hle
    exact hperm.nodup_iff.1 hnodup
  · intro hnodup
    refine ⟨⟨files.map Prod.fst, hnodup, List.length_map _, h.mem_names_iff⟩, fun file hfile => ?_⟩
    rw [h file.1 file.2]
    refine lookup_of_mem ?_ (List.mem_reverse.2 hfile)
    rwa [List.map_reverse, List.nodup_reverse]

/-- **Parts that are still there.**  While the lines of a message are made its savable parts are written
one after the other, each under its own name.  If none of this fails in a directory without files, there
are afterwards as many files as parts, each with the content of its part, exactly if no two of the names
are the same. -/
theorem saved_apart_iff (m : Message) (directory : Text) (s t : Session)
    (hfresh : ∀ name content,
      s.disk.at? (s.disk.locate directory ++ [name]) ≠ some (some content))
    (hsaved : (saveAll directory (saves (bodyEntries m))).runIn s = (.ok (), t)) :
    (linesSaving (some directory) (bodyEntries m)).runIn s = (bodyLines m, t) ∧
    ∃ files, Files directory (saves (bodyEntries m)) files ∧
      Holds t.disk (s.disk.locate directory) files ∧
      ((HoldsCount t.disk (s.disk.locate directory) (saves (bodyEntries m)).length ∧
          ∀ file ∈ files, t.disk.at? (s.disk.locate directory ++ [file.1]) = some (some file.2)) ↔
        (files.map Prod.fst).Nodup) := by
  constructor
  · rw [linesSaving_eq, runIn_bind, hsaved]
    rfl
  have hempty : Holds s.disk (s.disk.locate directory) [] := by
    intro name content
    simp [hfresh name content]
  obtain ⟨files, hfiles, ht⟩ := holds_saveAll hempty hsaved
  rw [List.nil_append] at ht
  refine ⟨files, hfiles, ht, ?_⟩
  rw [hfiles.length_eq]
  exact ht.apart_iff

/-- a message with two parts that suggest a name each -/
def paired (first second : Text) : Message :=
  .container ⟨[⟨"Content-Type", "multipart/mixed; boundary=X"⟩], false⟩
    [.leaf ⟨[⟨"Content-Type", "application/pdf; name=" ++ first⟩], false⟩ [49],
      .leaf ⟨[⟨"Content-Type", "application/pdf; name=" ++ second⟩], false⟩ [50]]

/-- a message with a page in each of two inner groups of parts -/
def grouped : Message :=
  .container ⟨[⟨"Content-Type", "multipart/mixed; boundary=X"⟩], false⟩
    [.container ⟨[⟨"Content-Type", "multipart/mixed; boundary=Y"⟩], false⟩
        [.leaf ⟨[⟨"Content-Type", "text/html"⟩], false⟩ [49]],
      .container ⟨[⟨"Content-Type", "multipart/mixed; boundary=Z"⟩], false⟩
        [.leaf ⟨[⟨"Content-Type", "text/html"⟩], false⟩ [50]]]

theorem saved_apart_paired :
    (∀ name content, Session.quiet.disk.at?
      (Session.quiet.disk.locate "/home/ann/x" ++ [name]) ≠ some (some content)) ∧
    ∃ t, (saveAll "/home/ann/x" (saves (bodyEntries (paired "a.pdf" "b.pdf")))).runIn
        Session.quiet = (.ok (), t) ∧
      (linesSaving (some "/home/ann/x") (bodyEntries (paired "a.pdf" "b.pdf"))).runIn
        Session.quiet = (bodyLines (paired "a.pdf" "b.pdf"), t) ∧
      ∃ files, Files "/home/ann/x" (saves (bodyEntries (paired "a.pdf" "b.pdf"))) files ∧
        Holds t.disk (Session.quiet.disk.locate "/home/ann/x") files ∧
        ((HoldsCount t.disk (Session.quiet.disk.locate "/home/ann/x")
              (saves (bodyEntries (paired "a.pdf" "b.pdf"))).length ∧
            ∀ file ∈ files, t.disk.at? (Session.quiet.disk.locate "/home/ann/x" ++ [file.1])
              = some (some file.2)) ↔
          (files.map Prod.fst).Nodup) := by
  have hfresh : ∀ name content, Session.quiet.disk.at?
      (Session.quiet.disk.locate "/home/ann/x" ++ [name]) ≠ some (some content) := by
    intro name content h
    have hlocate : Session.quiet.disk.locate "/home/ann/x" = ["home", "ann", "x"] := by
      decide
    rw [hlocate] at h
    unfold Disk.at? at h
    split at h <;> cases h
  have hok : ((saveAll "/home/ann/x" (saves (bodyEntries (paired "a.pdf" "b.pdf")))).runIn
      Session.quiet).1.toOption = some () := by decide +kernel
  refine ⟨hfresh, ?_⟩
  cases h : (saveAll "/home/ann/x" (saves (bodyEntries (paired "a.pdf" "b.pdf")))).runIn
      Session.quiet with
  | mk r t =>
    rw [h] at hok
    cases r with
    | error e => cases hok
    | ok _ =>
      exact ⟨t, rfl, saved_apart_iff (paired "a.pdf" "b.pdf") "/home/ann/x" Session.quiet t hfresh h⟩

/-- two parts are saved and one file is there, with the content of the second part: when both suggest
the same name, and when both suggest none and stand at the same number in two inner groups -/
theorem one_file_of_two :
    ((linesSaving (some "/home/ann/x") (bodyEntries (paired "f.pdf" "f.pdf"))).runIn
        Session.quiet).1.toOption.isSome = true ∧
    ((saves (bodyEntries (paired "f.pdf" "f.pdf"))).map fun call => call.1.content?.toOption)
      = [some (some [49]), some (some [50])] ∧
    ((linesSaving (some "/home/ann/x") (bodyEntries (paired "f.pdf" "f.pdf"))).runIn
        Session.quiet).2.disk.filesBeside [] = [("x/f.pdf".toList, [50])] ∧
    ((linesSaving (some "/home/ann/x") (bodyEntries grouped)).runIn
        Session.quiet).1.toOption.isSome = true ∧
    ((saves (bodyEntries grouped)).map fun call => call.1.content?.toOption)
      = [some (some [49]), some (some [50])] ∧
    ((linesSaving (some "/home/ann/x") (bodyEntries grouped)).runIn
        Session.quiet).2.disk.filesBeside [] = [("x/x_inner_0.html".toList, [50])] := by
  decide +kernel

/-! ## names that are the same -/

theorem baseName_of_not_mem {s : Text} (h : '/' ∉ s) : Path.baseName s = s := by
  have hall : ∀ c ∈ s.reverse, decide (c ≠ '/') = true := by
    intro c hc
    refine decide_eq_true ?_
    rintro rfl
    exact h (List.mem_reverse.1 hc)
  rw [Path.baseName, List.takeWhile_eq_self_iff.2 hall, List.reverse_reverse]

/-- what stands between the name of the message and the number of a part -/
def placeMark (depth : Nat) : Text := if depth = 0 then "_" else "_inner_"

theorem madeName_eq {mailName : Text} (h : '/' ∉ mailName) (spot : Spot) :
    savedName mailName spot none
      = mailName ++ (placeMark spot.depth ++ (Text.decimal spot.index ++ ".html")) := by
  have hdigits : '/' ∉ Text.decimal spot.index := by
    intro hc
    exact absurd (Text.isDigit_of_mem_decimal hc) (by decide)
  have hmark : '/' ∉ placeMark spot.depth := by
    unfold placeMark
    split <;> decide
  have hwhole : '/' ∉ mailName ++ placeMark spot.depth ++ Text.decimal spot.index ++ ".html" := by
    simp [h, hmark, hdigits]
  show Path.baseName (mailName ++ placeMark spot.depth ++ Text.decimal spot.index ++ ".html") = _
  rw [baseName_of_not_mem hwhole, List.append_assoc, List.append_assoc]

/-- behind a short mark stands a digit, behind a long one the rest of the mark -/
theorem placeMark_append_ne (i j : Nat) (r s : Text) :
    "_" ++ (Text.decimal i ++ r) ≠ "_inner_" ++ (Text.decimal j ++ s) := by
  intro e
  have he : Text.decimal i ++ r = "inner_" ++ (Text.decimal j ++ s) := (List.cons.inj e).2
  cases hi : Text.decimal i with
  | nil => exact Text.decimal_ne_nil i hi
  | cons c u =>
    rw [hi] at he
    have hc : c = 'i' := (List.cons.inj he).1
    have hmem : c ∈ Text.decimal i := by
      rw [hi]
      exact List.mem_cons_self
    have hdigit := Text.isDigit_of_mem_decimal hmem
    rw [hc] at hdigit
    exact absurd hdigit (by decide)

/-- two names that are made from places are the same exactly if the parts have the same number among
their neighbours, and both or none of them stand directly below the message -/
theorem madeName_eq_iff {mailName : Text} (h : '/' ∉ mailName) (a b : Spot) :
    savedName mailName a none = savedName mailName b none ↔
      a.index = b.index ∧ (a.depth = 0 ↔ b.depth = 0) := by
  rw [madeName_eq h, madeName_eq h, List.append_cancel_left_eq]
  have hsame : placeMark a.depth = placeMark b.depth →
      (placeMark a.depth ++ (Text.decimal a.index ++ ".html")
        = placeMark b.depth ++ (Text.decimal b.index ++ ".html") ↔ a.index = b.index) := by
    intro hmark
    rw [hmark, List.append_cancel_left_eq, List.append_cancel_right_eq]
    exact ⟨Text.decimal_inj, congrArg Text.decimal⟩
  by_cases ha : a.depth = 0
  · have hma : placeMark a.depth = "_" := if_pos ha
    by_cases hb : b.depth = 0
    · have hmb : placeMark b.depth = "_" := if_pos hb
      rw [hsame (hma.trans hmb.symm)]
      exact ⟨fun e => ⟨e, iff_of_true ha hb⟩, And.left⟩
    · have hmb : placeMark b.depth = "_inner_" := if_neg hb
      rw [hma, hmb]
      exact iff_of_false (placeMark_append_ne _ _ _ _) fun e => hb (e.2.1 ha)
  · have hma : placeMark a.depth = "_inner_" := if_neg ha
    by_cases hb : b.depth = 0
    · have hmb : placeMark b.depth = "_" := if_pos hb
      rw [hma, hmb]
      exact iff_of_false (placeMark_append_ne _ _ _ _).symm fun e => ha (e.2.2 hb)
    · have hmb : placeMark b.depth = "_inner_" := if_neg hb
      rw [hsame (hma.trans hmb.symm)]
      exact ⟨fun e => ⟨e, iff_of_false ha hb⟩, And.left⟩

end Mailroom.View
