import Mailroom.Proofs.Message.MediaTypes

/-!
# The header of a message in parts

* `containerField`           the field that declares a boundary;
* `isPlain_containerField`   it just fits on one line;
* `contentType_container`, `boundary?_container`   the media type and the boundary are read back from it.
-/

namespace Mailroom

namespace Text

variable {c : Char} {s : Text}

/-- a text without the first character of what is looked for stays as it is -/
theorem replaceAll_of_not_mem (h : c ∉ s) (old new : Text) : replaceAll (c :: old) new s = s := by
  have hgo : ∀ n (s : Text), c ∉ s → replaceAll.go (c :: old) new n s = s := by
    intro n
    induction n with
    | zero =>
      intro s _
      cases s <;> rfl
    | succ n ih =>
      intro s hs
      cases s with
      | nil => rfl
      | cons d r =>
        rw [List.mem_cons, not_or] at hs
        have hafter : after? (c :: old) (d :: r) = none := by
          cases hd : after? (c :: old) (d :: r) with
          | none => rfl
          | some t => exact absurd (List.cons.inj (after?_eq_some.1 hd)).1 (Ne.symm hs.1)
        simp only [replaceAll.go, hafter, ih r hs.2]
  exact hgo s.length s h

end Text

namespace MessageHeader

variable {a p r : Text} {ps : List Text} {inQuotes : Bool}

/-- characters that are no marks stay with what follows them -/
theorem splitParameters_append (ha : ∀ c ∈ a, c ≠ '"' ∧ c ≠ '\\' ∧ c ≠ ';')
    (hr : splitParameters inQuotes false r = p :: ps) : splitParameters inQuotes false (a ++ r) = (a ++ p) :: ps := by
  induction a with
  | nil => exact hr
  | cons c a ih =>
    rw [List.forall_mem_cons] at ha
    obtain ⟨hquote, hbackslash, hsemicolon⟩ := ha.1
    have hflag : (c == '\\') = false := by simpa using hbackslash
    rw [List.cons_append, splitParameters, if_neg (by simp [hsemicolon]), if_neg (by simp [hquote]), hflag]
    dsimp only
    rw [ih ha.2]
    rfl

/-- a value in quotes is read as it is, if it holds no backslash -/
theorem unquote_quoted {s : Text} (h : '\\' ∉ s) : unquote ('"' :: (s ++ ['"'])) = s := by
  have hlength : ¬('"' :: (s ++ ['"'])).length < 2 := by simp
  have hinside : (('"' :: (s ++ ['"'])).drop 1).dropLast = s := by simp
  have hlast : ('"' :: (s ++ ['"'])).getLast? = some '"' := (List.getLast?_concat : ('"' :: s ++ ['"']).getLast? = _)
  have hbackslashes : Text.replaceAll "\\\\" "\\" s = s := Text.replaceAll_of_not_mem h ['\\'] ['\\']
  have hquotes : Text.replaceAll "\\\"" "\"" s = s := Text.replaceAll_of_not_mem h ['"'] ['"']
  unfold unquote
  rw [if_neg hlength, if_pos ⟨rfl, hlast⟩, hinside, hbackslashes, hquotes]

end MessageHeader

namespace Message

open Header (Token)
open Header.Scan (wordToken)

/-! ## the field that declares a boundary -/

variable {boundary : Text}

/-- the field of the media type of a message in parts that declares its boundary -/
def containerField (boundary : Text) : RawField :=
  ⟨"Content-Type", "multipart/mixed; boundary=\"" ++ boundary ++ "\""⟩

theorem IsMade.length_eq (h : IsMade boundary) : boundary.length = 36 := by
  obtain ⟨digits, hlength, -, rfl⟩ := h
  simp [hlength]

theorem IsMade.mem (h : IsMade boundary) {c : Char} (hc : c ∈ boundary) :
    (c ≠ '"' ∧ c ≠ '\\' ∧ c ≠ ';') ∧ c ≠ '?' ∧ Text.isBlank c = false := by
  obtain ⟨digits, -, hdigits, rfl⟩ := h
  simp only [List.mem_append, List.mem_replicate, List.mem_cons, List.not_mem_nil, or_false, or_self] at hc
  rcases hc with (⟨-, rfl⟩ | hc) | rfl
  · decide
  · exact Text.forall_digit (p := fun c => (c ≠ '"' ∧ c ≠ '\\' ∧ c ≠ ';') ∧ c ≠ '?' ∧ Text.isBlank c = false)
      (by decide) (hdigits c hc)
  · decide

theorem IsMade.quote_eq (h : IsMade boundary) : Header.quote boundary = '"' :: boundary ++ ['"'] := by
  have hself : (boundary.flatMap fun c => if c = '"' ∨ c = '\\' then ['\\', c] else [c]) = boundary := by
    refine (List.flatMap_congr fun c hc => ?_).trans (List.flatMap_singleton' boundary)
    have hmem := (h.mem hc).1
    rw [if_neg (by tauto)]
  rw [Header.quote, hself]

/-- the tree of a media type with parameters -/
def parameterTree (v v' : Text) (es : List (Text × Text)) : Token :=
  .form .mediaType [wordToken v, .markChar '/', wordToken v', .markChar ';', .parameters es]

theorem text_parameterTree (v v' : Text) (es : List (Text × Text)) :
    (parameterTree v v' es).text = v ++ '/' :: (v' ++ ';' :: Header.parametersText es) := by
  simp [parameterTree, wordToken, Token.text, Token.textAll, Token.form, Token.markChar]

theorem value_containerField (h : IsMade boundary) : (containerField boundary).value =
    "multipart" ++ '/' :: ("mixed" ++ ';' :: ' ' :: ("boundary" ++ '=' :: Header.quote boundary)) := by
  have hjoin : ∀ a b n : Text, a ++ '/' :: (b ++ ';' :: ' ' :: (n ++ ['=', '"'])) ++ boundary ++ ['"'] =
      a ++ '/' :: (b ++ ';' :: ' ' :: (n ++ '=' :: ('"' :: boundary ++ ['"']))) := by simp
  have hfront : ("multipart/mixed; boundary=\"" : Text) =
      "multipart" ++ '/' :: ("mixed" ++ ';' :: ' ' :: ("boundary" ++ ['=', '"'])) := by decide
  have hback : ("\"" : Text) = ['"'] := by decide
  have hvalue : (containerField boundary).value = "multipart/mixed; boundary=\"" ++ boundary ++ "\"" := rfl
  rw [hvalue, h.quote_eq, ← hjoin, ← hfront, ← hback]

/-- the tree of the field that declares a boundary -/
def containerTree (boundary : Text) : Token := parameterTree "multipart" "mixed" [("boundary", boundary)]

theorem text_containerTree (h : IsMade boundary) : (containerTree boundary).text = (containerField boundary).value := by
  have hne : boundary ≠ [] := by
    rintro rfl
    cases h.length_eq
  have hparameters : Header.parametersText [("boundary", boundary)] =
      ' ' :: ("boundary" ++ '=' :: Header.quote boundary) := by
    simp [Header.parametersText, hne]
  rw [containerTree, text_parameterTree, hparameters, value_containerField h]

theorem printable_containerField (h : IsMade boundary) :
    ∀ c ∈ (containerField boundary).value, 32 ≤ c.toNat ∧ c.toNat ≤ 126 := by
  refine List.forall_mem_append.2 ⟨List.forall_mem_append.2 ⟨by decide, fun c hc => ?_⟩, by decide⟩
  have := h.visible c hc
  omega

theorem read_containerField (h : IsMade boundary) :
    MessageHeader.read (containerField boundary) = .ok ⟨containerTree boundary, (containerField boundary).value⟩ := by
  have hmark : Header.Scan.HasNoMark boundary := fun hpart =>
    (h.mem (hpart.subset (by decide : '?' ∈ ['=', '?']))).2.1 rfl
  have hname : Header.Scan.IsParameterName "boundary" := ⟨by decide, by decide⟩
  have hmultipart : Header.Scan.IsWord "multipart" := by decide
  have hmixed : Header.Scan.IsWord "mixed" := by decide
  have hscan : Header.Scan.mediaType (containerField boundary).value = .ok (containerTree boundary, []) := by
    rw [value_containerField h]
    refine Header.Scan.mediaType_run hmultipart hmixed ?_
      (Header.Scan.parametersBehind_run (Header.Scan.parameters_quote hname hmark))
    rintro _ ⟨rfl⟩
    decide
  have hne : (containerField boundary).value ≠ [] := by
    rw [value_containerField h]
    simp
  refine (read_typeField hne hscan).trans ?_
  rw [Header.Field.ofToken, text_containerTree h, (Header.clear_of_printable (printable_containerField h)).settle]

/-- the field that declares the boundary just fits on one line -/
theorem isPlain_containerField (h : IsMade boundary) : IsPlain (containerField boundary) := by
  have hname : IsName "Content-Type" := by decide
  have hclear : Header.Clear (containerTree boundary).text :=
    text_containerTree h ▸ Header.clear_of_printable (printable_containerField h)
  have hvalue : (containerField boundary).value = "multipart/mixed; boundary=\"" ++ boundary ++ "\"" := rfl
  have hlength : (containerField boundary).value.length = 64 := by
    have hfront : ("multipart/mixed; boundary=\"" : Text).length = 27 := by decide
    have hback : ("\"" : Text).length = 1 := by decide
    rw [hvalue, List.length_append, List.length_append, hfront, hback, h.length_eq]
  have hfits : ("Content-Type" : Text).length + 2 + (containerTree boundary).text.length ≤ Header.lineLimit := by
    rw [text_containerTree h, hlength]
    decide
  have hhead : (containerField boundary).value.head? ≠ some ' ' := by
    rw [value_containerField h, List.head?_append_of_ne_nil _ (by decide)]
    decide
  have hlabel : Header.Clear "Content-Type" := by decide
  have hfold := Header.fold_fits hlabel hclear hfits
  refine ⟨hname, printable_containerField h, hhead, ?_⟩
  rw [read_containerField h]
  exact hfold.trans (congrArg (fun s => Except.ok (Header.label "Content-Type" ++ s ++ ['\n'])) (text_containerTree h))

/-! ## the declared boundary -/

/-- the boundary as it is declared behind the media type -/
def declaration (boundary : Text) : Text := " boundary=" ++ '"' :: (boundary ++ ['"'])

theorem value_semicolon (h : IsMade boundary) :
    (containerField boundary).value = "multipart/mixed" ++ ';' :: declaration boundary := by
  have hjoin : ∀ a b n : Text, a ++ '/' :: (b ++ ';' :: ' ' :: (n ++ '=' :: ('"' :: boundary ++ ['"']))) =
      a ++ '/' :: b ++ ';' :: (' ' :: (n ++ ['=']) ++ '"' :: (boundary ++ ['"'])) := by simp
  have htype : ("multipart/mixed" : Text) = "multipart" ++ '/' :: "mixed" := by decide
  have hname : (" boundary=" : Text) = ' ' :: ("boundary" ++ ['=']) := by decide
  have hvalue := value_containerField h
  rw [h.quote_eq, hjoin, ← htype, ← hname] at hvalue
  exact hvalue

/-- the pieces between the semicolons of the field -/
theorem splitParameters_containerField (h : IsMade boundary) :
    MessageHeader.splitParameters false false (containerField boundary).value =
      [("multipart/mixed" : Text), declaration boundary] := by
  have hinside : MessageHeader.splitParameters true false (boundary ++ ['"']) = [boundary ++ ['"']] :=
    MessageHeader.splitParameters_append (fun c hc => (h.mem hc).1) rfl
  have hquoted : MessageHeader.splitParameters false false ('"' :: (boundary ++ ['"'])) =
      ['"' :: (boundary ++ ['"'])] := by
    have hmark : ('"' == '\\') = false := by decide
    rw [MessageHeader.splitParameters, if_neg (by decide), if_pos (by decide), hmark, Bool.not_false]
    simp only [hinside]
  have hnamed : MessageHeader.splitParameters false false (declaration boundary) = [declaration boundary] :=
    MessageHeader.splitParameters_append (a := " boundary=") (by decide) hquoted
  have hbehind : MessageHeader.splitParameters false false (';' :: declaration boundary) =
      [[], declaration boundary] := by
    rw [MessageHeader.splitParameters, if_pos (by decide), hnamed]
  have hwhole := MessageHeader.splitParameters_append (a := "multipart/mixed") (by decide) hbehind
  rw [value_semicolon h, hwhole, List.append_nil]

variable {front : List RawField}

theorem field?_containerField (h : IsMade boundary)
    (hfront : ∀ g ∈ front, MessageHeader.hasName "Content-Type" g = false) :
    (MessageHeader.mk (front ++ [containerField boundary]) false).field? "Content-Type" =
      .ok (some (containerField boundary).value) := by
  refine (MessageHeader.field?_append front hfront (beq_iff_eq.2 rfl)).trans ?_
  rw [read_containerField h]
  rfl

theorem contentType_container (h : IsMade boundary)
    (hfront : ∀ g ∈ front, MessageHeader.hasName "Content-Type" g = false) :
    (MessageHeader.mk (front ++ [containerField boundary]) false).contentType = .ok "multipart/mixed".toList := by
  have hsemicolon : ';' ∉ ("multipart/mixed" : Text) := by decide
  have hmain : MessageHeader.mainPart (containerField boundary).value = "multipart/mixed" := by
    rw [MessageHeader.mainPart, value_semicolon h, Text.cutAt_append_cons hsemicolon]
    exact (by decide : Text.trim "multipart/mixed" = "multipart/mixed")
  have htype : Text.lower "multipart/mixed" = "multipart/mixed".toList ∧ ("multipart/mixed" : Text).count '/' = 1 := by
    decide
  refine bind_eq_ok.2 ⟨_, field?_containerField h hfront, ?_⟩
  dsimp only
  rw [hmain, htype.1, if_pos htype.2]
  rfl

theorem nameAndValue_declaration (h : IsMade boundary) :
    MessageHeader.nameAndValue (declaration boundary) = ("boundary".toList, '"' :: (boundary ++ ['"'])) := by
  have hequals : '=' ∉ (" boundary" : Text) := by decide
  have hsplit : declaration boundary = " boundary" ++ '=' :: '"' :: (boundary ++ ['"']) := by
    have hname : (" boundary=" : Text) = " boundary" ++ ['='] := by decide
    unfold declaration
    rw [hname, List.append_assoc, List.singleton_append]
  have hname : Text.lower (Text.trim " boundary") = "boundary" := by decide
  have hvalue : Text.trim ('"' :: (boundary ++ ['"'])) = '"' :: (boundary ++ ['"']) :=
    Text.trimWhere_eq_self (List.forall_mem_cons.2 ⟨by decide, List.forall_mem_append.2
      ⟨fun c hc => (h.mem hc).2.2, by decide⟩⟩)
  unfold MessageHeader.nameAndValue
  rw [hsplit, Text.cutAt_append_cons hequals]
  dsimp only
  rw [hname, hvalue]

/-- the boundary is read as it was declared -/
theorem boundary?_container (h : IsMade boundary)
    (hfront : ∀ g ∈ front, MessageHeader.hasName "Content-Type" g = false) :
    (MessageHeader.mk (front ++ [containerField boundary]) false).boundary? = .ok (some boundary) := by
  have hbackslash : '\\' ∉ boundary := fun hmem => (h.mem hmem).1.2.1 rfl
  have hquoted : MessageHeader.unquote (Header.quote (MessageHeader.unquote ('"' :: (boundary ++ ['"'])))) =
      boundary := by
    rw [MessageHeader.unquote_quoted hbackslash, h.quote_eq]
    exact MessageHeader.unquote_quoted hbackslash
  have hparameters : MessageHeader.parametersOf (containerField boundary).value =
      [("multipart/mixed".toList, []), ("boundary".toList, boundary)] := by
    have hmain : MessageHeader.nameAndValue "multipart/mixed" = ("multipart/mixed".toList, []) := by decide
    unfold MessageHeader.parametersOf
    rw [splitParameters_containerField h, List.map_cons, List.map_singleton, hmain, nameAndValue_declaration h]
    dsimp only [List.map_singleton]
    rw [hquoted]
    rfl
  have hfound : [("multipart/mixed".toList, []), ("boundary".toList, boundary)].find?
      (fun p => Text.lower p.1 == "boundary") = some ("boundary".toList, boundary) := by
    have hother : (Text.lower "multipart/mixed" == "boundary".toList) = false := by decide
    have hself : (Text.lower "boundary" == "boundary".toList) = true := by decide
    simp only [List.find?_cons, hother, hself]
  have hunquoted : MessageHeader.unquote boundary = boundary := by
    have hhead : boundary.head? = some '=' := by
      obtain ⟨digits, -, -, rfl⟩ := h
      rfl
    unfold MessageHeader.unquote
    rw [hhead, if_neg (by rw [h.length_eq]; decide), if_neg (fun hmark => absurd hmark.1 (by decide)),
      if_neg (fun hmark => absurd hmark.1 (by decide))]
  have htrim : Text.trimEnd boundary = boundary := by
    have hback : ∀ c ∈ boundary.reverse.head?, Text.isBlank c = false := fun c hc =>
      (h.mem (List.mem_reverse.1 (List.mem_of_mem_head? hc))).2.2
    have hkept : boundary.reverse.dropWhile Text.isBlank = boundary.reverse :=
      dropWhile_append_of_head (a := []) nofun hback
    unfold Text.trimEnd Text.trimEndWhere
    rw [hkept, List.reverse_reverse]
  have hparameter : (MessageHeader.mk (front ++ [containerField boundary]) false).parameter? "Content-Type" "boundary" =
      .ok (some boundary) := by
    refine bind_eq_ok.2 ⟨_, field?_containerField h hfront, ?_⟩
    dsimp only
    rw [hparameters, hfound]
    rfl
  refine bind_eq_ok.2 ⟨_, hparameter, ?_⟩
  dsimp only [Option.map_some]
  rw [hunquoted, htrim]
  rfl

end Message
end Mailroom
