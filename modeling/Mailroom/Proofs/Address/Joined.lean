import Mailroom.Proofs.Address.RoundTrip
import Mathlib.Algebra.Order.BigOperators.Group.List

/-!
# Address lists that are joined with commas

Entries that are accepted one by one are joined with commas and read as a list.

* `entries_joined`     the pieces of the list are those of its entries, one entry after the other;
* `parseList_joined`   without a comma in an entry the list is read entry by entry, and with one it is
  refused or has more addresses than there are entries;
* `parseList_quoted_comma`   a name in quotes with a comma, of an address that is accepted by itself.
-/

namespace Mailroom.Address

section
variable {e r v : Text} {es : List Text} {a : EmailAddress} {as bs : List EmailAddress}

/-! ## pieces -/

/-- the pieces of a text between commas, without the blanks around them -/
def pieces (s : Text) : List Text := (Text.splitOn ',' s).map Text.trim

theorem pieces_append (s : Text) : pieces (r ++ ',' :: s) = pieces r ++ pieces s := by
  rw [pieces, Text.splitOn_append_cons, List.map_append]
  rfl

theorem pieces_space : pieces (' ' :: r) = pieces r := by
  unfold pieces
  rw [Text.splitOn, if_neg (by decide)]
  cases hr : Text.splitOn ',' r with
  | nil => exact absurd hr (Text.splitOn_ne_nil ',' r)
  | cons p ps => rfl

theorem pieces_joined (hne : es ≠ []) : pieces ([',', ' '].intercalate es) = es.flatMap pieces := by
  induction es with
  | nil => exact absurd rfl hne
  | cons e es ih =>
    cases es with
    | nil => simp
    | cons f es =>
      rw [List.intercalate_cons_cons, List.append_assoc, List.cons_append, pieces_append, List.singleton_append,
        pieces_space, ih (List.cons_ne_nil f es)]
      rfl

theorem entries_of_trim (h : Text.trim e = e) : entries e = (pieces e).filter fun p => !p.isEmpty := by
  rw [entries, Text.splitCommas, h]
  rfl

/-- the pieces of the list are those of its entries, one entry after the other -/
theorem entries_joined (hes : ∀ e ∈ es, e ≠ [] ∧ Text.trim e = e) :
    entries ([',', ' '].intercalate es) = es.flatMap entries := by
  by_cases hne : es = []
  · rw [hne]
    rfl
  · rw [entries_of_trim (Text.trimWhere_intercalate _ hes), pieces_joined hne, List.filter_flatMap]
    refine List.flatMap_congr fun e he => ?_
    rw [entries_of_trim (hes e he).2]

/-! ## accepted entries -/

/-- a comma that is not outside of quotes stands between two of them -/
theorem exists_quotes (h : ',' ∈ v) (hout : ',' ∉ withoutQuoted v) :
    ∃ front back, v = front ++ ',' :: back ∧ '"' ∈ front ∧ '"' ∈ back := by
  fun_induction withoutQuoted v with
  | case1 => cases h
  | case2 => exact absurd h hout
  | case3 c r ih =>
    simp only [List.mem_cons, not_or] at h hout
    have hr : ',' ∈ r := by
      rcases h with h | h | h
      · exact absurd h (by decide)
      · exact absurd h hout.2.1
      · exact h
    obtain ⟨front, back, rfl, hfront, hback⟩ := ih hr hout.2.2
    exact ⟨'\\' :: c :: front, back, rfl, by simp [hfront], hback⟩
  | case4 r rest hrest _ _ _ ih =>
    obtain ⟨inner, rfl⟩ := afterQuote?_eq_some hrest
    by_cases hinner : ',' ∈ inner
    · obtain ⟨before, behind, rfl⟩ := List.append_of_mem hinner
      exact ⟨'"' :: before, behind ++ '"' :: rest, by simp, by simp, by simp⟩
    · have hr : ',' ∈ rest := by simpa [hinner] using h
      obtain ⟨front, back, rfl, hfront, hback⟩ := ih hr hout
      exact ⟨'"' :: inner ++ '"' :: front, back, by simp, by simp, hback⟩
  | case5 => exact absurd h hout
  | case6 c r _ _ hc ih =>
    simp only [List.mem_cons, not_or] at h hout
    obtain ⟨front, back, rfl, hfront, hback⟩ := ih (h.resolve_left hout.1) hout.2
    exact ⟨c :: front, back, rfl, List.mem_cons_of_mem c hfront, hback⟩

/-- a text with a quote has a piece that is not empty -/
theorem filter_pieces_ne_nil (h : '"' ∈ v) : (pieces v).filter (fun p => !p.isEmpty) ≠ [] := by
  obtain ⟨p, hp, hquote⟩ := Text.exists_mem_splitOn h (by decide : '"' ≠ ',')
  have htrim : '"' ∈ Text.trim p := Text.mem_trimWhere hquote (by decide)
  have hmem : Text.trim p ∈ (pieces v).filter fun p => !p.isEmpty := by
    rw [List.mem_filter]
    refine ⟨List.mem_map_of_mem hp, ?_⟩
    simpa using List.ne_nil_of_mem htrim
  exact List.ne_nil_of_mem hmem

theorem ne_nil_of_parse (h : parse e = .ok a) : e ≠ [] := by
  rintro rfl
  obtain ⟨-, -, m, hm, -⟩ := parse_eq_ok.1 h
  cases hm

theorem entries_of_not_mem (h : parse e = .ok a) (htrim : Text.trim e = e) (hcomma : ',' ∉ e) : entries e = [e] := by
  rw [entries_of_trim htrim, pieces, Text.splitOn_of_not_mem hcomma, List.map_singleton, htrim]
  simpa using ne_nil_of_parse h

/-- an accepted entry with a comma is cut into two pieces or more -/
theorem two_le_length_entries (h : parse e = .ok a) (htrim : Text.trim e = e) (hcomma : ',' ∈ e) :
    2 ≤ (entries e).length := by
  obtain ⟨-, hout, -⟩ := parse_eq_ok.1 h
  have hentries := entries_of_trim htrim
  obtain ⟨front, back, hcut, hfront, hback⟩ := exists_quotes hcomma hout
  rw [hcut, pieces_append, List.filter_append] at hentries
  have hlength := congrArg List.length hentries
  have := List.length_pos_of_ne_nil (filter_pieces_ne_nil hfront)
  have := List.length_pos_of_ne_nil (filter_pieces_ne_nil hback)
  rw [List.length_append, ← hcut] at hlength
  omega

/-! ## the list -/

theorem parseList_eq_ok {value what : Text} : parseList value what = .ok as ↔ (entries value).mapM parse = .ok as := by
  unfold parseList
  cases (entries value).mapM parse with
  | ok bs => rfl
  | error e => simp

/-- without a comma in an entry the list is read entry by entry, and with one it is refused or has more
addresses than there are entries -/
theorem parseList_joined (es : List Text) (as : List EmailAddress) (what : Text)
    (hread : es.mapM parse = .ok as) (htrim : ∀ e ∈ es, Text.trim e = e) :
    ((∀ e ∈ es, ',' ∉ e) → parseList ([',', ' '].intercalate es) what = .ok as) ∧
      ((∃ e ∈ es, ',' ∈ e) → ∀ bs, parseList ([',', ' '].intercalate es) what = .ok bs →
        as.length < bs.length) := by
  have haligned := mapM_eq_ok.1 hread
  have hparse : ∀ e ∈ es, ∃ a, parse e = .ok a := fun e he => by
    obtain ⟨a, -, ha⟩ := exists_right_of_mem haligned he
    exact ⟨a, ha⟩
  have hjoined : entries ([',', ' '].intercalate es) = es.flatMap entries := by
    refine entries_joined fun e he => ⟨?_, htrim e he⟩
    obtain ⟨a, ha⟩ := hparse e he
    exact ne_nil_of_parse ha
  simp only [parseList_eq_ok, hjoined]
  constructor
  · intro hcomma
    have hsingle : es.flatMap entries = es.flatMap fun e => [e] := by
      refine List.flatMap_congr fun e he => ?_
      obtain ⟨a, ha⟩ := hparse e he
      exact entries_of_not_mem ha (htrim e he) (hcomma e he)
    rw [hsingle, List.flatMap_singleton']
    exact hread
  · rintro ⟨e, he, hcomma⟩ bs hbs
    have hone : ∀ e ∈ es, 1 ≤ (entries e).length := by
      intro e he
      obtain ⟨a, ha⟩ := hparse e he
      by_cases hcomma : ',' ∈ e
      · have := two_le_length_entries ha (htrim e he) hcomma
        omega
      · rw [entries_of_not_mem ha (htrim e he) hcomma]
        exact le_rfl
    obtain ⟨a, ha⟩ := hparse e he
    calc as.length
        = (es.map fun _ => 1).sum := by simp [haligned.length_eq]
      _ < (es.map fun e => (entries e).length).sum :=
          List.sum_lt_sum _ _ hone ⟨e, he, two_le_length_entries ha (htrim e he) hcomma⟩
      _ = bs.length := by rw [← (mapM_eq_ok.1 hbs).length_eq, List.length_flatMap]

/-- two entries, one of them with a quoted name -/
theorem parseList_joined_named :
    parseList "\"Smith; Bob\" <b@y.org>, a@x.org" "recipient" = .ok [⟨"b@y.org", "Smith; Bob"⟩, ⟨"a@x.org", []⟩] :=
  (parseList_joined ["\"Smith; Bob\" <b@y.org>", "a@x.org"] [⟨"b@y.org", "Smith; Bob"⟩, ⟨"a@x.org", []⟩] "recipient"
    (by decide +kernel) (by decide +kernel)).1 (by decide)

/-- a name in quotes with a comma, of an address that is accepted by itself -/
theorem parseList_quoted_comma :
    ["\"Smith, Bob\" <b@y.org>".toList].mapM parse = .ok [⟨"b@y.org", "Smith, Bob"⟩] ∧
      Text.trim "\"Smith, Bob\" <b@y.org>" = "\"Smith, Bob\" <b@y.org>".toList ∧
      parseList ([',', ' '].intercalate ["\"Smith, Bob\" <b@y.org>"]) "recipient"
        = .error (.badEntry "recipient" "\"Smith, Bob\" <b@y.org>") := by
  decide +kernel

end
end Mailroom.Address
