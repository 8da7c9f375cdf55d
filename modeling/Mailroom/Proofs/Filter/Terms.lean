import Mailroom.Proofs.Filter.Grammar
import Mailroom.Proofs.Time.Clock

/-!
# The conditions of accepted filters

Not every leaf that can be built is the condition of a term.

* `Leaf.Resolved`         the conditions that terms have: dates are on the clock and have a comparison,
  no size is negative or asked for exactly, targets are read from values, and flags are keywords or have
  a name of their own;
* `resolved_of_compile`   an accepted filter has no other leaves.
-/

namespace Mailroom

/-- a condition that a term can have -/
def Leaf.Resolved (zone : Zone) : Leaf → Prop
  | body _ | subject _ | number _ => True
  | received cmp m | sent cmp m =>
    (∃ c, cmp = some c) ∧ ∃ s, m = .fixed s ∧ zone.toLocal s = .ok s
  | sender t | recipient _ t => ∃ value, t = Filter.resolveAddress value
  | size cmp n => (cmp = some .atLeast ∨ cmp = some .atMost) ∧ 0 ≤ n
  | flag name _ => name = seenFlag ∨ name = flaggedFlag ∨ Filter.isKeyword name

namespace Filter

variable {zone : Zone}

theorem toLocal_parseTimestamp {value : Text} {s : Stamp} (h : parseTimestamp zone value = .ok s) :
    zone.toLocal s = .ok s := by
  unfold parseTimestamp at h
  split at h
  · split at h
    · cases h
    · exact Zone.toLocal_readLocal (orFault_eq_ok.1 h)
  · cases h

theorem flagName_cases {value name : Text} (h : flagName value = .ok name) :
    name = seenFlag ∨ name = flaggedFlag ∨ isKeyword name := by
  unfold flagName at h
  split at h
  · cases h
  split at h
  · cases h
    exact .inl rfl
  split at h
  · cases h
    exact .inr (.inl rfl)
  split at h
  · rename_i hkeyword
    cases h
    exact .inr (.inr hkeyword)
  · cases h

/-- no field asks for one exact size -/
theorem ne_equal_of_field? {name : Text} {cmp : Comparison} (h : field? name = some (.size cmp)) :
    cmp ≠ .equal := by
  have hnames : ∀ p ∈ fieldNames, p.2 ≠ .size .equal := by decide
  obtain ⟨before, after, e, -⟩ := List.lookup_eq_some_iff.1 h
  have hcmp := hnames (name, .size cmp) (by rw [e]; simp)
  rintro rfl
  exact hcmp rfl

theorem resolved_leaf {name value : Text} {f : Field} {l : Leaf} (hf : field? name = some f)
    (h : f.leaf zone value = .ok l) : l.Resolved zone := by
  cases f with
  | body | subject =>
    cases h
    trivial
  | sender | recipient kind =>
    cases h
    exact ⟨value, rfl⟩
  | number =>
    obtain ⟨n, -, hl⟩ := bind_eq_ok.1 h
    cases hl
    trivial
  | received cmp | sent cmp =>
    obtain ⟨s, hs, hl⟩ := bind_eq_ok.1 h
    cases hl
    exact ⟨⟨cmp, rfl⟩, s, rfl, toLocal_parseTimestamp hs⟩
  | size cmp =>
    obtain ⟨n, -, hl⟩ := bind_eq_ok.1 h
    cases hl
    refine ⟨?_, Int.natCast_nonneg n⟩
    have hcmp := ne_equal_of_field? hf
    cases cmp with
    | equal => exact absurd rfl hcmp
    | atMost => exact .inr rfl
    | atLeast => exact .inl rfl

theorem resolved_of_resolve {name value : Text} {negated : Bool} {t : Tree}
    (h : resolve zone name value negated = .ok t) : ∀ l ∈ t.leaves, l.Resolved zone := by
  rcases resolve_eq_ok.1 h with ⟨-, flag, hflag, rfl⟩ | ⟨-, f, l, hf, -, hl, rfl⟩
  · intro l hl
    rw [List.mem_singleton.1 hl]
    exact flagName_cases hflag
  · have hresolved := resolved_leaf hf hl
    cases negated <;> (intro l' hl'; rwa [List.mem_singleton.1 hl'])

/-- all leaves of an accepted filter are conditions of terms -/
theorem resolved_of_compile {e : Text} {t : Tree} (h : compile zone e = .ok t) :
    ∀ l ∈ t.leaves, l.Resolved zone := by
  refine compile_induct ?_ ?_ (fun _ _ _ _ => resolved_of_resolve) h
  · intro a b ha hb l hl
    exact (List.mem_append.1 hl).elim (ha l) (hb l)
  · intro a b ha hb l hl
    exact (List.mem_append.1 hl).elim (ha l) (hb l)

end Filter
end Mailroom
