import Mailroom.Proofs.Filter.Unambiguous
import Mailroom.Proofs.Search.Line

/-!
# The shape of accepted filters

Trees can be made by hand that no reader, printer or evaluator of filters knows.  The compiler makes
none of them.

* `Leaf.Sound`        the leaves of accepted filters;
* `Tree.IsBranch`     a tree without `disj`;
* `Tree.Sound`        sound leaves, no `disj` below a `conj`, and no negated flag;
* `Tree.Proper`       the same, said of the nodes of the tree;
* `Tree.node?`, `Tree.places`   the nodes by their places, each place behind those above it;
* `Fault.isShape`     what a tree with a part without meaning stops with;
* `compile_proper`    accepted filters are proper, are described and written as search programs, and
  their evaluation never stops at a part without meaning.
-/

namespace Mailroom

/-! ## nodes by their places -/

/-- the way from a node to one below it; what is negated stands on the left -/
inductive Turn where
  | left
  | right
deriving DecidableEq, Repr

namespace Tree

/-- the node at a place -/
def node? : Tree → List Turn → Option Tree
  | t, [] => some t
  | conj a _, .left :: p | disj a _, .left :: p => a.node? p
  | conj _ b, .right :: p | disj _ b, .right :: p => b.node? p
  | neg l, [.left] => some (leaf l)
  | _, _ :: _ => none

/-- the places of the nodes, left before right -/
def places : Tree → List (List Turn)
  | leaf _ | stray _ => [[]]
  | neg _ => [[], [.left]]
  | conj a b | disj a b => [] :: (a.places.map (.left :: ·) ++ b.places.map (.right :: ·))

/-- a list of trees visits every node of a tree once, and none before those above it -/
def VisitedBy (t : Tree) (visits : List Tree) : Prop :=
  ∃ places : List (List Turn), visits.map some = places.map t.node? ∧
    (∀ p, p ∈ places ↔ (t.node? p).isSome) ∧ places.Nodup ∧ places.Pairwise fun p q => ¬q <+: p

variable {t a b : Tree}

theorem nodes_eq_places (t : Tree) : t.nodes.map some = t.places.map t.node? := by
  induction t with
  | leaf l | neg l | stray v => rfl
  | conj a b iha ihb | disj a b iha ihb =>
    rw [nodes, places, List.map_cons, List.map_cons, List.map_append, List.map_append, List.map_map,
      List.map_map, iha, ihb]
    rfl

theorem mem_places_iff (t : Tree) (p : List Turn) : p ∈ t.places ↔ (t.node? p).isSome := by
  induction t generalizing p with
  | leaf l | stray v => cases p <;> simp [places, node?]
  | neg l =>
    rcases p with _ | ⟨_ | _, _ | ⟨d, p⟩⟩ <;> simp [places, node?]
  | conj a b iha ihb | disj a b iha ihb =>
    rcases p with _ | ⟨_ | _, p⟩ <;> simp [places, node?, iha, ihb]

theorem pairwise_places (t : Tree) : t.places.Pairwise fun p q => ¬q <+: p := by
  induction t with
  | leaf l | stray v => exact List.pairwise_singleton _ _
  | neg l => simp [places]
  | conj a b iha ihb | disj a b iha ihb =>
    rw [places, List.pairwise_cons, List.pairwise_append, List.pairwise_map, List.pairwise_map]
    refine ⟨?_, ?_, ?_, ?_⟩
    · intro q hq hprefix
      rw [List.prefix_nil.1 hprefix] at hq
      simp at hq
    · exact iha.imp fun h hprefix => h (List.cons_prefix_cons.1 hprefix).2
    · exact ihb.imp fun h hprefix => h (List.cons_prefix_cons.1 hprefix).2
    · intro p hp q hq hprefix
      obtain ⟨p, -, rfl⟩ := List.mem_map.1 hp
      obtain ⟨q, -, rfl⟩ := List.mem_map.1 hq
      exact absurd (List.cons_prefix_cons.1 hprefix).1 (by decide)

theorem visitedBy_nodes (t : Tree) : t.VisitedBy t.nodes := by
  refine ⟨t.places, nodes_eq_places t, mem_places_iff t, ?_, pairwise_places t⟩
  refine (pairwise_places t).imp fun {p q} h => ?_
  rintro rfl
  exact h (List.prefix_refl p)

end Tree

/-! ## sound leaves and trees -/

/-- an address that is accepted, or a name without blanks around it -/
def Target.Sound : Target → Prop
  | .address a => Address.isAddrSpec a.addrSpec = true
  | .personal name => name ≠ [] ∧ Text.trim name = name
  | .stray _ => False

namespace Leaf

/-- a leaf of an accepted filter -/
def Sound : Leaf → Prop
  | body p | subject p => ∀ c ∈ Filter.separators, c ∉ p
  | number _ => True
  | received cmp _ | sent cmp _ => cmp.isSome = true
  | sender t | recipient _ t => t.Sound
  | size cmp n => (cmp = some .atLeast ∨ cmp = some .atMost) ∧ 0 ≤ n
  | flag name _ => name = seenFlag ∨ name = flaggedFlag ∨ Search.IsAtom name

/-- whether a leaf asks for a flag -/
def isFlag : Leaf → Bool
  | flag _ _ => true
  | _ => false

end Leaf

namespace Tree

/-- a tree of sound leaves without `disj`, in which no flag is negated -/
def IsBranch : Tree → Prop
  | leaf l => l.Sound
  | neg l => l.Sound ∧ l.isFlag = false
  | conj a b => a.IsBranch ∧ b.IsBranch
  | disj _ _ | stray _ => False

/-- branches joined by `disj` -/
def Sound : Tree → Prop
  | disj a b => a.Sound ∧ b.Sound
  | t => t.IsBranch

theorem IsBranch.sound {t : Tree} (h : t.IsBranch) : t.Sound := by
  cases t with
  | disj a b => exact absurd h id
  | leaf l | neg l | conj a b | stray v => exact h

/-- the nodes of an accepted filter -/
structure Proper (t : Tree) : Prop where
  known : ∀ v, stray v ∉ t.nodes
  conj : ∀ a b, conj a b ∈ t.nodes → ∀ c d, disj c d ∉ (Tree.conj a b).nodes
  neg : ∀ l, neg l ∈ t.nodes → ∀ name isSet, l ≠ .flag name isSet
  size : ∀ cmp n, leaf (.size cmp n) ∈ t.nodes → (cmp = some .atLeast ∨ cmp = some .atMost) ∧ 0 ≤ n
  date : ∀ cmp m, leaf (.received cmp m) ∈ t.nodes ∨ leaf (.sent cmp m) ∈ t.nodes → cmp ≠ none
  flag : ∀ name isSet, leaf (.flag name isSet) ∈ t.nodes →
    name = seenFlag ∨ name = flaggedFlag ∨ Search.IsAtom name
  target : ∀ target kind, leaf (.sender target) ∈ t.nodes ∨ leaf (.recipient kind target) ∈ t.nodes →
    (∃ a, target = .address a ∧ Address.isAddrSpec a.addrSpec = true) ∨
      ∃ name, target = .personal name ∧ name ≠ [] ∧ Text.trim name = name
  pattern : ∀ p, leaf (.body p) ∈ t.nodes ∨ leaf (.subject p) ∈ t.nodes → '|' ∉ p ∧ '+' ∉ p ∧ ':' ∉ p

variable {t : Tree}

/-- what the nodes of a branch are -/
theorem IsBranch.of_mem_nodes (h : t.IsBranch) {n : Tree} (hn : n ∈ t.nodes) : n.IsBranch := by
  induction t with
  | leaf l =>
    rw [nodes, List.mem_singleton] at hn
    rwa [hn]
  | neg l =>
    rw [nodes, List.mem_cons, List.mem_singleton] at hn
    rcases hn with rfl | rfl
    · exact h
    · exact h.1
  | conj a b iha ihb =>
    rw [nodes, List.mem_cons, List.mem_append] at hn
    rcases hn with rfl | hn | hn
    · exact h
    · exact iha h.1 hn
    · exact ihb h.2 hn
  | disj a b | stray v => exact absurd h id

/-- a node of a sound tree is itself one -/
theorem Sound.of_mem_nodes (h : t.Sound) {n : Tree} (hn : n ∈ t.nodes) : n.Sound := by
  induction t with
  | leaf l | neg l | conj a b | stray v => exact (IsBranch.of_mem_nodes h hn).sound
  | disj a b iha ihb =>
    rw [nodes, List.mem_cons, List.mem_append] at hn
    rcases hn with rfl | hn | hn
    · exact h
    · exact iha h.1 hn
    · exact ihb h.2 hn

theorem Sound.proper (h : t.Sound) : t.Proper := by
  have hleaf : ∀ {l : Leaf}, leaf l ∈ t.nodes → l.Sound := fun hl => h.of_mem_nodes hl
  constructor
  case known => exact fun v hv => absurd (h.of_mem_nodes hv) id
  case conj =>
    intro a b hab c d hcd
    have hbranch : (Tree.conj a b).IsBranch := h.of_mem_nodes hab
    exact absurd (hbranch.of_mem_nodes hcd) id
  case neg =>
    rintro l hl name isSet rfl
    exact absurd (h.of_mem_nodes hl).2 (by simp [Leaf.isFlag])
  case size => exact fun cmp n hl => hleaf hl
  case date =>
    rintro cmp m (hl | hl) rfl <;> exact absurd (hleaf hl) (by simp [Leaf.Sound])
  case flag => exact fun name isSet hl => hleaf hl
  case target =>
    intro target kind hl
    have hsound : target.Sound := hl.elim hleaf hleaf
    cases target with
    | address a => exact .inl ⟨a, rfl, hsound⟩
    | personal name => exact .inr ⟨name, rfl, hsound⟩
    | stray v => exact absurd hsound id
  case pattern =>
    intro p hl
    have hfree : ∀ c ∈ Filter.separators, c ∉ p := hl.elim hleaf hleaf
    exact ⟨hfree _ (by decide), hfree _ (by decide), hfree _ (by decide)⟩

end Tree

/-! ## faults of shape -/

/-- a part of a tree has no meaning -/
def Fault.isShape : Fault → Bool
  | .shape _ => true
  | _ => false

section
variable {x : Fault}

theorem not_isShape_of_orFault {ε α : Type} {wrap : ε → Fault} {r : Except ε α}
    (hwrap : ∀ e, (wrap e).isShape = false) (h : orFault wrap r = .error x) : x.isShape = false := by
  obtain ⟨e, -, rfl⟩ := orFault_eq_error.1 h
  exact hwrap e

theorem Header.Field.not_isShape_of_read {kind : Header.Kind} {value : Text}
    (h : Header.Field.read kind value = .error x) : x.isShape = false := by
  have hstop : ∀ e : Header.Stop, e.toFault.isShape = false := by
    intro e
    cases e <;> rfl
  have hscan : ∀ scan, Header.Field.ofScan scan value = .error x → x.isShape = false := by
    intro scan h
    unfold Header.Field.ofScan at h
    split at h
    · cases h
    · cases h
      exact hstop _
  have hpart : ∀ {α : Type} {r : Except Header.Stop α}, r.mapError Header.Stop.toFault = .error x →
      x.isShape = false := by
    intro α r h
    cases r with
    | ok a => cases h
    | error e =>
      cases h
      exact hstop e
  cases kind with
  | freeText | messageId => cases h
  | version => exact hscan _ h
  | disposition => exact hscan _ h
  | transferEncoding => exact hscan _ h
  | mediaType =>
    have h : (if value.isEmpty then _ else Header.Field.ofScan _ value) = .error x := h
    split at h
    · cases h
    · exact hscan _ h
  | date =>
    have h : Header.Field.ofDate value = .error x := h
    unfold Header.Field.ofDate at h
    split at h
    · cases h
    · split at h <;> cases h
      rfl
  | addresses =>
    rcases bind_eq_error.1 h with h | ⟨t, -, h⟩
    · exact hpart h
    rcases bind_eq_error.1 h with h | ⟨es, -, h⟩
    · exact hpart h
    · split at h
      · cases h
        rfl
      · cases h

namespace MessageHeader

variable {header : MessageHeader} {name : Text}

theorem not_isShape_of_field? (h : header.field? name = .error x) : x.isShape = false := by
  unfold field? at h
  split at h
  · rcases bind_eq_error.1 h with h | ⟨field, -, h⟩
    · exact Header.Field.not_isShape_of_read h
    · cases h
  · cases h

theorem not_isShape_of_allFields (h : header.allFields name = .error x) : x.isShape = false := by
  obtain ⟨field, -, h⟩ := exists_of_mapM_eq_error h
  rcases bind_eq_error.1 h with h | ⟨shown, -, h⟩
  · exact Header.Field.not_isShape_of_read h
  · cases h

theorem not_isShape_of_contentType (h : header.contentType = .error x) : x.isShape = false := by
  rcases bind_eq_error.1 h with h | ⟨shown, -, h⟩
  · exact not_isShape_of_field? h
  · split at h <;> cases h

end MessageHeader

namespace Message

variable {m : Message}

theorem not_isShape_of_texts (h : m.texts = .error x) : x.isShape = false := by
  rcases bind_eq_error.1 h with h | ⟨ts, -, h⟩
  · obtain ⟨part, -, h⟩ := exists_of_mapM_eq_error h
    rcases bind_eq_error.1 h with h | ⟨type, -, h⟩
    · exact MessageHeader.not_isShape_of_contentType h
    · split at h
      · split at h <;> cases h
      · cases h
  · cases h

theorem not_isShape_of_addresses {name : Text} (h : m.addresses name = .error x) :
    x.isShape = false := by
  rcases bind_eq_error.1 h with h | ⟨values, -, h⟩
  · exact MessageHeader.not_isShape_of_allFields h
  · cases h

end Message

variable {zone : Zone} {f : Fetched}

theorem Fetched.not_isShape_of_sent (h : f.sent zone = .error x) : x.isShape = false := by
  rcases bind_eq_error.1 h with h | ⟨v, -, h⟩
  · exact MessageHeader.not_isShape_of_field? h
  · split at h
    · cases h
    · cases h
    · split at h
      · cases h
      · cases h
        rfl
      · split at h <;> cases h
        rfl

theorem Leaf.not_isShape_of_daysCompare {cmp : Option Comparison} {actual : Option Stamp} {m : Moment}
    (hcmp : cmp.isSome = true) (h : daysCompare zone cmp actual m = .error x) : x.isShape = false := by
  unfold daysCompare at h
  split at h
  · cases h
  rcases bind_eq_error.1 h with h | ⟨a, -, h⟩
  · exact not_isShape_of_orFault (fun _ => rfl) h
  rcases bind_eq_error.1 h with h | ⟨w, -, h⟩
  · exact not_isShape_of_orFault (fun _ => rfl) h
  match cmp with
  | some .equal | some .atMost | some .atLeast => cases h
  | none => cases hcmp

theorem Target.isAmong_ne_error {t : Target} (ht : t.Sound) (ms : List Mailbox) :
    t.isAmong ms ≠ .error x := by
  cases t with
  | address a | personal name => exact nofun
  | stray v => exact absurd ht id

/-- the evaluation of a sound leaf never stops at a part without meaning -/
theorem Leaf.not_isShape_of_holds {l : Leaf} (hl : l.Sound) (h : l.holds zone f = .error x) :
    x.isShape = false := by
  cases l with
  | body p =>
    rcases bind_eq_error.1 h with h | ⟨texts, -, h⟩
    · exact Message.not_isShape_of_texts h
    · cases h
  | subject p =>
    rcases bind_eq_error.1 h with h | ⟨subject, -, h⟩
    · exact MessageHeader.not_isShape_of_field? h
    · cases h
  | sender t | recipient kind t =>
    rcases bind_eq_error.1 h with h | ⟨ms, -, h⟩
    · exact Message.not_isShape_of_addresses h
    · exact absurd h (Target.isAmong_ne_error hl ms)
  | number n | flag name isSet => cases h
  | received cmp m => exact not_isShape_of_daysCompare hl h
  | sent cmp m =>
    rcases bind_eq_error.1 h with h | ⟨s, -, h⟩
    · exact Fetched.not_isShape_of_sent h
    · exact not_isShape_of_daysCompare hl h
  | size cmp n => rcases hl.1 with rfl | rfl <;> cases h

theorem Tree.IsBranch.not_isShape_of_holds {t : Tree} (ht : t.IsBranch) (h : t.holds zone f = .error x) :
    x.isShape = false := by
  induction t with
  | leaf l => exact Leaf.not_isShape_of_holds ht h
  | neg l =>
    rcases bind_eq_error.1 h with h | ⟨b, -, h⟩
    · exact Leaf.not_isShape_of_holds ht.1 h
    · cases h
  | conj a b iha ihb =>
    rcases bind_eq_error.1 h with h | ⟨c, -, h⟩
    · exact iha ht.1 h
    · split at h
      · exact ihb ht.2 h
      · cases h
  | disj a b | stray v => exact absurd ht id

/-- the evaluation of a sound tree never stops at a part without meaning -/
theorem Tree.Sound.not_isShape_of_holds {t : Tree} (ht : t.Sound) (h : t.holds zone f = .error x) :
    x.isShape = false := by
  induction t with
  | leaf l | neg l | conj a b | stray v => exact IsBranch.not_isShape_of_holds ht h
  | disj a b iha ihb =>
    rcases bind_eq_error.1 h with h | ⟨c, -, h⟩
    · exact iha ht.1 h
    · split at h
      · cases h
      · exact ihb ht.2 h

end

/-! ## accepted filters -/

namespace Filter

variable {zone : Zone}

theorem sound_resolveAddress {value : Text} (h : Text.trim value ≠ []) : (resolveAddress value).Sound := by
  cases ht : resolveAddress value with
  | address a => exact Address.isAddrSpec_of_resolve ht
  | personal name =>
    unfold resolveAddress at ht
    split at ht
    · cases ht
    · cases ht
      exact ⟨h, Text.trim_trim value⟩
  | stray v =>
    unfold resolveAddress at ht
    split at ht <;> cases ht

theorem isFlag_of_field {f : Field} {value : Text} {l : Leaf} (h : f.leaf zone value = .ok l) :
    l.isFlag = false := by
  cases f with
  | body | subject | sender | recipient kind =>
    cases h
    rfl
  | number | received cmp | sent cmp | size cmp =>
    obtain ⟨v, -, h⟩ := bind_eq_ok.1 h
    cases h
    rfl

/-- the condition of a field is sound, if the value holds no separator and is not blank where it has to
be an address -/
theorem sound_leaf {name value : Text} {f : Field} {l : Leaf} (hf : field? name = some f)
    (hvalue : ∀ c ∈ separators, c ∉ value) (haddress : f.isAddress → Text.trim value ≠ [])
    (h : f.leaf zone value = .ok l) : l.Sound := by
  have hresolved := resolved_leaf hf h
  cases f with
  | body | subject =>
    cases h
    exact hvalue
  | sender | recipient kind =>
    cases h
    exact sound_resolveAddress (haddress rfl)
  | number | received cmp | sent cmp =>
    obtain ⟨v, -, h⟩ := bind_eq_ok.1 h
    cases h
    trivial
  | size cmp =>
    obtain ⟨v, -, h⟩ := bind_eq_ok.1 h
    cases h
    exact hresolved

theorem isBranch_of_resolve {name value : Text} {negated : Bool} {t : Tree}
    (hvalue : ∀ c ∈ separators, c ∉ value) (h : resolve zone name value negated = .ok t) :
    t.IsBranch := by
  rcases resolve_eq_ok.1 h with ⟨-, flag, hflag, rfl⟩ | ⟨-, f, l, hf, haddress, hl, rfl⟩
  · rcases flagName_cases hflag with hname | hname | hname
    · exact .inl hname
    · exact .inr (.inl hname)
    · exact .inr (.inr (Search.isAtom_of_isKeyword hname))
  · have hsound := sound_leaf hf hvalue haddress hl
    cases negated with
    | true => exact ⟨hsound, isFlag_of_field hl⟩
    | false => exact hsound

theorem sound_of_compile {e : Text} {t : Tree} (h : compile zone e = .ok t) : t.Sound :=
  compile_levels (P := Tree.Sound) (Q := Tree.IsBranch) (fun _ _ => And.intro) (fun _ => Tree.IsBranch.sound)
    (fun _ _ => And.intro) (fun _ _ _ _ => isBranch_of_resolve) h

/-- **Accepted filters have no part that is not known.**  In an accepted filter no `disj` stands below a
`conj`, no flag is negated, and the leaves are those that can be described, searched for and evaluated;
so it is described and written as a search program, each of its nodes is visited once, and the
evaluation on a message never stops at a term, a target or a comparison without meaning. -/
theorem compile_proper (zone : Zone) (e : Text) (t : Tree) (h : compile zone e = .ok t) :
    t.Proper ∧ (∃ s, t.describe zone = .ok s) ∧ (∃ c, t.criteria zone = .ok c) ∧
      t.VisitedBy t.nodes ∧ ∀ f shape, t.holds zone f ≠ .error (.shape shape) := by
  have hsound := sound_of_compile h
  refine ⟨hsound.proper, Tree.exists_describe (isWhole_of_compile h) (resolved_of_compile h),
    (Search.written_of_compile h).1, Tree.visitedBy_nodes t, fun f shape hf => ?_⟩
  have hshape := hsound.not_isShape_of_holds hf
  cases hshape

theorem compile_proper_sampleTree :
    compile .utc "subject:!hello+flag:!seen|number:3" = .ok sampleTree ∧
    sampleTree.Proper ∧ (∃ s, sampleTree.describe .utc = .ok s) ∧ (∃ c, sampleTree.criteria .utc = .ok c) ∧
      sampleTree.VisitedBy sampleTree.nodes ∧
      ∀ f shape, sampleTree.holds .utc f ≠ .error (.shape shape) :=
  ⟨compile_sampleTree, compile_proper .utc _ sampleTree compile_sampleTree⟩

end Filter
end Mailroom
