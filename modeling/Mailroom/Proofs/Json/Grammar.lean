import Mailroom.Json.Reading

/-!
# The grammar of JSON

How values are written, said without a reader.  The words `NaN`, `Infinity` and `-Infinity` stand
beside those of the standard, and a whole number has no more digits than can be read.

* `SpellsText`        what stands behind the opening quote of a text;
* `SpellsLeaf`        what a value without values inside is written as;
* `SpellsContainer`   what stands behind an opening bracket;
* `Spells`            what a value is written as, with at most so many containers one inside the other;
* `IsJson`            a text that holds a value;
* `Overruns`          the front of a text that opens one container more than there is room for;
* `Exceeds`           a text that does so behind blanks.
-/

namespace Mailroom.Json

/-! ## texts -/

/-- four hexadecimal digits and the number they stand for -/
def IsUnit (ds : Text) (n : Nat) : Prop := ∃ a b c d, ds = [a, b, c, d] ∧ hex4? a b c d = some n

/-- the text goes on with the escape of the second half of a pair, and does not end behind it -/
def BeginsLow (t : Text) : Prop :=
  ∃ ds n r, t = '\\' :: 'u' :: (ds ++ r) ∧ r ≠ [] ∧ IsUnit ds n ∧ isLow n = true

/-- what stands behind a backslash for a character, in front of more text -/
inductive Escaped : Char → Text → Text → Prop
  | letter {c x : Char} {t : Text} (hx : escaped? c = some x) : Escaped x [c] t
  /-- a number that is no half of a pair, or a half that stands alone -/
  | unit {ds t : Text} {n : Nat} (hn : IsUnit ds n) (halone : isHigh n = true → ¬BeginsLow t) :
      Escaped (charOf n) ('u' :: ds) t
  | pair {ds ds' t : Text} {n m : Nat} (hn : IsUnit ds n) (hm : IsUnit ds' m) (hhigh : isHigh n = true)
      (hlow : isLow m = true) : Escaped (ofPair n m) ('u' :: (ds ++ '\\' :: 'u' :: ds')) t

/-- what stands behind the opening quote of a text, with the closing one -/
inductive SpellsText : Text → Text → Prop
  | close : SpellsText [] ['"']
  | plain {c : Char} {s t : Text} (hc : c ≠ '"' ∧ c ≠ '\\' ∧ 32 ≤ c.toNat) (h : SpellsText s t) :
      SpellsText (c :: s) (c :: t)
  | escape {x : Char} {es s t : Text} (he : Escaped x es t) (h : SpellsText s t) :
      SpellsText (x :: s) ('\\' :: (es ++ t))

/-! ## numbers -/

/-- decimal digits, at least one -/
def IsDigits (ds : Text) : Prop := ds ≠ [] ∧ ∀ c ∈ ds, c.isDigit = true

/-- the digits of a whole number: a zero alone, or digits that do not begin with one -/
def IsWhole (ds : Text) : Prop := IsDigits ds ∧ (ds.head? = some '0' → ds = ['0'])

/-- a sign in front of a number -/
def sign (negative : Bool) : Text := if negative then ['-'] else []

/-- the digits behind a point, if there is one -/
inductive SpellsPlaces : Text → Text → Prop
  | none : SpellsPlaces [] []
  | point {ds : Text} (h : IsDigits ds) : SpellsPlaces ds ('.' :: ds)

/-- an exponent, if there is one -/
inductive SpellsExponent : Int → Text → Prop
  | none : SpellsExponent 0 []
  | up {c : Char} {plus ds : Text} (hc : c = 'e' ∨ c = 'E') (hplus : plus = [] ∨ plus = ['+'])
      (h : IsDigits ds) : SpellsExponent (naturalOf ds) (c :: (plus ++ ds))
  | down {c : Char} {ds : Text} (hc : c = 'e' ∨ c = 'E') (h : IsDigits ds) :
      SpellsExponent (-(naturalOf ds : Int)) (c :: '-' :: ds)

/-! ## values -/

/-- a value without values inside -/
inductive SpellsLeaf : Json → Text → Prop
  | word {w : Text} {v : Json} (h : (w, v) ∈ words) : SpellsLeaf v w
  | text {s t : Text} (h : SpellsText s t) : SpellsLeaf (text s) ('"' :: t)
  | integer {ds : Text} (negative : Bool) (h : IsWhole ds) (hn : ds.length ≤ maxDigits) :
      SpellsLeaf (integer negative ds) (sign negative ++ ds)
  | decimal {ds places t t' : Text} {e : Int} (negative : Bool) (h : IsWhole ds)
      (ht : SpellsPlaces places t) (ht' : SpellsExponent e t') (hsome : t ++ t' ≠ []) :
      SpellsLeaf (decimal negative ds places e) (sign negative ++ (ds ++ (t ++ t')))

/-- blanks between the parts of a value -/
def IsBlanks (w : Text) : Prop := ∀ c ∈ w, isBlank c = true

section
variable {α : Type}

/-- items, each written as `R` says, with commas between them and a closing bracket behind them -/
inductive SpellsItems (R : α → Text → Prop) (close : Char) : List α → Text → Prop
  | last {a : α} {t w : Text} (h : R a t) (hw : IsBlanks w) :
      SpellsItems R close [a] (t ++ (w ++ [close]))
  | next {a : α} {as : List α} {t w w' t' : Text} (h : R a t) (hw : IsBlanks w) (hw' : IsBlanks w')
      (hs : SpellsItems R close as t') : SpellsItems R close (a :: as) (t ++ (w ++ ',' :: (w' ++ t')))

/-- what stands behind an opening bracket, with the closing one -/
inductive SpellsContainer (R : α → Text → Prop) (close : Char) : List α → Text → Prop
  | empty {w : Text} (hw : IsBlanks w) : SpellsContainer R close [] (w ++ [close])
  | items {as : List α} {w t : Text} (hw : IsBlanks w) (h : SpellsItems R close as t) :
      SpellsContainer R close as (w ++ t)

end

/-- a field, its value written as `R` says -/
inductive SpellsField (R : Json → Text → Prop) : Text × Json → Text → Prop
  | intro {name q w w' t : Text} {v : Json} (hname : SpellsText name q) (hw : IsBlanks w)
      (hw' : IsBlanks w') (h : R v t) : SpellsField R (name, v) ('"' :: (q ++ (w ++ ':' :: (w' ++ t))))

/-- a value, those inside it written as `R` says -/
inductive SpellsWith (R : Json → Text → Prop) : Json → Text → Prop
  | leaf {v : Json} {t : Text} (h : SpellsLeaf v t) : SpellsWith R v t
  | list {vs : List Json} {t : Text} (h : SpellsContainer R ']' vs t) : SpellsWith R (list vs) ('[' :: t)
  | object {fs : List (Text × Json)} {t : Text} (h : SpellsContainer (SpellsField R) '\x7d' fs t) :
      SpellsWith R (object (gathered fs)) ('\x7b' :: t)

/-- a value with at most so many containers one inside the other -/
def Spells : (depth : Nat) → Json → Text → Prop
  | 0 => SpellsLeaf
  | depth + 1 => SpellsWith (Spells depth)

/-- a text that holds a value, with blanks around it -/
def IsJson (v : Json) (s : Text) : Prop :=
  ∃ depth w t w', IsBlanks w ∧ IsBlanks w' ∧ Spells depth v t ∧ s = w ++ (t ++ w')

/-! ## running out of room -/

section
variable {α : Type}

/-- items written as `R` says, and in front of the next comma one that `O` is said of -/
inductive OverrunsItems (R : α → Text → Prop) (O : Text → Prop) : Text → Prop
  | here {s : Text} (h : O s) : OverrunsItems R O s
  | next {a : α} {t w w' s : Text} (h : R a t) (hw : IsBlanks w) (hw' : IsBlanks w')
      (hs : OverrunsItems R O s) : OverrunsItems R O (t ++ (w ++ ',' :: (w' ++ s)))

/-- what stands behind an opening bracket -/
inductive OverrunsContainer (R : α → Text → Prop) (O : Text → Prop) : Text → Prop
  | items {w s : Text} (hw : IsBlanks w) (h : OverrunsItems R O s) : OverrunsContainer R O (w ++ s)

end

/-- a field whose value `O` is said of -/
inductive OverrunsField (O : Text → Prop) : Text → Prop
  | intro {name q w w' s : Text} (hname : SpellsText name q) (hw : IsBlanks w) (hw' : IsBlanks w')
      (h : O s) : OverrunsField O ('"' :: (q ++ (w ++ ':' :: (w' ++ s))))

/-- a value, those inside it written as `R` says, and one that `O` is said of inside it -/
inductive OverrunsWith (R : Json → Text → Prop) (O : Text → Prop) : Text → Prop
  | list {s : Text} (h : OverrunsContainer R O s) : OverrunsWith R O ('[' :: s)
  | object {s : Text} (h : OverrunsContainer (SpellsField R) (OverrunsField O) s) :
      OverrunsWith R O ('\x7b' :: s)

/-- a text that opens one container more than there is room for, before anything else is wrong with it -/
def Overruns : (room : Nat) → Text → Prop
  | 0 => fun s => s.head? = some '[' ∨ s.head? = some '\x7b'
  | room + 1 => OverrunsWith (Spells room) (Overruns room)

/-- a text that overruns the room behind blanks -/
def Exceeds (room : Nat) (s : Text) : Prop := ∃ w t, IsBlanks w ∧ Overruns room t ∧ s = w ++ t

end Mailroom.Json
