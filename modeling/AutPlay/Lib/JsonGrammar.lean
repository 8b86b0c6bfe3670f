import Mathlib.Data.List.Nodup
import Mathlib.Order.Basic

/-!
# The grammar of JSON texts

The grammar of RFC 8259 over UTF-16 code units, with a bound on the nesting and distinct names.  Every
rule relates a text to what follows the part that the rule reads.

* `Ws`, `Number`, `Chars`, `Str`     the parts of a value;
* `Elements`, `Members`     what stands between brackets, over the values that may stand there;
* `Value`                   the values inside a bounded number of arrays and objects;
* `Document`                a text that is one value.

How four units after a backslash and a `u` are read is a parameter, `hex`.
-/

set_option linter.unusedSectionVars false

namespace AutPlay.JsonText

/-- A text as its UTF-16 code units. -/
abbrev Units := List Nat

/-- The code unit of an ASCII character. -/
def unit (c : Char) : Nat := c.toNat

def IsWs (c : Nat) : Prop := c = unit ' ' ∨ c = unit '\t' ∨ c = unit '\n' ∨ c = unit '\r'

instance : DecidablePred IsWs := fun c =>
  inferInstanceAs (Decidable (c = unit ' ' ∨ c = unit '\t' ∨ c = unit '\n' ∨ c = unit '\r'))

def IsDigit (c : Nat) : Prop := unit '0' ≤ c ∧ c ≤ unit '9'

instance : DecidablePred IsDigit := fun c => inferInstanceAs (Decidable (unit '0' ≤ c ∧ c ≤ unit '9'))

def IsHigh (c : Nat) : Prop := 0xD800 ≤ c ∧ c ≤ 0xDBFF

instance : DecidablePred IsHigh := fun c => inferInstanceAs (Decidable (0xD800 ≤ c ∧ c ≤ 0xDBFF))

def IsLow (c : Nat) : Prop := 0xDC00 ≤ c ∧ c ≤ 0xDFFF

instance : DecidablePred IsLow := fun c => inferInstanceAs (Decidable (0xDC00 ≤ c ∧ c ≤ 0xDFFF))

/-! ## whitespace and numbers -/

inductive Ws : Units → Units → Prop
  | nil {r} : Ws r r
  | cons {c s r} (hc : IsWs c) (h : Ws s r) : Ws (c :: s) r

/-- One digit or more. -/
inductive Digits : Units → Units → Prop
  | one {c r} (hc : IsDigit c) : Digits (c :: r) r
  | cons {c s r} (hc : IsDigit c) (h : Digits s r) : Digits (c :: s) r

inductive IntPart : Units → Units → Prop
  | zero {r} : IntPart (unit '0' :: r) r
  | digit {c r} (hc : IsDigit c) (hne : c ≠ unit '0') : IntPart (c :: r) r
  | digits {c s r} (hc : IsDigit c) (hne : c ≠ unit '0') (h : Digits s r) : IntPart (c :: s) r

inductive Frac : Units → Units → Prop
  | none {r} : Frac r r
  | some {s r} (h : Digits s r) : Frac (unit '.' :: s) r

def IsExp (c : Nat) : Prop := c = unit 'e' ∨ c = unit 'E'

instance : DecidablePred IsExp := fun c => inferInstanceAs (Decidable (c = unit 'e' ∨ c = unit 'E'))

def IsSign (c : Nat) : Prop := c = unit '+' ∨ c = unit '-'

instance : DecidablePred IsSign := fun c => inferInstanceAs (Decidable (c = unit '+' ∨ c = unit '-'))

inductive Exponent : Units → Units → Prop
  | none {r} : Exponent r r
  | plain {c s r} (hc : IsExp c) (h : Digits s r) : Exponent (c :: s) r
  | signed {c sign s r} (hc : IsExp c) (hs : IsSign sign) (h : Digits s r) : Exponent (c :: sign :: s) r

/-- A number without its sign. -/
inductive Magnitude : Units → Units → Prop
  | mk {s s₁ s₂ r} (hint : IntPart s s₁) (hfrac : Frac s₁ s₂) (hexp : Exponent s₂ r) : Magnitude s r

inductive Number : Units → Units → Prop
  | plain {s r} (h : Magnitude s r) : Number s r
  | minus {s r} (h : Magnitude s r) : Number (unit '-' :: s) r

/-! ## strings -/

/-- The escapes of one character. -/
def simpleEscapes : List (Nat × Nat) :=
  [(unit '"', unit '"'), (unit '\\', unit '\\'), (unit '/', unit '/'), (unit 'b', 8), (unit 'f', 12),
    (unit 'n', 10), (unit 'r', 13), (unit 't', 9)]

/-- A character that stands for itself. -/
def IsPlain (c : Nat) : Prop :=
  0x20 ≤ c ∧ c ≠ unit '"' ∧ c ≠ unit '\\' ∧ ¬ IsHigh c ∧ ¬ IsLow c

section
variable (hex : Units → Option Nat)

/-- What follows a backslash, and what it stands for. -/
inductive Escape : Units → Units → Units → Prop
  | simple {c d r} (h : (c, d) ∈ simpleEscapes) : Escape (c :: r) [d] r
  | unit {a b c d u r} (h : hex [a, b, c, d] = some u) (hhigh : ¬ IsHigh u) (hlow : ¬ IsLow u) :
      Escape (unit 'u' :: a :: b :: c :: d :: r) [u] r
  | pair {a b c d high a' b' c' d' low r} (h : hex [a, b, c, d] = some high) (hhigh : IsHigh high)
      (h' : hex [a', b', c', d'] = some low) (hlow : IsLow low) :
      Escape (unit 'u' :: a :: b :: c :: d :: unit '\\' :: unit 'u' :: a' :: b' :: c' :: d' :: r)
        [high, low] r

/-- What follows the first quote of a string, and the decoded string. -/
inductive Chars : Units → Units → Units → Prop
  | close {r} : Chars (unit '"' :: r) [] r
  | plain {c s name r} (hc : IsPlain c) (h : Chars s name r) : Chars (c :: s) (c :: name) r
  | pair {high low s name r} (hhigh : IsHigh high) (hlow : IsLow low) (h : Chars s name r) :
      Chars (high :: low :: s) (high :: low :: name) r
  | escape {s s' d name r} (he : Escape hex s d s') (h : Chars s' name r) :
      Chars (unit '\\' :: s) (d ++ name) r

inductive Str : Units → Units → Units → Prop
  | mk {s name r} (h : Chars hex s name r) : Str (unit '"' :: s) name r

/-! ## values -/

/-- Values with commas between them, and whitespace around each. -/
inductive Elements (V : Units → Units → Prop) : Units → Units → Prop
  | last {s s₁ s₂ r} (hw : Ws s s₁) (hv : V s₁ s₂) (hw' : Ws s₂ r) : Elements V s r
  | cons {s s₁ s₂ s₃ r} (hw : Ws s s₁) (hv : V s₁ s₂) (hw' : Ws s₂ (unit ',' :: s₃))
      (h : Elements V s₃ r) : Elements V s r

/-- A name, a colon and a value. -/
inductive Member (V : Units → Units → Prop) : Units → Units → Units → Prop
  | mk {s s₁ s₂ s₃ s₄ s₅ name r} (hw : Ws s s₁) (hname : Str hex s₁ name s₂) (hw₂ : Ws s₂ (unit ':' :: s₃))
      (hw₃ : Ws s₃ s₄) (hv : V s₄ s₅) (hw₅ : Ws s₅ r) : Member V s name r

/-- Members with commas between them, and their names. -/
inductive Members (V : Units → Units → Prop) : Units → List Units → Units → Prop
  | last {s name r} (hm : Member hex V s name r) : Members V s [name] r
  | cons {s s₁ name names r} (hm : Member hex V s name (unit ',' :: s₁)) (h : Members V s₁ names r) :
      Members V s (name :: names) r

def literals : List Units := ["true".toList.map unit, "false".toList.map unit, "null".toList.map unit]

/-- A value whose elements and members are of `V`. -/
inductive ValueOver (V : Units → Units → Prop) : Units → Units → Prop
  | literal {l r} (h : l ∈ literals) : ValueOver V (l ++ r) r
  | number {s r} (h : Number s r) : ValueOver V s r
  | string {s name r} (h : Str hex s name r) : ValueOver V s r
  | emptyArray {s r} (h : Ws s (unit ']' :: r)) : ValueOver V (unit '[' :: s) r
  | array {s r} (h : Elements V s (unit ']' :: r)) : ValueOver V (unit '[' :: s) r
  | emptyObject {s r} (h : Ws s (unit '\x7d' :: r)) : ValueOver V (unit '\x7b' :: s) r
  | object {s names r} (h : Members hex V s names (unit '\x7d' :: r)) (hnames : names.Nodup) :
      ValueOver V (unit '\x7b' :: s) r

/-- The values that go at most so many levels deep. -/
def Value : Nat → Units → Units → Prop
  | 0, _, _ => False
  | levels + 1, s, r => ValueOver hex (Value levels) s r

/-- One value with whitespace around it. -/
def Document (levels : Nat) (s : Units) : Prop :=
  ∃ s₁ s₂, Ws s s₁ ∧ Value hex levels s₁ s₂ ∧ Ws s₂ []

end

end AutPlay.JsonText
