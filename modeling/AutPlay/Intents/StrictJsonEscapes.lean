import AutPlay.Intents.StrictJsonLaws

/-!
# The strict scanner and JSON

* `hexFour`, `toIntChar`     four hexadecimal digits, and the number that the scanner reads instead;
* `OddEscape`       a string has an escape that only the second reading takes;
* `Carries`         what goes along with a change of the reading;
* `jsonText_iff`    the JSON texts among those that the scanner accepts;
* `strictJson_laws`     when it accepts just these.
-/

set_option linter.unusedSectionVars false

namespace AutPlay.Intents

open JsonText Result

/-! ## the four units of an escape -/

/-- The value of an ASCII hexadecimal digit. -/
def hexDigit (c : Nat) : Option Nat :=
  if unit '0' ≤ c ∧ c ≤ unit '9' then some (c - unit '0')
  else if unit 'A' ≤ c ∧ c ≤ unit 'F' then some (c - unit 'A' + 10)
  else if unit 'a' ≤ c ∧ c ≤ unit 'f' then some (c - unit 'a' + 10)
  else none

/-- Four hexadecimal digits. -/
def hexFour (four : Units) : Option Nat := digitsValue hexDigit four

/-- What `Character.digit` makes of the ASCII characters; of the others it may make digits too. -/
def ReadsAscii (digit : Nat → Option Nat) : Prop := ∀ c < 128, digit c = hexDigit c

/-- The texts of RFC 8259, with at most as many arrays and objects around a value as the scanner allows. -/
def JsonText (s : Units) : Prop := Document hexFour (maxNesting + 1) s

section
variable {digit : Nat → Option Nat} {s r d name : Units} {c u : Nat}

theorem hexDigit_bounds {e : Nat} (h : hexDigit c = some e) : unit '0' ≤ c ∧ c < 128 ∧ e < 16 := by
  have h0 : unit '0' = 48 := rfl
  have h9 : unit '9' = 57 := rfl
  have hA : unit 'A' = 65 := rfl
  have hF : unit 'F' = 70 := rfl
  have ha : unit 'a' = 97 := rfl
  have hf : unit 'f' = 102 := rfl
  unfold hexDigit at h
  rw [h0, h9, hA, hF, ha, hf] at h
  rw [h0]
  split at h
  · cases h
    omega
  split at h
  · cases h
    omega
  split at h
  · cases h
    omega
  · cases h

theorem digitsValue_four {a b c d : Nat} : digitsValue digit [a, b, c, d] = some u ↔
    ∃ w x y z, digit a = some w ∧ digit b = some x ∧ digit c = some y ∧ digit d = some z ∧
      u = ((w * 16 + x) * 16 + y) * 16 + z := by
  unfold digitsValue
  cases ha : digit a with
  | none => simp [ha]
  | some w =>
    cases hb : digit b with
    | none => simp [ha, hb]
    | some x =>
      cases hc : digit c with
      | none => simp [ha, hb, hc]
      | some y =>
        cases hd : digit d with
        | none => simp [ha, hb, hc, hd]
        | some z =>
          simp [ha, hb, hc, hd]
          exact eq_comm

theorem digit_of_hexDigit {e : Nat} (hdigit : ReadsAscii digit) (h : hexDigit c = some e) : digit c = some e :=
  (hdigit c (hexDigit_bounds h).2.1).trans h

/-- Hexadecimal digits are read as they stand. -/
theorem toIntChar_of_hexFour (hdigit : ReadsAscii digit) {a b c d : Nat} (h : hexFour [a, b, c, d] = some u) :
    toIntChar digit [a, b, c, d] = some u := by
  obtain ⟨w, x, y, z, ha, hb, hc, hd, rfl⟩ := digitsValue_four.mp h
  obtain ⟨hsign, -, hw⟩ := hexDigit_bounds ha
  have hx := (hexDigit_bounds hb).2.2
  have hy := (hexDigit_bounds hc).2.2
  have hz := (hexDigit_bounds hd).2.2
  have hvalue : digitsValue digit [a, b, c, d] = some (((w * 16 + x) * 16 + y) * 16 + z) :=
    digitsValue_four.mpr ⟨w, x, y, z, digit_of_hexDigit hdigit ha, digit_of_hexDigit hdigit hb,
      digit_of_hexDigit hdigit hc, digit_of_hexDigit hdigit hd, rfl⟩
  unfold toIntChar toIntOrNull
  dsimp only
  rw [if_neg (Nat.not_lt.mpr hsign), hvalue]
  refine congrArg some ?_
  show ((((w * 16 + x) * 16 + y) * 16 + z : Nat) % 65536 : Int).toNat = _
  omega

/-- A unit that does not end a string, nor begin an escape. -/
def Inner (c : Nat) : Prop := c ≠ unit '"' ∧ c ≠ unit '\\'

theorem inner_high (h : IsHigh c) : Inner c := ⟨(high_not_quote h).1, (high_not_quote h).2.1⟩

theorem inner_low (h : IsLow c) : Inner c := by
  obtain ⟨hle, -⟩ := h
  have hquote : unit '"' = 34 := rfl
  have hback : unit '\\' = 92 := rfl
  constructor
  · omega
  · omega

theorem inner_of_digit (hdigit : ReadsAscii digit) {e : Nat} (h : digit c = some e) : Inner c := by
  constructor
  · rintro rfl
    rw [hdigit _ (by decide)] at h
    cases h
  · rintro rfl
    rw [hdigit _ (by decide)] at h
    cases h

theorem digitsValue_inner (hdigit : ReadsAscii digit) {units : Units} {n : Nat}
    (h : digitsValue digit units = some n) : ∀ c ∈ units, Inner c := by
  unfold digitsValue at h
  generalize 0 = m at h
  induction units generalizing m with
  | nil => nofun
  | cons c units ih =>
    rw [List.foldlM_cons] at h
    obtain ⟨k, hk, h⟩ := Option.bind_eq_some_iff.mp h
    obtain ⟨e, he, -⟩ := Option.map_eq_some_iff.mp hk
    exact List.forall_mem_cons.mpr ⟨inner_of_digit hdigit he, ih k h⟩

theorem toIntChar_inner (hdigit : ReadsAscii digit) {four : Units} (h : toIntChar digit four = some u) :
    ∀ c ∈ four, Inner c := by
  obtain ⟨i, hi, -⟩ := Option.map_eq_some_iff.mp h
  cases four with
  | nil => nofun
  | cons first rest =>
    rw [toIntOrNull] at hi
    split at hi
    · split at hi
      · cases hi
      split at hi
      · next hminus =>
        obtain ⟨n, hn, -⟩ := Option.map_eq_some_iff.mp hi
        rw [hminus]
        exact List.forall_mem_cons.mpr ⟨⟨by decide, by decide⟩, digitsValue_inner hdigit hn⟩
      split at hi
      · next hplus =>
        obtain ⟨n, hn, -⟩ := Option.map_eq_some_iff.mp hi
        rw [hplus]
        exact List.forall_mem_cons.mpr ⟨⟨by decide, by decide⟩, digitsValue_inner hdigit hn⟩
      · cases hi
    · obtain ⟨n, hn, -⟩ := Option.map_eq_some_iff.mp hi
      exact digitsValue_inner hdigit hn

/-! ## escapes that are no JSON -/

/-- Where a unit stands: outside of the strings, in one, or after a backslash in one. -/
inductive LexState
  | outside
  | inside
  | escaped
  deriving DecidableEq

def LexState.next : LexState → Nat → LexState
  | .outside, c => if c = unit '"' then .inside else .outside
  | .inside, c => if c = unit '"' then .outside else if c = unit '\\' then .escaped else .inside
  | .escaped, _ => .inside

/-- Units that are read as a number, with a sign or with digits that are not ASCII. -/
def OddFour (digit : Nat → Option Nat) (four : Units) : Prop :=
  (toIntChar digit four).isSome ∧ hexFour four = none

/-- Somewhere in a string such units follow a backslash and a `u`. -/
def OddFrom (digit : Nat → Option Nat) : LexState → Units → Prop
  | _, [] => False
  | q, c :: s => (q = .escaped ∧ c = unit 'u' ∧ OddFour digit (s.take 4)) ∨ OddFrom digit (q.next c) s

def OddEscape (digit : Nat → Option Nat) (s : Units) : Prop := OddFrom digit .outside s

theorem oddFrom_cons {q : LexState} (hq : q ≠ .escaped ∨ c ≠ unit 'u') :
    OddFrom digit q (c :: s) ↔ OddFrom digit (q.next c) s := by
  refine or_iff_right ?_
  rintro ⟨rfl, rfl, -⟩
  rcases hq with hq | hq
  · exact hq rfl
  · exact hq rfl

theorem next_inner (hc : Inner c) : LexState.inside.next c = .inside := by
  rw [LexState.next, if_neg hc.1, if_neg hc.2]

theorem oddFrom_inner {units : Units} (h : ∀ c ∈ units, Inner c) :
    OddFrom digit .inside (units ++ s) ↔ OddFrom digit .inside s := by
  induction units with
  | nil => exact Iff.rfl
  | cons c units ih =>
    obtain ⟨hc, h⟩ := List.forall_mem_cons.mp h
    have hskip : OddFrom digit .inside (c :: (units ++ s)) ↔ _ := oddFrom_cons (Or.inl nofun)
    rw [List.cons_append, hskip, next_inner hc]
    exact ih h

/-- After a backslash and a `u`. -/
theorem oddFrom_u {a b c d : Nat} (h : ∀ x ∈ [a, b, c, d], Inner x) :
    OddFrom digit .escaped (unit 'u' :: a :: b :: c :: d :: s) ↔
      OddFour digit [a, b, c, d] ∨ OddFrom digit .inside s := by
  refine or_congr ⟨fun h => h.2.2, fun h => ⟨rfl, rfl, h⟩⟩ ?_
  exact oddFrom_inner h

theorem oddFrom_backslash : OddFrom digit .inside (unit '\\' :: s) ↔ OddFrom digit .escaped s :=
  oddFrom_cons (Or.inl nofun)

theorem simpleEscapes_not_u : ∀ p ∈ simpleEscapes, p.1 ≠ unit 'u' := by decide

theorem oddFrom_simple {e : Nat} (h : (c, e) ∈ simpleEscapes) :
    OddFrom digit .escaped (c :: s) ↔ OddFrom digit .inside s :=
  oddFrom_cons (Or.inr (simpleEscapes_not_u _ h))

/-- Hexadecimal digits are not odd. -/
theorem not_oddFour {four : Units} (h : hexFour four = some u) : ¬ OddFour digit four := by
  rintro ⟨-, hnone⟩
  rw [hnone] at h
  cases h

theorem hexFour_of_not_odd {four : Units} (h : toIntChar digit four = some u) (ho : ¬ OddFour digit four)
    (hdigit : ReadsAscii digit) (hlen : four.length = 4) : hexFour four = some u := by
  obtain ⟨a, b, c, d, rfl⟩ : ∃ a b c d, four = [a, b, c, d] := by
    match four, hlen with
    | [a, b, c, d], _ => exact ⟨a, b, c, d, rfl⟩
  cases hv : hexFour [a, b, c, d] with
  | none => exact absurd ⟨by rw [h]; rfl, hv⟩ ho
  | some v => rw [← h, toIntChar_of_hexFour hdigit hv]

/-! ## from one reading to another -/

/-- What is carried along a text, while one reading of the escapes becomes another. -/
structure Carries (hex hex' : Units → Option Nat) (P : LexState → Units → Prop) : Prop where
  step : ∀ {q c s}, q ≠ .escaped → P q (c :: s) → P (q.next c) s
  escape : ∀ {s d r}, Escape hex s d r → P .escaped s → Escape hex' s d r ∧ P .inside r

section
variable {hex hex' : Units → Option Nat} {P : LexState → Units → Prop} {V V' : Units → Units → Prop}
  {names : List Units} {levels : Nat}

theorem Carries.skip (hp : Carries hex hex' P) (hc : c ≠ unit '"') (h : P .outside (c :: s)) :
    P .outside s := by
  have hnext := hp.step (q := .outside) nofun h
  rwa [LexState.next, if_neg hc] at hnext

theorem Carries.ws (hp : Carries hex hex' P) (h : Ws s r) (hs : P .outside s) : P .outside r := by
  induction h with
  | nil => exact hs
  | cons hc _ ih =>
    refine ih (hp.skip ?_ hs)
    rintro rfl
    exact absurd hc (by decide)

theorem digit_not_quote (h : IsDigit c) : c ≠ unit '"' := by
  rintro rfl
  exact absurd h (by decide)

theorem Carries.digits (hp : Carries hex hex' P) (h : Digits s r) (hs : P .outside s) : P .outside r := by
  induction h with
  | one hc => exact hp.skip (digit_not_quote hc) hs
  | cons hc _ ih => exact ih (hp.skip (digit_not_quote hc) hs)

theorem exp_not_quote (h : IsExp c) : c ≠ unit '"' := by
  rintro rfl
  exact absurd h (by decide)

theorem sign_not_quote (h : IsSign c) : c ≠ unit '"' := by
  rintro rfl
  exact absurd h (by decide)

theorem Carries.intPart (hp : Carries hex hex' P) (h : IntPart s r) (hs : P .outside s) : P .outside r := by
  cases h with
  | zero => exact hp.skip (by decide) hs
  | digit hc _ => exact hp.skip (digit_not_quote hc) hs
  | digits hc _ h => exact hp.digits h (hp.skip (digit_not_quote hc) hs)

theorem Carries.frac (hp : Carries hex hex' P) (h : Frac s r) (hs : P .outside s) : P .outside r := by
  cases h with
  | none => exact hs
  | some h => exact hp.digits h (hp.skip (by decide) hs)

theorem Carries.exponent (hp : Carries hex hex' P) (h : Exponent s r) (hs : P .outside s) :
    P .outside r := by
  cases h with
  | none => exact hs
  | plain hc h => exact hp.digits h (hp.skip (exp_not_quote hc) hs)
  | signed hc hsign h => exact hp.digits h (hp.skip (sign_not_quote hsign) (hp.skip (exp_not_quote hc) hs))

theorem Carries.magnitude (hp : Carries hex hex' P) (h : Magnitude s r) (hs : P .outside s) :
    P .outside r := by
  obtain ⟨hint, hfrac, hexp⟩ := h
  exact hp.exponent hexp (hp.frac hfrac (hp.intPart hint hs))

theorem Carries.number (hp : Carries hex hex' P) (h : Number s r) (hs : P .outside s) : P .outside r := by
  cases h with
  | plain h => exact hp.magnitude h hs
  | minus h => exact hp.magnitude h (hp.skip (by decide) hs)

theorem Carries.literal (hp : Carries hex hex' P) {l : Units} (hl : ∀ c ∈ l, c ≠ unit '"')
    (hs : P .outside (l ++ r)) : P .outside r := by
  induction l with
  | nil => exact hs
  | cons c l ih =>
    obtain ⟨hc, hl⟩ := List.forall_mem_cons.mp hl
    exact ih hl (hp.skip hc hs)

theorem Carries.inner (hp : Carries hex hex' P) (hc : Inner c) (h : P .inside (c :: s)) : P .inside s := by
  have hnext := hp.step (q := .inside) nofun h
  rwa [next_inner hc] at hnext

theorem Carries.chars (hp : Carries hex hex' P) (h : Chars hex s name r) (hs : P .inside s) :
    Chars hex' s name r ∧ P .outside r := by
  induction h with
  | close => exact ⟨.close, hp.step (q := .inside) nofun hs⟩
  | plain hc _ ih =>
    obtain ⟨hchars, hr⟩ := ih (hp.inner ⟨hc.2.1, hc.2.2.1⟩ hs)
    exact ⟨.plain hc hchars, hr⟩
  | pair hhigh hlow _ ih =>
    obtain ⟨hchars, hr⟩ := ih (hp.inner (inner_low hlow) (hp.inner (inner_high hhigh) hs))
    exact ⟨.pair hhigh hlow hchars, hr⟩
  | escape he _ ih =>
    obtain ⟨he, hs⟩ := hp.escape he (hp.step (q := .inside) nofun hs)
    obtain ⟨hchars, hr⟩ := ih hs
    exact ⟨.escape he hchars, hr⟩

theorem Carries.str (hp : Carries hex hex' P) (h : Str hex s name r) (hs : P .outside s) :
    Str hex' s name r ∧ P .outside r := by
  obtain ⟨h⟩ := h
  obtain ⟨hchars, hr⟩ := hp.chars h (hp.step (q := .outside) nofun hs)
  exact ⟨.mk hchars, hr⟩

theorem Carries.elements (hp : Carries hex hex' P)
    (hv : ∀ {s r}, V s r → P .outside s → V' s r ∧ P .outside r) (h : Elements V s r) (hs : P .outside s) :
    Elements V' s r ∧ P .outside r := by
  induction h with
  | last hw hread hw' =>
    obtain ⟨hread, hs⟩ := hv hread (hp.ws hw hs)
    exact ⟨.last hw hread hw', hp.ws hw' hs⟩
  | cons hw hread hw' _ ih =>
    obtain ⟨hread, hs⟩ := hv hread (hp.ws hw hs)
    obtain ⟨helements, hr⟩ := ih (hp.skip (by decide) (hp.ws hw' hs))
    exact ⟨.cons hw hread hw' helements, hr⟩

theorem Carries.member (hp : Carries hex hex' P)
    (hv : ∀ {s r}, V s r → P .outside s → V' s r ∧ P .outside r) (h : Member hex V s name r)
    (hs : P .outside s) : Member hex' V' s name r ∧ P .outside r := by
  obtain ⟨hw, hname, hw₂, hw₃, hread, hw₅⟩ := h
  obtain ⟨hname, hs⟩ := hp.str hname (hp.ws hw hs)
  obtain ⟨hread, hs⟩ := hv hread (hp.ws hw₃ (hp.skip (by decide) (hp.ws hw₂ hs)))
  exact ⟨.mk hw hname hw₂ hw₃ hread hw₅, hp.ws hw₅ hs⟩

theorem Carries.members (hp : Carries hex hex' P)
    (hv : ∀ {s r}, V s r → P .outside s → V' s r ∧ P .outside r) (h : Members hex V s names r)
    (hs : P .outside s) : Members hex' V' s names r ∧ P .outside r := by
  induction h with
  | last hm =>
    obtain ⟨hm, hr⟩ := hp.member hv hm hs
    exact ⟨.last hm, hr⟩
  | cons hm _ ih =>
    obtain ⟨hm, hs⟩ := hp.member hv hm hs
    obtain ⟨hmembers, hr⟩ := ih (hp.skip (by decide) hs)
    exact ⟨.cons hm hmembers, hr⟩

theorem literals_not_quote : ∀ l ∈ literals, ∀ c ∈ l, c ≠ unit '"' := by decide

theorem Carries.valueOver (hp : Carries hex hex' P)
    (hv : ∀ {s r}, V s r → P .outside s → V' s r ∧ P .outside r) (h : ValueOver hex V s r)
    (hs : P .outside s) : ValueOver hex' V' s r ∧ P .outside r := by
  cases h with
  | literal hl => exact ⟨.literal hl, hp.literal (literals_not_quote _ hl) hs⟩
  | number h => exact ⟨.number h, hp.number h hs⟩
  | string h =>
    obtain ⟨h, hr⟩ := hp.str h hs
    exact ⟨.string h, hr⟩
  | emptyArray h => exact ⟨.emptyArray h, hp.skip (by decide) (hp.ws h (hp.skip (by decide) hs))⟩
  | array h =>
    obtain ⟨h, hs⟩ := hp.elements hv h (hp.skip (by decide) hs)
    exact ⟨.array h, hp.skip (by decide) hs⟩
  | emptyObject h => exact ⟨.emptyObject h, hp.skip (by decide) (hp.ws h (hp.skip (by decide) hs))⟩
  | object h hnames =>
    obtain ⟨h, hs⟩ := hp.members hv h (hp.skip (by decide) hs)
    exact ⟨.object h hnames, hp.skip (by decide) hs⟩

theorem Carries.value (hp : Carries hex hex' P) (h : Value hex levels s r) (hs : P .outside s) :
    Value hex' levels s r ∧ P .outside r := by
  induction levels generalizing s r with
  | zero => cases h
  | succ levels ih => exact hp.valueOver ih h hs

/-- **A document of one reading is one of the other**, and what is carried arrives at its end. -/
theorem Carries.document (hp : Carries hex hex' P) (h : Document hex levels s) (hs : P .outside s) :
    Document hex' levels s ∧ P .outside [] := by
  obtain ⟨s₁, s₂, hw, hread, hw₂⟩ := h
  obtain ⟨hread, hs⟩ := hp.value hread (hp.ws hw hs)
  exact ⟨⟨s₁, s₂, hw, hread, hw₂⟩, hp.ws hw₂ hs⟩

end

/-! ## when the scanner accepts the JSON texts -/

theorem oddFrom_unit {a b c d : Nat} (hinner : ∀ x ∈ [a, b, c, d], Inner x) (h : ¬ OddFour digit [a, b, c, d]) :
    OddFrom digit .escaped (unit 'u' :: a :: b :: c :: d :: s) ↔ OddFrom digit .inside s := by
  rw [oddFrom_u hinner]
  exact or_iff_right h

theorem hexFour_inner {four : Units} (h : hexFour four = some u) : ∀ c ∈ four, Inner c :=
  digitsValue_inner (fun _ _ => rfl) h

/-- A JSON text has no odd escape: it would have to be in what follows. -/
theorem carries_odd (digit : Nat → Option Nat) : Carries hexFour hexFour (OddFrom digit) := by
  refine ⟨fun hq h => (oddFrom_cons (Or.inl hq)).mp h, fun he h => ⟨he, ?_⟩⟩
  cases he with
  | simple he => exact (oddFrom_simple he).mp h
  | unit hread _ _ => exact (oddFrom_unit (hexFour_inner hread) (not_oddFour hread)).mp h
  | pair hread _ hread' _ =>
    have h := (oddFrom_unit (hexFour_inner hread) (not_oddFour hread)).mp h
    have h := oddFrom_backslash.mp h
    exact (oddFrom_unit (hexFour_inner hread') (not_oddFour hread')).mp h

theorem carries_all (hdigit : ReadsAscii digit) : Carries hexFour (toIntChar digit) fun _ _ => True := by
  refine ⟨fun _ h => h, fun he _ => ⟨?_, trivial⟩⟩
  cases he with
  | simple he => exact .simple he
  | unit hread hhigh hlow => exact .unit (toIntChar_of_hexFour hdigit hread) hhigh hlow
  | pair hread hhigh hread' hlow =>
    exact .pair (toIntChar_of_hexFour hdigit hread) hhigh (toIntChar_of_hexFour hdigit hread') hlow

theorem carries_even (hdigit : ReadsAscii digit) :
    Carries (toIntChar digit) hexFour fun q s => ¬ OddFrom digit q s := by
  refine ⟨fun hq h ho => h ((oddFrom_cons (Or.inl hq)).mpr ho), fun he h => ?_⟩
  cases he with
  | simple he => exact ⟨.simple he, fun ho => h ((oddFrom_simple he).mpr ho)⟩
  | unit hread hhigh hlow =>
    rw [oddFrom_u (toIntChar_inner hdigit hread), not_or] at h
    exact ⟨.unit (hexFour_of_not_odd hread h.1 hdigit rfl) hhigh hlow, h.2⟩
  | pair hread hhigh hread' hlow =>
    rw [oddFrom_u (toIntChar_inner hdigit hread), not_or, oddFrom_backslash,
      oddFrom_u (toIntChar_inner hdigit hread'), not_or] at h
    exact ⟨.pair (hexFour_of_not_odd hread h.1 hdigit rfl) hhigh
      (hexFour_of_not_odd hread' h.2.1 hdigit rfl) hlow, h.2.2⟩

theorem jsonText_iff (hdigit : ReadsAscii digit) (s : Units) :
    JsonText s ↔ Document (toIntChar digit) (maxNesting + 1) s ∧ ¬ OddEscape digit s := by
  constructor
  · intro h
    exact ⟨((carries_all hdigit).document h trivial).1, fun ho => ((carries_odd digit).document h ho).2⟩
  · rintro ⟨h, ho⟩
    exact ((carries_even hdigit).document h ho).1

/-- **The scanner and the grammar**: it always ends, at the end of the text if it accepts, and it accepts
the JSON texts, and those texts too that only a number with a sign or with other digits after a backslash
and a `u` keeps from being JSON. -/
theorem strictJson_laws (digit : Nat → Option Nat) (hdigit : ReadsAscii digit) :
    (∀ s, scanDocument (toIntChar digit) s ≠ .error .unfinished) ∧
    (∀ s r, scanDocument (toIntChar digit) s = .ok r → r = []) ∧
    ∀ s, (((∃ r, scanDocument (toIntChar digit) s = .ok r) ↔ JsonText s) ↔
      ¬ (Document (toIntChar digit) (maxNesting + 1) s ∧ OddEscape digit s)) := by
  refine ⟨scanDocument_finishes _, fun s r h => (scanDocument_ok.mp h).1, fun s => ?_⟩
  have haccepts : (∃ r, scanDocument (toIntChar digit) s = .ok r) ↔
      Document (toIntChar digit) (maxNesting + 1) s :=
    ⟨fun ⟨r, h⟩ => (scanDocument_ok.mp h).2, fun h => ⟨[], scanDocument_ok.mpr ⟨rfl, h⟩⟩⟩
  rw [haccepts, jsonText_iff hdigit s]
  tauto

/-- An escape with a sign. -/
def signedEscape : Units := "\"\\u+123\"".toList.map unit

theorem signed_escape_accepted :
    ¬ ((∃ r, scanDocument (toIntChar hexDigit) signedEscape = .ok r) ↔ JsonText signedEscape) := by
  intro h
  have haccepts : scanDocument (toIntChar hexDigit) signedEscape = .ok [] := by decide +kernel
  have hjson : scanDocument hexFour signedEscape = .ok [] := scanDocument_ok.mpr ⟨rfl, h.mp ⟨[], haccepts⟩⟩
  exact absurd hjson (by decide +kernel)

theorem strictJson_laws_ascii :
    ((∃ r, scanDocument (toIntChar hexDigit) signedEscape = .ok r) ↔ JsonText signedEscape) ↔
      ¬ (Document (toIntChar hexDigit) (maxNesting + 1) signedEscape ∧ OddEscape hexDigit signedEscape) :=
  (strictJson_laws hexDigit fun _ _ => rfl).2.2 signedEscape

end

end AutPlay.Intents
