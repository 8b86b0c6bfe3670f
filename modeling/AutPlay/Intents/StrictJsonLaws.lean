import AutPlay.Intents.StrictJson

/-!
# What the strict scanner accepts

* `scanNumber_ok`, `scanString_ok`     a part is read exactly if the grammar reads it;
* `scans_value`            and so are the values, to every depth;
* `scanDocument_ok`        the texts that the scanner accepts, for every reading of four units;
* `scanDocument_finishes`  every loop ends.
-/

set_option linter.unusedSectionVars false

namespace AutPlay.Intents

open JsonText Result

section
variable {hex : Units → Option Nat} {s s₁ s₂ t r d name : Units} {c : Nat}

/-! ## whitespace -/

/-- Nothing of the kind stands at the front. -/
def NoHead (p : Nat → Prop) (s : Units) : Prop := ∀ c ∈ s.head?, ¬ p c

theorem noHead_cons {p : Nat → Prop} (h : ¬ p c) : NoHead p (c :: s) := by
  intro d hd
  cases hd
  exact h

theorem NoHead.not {p : Nat → Prop} (h : NoHead p (c :: s)) : ¬ p c := h c rfl

theorem noHead_dropWhile (p : Nat → Prop) [DecidablePred p] (s : Units) :
    NoHead p (s.dropWhile fun c => p c) := by
  intro c hc
  have h := List.head?_dropWhile_not (fun c => decide (p c)) s
  rw [Option.mem_def.mp hc] at h
  exact of_decide_eq_false h

theorem dropWhile_of_noHead {p : Nat → Prop} [DecidablePred p] (h : NoHead p s) :
    (s.dropWhile fun c => p c) = s := by
  cases s with
  | nil => rfl
  | cons c s => exact List.dropWhile_cons_of_neg (by simpa using h.not)

theorem ws_skipWhitespace (s : Units) : Ws s (skipWhitespace s) := by
  unfold skipWhitespace
  induction s with
  | nil => exact .nil
  | cons c s ih =>
    by_cases hc : IsWs c
    · rw [List.dropWhile_cons_of_pos (by simpa using hc)]
      exact .cons hc ih
    · rw [List.dropWhile_cons_of_neg (by simpa using hc)]
      exact .nil

theorem skipWhitespace_eq (h : Ws s t) (ht : NoHead IsWs t) : skipWhitespace s = t := by
  induction h with
  | nil => exact dropWhile_of_noHead ht
  | cons hc _ ih => exact (List.dropWhile_cons_of_pos (by simpa using hc)).trans (ih ht)

theorem tryConsume_iff {expected : Char} : tryConsume expected s = some r ↔ s = unit expected :: r := by
  cases s with
  | nil => exact ⟨nofun, nofun⟩
  | cons c s =>
    rw [tryConsume]
    split
    · next h => rw [h, Option.some.injEq, List.cons.injEq, and_iff_right rfl]
    · next h => exact ⟨nofun, fun heq => absurd (List.cons.inj heq).1 h⟩

theorem tryConsume_none {expected : Char} (h : NoHead (fun c => c = unit expected) s) :
    tryConsume expected s = none := by
  cases s with
  | nil => rfl
  | cons c s => exact if_neg h.not

theorem consume_ok {expected : Char} : consume expected s = .ok r ↔ s = unit expected :: r := by
  unfold consume
  rw [← tryConsume_iff]
  cases tryConsume expected s with
  | none => exact ⟨nofun, nofun⟩
  | some s' => rw [Except.ok.injEq, Option.some.injEq]

/-! ## numbers -/

theorem digits_dropWhile (hc : IsDigit c) : Digits (c :: s) (s.dropWhile fun c => IsDigit c) := by
  induction s generalizing c with
  | nil => exact .one hc
  | cons d s ih =>
    by_cases hd : IsDigit d
    · rw [List.dropWhile_cons_of_pos (by simpa using hd)]
      exact .cons hc (ih hd)
    · rw [List.dropWhile_cons_of_neg (by simpa using hd)]
      exact .one hc

theorem digits_dropWhile_eq (h : Digits s r) (hr : NoHead IsDigit r) :
    (s.dropWhile fun c => IsDigit c) = r := by
  induction h with
  | one hc => exact (List.dropWhile_cons_of_pos (by simpa using hc)).trans (dropWhile_of_noHead hr)
  | cons hc _ ih => exact (List.dropWhile_cons_of_pos (by simpa using hc)).trans (ih hr)

theorem digits_head (h : Digits s r) : ∃ c s', s = c :: s' ∧ IsDigit c := by
  cases h with
  | one hc => exact ⟨_, _, rfl, hc⟩
  | cons hc _ => exact ⟨_, _, rfl, hc⟩

theorem matchDigits_sound (h : matchDigits s = some r) : Digits s r := by
  cases s with
  | nil => cases h
  | cons c s =>
    rw [matchDigits] at h
    split at h
    · next hc =>
      cases h
      exact digits_dropWhile hc
    · cases h

theorem matchDigits_complete (h : Digits s r) (hr : NoHead IsDigit r) : matchDigits s = some r := by
  obtain ⟨c, s', rfl, hc⟩ := digits_head h
  have hdrop := digits_dropWhile_eq h hr
  rw [List.dropWhile_cons_of_pos (by simpa using hc)] at hdrop
  rw [matchDigits]
  rw [if_pos hc, hdrop]

theorem matchInt_sound (h : matchInt s = some r) : IntPart s r := by
  cases s with
  | nil => cases h
  | cons c s =>
    rw [matchInt] at h
    split at h
    · next hc =>
      cases h
      rw [hc]
      exact .zero
    · next hne =>
      split at h
      · next hc =>
        cases h
        cases s with
        | nil => exact .digit hc hne
        | cons d s =>
          by_cases hd : IsDigit d
          · rw [List.dropWhile_cons_of_pos (by simpa using hd)]
            exact .digits hc hne (digits_dropWhile hd)
          · rw [List.dropWhile_cons_of_neg (by simpa using hd)]
            exact .digit hc hne
      · cases h

theorem matchInt_complete (h : IntPart s r) (hr : NoHead IsDigit r) : matchInt s = some r := by
  cases h with
  | zero => rw [matchInt, if_pos rfl]
  | digit hc hne =>
    rw [matchInt]
    rw [if_neg hne, if_pos hc, dropWhile_of_noHead hr]
  | digits hc hne h =>
    rw [matchInt]
    rw [if_neg hne, if_pos hc, digits_dropWhile_eq h hr]

theorem matchFrac_sound (s : Units) : Frac s (matchFrac s) := by
  unfold matchFrac
  cases hm : (tryConsume '.' s).bind matchDigits with
  | none => exact .none
  | some r =>
    obtain ⟨s', hs', hr⟩ := Option.bind_eq_some_iff.mp hm
    obtain rfl := tryConsume_iff.mp hs'
    exact .some (matchDigits_sound hr)

theorem matchFrac_complete (h : Frac s r) (hr : NoHead IsDigit r) (hdot : NoHead (fun c => c = unit '.') r) :
    matchFrac s = r := by
  unfold matchFrac
  cases h with
  | none => rw [tryConsume_none hdot]; rfl
  | some h => rw [tryConsume_iff.mpr rfl, Option.bind_some, matchDigits_complete h hr]; rfl

theorem sign_not_digit (h : IsSign c) : ¬ IsDigit c := by
  rcases h with rfl | rfl
  · decide
  · decide

theorem matchSigned_sound (h : matchSigned s = some r) :
    Digits s r ∨ ∃ sign s', s = sign :: s' ∧ IsSign sign ∧ Digits s' r := by
  cases s with
  | nil => cases h
  | cons c s =>
    rw [matchSigned] at h
    split at h
    · next hc => exact Or.inr ⟨c, s, rfl, hc, matchDigits_sound h⟩
    · exact Or.inl (matchDigits_sound h)

theorem matchExponent_sound (s : Units) : Exponent s (matchExponent s) := by
  cases s with
  | nil => exact .none
  | cons c s =>
    rw [matchExponent]
    split
    · next hc =>
      cases hm : matchSigned s with
      | none => exact .none
      | some r =>
        rcases matchSigned_sound hm with hd | ⟨sign, s', rfl, hs, hd⟩
        · exact .plain hc hd
        · exact .signed hc hs hd
    · exact .none

theorem matchExponent_complete (h : Exponent s r) (hr : NoHead IsDigit r) (hexp : NoHead IsExp r) :
    matchExponent s = r := by
  cases h with
  | none =>
    cases s with
    | nil => rfl
    | cons c s => exact if_neg hexp.not
  | plain hc h =>
    obtain ⟨d, s', rfl, hd⟩ := digits_head h
    have hmatch : matchSigned (d :: s') = some r :=
      (if_neg fun hs => sign_not_digit hs hd).trans (matchDigits_complete h hr)
    rw [matchExponent]
    rw [if_pos hc, hmatch]
    rfl
  | signed hc hs h =>
    rw [matchExponent, matchSigned, if_pos hc, if_pos hs, matchDigits_complete h hr]
    rfl

/-- What may follow a number. -/
structure Stops (r : Units) : Prop where
  digit : NoHead IsDigit r
  dot : NoHead (fun c => c = unit '.') r
  exponent : NoHead IsExp r

theorem exp_not_digit (h : IsExp c) : ¬ IsDigit c := by
  rcases h with rfl | rfl
  · decide
  · decide

theorem exp_not_dot (h : IsExp c) : ¬ c = unit '.' := by
  rcases h with rfl | rfl
  · decide
  · decide

theorem exponent_heads (h : Exponent s r) (hr : Stops r) :
    NoHead IsDigit s ∧ NoHead (fun c => c = unit '.') s := by
  cases h with
  | none => exact ⟨hr.digit, hr.dot⟩
  | plain hc _ => exact ⟨noHead_cons (exp_not_digit hc), noHead_cons (exp_not_dot hc)⟩
  | signed hc _ _ => exact ⟨noHead_cons (exp_not_digit hc), noHead_cons (exp_not_dot hc)⟩

theorem frac_head (h : Frac s r) (hr : NoHead IsDigit r) : NoHead IsDigit s := by
  cases h with
  | none => exact hr
  | some _ => exact noHead_cons (by decide)

theorem intPart_head (h : IntPart s r) : ∃ c s', s = c :: s' ∧ IsDigit c := by
  cases h with
  | zero => exact ⟨_, _, rfl, by decide⟩
  | digit hc _ => exact ⟨_, _, rfl, hc⟩
  | digits hc _ _ => exact ⟨_, _, rfl, hc⟩

theorem magnitude_sound (h : matchInt s = some s₁) : Magnitude s (matchExponent (matchFrac s₁)) :=
  ⟨matchInt_sound h, matchFrac_sound s₁, matchExponent_sound _⟩

theorem magnitude_complete (h : Magnitude s r) (hr : Stops r) :
    (matchInt s).map (fun s => matchExponent (matchFrac s)) = some r := by
  obtain ⟨hint, hfrac, hexp⟩ := h
  obtain ⟨hdigit, hdot⟩ := exponent_heads hexp hr
  rw [matchInt_complete hint (frac_head hfrac hdigit), Option.map_some, matchFrac_complete hfrac hdigit hdot,
    matchExponent_complete hexp hr.digit hr.exponent]

theorem scanNumber_sound (h : scanNumber s = .ok r) : Number s r := by
  unfold scanNumber at h
  split at h
  · next r' hm =>
    cases h
    obtain ⟨s₁, hs₁, rfl⟩ := Option.map_eq_some_iff.mp hm
    cases hminus : tryConsume '-' s with
    | none =>
      rw [hminus] at hs₁
      exact .plain (magnitude_sound hs₁)
    | some s' =>
      rw [hminus] at hs₁
      obtain rfl := tryConsume_iff.mp hminus
      exact .minus (magnitude_sound hs₁)
  · cases h

theorem matchNumber_complete (h : Number s r) (hr : Stops r) : matchNumber s = some r := by
  unfold matchNumber
  cases h with
  | plain h =>
    have hint := h
    obtain ⟨hint, -, -⟩ := hint
    obtain ⟨c, s', rfl, hc⟩ := intPart_head hint
    have hne : ¬ c = unit '-' := by
      rintro rfl
      exact absurd hc (by decide)
    rw [tryConsume_none (noHead_cons hne)]
    exact magnitude_complete h hr
  | minus h =>
    rw [tryConsume_iff.mpr rfl]
    exact magnitude_complete h hr

theorem scanNumber_complete (h : Number s r) (hr : Stops r) : scanNumber s = .ok r := by
  unfold scanNumber
  rw [matchNumber_complete h hr]

theorem number_head (h : Number s r) : ∃ c s', s = c :: s' ∧ (c = unit '-' ∨ IsDigit c) := by
  cases h with
  | plain h =>
    obtain ⟨hint, -, -⟩ := h
    obtain ⟨c, s', rfl, hc⟩ := intPart_head hint
    exact ⟨c, s', rfl, Or.inr hc⟩
  | minus h => exact ⟨_, _, rfl, Or.inl rfl⟩

/-! ## strings -/

theorem scanHexCodeUnit_ok {u : Nat} :
    scanHexCodeUnit hex s = .ok (u, r) ↔ ∃ a b c d, s = a :: b :: c :: d :: r ∧ hex [a, b, c, d] = some u := by
  constructor
  · intro h
    unfold scanHexCodeUnit at h
    split at h
    · next a b c d s =>
      split at h
      · next hu =>
        cases h
        exact ⟨a, b, c, d, rfl, hu⟩
      · cases h
    · cases h
  · rintro ⟨a, b, c, d, rfl, hu⟩
    rw [scanHexCodeUnit, hu]

theorem lookup_simpleEscapes {e : Nat} : simpleEscapes.lookup c = some e ↔ (c, e) ∈ simpleEscapes := by
  constructor
  · intro h
    obtain ⟨l₁, l₂, heq, -⟩ := List.lookup_eq_some_iff.mp h
    rw [heq]
    exact List.mem_append_right _ List.mem_cons_self
  · intro h
    simp only [simpleEscapes, List.mem_cons, Prod.mk.injEq, List.not_mem_nil, or_false] at h
    rcases h with ⟨rfl, rfl⟩ | ⟨rfl, rfl⟩ | ⟨rfl, rfl⟩ | ⟨rfl, rfl⟩ | ⟨rfl, rfl⟩ | ⟨rfl, rfl⟩ | ⟨rfl, rfl⟩ |
      ⟨rfl, rfl⟩ <;> rfl

theorem lookup_u : simpleEscapes.lookup (unit 'u') = none := rfl

theorem consume_two {a b : Char} :
    (tryConsume a s).bind (tryConsume b) = some r ↔ s = unit a :: unit b :: r := by
  rw [Option.bind_eq_some_iff]
  constructor
  · rintro ⟨s', h, h'⟩
    rw [tryConsume_iff.mp h, tryConsume_iff.mp h']
  · rintro rfl
    exact ⟨_, tryConsume_iff.mpr rfl, tryConsume_iff.mpr rfl⟩

theorem scanEscape_sound (h : scanEscape hex s = .ok (d, r)) : Escape hex s d r := by
  cases s with
  | nil => cases h
  | cons c s =>
    rw [scanEscape] at h
    cases hl : simpleEscapes.lookup c with
    | some e =>
      rw [hl] at h
      cases h
      exact .simple (lookup_simpleEscapes.mp hl)
    | none =>
      rw [hl] at h
      dsimp only at h
      split at h
      · next hu =>
        subst hu
        obtain ⟨⟨first, s₁⟩, hfirst, hrest⟩ := bind_eq_ok.mp h
        obtain ⟨a, b, c, d', rfl, hread⟩ := scanHexCodeUnit_ok.mp hfirst
        dsimp only at hrest
        split at hrest
        · next hhigh =>
          split at hrest
          · cases hrest
          · next s₂ hs₂ =>
            obtain rfl := consume_two.mp hs₂
            obtain ⟨⟨second, s₃⟩, hsecond, hlast⟩ := bind_eq_ok.mp hrest
            obtain ⟨a', b', c', d'', rfl, hread'⟩ := scanHexCodeUnit_ok.mp hsecond
            dsimp only at hlast
            split at hlast
            · next hlow =>
              cases hlast
              exact .pair hread hhigh hread' hlow
            · cases hlast
        · next hhigh =>
          split at hrest
          · cases hrest
          · next hlow =>
            cases hrest
            exact .unit hread hhigh hlow
      · cases h

theorem scanEscape_complete (h : Escape hex s d r) : scanEscape hex s = .ok (d, r) := by
  cases h with
  | simple h => rw [scanEscape, lookup_simpleEscapes.mpr h]
  | unit hread hhigh hlow =>
    rw [scanEscape, lookup_u]
    dsimp only
    rw [if_pos rfl, scanHexCodeUnit_ok.mpr ⟨_, _, _, _, rfl, hread⟩, ok_bind]
    rw [if_neg hhigh, if_neg hlow]
    rfl
  | pair hread hhigh hread' hlow =>
    rw [scanEscape, lookup_u]
    dsimp only
    rw [if_pos rfl, scanHexCodeUnit_ok.mpr ⟨_, _, _, _, rfl, hread⟩, ok_bind]
    dsimp only
    rw [if_pos hhigh, consume_two.mpr rfl]
    dsimp only
    rw [scanHexCodeUnit_ok.mpr ⟨_, _, _, _, rfl, hread'⟩, ok_bind]
    dsimp only
    rw [if_pos hlow]
    rfl

theorem escape_length (h : Escape hex s d r) : r.length < s.length := by
  cases h with
  | simple _ => exact Nat.lt_succ_self _
  | unit _ _ _ => simp only [List.length_cons]; omega
  | pair _ _ _ _ => simp only [List.length_cons]; omega

theorem scanChars_sound {turns : Nat} (h : scanChars hex turns s = .ok (name, r)) : Chars hex s name r := by
  induction turns generalizing s name with
  | zero => cases h
  | succ turns ih =>
    cases s with
    | nil => cases h
    | cons c s =>
      rw [scanChars.eq_def] at h
      dsimp only at h
      split at h
      · next hc =>
        cases h
        rw [hc]
        exact .close
      next hquote =>
      split at h
      · next hc =>
        obtain ⟨⟨d, s₁⟩, hd, h⟩ := bind_eq_ok.mp h
        obtain ⟨⟨result, s₂⟩, hresult, h⟩ := bind_eq_ok.mp h
        cases h
        rw [hc]
        exact .escape (scanEscape_sound hd) (ih hresult)
      next hback =>
      split at h
      · cases h
      next hcontrol =>
      split at h
      · next hhigh =>
        split at h
        · cases h
        · next low s' =>
          split at h
          · next hlow =>
            obtain ⟨⟨result, s₂⟩, hresult, h⟩ := bind_eq_ok.mp h
            cases h
            exact .pair hhigh hlow (ih hresult)
          · cases h
      next hhigh =>
      split at h
      · cases h
      · next hlow =>
        obtain ⟨⟨result, s₂⟩, hresult, h⟩ := bind_eq_ok.mp h
        cases h
        exact .plain ⟨Nat.not_lt.mp hcontrol, hquote, hback, hhigh, hlow⟩ (ih hresult)

theorem high_not_quote (h : IsHigh c) : c ≠ unit '"' ∧ c ≠ unit '\\' ∧ ¬ c < 0x20 := by
  obtain ⟨hle, -⟩ := h
  have hquote : unit '"' = 34 := rfl
  have hback : unit '\\' = 92 := rfl
  omega

theorem scanChars_complete (h : Chars hex s name r) {turns : Nat} (hturns : s.length < turns) :
    scanChars hex turns s = .ok (name, r) := by
  induction h generalizing turns with
  | close =>
    obtain ⟨turns, rfl⟩ := Nat.exists_eq_succ_of_ne_zero (Nat.ne_of_gt (Nat.zero_lt_of_lt hturns))
    rw [scanChars.eq_def]
    dsimp only
    rw [if_pos rfl]
    rfl
  | plain hc _ ih =>
    obtain ⟨turns, rfl⟩ := Nat.exists_eq_succ_of_ne_zero (Nat.ne_of_gt (Nat.zero_lt_of_lt hturns))
    obtain ⟨hcontrol, hquote, hback, hhigh, hlow⟩ := hc
    rw [scanChars.eq_def]
    dsimp only
    rw [if_neg hquote, if_neg hback, if_neg (Nat.not_lt.mpr hcontrol), if_neg hhigh, if_neg hlow,
      ih (Nat.lt_of_succ_lt_succ hturns)]
    rfl
  | pair hhigh hlow _ ih =>
    obtain ⟨turns, rfl⟩ := Nat.exists_eq_succ_of_ne_zero (Nat.ne_of_gt (Nat.zero_lt_of_lt hturns))
    obtain ⟨hquote, hback, hcontrol⟩ := high_not_quote hhigh
    rw [scanChars.eq_def]
    dsimp only
    rw [if_neg hquote, if_neg hback, if_neg hcontrol, if_pos hhigh, if_pos hlow,
      ih (Nat.lt_of_succ_lt (Nat.lt_of_succ_lt_succ hturns))]
    rfl
  | escape he _ ih =>
    obtain ⟨turns, rfl⟩ := Nat.exists_eq_succ_of_ne_zero (Nat.ne_of_gt (Nat.zero_lt_of_lt hturns))
    have hlen := escape_length he
    rw [scanChars.eq_def]
    dsimp only
    rw [if_neg (by decide), if_pos rfl, scanEscape_complete he, ok_bind]
    dsimp only
    rw [ih (by rw [List.length_cons] at hturns; omega)]
    rfl

theorem chars_length (h : Chars hex s name r) : r.length < s.length := by
  induction h with
  | close => exact Nat.lt_succ_self _
  | plain _ _ ih => exact Nat.lt_succ_of_lt ih
  | pair _ _ _ ih => exact Nat.lt_succ_of_lt (Nat.lt_succ_of_lt ih)
  | escape he _ ih => exact Nat.lt_succ_of_lt (Nat.lt_trans ih (escape_length he))

theorem scanString_ok : scanString hex s = .ok (name, r) ↔ Str hex s name r := by
  constructor
  · intro h
    obtain ⟨s', hs', h⟩ := bind_eq_ok.mp h
    rw [consume_ok.mp hs']
    exact .mk (scanChars_sound h)
  · rintro ⟨h⟩
    exact bind_of_ok (consume_ok.mpr rfl) (scanChars_complete h (Nat.lt_succ_self _))

/-! ## elements and members -/

theorem ws_length (h : Ws s r) : r.length ≤ s.length := by
  induction h with
  | nil => exact Nat.le_refl _
  | cons _ _ ih => exact Nat.le_succ_of_le ih

theorem str_length (h : Str hex s name r) : r.length < s.length := by
  obtain ⟨h⟩ := h
  exact Nat.lt_succ_of_lt (chars_length h)

theorem stops_cons (hdigit : ¬ IsDigit c) (hdot : ¬ c = unit '.') (hexp : ¬ IsExp c) : Stops (c :: s) :=
  ⟨noHead_cons hdigit, noHead_cons hdot, noHead_cons hexp⟩

theorem stops_ws (h : Ws s r) (hr : Stops r) : Stops s := by
  cases h with
  | nil => exact hr
  | cons hc _ =>
    rcases hc with rfl | rfl | rfl | rfl
    all_goals exact stops_cons (by decide) (by decide) (by decide)

/-- What a value begins with. -/
def IsStart (c : Nat) : Prop :=
  c = unit '\x7b' ∨ c = unit '[' ∨ c = unit '"' ∨ c = unit 't' ∨ c = unit 'f' ∨ c = unit 'n' ∨
    c = unit '-' ∨ IsDigit c

instance : DecidablePred IsStart := fun c =>
  inferInstanceAs (Decidable (c = unit '\x7b' ∨ c = unit '[' ∨ c = unit '"' ∨ c = unit 't' ∨ c = unit 'f' ∨
    c = unit 'n' ∨ c = unit '-' ∨ IsDigit c))

theorem not_ws_of_start (h : IsStart c) : ¬ IsWs c := by
  rintro (rfl | rfl | rfl | rfl)
  all_goals exact absurd h (by decide)

/-- A scanner of the values of `V`, after whitespace. -/
structure Scans (value : Units → Scan Units) (V : Units → Units → Prop) : Prop where
  sound : ∀ {s r}, value s = .ok r → ∃ t, Ws s t ∧ V t r
  complete : ∀ {s t r}, Ws s t → V t r → Stops r → value s = .ok r
  starts : ∀ {t r}, V t r → ∃ c s', t = c :: s' ∧ IsStart c
  shorter : ∀ {t r}, V t r → r.length < t.length
  finishes : ∀ s, value s ≠ .error .unfinished

section
variable {value : Units → Scan Units} {V : Units → Units → Prop} {names : List Units} {turns : Nat}

theorem scanElements_sound (hv : Scans value V) (h : scanElements value turns s = .ok r) :
    Elements V s (unit ']' :: r) := by
  induction turns generalizing s with
  | zero => cases h
  | succ turns ih =>
    obtain ⟨s₂, hvalue, h⟩ := bind_eq_ok.mp h
    obtain ⟨s₁, hw, hread⟩ := hv.sound hvalue
    have hw' := ws_skipWhitespace s₂
    dsimp only at h
    split at h
    · next s₃ hclose =>
      cases h
      rw [tryConsume_iff.mp hclose] at hw'
      exact .last hw hread hw'
    · obtain ⟨s₃, hcomma, h⟩ := bind_eq_ok.mp h
      rw [consume_ok.mp hcomma] at hw'
      exact .cons hw hread hw' (ih h)

theorem scanElements_complete (hv : Scans value V) (h : Elements V s t) (ht : t = unit ']' :: r)
    (hturns : s.length < turns) : scanElements value turns s = .ok r := by
  induction h generalizing turns with
  | last hw hread hw' =>
    subst ht
    obtain ⟨turns, rfl⟩ := Nat.exists_eq_succ_of_ne_zero (Nat.ne_of_gt (Nat.zero_lt_of_lt hturns))
    have hstops := stops_ws hw' (stops_cons (by decide) (by decide) (by decide))
    refine bind_of_ok (hv.complete hw hread hstops) ?_
    rw [skipWhitespace_eq hw' (noHead_cons (by decide))]
    rfl
  | cons hw hread hw' _ ih =>
    obtain ⟨turns, rfl⟩ := Nat.exists_eq_succ_of_ne_zero (Nat.ne_of_gt (Nat.zero_lt_of_lt hturns))
    have hstops := stops_ws hw' (stops_cons (by decide) (by decide) (by decide))
    refine bind_of_ok (hv.complete hw hread hstops) ?_
    rw [skipWhitespace_eq hw' (noHead_cons (by decide))]
    refine bind_of_ok (consume_ok.mpr rfl) (ih ht ?_)
    have h₁ := ws_length hw
    have h₂ := hv.shorter hread
    have h₃ := ws_length hw'
    rw [List.length_cons] at h₃
    omega

theorem elements_length (hv : Scans value V) (h : Elements V s r) : r.length < s.length := by
  induction h with
  | last hw hread hw' =>
    have h₁ := ws_length hw
    have h₂ := hv.shorter hread
    have h₃ := ws_length hw'
    omega
  | cons hw hread hw' _ ih =>
    have h₁ := ws_length hw
    have h₂ := hv.shorter hread
    have h₃ := ws_length hw'
    rw [List.length_cons] at h₃
    omega

/-- The names that were read are new, and differ from each other. -/
def NewNames (names before : List Units) : Prop := names.Nodup ∧ ∀ name ∈ names, name ∉ before

theorem newNames_single {before : List Units} (h : name ∉ before) : NewNames [name] before :=
  ⟨List.nodup_singleton name, fun _ hn => List.mem_singleton.mp hn ▸ h⟩

theorem newNames_cons {before : List Units} :
    NewNames (name :: names) before ↔ name ∉ before ∧ NewNames names (name :: before) := by
  unfold NewNames
  rw [List.nodup_cons, List.forall_mem_cons]
  constructor
  · rintro ⟨⟨hname, hnodup⟩, hbefore, hrest⟩
    refine ⟨hbefore, hnodup, fun other hother hmem => ?_⟩
    rcases List.mem_cons.mp hmem with rfl | hmem
    · exact hname hother
    · exact hrest other hother hmem
  · rintro ⟨hbefore, hnodup, hrest⟩
    exact ⟨⟨fun hname => hrest name hname List.mem_cons_self, hnodup⟩, hbefore,
      fun other hother hmem => hrest other hother (List.mem_cons_of_mem _ hmem)⟩

theorem scanMembers_sound {before : List Units} (hv : Scans value V)
    (h : scanMembers hex value turns before s = .ok r) :
    ∃ names, Members hex V s names (unit '\x7d' :: r) ∧ NewNames names before := by
  induction turns generalizing s before with
  | zero => cases h
  | succ turns ih =>
    have hw := ws_skipWhitespace s
    obtain ⟨⟨name, s₂⟩, hname, h⟩ := bind_eq_ok.mp h
    have hname := scanString_ok.mp hname
    dsimp only at h
    split at h
    · cases h
    next hnew =>
    have hw₂ := ws_skipWhitespace s₂
    obtain ⟨s₃, hcolon, h⟩ := bind_eq_ok.mp h
    rw [consume_ok.mp hcolon] at hw₂
    obtain ⟨s₅, hvalue, h⟩ := bind_eq_ok.mp h
    obtain ⟨s₄, hw₃, hread⟩ := hv.sound hvalue
    have hw₅ := ws_skipWhitespace s₅
    split at h
    · next s₆ hclose =>
      cases h
      rw [tryConsume_iff.mp hclose] at hw₅
      exact ⟨[name], .last (.mk hw hname hw₂ hw₃ hread hw₅), newNames_single hnew⟩
    · obtain ⟨s₆, hcomma, h⟩ := bind_eq_ok.mp h
      rw [consume_ok.mp hcomma] at hw₅
      obtain ⟨names, hmembers, hnames⟩ := ih h
      exact ⟨name :: names, .cons (.mk hw hname hw₂ hw₃ hread hw₅) hmembers, newNames_cons.mpr ⟨hnew, hnames⟩⟩

theorem member_length (hv : Scans value V) (h : Member hex V s name r) : r.length < s.length := by
  obtain ⟨hw, hname, hw₂, hw₃, hread, hw₅⟩ := h
  have h₁ := ws_length hw
  have h₂ := str_length hname
  have h₃ := ws_length hw₂
  have h₄ := ws_length hw₃
  have h₅ := hv.shorter hread
  have h₆ := ws_length hw₅
  rw [List.length_cons] at h₃
  omega

theorem members_length (hv : Scans value V) (h : Members hex V s names r) : r.length < s.length := by
  induction h with
  | last hm => exact member_length hv hm
  | cons hm _ ih =>
    have h₁ := member_length hv hm
    rw [List.length_cons] at h₁
    omega

theorem str_noWs (h : Str hex s name r) : NoHead IsWs s := by
  obtain ⟨h⟩ := h
  exact noHead_cons (by decide)

/-- A turn of the loop of an object. -/
theorem scanMembers_turn {before : List Units} (hv : Scans value V) (hm : Member hex V s name t)
    (hnew : name ∉ before) (ht : NoHead IsWs t) (hstops : Stops t) :
    scanMembers hex value (turns + 1) before s =
      match tryConsume '\x7d' t with
      | some s => .ok s
      | none => consume ',' t >>= scanMembers hex value turns (name :: before) := by
  obtain ⟨hw, hname, hw₂, hw₃, hread, hw₅⟩ := hm
  rw [scanMembers]
  dsimp only
  rw [skipWhitespace_eq hw (str_noWs hname), scanString_ok.mpr hname, ok_bind]
  dsimp only
  rw [if_neg hnew, skipWhitespace_eq hw₂ (noHead_cons (by decide)), consume_ok.mpr rfl, ok_bind,
    hv.complete hw₃ hread (stops_ws hw₅ hstops), ok_bind, skipWhitespace_eq hw₅ ht]
  rfl

theorem scanMembers_complete {before : List Units} (hv : Scans value V) (h : Members hex V s names t)
    (ht : t = unit '\x7d' :: r) (hnames : NewNames names before) (hturns : s.length < turns) :
    scanMembers hex value turns before s = .ok r := by
  induction h generalizing turns before with
  | last hm =>
    subst ht
    obtain ⟨turns, rfl⟩ := Nat.exists_eq_succ_of_ne_zero (Nat.ne_of_gt (Nat.zero_lt_of_lt hturns))
    rw [Nat.succ_eq_add_one, scanMembers_turn hv hm (hnames.2 _ List.mem_cons_self) (noHead_cons (by decide))
      (stops_cons (by decide) (by decide) (by decide))]
    rfl
  | cons hm _ ih =>
    obtain ⟨turns, rfl⟩ := Nat.exists_eq_succ_of_ne_zero (Nat.ne_of_gt (Nat.zero_lt_of_lt hturns))
    obtain ⟨hnew, hnames⟩ := newNames_cons.mp hnames
    rw [Nat.succ_eq_add_one, scanMembers_turn hv hm hnew (noHead_cons (by decide))
      (stops_cons (by decide) (by decide) (by decide))]
    have hlen := member_length hv hm
    rw [List.length_cons] at hlen
    exact ih ht hnames (by omega)

/-! ## every loop ends -/

theorem bind_finishes {α β : Type} {x : Scan α} {f : α → Scan β} (hx : x ≠ .error .unfinished)
    (hf : ∀ a, x = .ok a → f a ≠ .error .unfinished) : (x >>= f) ≠ .error .unfinished := by
  intro h
  rcases bind_eq_error.mp h with h | ⟨a, ha, h⟩
  · exact hx h
  · exact hf a ha h

theorem consume_finishes (expected : Char) (s : Units) : consume expected s ≠ .error .unfinished := by
  unfold consume
  split
  · nofun
  · nofun

theorem scanHexCodeUnit_finishes (s : Units) : scanHexCodeUnit hex s ≠ .error .unfinished := by
  unfold scanHexCodeUnit
  split
  · split
    · nofun
    · nofun
  · nofun

theorem scanEscape_finishes (s : Units) : scanEscape hex s ≠ .error .unfinished := by
  cases s with
  | nil => nofun
  | cons c s =>
    rw [scanEscape]
    split
    · nofun
    split
    · refine bind_finishes (scanHexCodeUnit_finishes s) fun first _ => ?_
      dsimp only
      split
      · split
        · nofun
        · refine bind_finishes (scanHexCodeUnit_finishes _) fun second _ => ?_
          split
          · nofun
          · nofun
      · split
        · nofun
        · nofun
    · nofun

theorem scanChars_finishes (hturns : s.length < turns) : scanChars hex turns s ≠ .error .unfinished := by
  induction turns generalizing s with
  | zero => exact absurd hturns (Nat.not_lt_zero _)
  | succ turns ih =>
    cases s with
    | nil => nofun
    | cons c s =>
      have hs : s.length < turns := Nat.lt_of_succ_lt_succ hturns
      rw [scanChars.eq_def]
      dsimp only
      split
      · nofun
      split
      · refine bind_finishes (scanEscape_finishes s) fun ⟨d, s₁⟩ hd => ?_
        have hlen := escape_length (scanEscape_sound hd)
        exact bind_finishes (ih (Nat.lt_trans hlen hs)) fun _ _ => nofun
      split
      · nofun
      split
      · split
        · nofun
        · split
          · rw [List.length_cons] at hs
            exact bind_finishes (ih (by omega)) fun _ _ => nofun
          · nofun
      split
      · nofun
      · exact bind_finishes (ih hs) fun _ _ => nofun

theorem scanString_finishes (s : Units) : scanString hex s ≠ .error .unfinished :=
  bind_finishes (consume_finishes _ s) fun _ _ => scanChars_finishes (Nat.lt_succ_self _)

theorem scanElements_finishes (hv : Scans value V) (hturns : s.length < turns) :
    scanElements value turns s ≠ .error .unfinished := by
  induction turns generalizing s with
  | zero => exact absurd hturns (Nat.not_lt_zero _)
  | succ turns ih =>
    refine bind_finishes (hv.finishes s) fun s₂ hvalue => ?_
    obtain ⟨s₁, hw, hread⟩ := hv.sound hvalue
    have h₁ := ws_length hw
    have h₂ := hv.shorter hread
    have h₃ := ws_length (ws_skipWhitespace s₂)
    dsimp only
    split
    · nofun
    · refine bind_finishes (consume_finishes _ _) fun s₃ hcomma => ih ?_
      rw [consume_ok.mp hcomma, List.length_cons] at h₃
      omega

theorem scanMembers_finishes {before : List Units} (hv : Scans value V) (hturns : s.length < turns) :
    scanMembers hex value turns before s ≠ .error .unfinished := by
  induction turns generalizing s before with
  | zero => exact absurd hturns (Nat.not_lt_zero _)
  | succ turns ih =>
    have h₁ := ws_length (ws_skipWhitespace s)
    refine bind_finishes (scanString_finishes _) fun ⟨name, s₂⟩ hname => ?_
    have h₂ := str_length (scanString_ok.mp hname)
    dsimp only
    split
    · nofun
    have h₃ := ws_length (ws_skipWhitespace s₂)
    refine bind_finishes (consume_finishes _ _) fun s₃ hcolon => ?_
    rw [consume_ok.mp hcolon, List.length_cons] at h₃
    refine bind_finishes (hv.finishes s₃) fun s₅ hvalue => ?_
    obtain ⟨s₄, hw₃, hread⟩ := hv.sound hvalue
    have h₄ := ws_length hw₃
    have h₅ := hv.shorter hread
    have h₆ := ws_length (ws_skipWhitespace s₅)
    split
    · nofun
    · refine bind_finishes (consume_finishes _ _) fun s₆ hcomma => ih ?_
      rw [consume_ok.mp hcomma, List.length_cons] at h₆
      omega

end

/-! ## values -/

theorem ws_trans (h : Ws s t) (h' : Ws t r) : Ws s r := by
  induction h with
  | nil => exact h'
  | cons hc _ ih => exact .cons hc (ih h')

section
variable {value : Units → Scan Units} {V : Units → Units → Prop} {names : List Units}

theorem elements_ws (hw : Ws s t) (h : Elements V t r) : Elements V s r := by
  cases h with
  | last hw' hread hw₂ => exact .last (ws_trans hw hw') hread hw₂
  | cons hw' hread hw₂ h => exact .cons (ws_trans hw hw') hread hw₂ h

/-- The first element begins where the whitespace ends. -/
theorem elements_skip (hv : Scans value V) (h : Elements V s r) :
    ∃ c s', skipWhitespace s = c :: s' ∧ IsStart c ∧ Elements V (c :: s') r := by
  cases h with
  | last hw hread hw₂ =>
    obtain ⟨c, s', rfl, hc⟩ := hv.starts hread
    exact ⟨c, s', skipWhitespace_eq hw (noHead_cons (not_ws_of_start hc)), hc, .last .nil hread hw₂⟩
  | cons hw hread hw₂ h =>
    obtain ⟨c, s', rfl, hc⟩ := hv.starts hread
    exact ⟨c, s', skipWhitespace_eq hw (noHead_cons (not_ws_of_start hc)), hc, .cons .nil hread hw₂ h⟩

theorem scanArray_sound (hv : Scans value V) (h : scanArray value s = .ok r) : ValueOver hex V s r := by
  obtain ⟨s', hopen, h⟩ := bind_eq_ok.mp h
  rw [consume_ok.mp hopen]
  have hw := ws_skipWhitespace s'
  dsimp only at h
  split at h
  · next s'' hclose =>
    cases h
    rw [tryConsume_iff.mp hclose] at hw
    exact .emptyArray hw
  · exact .array (elements_ws hw (scanElements_sound hv h))

theorem scanArray_empty (h : Ws s (unit ']' :: r)) : scanArray value (unit '[' :: s) = .ok r := by
  refine bind_of_ok (consume_ok.mpr rfl) ?_
  rw [skipWhitespace_eq h (noHead_cons (by decide))]
  rfl

theorem scanArray_complete (hv : Scans value V) (h : Elements V s (unit ']' :: r)) :
    scanArray value (unit '[' :: s) = .ok r := by
  obtain ⟨c, s', hskip, hc, helements⟩ := elements_skip hv h
  have hclose : ¬ c = unit ']' := by
    rintro rfl
    exact absurd hc (by decide)
  refine bind_of_ok (consume_ok.mpr rfl) ?_
  dsimp only
  rw [hskip, tryConsume_none (noHead_cons hclose)]
  exact scanElements_complete hv helements rfl (Nat.lt_succ_self _)

theorem member_ws (hw : Ws s t) (h : Member hex V t name r) : Member hex V s name r := by
  obtain ⟨hw', hname, hw₂, hw₃, hread, hw₅⟩ := h
  exact .mk (ws_trans hw hw') hname hw₂ hw₃ hread hw₅

theorem members_ws (hw : Ws s t) (h : Members hex V t names r) : Members hex V s names r := by
  cases h with
  | last hm => exact .last (member_ws hw hm)
  | cons hm h => exact .cons (member_ws hw hm) h

theorem member_skip (h : Member hex V s name r) :
    ∃ s', skipWhitespace s = unit '"' :: s' ∧ Member hex V (unit '"' :: s') name r := by
  obtain ⟨hw, hname, hw₂, hw₃, hread, hw₅⟩ := h
  have hskip := skipWhitespace_eq hw (str_noWs hname)
  obtain ⟨hchars⟩ := hname
  exact ⟨_, hskip, .mk .nil (.mk hchars) hw₂ hw₃ hread hw₅⟩

theorem members_skip (h : Members hex V s names r) :
    ∃ s', skipWhitespace s = unit '"' :: s' ∧ Members hex V (unit '"' :: s') names r := by
  cases h with
  | last hm =>
    obtain ⟨s', hskip, hm⟩ := member_skip hm
    exact ⟨s', hskip, .last hm⟩
  | cons hm h =>
    obtain ⟨s', hskip, hm⟩ := member_skip hm
    exact ⟨s', hskip, .cons hm h⟩

theorem scanObject_sound (hv : Scans value V) (h : scanObject hex value s = .ok r) :
    ValueOver hex V s r := by
  obtain ⟨s', hopen, h⟩ := bind_eq_ok.mp h
  rw [consume_ok.mp hopen]
  have hw := ws_skipWhitespace s'
  dsimp only at h
  split at h
  · next s'' hclose =>
    cases h
    rw [tryConsume_iff.mp hclose] at hw
    exact .emptyObject hw
  · obtain ⟨names, hmembers, hnames⟩ := scanMembers_sound hv h
    exact .object (members_ws hw hmembers) hnames.1

theorem scanObject_empty (h : Ws s (unit '\x7d' :: r)) : scanObject hex value (unit '\x7b' :: s) = .ok r := by
  refine bind_of_ok (consume_ok.mpr rfl) ?_
  rw [skipWhitespace_eq h (noHead_cons (by decide))]
  rfl

theorem scanObject_complete (hv : Scans value V) (h : Members hex V s names (unit '\x7d' :: r))
    (hnames : names.Nodup) : scanObject hex value (unit '\x7b' :: s) = .ok r := by
  obtain ⟨s', hskip, hmembers⟩ := members_skip h
  refine bind_of_ok (consume_ok.mpr rfl) ?_
  dsimp only
  rw [hskip, tryConsume_none (noHead_cons (by decide))]
  exact scanMembers_complete hv hmembers rfl ⟨hnames, fun _ _ => List.not_mem_nil⟩ (Nat.lt_succ_self _)

theorem scanArray_finishes (hv : Scans value V) (s : Units) : scanArray value s ≠ .error .unfinished := by
  refine bind_finishes (consume_finishes _ s) fun s' _ => ?_
  dsimp only
  split
  · nofun
  · exact scanElements_finishes hv (Nat.lt_succ_self _)

theorem scanObject_finishes (hv : Scans value V) (s : Units) :
    scanObject hex value s ≠ .error .unfinished := by
  refine bind_finishes (consume_finishes _ s) fun s' _ => ?_
  dsimp only
  split
  · nofun
  · exact scanMembers_finishes hv (Nat.lt_succ_self _)

theorem scanLiteral_ok {literal : String} :
    scanLiteral literal s = .ok r ↔ s = literal.toList.map unit ++ r := by
  unfold scanLiteral
  split
  · next h =>
    obtain ⟨t, rfl⟩ := h
    rw [List.drop_left' (List.length_map _), Except.ok.injEq, List.append_cancel_left_eq]
  · next h =>
    refine ⟨nofun, fun heq => absurd ?_ h⟩
    rw [heq]
    exact List.prefix_append _ _

theorem scanLiteral_finishes (literal : String) (s : Units) : scanLiteral literal s ≠ .error .unfinished := by
  unfold scanLiteral
  split
  · nofun
  · nofun

theorem scanNumber_finishes (s : Units) : scanNumber s ≠ .error .unfinished := by
  unfold scanNumber
  split
  · nofun
  · nofun

theorem digits_length (h : Digits s r) : r.length < s.length := by
  induction h with
  | one _ => exact Nat.lt_succ_self _
  | cons _ _ ih => exact Nat.lt_succ_of_lt ih

theorem magnitude_length (h : Magnitude s r) : r.length < s.length := by
  obtain ⟨hint, hfrac, hexp⟩ := h
  have h₁ : ∀ {s r}, IntPart s r → r.length < s.length := by
    intro s r h
    cases h with
    | zero => exact Nat.lt_succ_self _
    | digit _ _ => exact Nat.lt_succ_self _
    | digits _ _ h => exact Nat.lt_succ_of_lt (digits_length h)
  have h₂ : ∀ {s r}, Frac s r → r.length ≤ s.length := by
    intro s r h
    cases h with
    | none => exact Nat.le_refl _
    | some h => exact Nat.le_succ_of_le (Nat.le_of_lt (digits_length h))
  have h₃ : ∀ {s r}, Exponent s r → r.length ≤ s.length := by
    intro s r h
    cases h with
    | none => exact Nat.le_refl _
    | plain _ h => exact Nat.le_succ_of_le (Nat.le_of_lt (digits_length h))
    | signed _ _ h => exact Nat.le_succ_of_le (Nat.le_succ_of_le (Nat.le_of_lt (digits_length h)))
  exact Nat.lt_of_le_of_lt (h₃ hexp) (Nat.lt_of_le_of_lt (h₂ hfrac) (h₁ hint))

theorem number_length (h : Number s r) : r.length < s.length := by
  cases h with
  | plain h => exact magnitude_length h
  | minus h => exact Nat.lt_succ_of_lt (magnitude_length h)

theorem valueOver_starts (h : ValueOver hex V s r) : ∃ c s', s = c :: s' ∧ IsStart c := by
  cases h with
  | literal hl =>
    simp only [literals, List.mem_cons, List.not_mem_nil, or_false] at hl
    rcases hl with rfl | rfl | rfl
    all_goals exact ⟨_, _, rfl, by decide⟩
  | number h =>
    obtain ⟨c, s', rfl, hc⟩ := number_head h
    refine ⟨c, s', rfl, ?_⟩
    unfold IsStart
    rcases hc with hc | hc
    · simp only [hc, true_or, or_true]
    · simp only [hc, or_true]
  | string h =>
    obtain ⟨h⟩ := h
    exact ⟨_, _, rfl, by decide⟩
  | emptyArray _ => exact ⟨_, _, rfl, by decide⟩
  | array _ => exact ⟨_, _, rfl, by decide⟩
  | emptyObject _ => exact ⟨_, _, rfl, by decide⟩
  | object _ _ => exact ⟨_, _, rfl, by decide⟩

theorem valueOver_length (hv : Scans value V) (h : ValueOver hex V s r) : r.length < s.length := by
  cases h with
  | literal hl =>
    have hpos : ∀ l ∈ literals, 0 < l.length := by decide
    rw [List.length_append]
    exact Nat.lt_add_of_pos_left (hpos _ hl)
  | number h => exact number_length h
  | string h => exact str_length h
  | emptyArray h => exact Nat.lt_of_lt_of_le (Nat.lt_succ_self _) (Nat.le_succ_of_le (ws_length h))
  | array h => exact Nat.lt_succ_of_lt (Nat.lt_of_succ_lt (elements_length hv h))
  | emptyObject h => exact Nat.lt_of_lt_of_le (Nat.lt_succ_self _) (Nat.le_succ_of_le (ws_length h))
  | object h _ => exact Nat.lt_succ_of_lt (Nat.lt_of_succ_lt (members_length hv h))

end

/-- The dispatch of `scanValue`, where a value begins. -/
theorem scanValue_cons {levels : Nat} (h : skipWhitespace s = c :: t) :
    scanValue hex (levels + 1) s =
      if c = unit '\x7b' then scanObject hex (scanValue hex levels) (c :: t)
      else if c = unit '[' then scanArray (scanValue hex levels) (c :: t)
      else if c = unit '"' then (scanString hex (c :: t)).map Prod.snd
      else if c = unit 't' then scanLiteral "true" (c :: t)
      else if c = unit 'f' then scanLiteral "false" (c :: t)
      else if c = unit 'n' then scanLiteral "null" (c :: t)
      else if c = unit '-' ∨ IsDigit c then scanNumber (c :: t)
      else malformed := by
  rw [scanValue, h]

theorem literal_mem {literal : String} (h : literal.toList.map unit ∈ literals) {V : Units → Units → Prop}
    (hs : scanLiteral literal s = .ok r) : ValueOver hex V s r := by
  rw [scanLiteral_ok.mp hs]
  exact .literal h

theorem scanValue_sound {levels : Nat} (hv : Scans (scanValue hex levels) (Value hex levels))
    (h : scanValue hex (levels + 1) s = .ok r) : ∃ t, Ws s t ∧ Value hex (levels + 1) t r := by
  refine ⟨skipWhitespace s, ws_skipWhitespace s, ?_⟩
  show ValueOver hex (Value hex levels) _ r
  cases hskip : skipWhitespace s with
  | nil =>
    rw [scanValue, hskip] at h
    cases h
  | cons c t =>
    rw [scanValue_cons hskip] at h
    split at h
    · exact scanObject_sound hv h
    split at h
    · exact scanArray_sound hv h
    split at h
    · obtain ⟨⟨name, r'⟩, hstring, rfl⟩ := map_eq_ok.mp h
      exact .string (scanString_ok.mp hstring)
    split at h
    · exact literal_mem (by decide) h
    split at h
    · exact literal_mem (by decide) h
    split at h
    · exact literal_mem (by decide) h
    split at h
    · exact .number (scanNumber_sound h)
    · cases h

theorem not_start_of_number (h : c = unit '-' ∨ IsDigit c) : c ≠ unit '\x7b' ∧ c ≠ unit '[' ∧ c ≠ unit '"' ∧
    c ≠ unit 't' ∧ c ≠ unit 'f' ∧ c ≠ unit 'n' := by
  refine ⟨?_, ?_, ?_, ?_, ?_, ?_⟩
  all_goals
    rintro rfl
    exact absurd h (by decide)

theorem scanValue_complete {levels : Nat} (hv : Scans (scanValue hex levels) (Value hex levels))
    (hw : Ws s t) (h : Value hex (levels + 1) t r) (hr : Stops r) : scanValue hex (levels + 1) s = .ok r := by
  have h : ValueOver hex (Value hex levels) t r := h
  obtain ⟨c, s', rfl, hc⟩ := valueOver_starts h
  rw [scanValue_cons (skipWhitespace_eq hw (noHead_cons (not_ws_of_start hc)))]
  generalize heq : c :: s' = t at h
  cases h with
  | literal hl =>
    simp only [literals, List.mem_cons, List.not_mem_nil, or_false] at hl
    rcases hl with rfl | rfl | rfl
    · have hc : c = unit 't' := (List.cons.inj heq).1
      rw [hc, if_neg (by decide), if_neg (by decide), if_neg (by decide), if_pos rfl]
      exact scanLiteral_ok.mpr rfl
    · have hc : c = unit 'f' := (List.cons.inj heq).1
      rw [hc, if_neg (by decide), if_neg (by decide), if_neg (by decide), if_neg (by decide), if_pos rfl]
      exact scanLiteral_ok.mpr rfl
    · have hc : c = unit 'n' := (List.cons.inj heq).1
      rw [hc, if_neg (by decide), if_neg (by decide), if_neg (by decide), if_neg (by decide),
        if_neg (by decide), if_pos rfl]
      exact scanLiteral_ok.mpr rfl
  | number h =>
    obtain ⟨d, t', rfl, hd⟩ := number_head h
    obtain ⟨rfl, rfl⟩ := List.cons.inj heq
    obtain ⟨h₁, h₂, h₃, h₄, h₅, h₆⟩ := not_start_of_number hd
    rw [if_neg h₁, if_neg h₂, if_neg h₃, if_neg h₄, if_neg h₅, if_neg h₆, if_pos hd]
    exact scanNumber_complete h hr
  | string h =>
    rw [scanString_ok.mpr h]
    obtain ⟨-⟩ := h
    obtain ⟨rfl, rfl⟩ := List.cons.inj heq
    rfl
  | emptyArray h =>
    obtain ⟨rfl, rfl⟩ := List.cons.inj heq
    exact scanArray_empty h
  | array h =>
    obtain ⟨rfl, rfl⟩ := List.cons.inj heq
    exact scanArray_complete hv h
  | emptyObject h =>
    obtain ⟨rfl, rfl⟩ := List.cons.inj heq
    exact scanObject_empty h
  | object h hnames =>
    obtain ⟨rfl, rfl⟩ := List.cons.inj heq
    exact scanObject_complete hv h hnames

theorem scanValue_finishes {levels : Nat} (hv : Scans (scanValue hex levels) (Value hex levels)) (s : Units) :
    scanValue hex (levels + 1) s ≠ .error .unfinished := by
  cases hskip : skipWhitespace s with
  | nil =>
    rw [scanValue, hskip]
    nofun
  | cons c t =>
    rw [scanValue_cons hskip]
    split
    · exact scanObject_finishes hv _
    split
    · exact scanArray_finishes hv _
    split
    · intro h
      cases hstring : scanString hex (c :: t) with
      | ok a =>
        rw [hstring] at h
        cases h
      | error fault =>
        rw [hstring] at h
        cases h
        exact scanString_finishes _ hstring
    split
    · exact scanLiteral_finishes _ _
    split
    · exact scanLiteral_finishes _ _
    split
    · exact scanLiteral_finishes _ _
    split
    · exact scanNumber_finishes _
    · nofun

/-- **The values are scanned**, as many levels deep as are left. -/
theorem scans_value (hex : Units → Option Nat) (levels : Nat) :
    Scans (scanValue hex levels) (Value hex levels) := by
  induction levels with
  | zero => exact ⟨nofun, nofun, nofun, nofun, fun s => nofun⟩
  | succ levels ih =>
    exact ⟨scanValue_sound ih, scanValue_complete ih, valueOver_starts, valueOver_length ih,
      scanValue_finishes ih⟩

/-! ## documents -/

theorem scanDocument_ok : scanDocument hex s = .ok r ↔ r = [] ∧ Document hex (maxNesting + 1) s := by
  have hv := scans_value hex (maxNesting + 1)
  constructor
  · intro h
    obtain ⟨s₂, hvalue, h⟩ := bind_eq_ok.mp h
    obtain ⟨s₁, hw, hread⟩ := hv.sound hvalue
    have hw₂ := ws_skipWhitespace s₂
    dsimp only at h
    split at h
    · cases h
    · next hend =>
      cases h
      have hend := not_not.mp hend
      rw [hend] at hw₂
      exact ⟨hend, s₁, s₂, ws_trans (ws_skipWhitespace s) hw, hread, hw₂⟩
  · rintro ⟨rfl, s₁, s₂, hw, hread, hw₂⟩
    obtain ⟨c, s', rfl, hc⟩ := hv.starts hread
    have hskip := skipWhitespace_eq hw (noHead_cons (not_ws_of_start hc))
    have hstops := stops_ws hw₂ ⟨nofun, nofun, nofun⟩
    refine bind_of_ok (hv.complete (hskip ▸ .nil) hread hstops) ?_
    rw [skipWhitespace_eq hw₂ nofun]
    rfl

theorem scanDocument_finishes (hex : Units → Option Nat) (s : Units) :
    scanDocument hex s ≠ .error .unfinished := by
  refine bind_finishes ((scans_value hex (maxNesting + 1)).finishes _) fun s' _ => ?_
  dsimp only
  split
  · nofun
  · nofun

end

end AutPlay.Intents
