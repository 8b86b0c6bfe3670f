import Mathlib.Data.String.Basic

/-!
# Identifiers

A `Uuid` is its canonical text, 36 characters of lower case hexadecimal and hyphens: that text is
what the wire carries, what `str` prints and what both sides sort by.

* `Uuid.parse`         what Python's `UUID(text)` reads: canonical text, and the documented
                       spellings without hyphens, in braces, in upper case or as a URN;
* `Uuid.parse_text`    the canonical text is read back as itself.
-/

set_option linter.unusedSectionVars false

namespace AutPlay.Sync

def isHexLower (c : Char) : Bool := ('0' ≤ c && c ≤ '9') || ('a' ≤ c && c ≤ 'f')

/-- A character fits position `i` of a canonical UUID text. -/
def fitsUuidAt (i : Nat) (c : Char) : Bool :=
  if i = 8 ∨ i = 13 ∨ i = 18 ∨ i = 23 then c == '-' else isHexLower c

def fitsUuidFrom : Nat → List Char → Bool
  | i, [] => i == 36
  | i, c :: cs => i < 36 && fitsUuidAt i c && fitsUuidFrom (i + 1) cs

def isCanonicalUuid (s : String) : Bool := fitsUuidFrom 0 s.toList

structure Uuid where
  text : String
  canonical : isCanonicalUuid text = true
  deriving DecidableEq

namespace Uuid

theorem text_injective : Function.Injective Uuid.text := by
  intro a b h
  cases a
  cases b
  cases h
  rfl

/-- `str` order, the order of the 128-bit values. -/
instance : LinearOrder Uuid := LinearOrder.lift' Uuid.text text_injective

/-- Hyphens put back into 32 hexadecimal digits. -/
def hyphenate (cs : List Char) : List Char :=
  cs.take 8 ++ '-' :: (cs.drop 8).take 4 ++ '-' :: (cs.drop 12).take 4 ++
    '-' :: (cs.drop 16).take 4 ++ '-' :: cs.drop 20

def isBrace (c : Char) : Bool := c.val == 123 || c.val == 125

/-- The spellings `UUID(text)` takes besides the canonical one. -/
def normalise (s : String) : String :=
  let hex := (s.replace "urn:" "").replace "uuid:" ""
  let bare := (hex.toList.dropWhile isBrace).reverse.dropWhile isBrace
  String.ofList (hyphenate ((bare.reverse.filter (fun c => c != '-')).map Char.toLower))

/-- `UUID(text)`; `none` is its `ValueError`. -/
def parse (s : String) : Option Uuid :=
  if h : isCanonicalUuid s = true then some ⟨s, h⟩
  else if h : isCanonicalUuid (normalise s) = true then some ⟨normalise s, h⟩
  else none

@[simp] theorem parse_text (u : Uuid) : parse u.text = some u := by
  unfold parse
  rw [dif_pos u.canonical]

theorem fitsUuidFrom_mem {i : Nat} {cs : List Char} (h : fitsUuidFrom i cs = true) {c : Char}
    (hc : c ∈ cs) : c = '-' ∨ isHexLower c = true := by
  induction cs generalizing i with
  | nil => exact absurd hc List.not_mem_nil
  | cons d cs ih =>
    unfold fitsUuidFrom at h
    rw [Bool.and_eq_true, Bool.and_eq_true] at h
    rcases List.mem_cons.mp hc with rfl | hc
    · have hd := h.1.2
      unfold fitsUuidAt at hd
      split at hd
      · exact Or.inl (eq_of_beq hd)
      · exact Or.inr hd
    · exact ih h.2 hc

/-- No other characters stand in the text. -/
theorem not_mem_text (u : Uuid) {c : Char} (hc : c ≠ '-') (hx : isHexLower c = false) :
    c ∉ u.text.toList := by
  intro hm
  rcases fitsUuidFrom_mem u.canonical hm with h | h
  · exact hc h
  · rw [hx] at h
    cases h

theorem colon_not_mem_text (u : Uuid) : ':' ∉ u.text.toList := u.not_mem_text (by decide) (by decide)

end Uuid

end AutPlay.Sync
