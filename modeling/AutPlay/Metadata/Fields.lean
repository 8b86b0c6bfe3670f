import AutPlay.Jobs.Document
import AutPlay.Lib.Dict
import AutPlay.Sync.Uuid
import Mathlib.Data.List.DropRight

/-!
# Descriptive fields

What a track's description may hold, as the server checks it.

* `validateValue`, `validateFields`   a patch of fields, or what is wrong with it;
* `validateValue_raw`                 a value that was checked passes again as it is;
* `validateFields_again`              so a stored description is read back unchanged.
-/

set_option linter.unusedSectionVars false

namespace AutPlay.Metadata
open Jobs (JsonValue)
open Sync (Uuid)

/-! ## the fields -/

def textFields : List String := ["title", "artist", "album", "album_artist", "label", "country"]

def dateFields : List String := ["release_date", "original_release_date", "recording_date"]

def idFields : List String := ["mb_recording_id", "mb_release_id", "mb_release_group_id"]

def numberFields : List String := ["track_number", "disc_number"]

def editableFields : List String := textFields ++ dateFields ++ numberFields ++ ["genres"]

def allFields : List String := editableFields ++ idFields

inductive MetadataValue
  | null
  | number (n : Int)
  | genres (items : List String)
  | text (s : String)
  deriving DecidableEq

/-- The value as JSON. -/
def MetadataValue.raw : MetadataValue → JsonValue
  | .null => .null
  | .number n => .int n
  | .genres items => .list (items.map .str)
  | .text s => .str s

/-- A `ValueError`; the texts of `date` and `UUID` themselves are left out. -/
inductive ValueError
  | named (code : String)
  | date
  | uuid
  deriving DecidableEq

/-! ## text -/

/-- `str.isspace` of a character. -/
def isSpace (c : Char) : Bool :=
  let n := c.toNat
  (9 ≤ n && n ≤ 13) || (28 ≤ n && n ≤ 32) || n = 133 || n = 160 || n = 5760 ||
    (8192 ≤ n && n ≤ 8202) || n = 8232 || n = 8233 || n = 8239 || n = 8287 || n = 12288

/-- `str.strip`. -/
def strip (s : String) : String := String.ofList ((s.toList.dropWhile isSpace).rdropWhile isSpace)

def daysInMonth (year month : Nat) : Nat :=
  if month = 2 then
    if year % 4 = 0 ∧ (year % 100 ≠ 0 ∨ year % 400 = 0) then 29 else 28
  else if month ∈ [4, 6, 9, 11] then 30
  else 31

/-- `int` of ASCII digits; `none` where another character stands. -/
def digits? (cs : List Char) : Option Nat :=
  if cs.all Char.isDigit then
    some (cs.foldl (fun n c => 10 * n + (c.toNat - '0'.toNat)) 0)
  else none

/-- The groups of `[0-9]{4}(?:-[0-9]{2}(?:-[0-9]{2})?)?`, a missing one being 1. -/
def dateParts : List Char → Option (Nat × Nat × Nat)
  | [a, b, c, d] => do
    let year ← digits? [a, b, c, d]
    some (year, 1, 1)
  | [a, b, c, d, '-', e, f] => do
    let year ← digits? [a, b, c, d]
    let month ← digits? [e, f]
    some (year, month, 1)
  | [a, b, c, d, '-', e, f, '-', g, h] => do
    let year ← digits? [a, b, c, d]
    let month ← digits? [e, f]
    let day ← digits? [g, h]
    some (year, month, day)
  | _ => none

/-- **`partial_date`**. -/
def partialDate (value : String) : Except ValueError String :=
  match dateParts value.toList with
  | none => .error (.named "metadata_date_invalid")
  | some (year, month, day) =>
    if 1 ≤ year ∧ 1 ≤ month ∧ month ≤ 12 ∧ 1 ≤ day ∧ day ≤ daysInMonth year month then .ok value
    else .error .date

/-! ## one value -/

def numberValue : JsonValue → Except ValueError MetadataValue
  | .int n =>
    if 1 ≤ n ∧ n ≤ 9999 then .ok (.number n) else .error (.named "metadata_number_invalid")
  | _ => .error (.named "metadata_number_invalid")

/-- One turn of the loop over the genres. -/
def addGenre (genres : List String) : JsonValue → Except ValueError (List String)
  | .str item =>
    let cleaned := strip item
    if 1 ≤ cleaned.toList.length ∧ cleaned.toList.length ≤ 100 then
      .ok (if cleaned ∈ genres then genres else genres ++ [cleaned])
    else .error (.named "metadata_genres_invalid")
  | _ => .error (.named "metadata_genres_invalid")

def genresValue : JsonValue → Except ValueError MetadataValue
  | .list items =>
    if 12 < items.length then .error (.named "metadata_genres_invalid")
    else (items.foldlM addGenre []).map .genres
  | _ => .error (.named "metadata_genres_invalid")

/-- A date or an identifier in a text field of its own kind. -/
def refineText (key cleaned : String) : Except ValueError String :=
  if key ∈ dateFields then partialDate cleaned
  else if key ∈ idFields then
    match Uuid.parse cleaned with
    | some id => .ok id.text
    | none => .error .uuid
  else .ok cleaned

def textValue (key : String) : JsonValue → Except ValueError MetadataValue
  | .str value =>
    let cleaned := strip value
    if 1 ≤ cleaned.toList.length ∧ cleaned.toList.length ≤ 500 then
      if cleaned.toList.any fun c => c.toNat < 32 then .error (.named "metadata_text_invalid")
      else (refineText key cleaned).map .text
    else .error (.named "metadata_value_invalid")
  | _ => .error (.named "metadata_value_invalid")

/-- The body of `validate_fields`' loop. -/
def validateValue (key : String) : JsonValue → Except ValueError MetadataValue
  | .null => .ok .null
  | value =>
    if key ∈ numberFields then numberValue value
    else if key = "genres" then genresValue value
    else textValue key value

def allowed (manual : Bool) : List String := if manual then editableFields else allFields

/-- **`validate_fields`**. -/
def validateFields (raw : Dict String JsonValue) (manual : Bool) :
    Except ValueError (Dict String MetadataValue) :=
  if raw.items.any fun e => e.1 ∉ allowed manual then .error (.named "metadata_field_unknown")
  else raw.mapM validateValue

/-! ## what was checked passes again -/

theorem dropWhile_initial {p : Char → Bool} {cs ds : List Char} (h : cs <+: ds)
    (hd : ds.dropWhile p = ds) : cs.dropWhile p = cs := by
  cases cs with
  | nil => rfl
  | cons c cs =>
    obtain ⟨rest, rfl⟩ := h
    have hc : ¬ p c = true := by
      intro hp
      rw [List.cons_append, List.dropWhile_cons_of_pos hp] at hd
      have hlen := congrArg List.length hd
      have hle := (List.dropWhile_sublist (l := cs ++ rest) p).length_le
      rw [List.length_cons] at hlen
      omega
    exact List.dropWhile_cons_of_neg hc

@[simp] theorem strip_strip (s : String) : strip (strip s) = strip s := by
  unfold strip
  rw [String.toList_ofList]
  have hdrop : (s.toList.dropWhile isSpace).dropWhile isSpace = s.toList.dropWhile isSpace :=
    List.dropWhile_idempotent isSpace _
  rw [dropWhile_initial (List.rdropWhile_prefix isSpace _) hdrop, List.rdropWhile_idempotent]

theorem strip_eq_self {s : String} (h : ∀ c ∈ s.toList, isSpace c = false) : strip s = s := by
  have hdrop : s.toList.dropWhile isSpace = s.toList := by
    cases hs : s.toList with
    | nil => rfl
    | cons c cs =>
      apply List.dropWhile_cons_of_neg
      rw [h c (by rw [hs]; exact List.mem_cons_self)]
      exact Bool.false_ne_true
  have hrdrop : s.toList.rdropWhile isSpace = s.toList := by
    rw [List.rdropWhile_eq_self_iff]
    intro hl
    rw [h _ (List.getLast_mem hl)]
    exact Bool.false_ne_true
  unfold strip
  rw [hdrop, hrdrop, String.ofList_toList]

/-! ### identifiers -/

theorem length_of_fitsUuidFrom {i : Nat} {cs : List Char} (h : Sync.fitsUuidFrom i cs = true) :
    i + cs.length = 36 := by
  induction cs generalizing i with
  | nil => simpa [Sync.fitsUuidFrom] using h
  | cons c cs ih =>
    unfold Sync.fitsUuidFrom at h
    rw [Bool.and_eq_true] at h
    have hlen := ih h.2
    rw [List.length_cons]
    omega

theorem uuid_length (u : Uuid) : u.text.toList.length = 36 := by
  have h := length_of_fitsUuidFrom u.canonical
  omega

theorem uuid_char (u : Uuid) {c : Char} (hc : c ∈ u.text.toList) :
    45 ≤ c.toNat ∧ c.toNat ≤ 102 := by
  rcases Sync.Uuid.fitsUuidFrom_mem u.canonical hc with rfl | h
  · decide
  · unfold Sync.isHexLower at h
    simp only [Bool.or_eq_true, Bool.and_eq_true, decide_eq_true_eq, Char.le_def] at h
    have h0 : '0'.val.toNat = 48 := rfl
    have h9 : '9'.val.toNat = 57 := rfl
    have ha : 'a'.val.toNat = 97 := rfl
    have hf : 'f'.val.toNat = 102 := rfl
    simp only [UInt32.le_iff_toNat_le, h0, h9, ha, hf] at h
    show 45 ≤ c.val.toNat ∧ c.val.toNat ≤ 102
    omega

theorem uuid_not_space (u : Uuid) {c : Char} (hc : c ∈ u.text.toList) : isSpace c = false := by
  have h := uuid_char u hc
  unfold isSpace
  dsimp only
  simp only [Bool.or_eq_false_iff, Bool.and_eq_false_iff, decide_eq_false_iff_not]
  omega

/-! ### the values -/

/-- A genre that was kept. -/
structure CleanGenre (genre : String) : Prop where
  stripped : strip genre = genre
  short : 1 ≤ genre.toList.length ∧ genre.toList.length ≤ 100

theorem addGenre_spec {genres genres' : List String} {item : JsonValue}
    (h : addGenre genres item = .ok genres') (hclean : ∀ g ∈ genres, CleanGenre g)
    (hnodup : genres.Nodup) :
    (∀ g ∈ genres', CleanGenre g) ∧ genres'.Nodup ∧ genres'.length ≤ genres.length + 1 := by
  unfold addGenre at h
  split at h
  · rename_i text
    dsimp only at h
    split at h
    · rename_i hshort
      cases h
      split
      · exact ⟨hclean, hnodup, by omega⟩
      · rename_i hnew
        refine ⟨?_, ?_, ?_⟩
        · intro g hg
          rcases List.mem_append.mp hg with hg | hg
          · exact hclean g hg
          · rw [List.mem_singleton.mp hg]
            exact ⟨strip_strip text, hshort⟩
        · rw [List.nodup_append]
          refine ⟨hnodup, List.nodup_singleton _, ?_⟩
          intro a ha b hb hab
          rw [List.mem_singleton.mp hb] at hab
          rw [hab] at ha
          exact hnew ha
        · rw [List.length_append, List.length_singleton]
    · cases h
  · cases h

theorem foldlM_addGenre_spec {items : List JsonValue} {genres genres' : List String}
    (h : items.foldlM addGenre genres = .ok genres') (hclean : ∀ g ∈ genres, CleanGenre g)
    (hnodup : genres.Nodup) :
    (∀ g ∈ genres', CleanGenre g) ∧ genres'.Nodup ∧
      genres'.length ≤ genres.length + items.length := by
  induction items generalizing genres with
  | nil =>
    cases h
    exact ⟨hclean, hnodup, by omega⟩
  | cons item items ih =>
    rw [List.foldlM_cons] at h
    obtain ⟨next, hnext, h⟩ := Result.bind_eq_ok.mp h
    obtain ⟨hclean', hnodup', hlen'⟩ := addGenre_spec hnext hclean hnodup
    obtain ⟨hc, hn, hl⟩ := ih h hclean' hnodup'
    refine ⟨hc, hn, ?_⟩
    rw [List.length_cons]
    omega

theorem foldlM_addGenre_clean {genres more : List String} (hclean : ∀ g ∈ more, CleanGenre g)
    (hnodup : (genres ++ more).Nodup) :
    (more.map JsonValue.str).foldlM addGenre genres = .ok (genres ++ more) := by
  induction more generalizing genres with
  | nil =>
    rw [List.append_nil]
    rfl
  | cons genre more ih =>
    have hg := hclean genre List.mem_cons_self
    have hadd : addGenre genres (.str genre) = .ok (genres ++ [genre]) := by
      have hnew : genre ∉ genres := by
        intro hin
        rw [List.nodup_append] at hnodup
        exact hnodup.2.2 genre hin genre List.mem_cons_self rfl
      unfold addGenre
      dsimp only
      rw [hg.stripped, if_pos hg.short, if_neg hnew]
    rw [List.append_cons] at hnodup ⊢
    rw [List.map_cons, List.foldlM_cons, hadd]
    exact ih (fun g hm => hclean g (List.mem_cons_of_mem _ hm)) hnodup

theorem genresValue_raw {raw : JsonValue} {v : MetadataValue} (h : genresValue raw = .ok v) :
    ∃ genres, v = .genres genres ∧ genresValue v.raw = .ok v := by
  unfold genresValue at h
  split at h
  · split at h
    · cases h
    · rename_i items hfew
      cases hf : items.foldlM addGenre [] with
      | error e =>
        rw [hf] at h
        cases h
      | ok genres =>
        rw [hf] at h
        cases h
        obtain ⟨hclean, hnodup, hlen⟩ :=
          foldlM_addGenre_spec hf (fun g hg => absurd hg List.not_mem_nil) List.nodup_nil
        refine ⟨genres, rfl, ?_⟩
        have hagain := @foldlM_addGenre_clean [] genres hclean hnodup
        show (if 12 < (genres.map JsonValue.str).length then _ else _) = _
        rw [List.length_map, if_neg (by simp at hlen; omega), hagain]
        rfl
  · cases h

theorem numberValue_raw {raw : JsonValue} {v : MetadataValue} (h : numberValue raw = .ok v) :
    ∃ n, v = .number n ∧ numberValue v.raw = .ok v := by
  unfold numberValue at h
  split at h
  · split at h
    · rename_i n hn
      cases h
      exact ⟨n, rfl, if_pos hn⟩
    · cases h
  · cases h

theorem partialDate_eq_ok {value date : String} (h : partialDate value = .ok date) :
    date = value := by
  unfold partialDate at h
  split at h
  · cases h
  · split at h
    · cases h
      rfl
    · cases h

/-- A text that was stripped and refined is one that passes as it is. -/
theorem refineText_again {key cleaned text : String} (h : refineText key cleaned = .ok text)
    (hstrip : strip cleaned = cleaned)
    (hlen : 1 ≤ cleaned.toList.length ∧ cleaned.toList.length ≤ 500)
    (hprint : (cleaned.toList.any fun c => c.toNat < 32) = false) :
    strip text = text ∧ (1 ≤ text.toList.length ∧ text.toList.length ≤ 500) ∧
      (text.toList.any fun c => c.toNat < 32) = false ∧ refineText key text = .ok text := by
  unfold refineText at h ⊢
  split at h
  · rename_i hdate
    have htext := partialDate_eq_ok h
    subst htext
    rw [if_pos hdate]
    exact ⟨hstrip, hlen, hprint, h⟩
  · rename_i hdate
    rw [if_neg hdate]
    split at h
    · rename_i hid
      rw [if_pos hid]
      split at h
      · rename_i id _
        cases h
        refine ⟨strip_eq_self fun c hc => uuid_not_space id hc, ?_, ?_, ?_⟩
        · rw [uuid_length]
          omega
        · rw [List.any_eq_false]
          intro c hc
          have := (uuid_char id hc).1
          rw [decide_eq_true_eq]
          omega
        · rw [Sync.Uuid.parse_text]
      · cases h
    · rename_i hid
      cases h
      rw [if_neg hid]
      exact ⟨hstrip, hlen, hprint, rfl⟩

theorem textValue_raw {key : String} {raw : JsonValue} {v : MetadataValue}
    (h : textValue key raw = .ok v) : ∃ s, v = .text s ∧ textValue key v.raw = .ok v := by
  unfold textValue at h
  split at h
  · dsimp only at h
    split at h
    · rename_i value hlen
      split at h
      · cases h
      · rename_i hprint
        cases hr : refineText key (strip value) with
        | error e =>
          rw [hr] at h
          cases h
        | ok text =>
          rw [hr] at h
          cases h
          obtain ⟨hs, hl, hp, ha⟩ :=
            refineText_again hr (strip_strip value) hlen (Bool.eq_false_of_not_eq_true hprint)
          refine ⟨text, rfl, ?_⟩
          unfold MetadataValue.raw textValue
          dsimp only
          rw [hs, if_pos hl, if_neg (by rw [hp]; exact Bool.false_ne_true), ha]
          rfl
    · cases h
  · cases h

/-- **A value that was checked passes again as it is.** -/
theorem validateValue_raw {key : String} {raw : JsonValue} {v : MetadataValue}
    (h : validateValue key raw = .ok v) : validateValue key v.raw = .ok v := by
  unfold validateValue at h
  split at h
  · cases h
    rfl
  · split at h
    · rename_i hnumber
      obtain ⟨n, rfl, hagain⟩ := numberValue_raw h
      unfold MetadataValue.raw validateValue
      dsimp only
      rw [if_pos hnumber]
      exact hagain
    · rename_i hnumber
      split at h
      · rename_i hgenres
        obtain ⟨genres, rfl, hagain⟩ := genresValue_raw h
        unfold MetadataValue.raw validateValue
        dsimp only
        rw [if_neg hnumber, if_pos hgenres]
        exact hagain
      · rename_i hgenres
        obtain ⟨s, rfl, hagain⟩ := textValue_raw h
        unfold MetadataValue.raw validateValue
        dsimp only
        rw [if_neg hnumber, if_neg hgenres]
        exact hagain

/-- Each of the fields is a known one, with a value that passes the checks. -/
def Checked (fields : Dict String MetadataValue) : Prop :=
  ∀ key v, fields.get? key = some v → key ∈ allFields ∧ validateValue key v.raw = .ok v

theorem editable_sub_all {key : String} (h : key ∈ editableFields) : key ∈ allFields :=
  List.mem_append_left _ h

theorem validateFields_checked {raw : Dict String JsonValue} {manual : Bool}
    {fields : Dict String MetadataValue} (h : validateFields raw manual = .ok fields) :
    Checked fields ∧ ∀ key, fields.has key = true ↔ raw.has key = true := by
  unfold validateFields at h
  split at h
  · cases h
  · rename_i hknown
    refine ⟨?_, Dict.has_mapM h⟩
    intro key v hv
    obtain ⟨a, ha, hf⟩ := Dict.get?_mapM h hv
    refine ⟨?_, validateValue_raw hf⟩
    rw [Bool.not_eq_true, List.any_eq_false] at hknown
    have hin := hknown (key, a) (Dict.get?_eq_some.mp ha)
    rw [decide_eq_true_eq, not_not] at hin
    cases manual with
    | true => exact editable_sub_all hin
    | false => exact hin

/-- **What was stored is read back as it is.** -/
theorem validateFields_again {fields : Dict String MetadataValue} (h : Checked fields) :
    validateFields (fields.mapValues MetadataValue.raw) false = .ok fields := by
  unfold validateFields
  have hknown : ((fields.mapValues MetadataValue.raw).items.any
      fun e => decide (e.1 ∉ allowed false)) = false := by
    rw [List.any_eq_false]
    intro e he
    obtain ⟨e', he', rfl⟩ := List.mem_map.mp he
    rw [decide_eq_true_eq, not_not]
    exact (h e'.1 e'.2 (Dict.get?_eq_some.mpr he')).1
  rw [if_neg (by simpa using hknown)]
  exact Dict.mapM_mapValues fun key v hv => (h key v hv).2

end AutPlay.Metadata
