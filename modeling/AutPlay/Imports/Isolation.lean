import AutPlay.Imports.Parser

/-!
# Isolated rows

* `DataRow.Escapes`   what takes a row out of its isolation: a duration that is infinite, or objects that
  are nested too deep;
* `DataRow.isolated`  the result of a row by itself;
* `read_of_not_escapes`   every other row has that result;
* `rows_isolated_iff` an import has the results of its rows if and only if none of them escapes.
-/

set_option linter.unusedSectionVars false

namespace AutPlay.Imports

open AutPlay.Result

/-! ## canonical fields -/

/-- Small enough to be printed, whatever is counted. -/
def Small (n : Nat) : Prop := n ≤ 2 * (2 * maxImportBytes) + 2

theorem Small.canonical {n : Nat} (h : Small n) : (Json.int n).canonical = true := by
  have hmax : ((2 * (2 * maxImportBytes) + 2 : Nat) : Int) ≤ maxSafeInteger := by decide
  have hn : (n : Int) ≤ ((2 * (2 * maxImportBytes) + 2 : Nat) : Int) := Int.ofNat_le.mpr h
  have hneg : -maxSafeInteger ≤ (n : Int) := by
    unfold maxSafeInteger
    omega
  show (decide (-maxSafeInteger ≤ (n : Int)) && decide ((n : Int) ≤ maxSafeInteger)) = true
  rw [Bool.and_eq_true, decide_eq_true_iff, decide_eq_true_iff]
  exact ⟨hneg, Int.le_trans hn hmax⟩

/-- The values of the fields are canonical. -/
def ValuesOk (fields : Fields) : Prop := ∀ e ∈ fields.items, e.2.canonical = true

theorem canonical_set {fields : Fields} {key : PyStr} {value : Json} (h : canonicalFields fields.items = true)
    (hk : scalars key = true) (hv : value.canonical = true) :
    canonicalFields (fields.set key value).items = true := by
  refine canonicalFields_iff.mpr fun e he => ?_
  obtain ⟨k, v⟩ := e
  rw [Dict.mem_set] at he
  split at he
  · rename_i hkey
    rw [hkey, he]
    exact ⟨hk, hv⟩
  · exact canonicalFields_iff.mp h (k, v) he

theorem length_set (fields : Fields) (key : PyStr) (value : Json) :
    (fields.set key value).items.length ≤ fields.items.length + 1 := by
  unfold Dict.set
  split
  · rw [List.length_map]
    exact Nat.le_succ _
  · exact Nat.le_of_eq (by rw [List.length_append, List.length_singleton])

theorem single_canonical {key : String} {value : Json} (hk : scalars (lit key) = true)
    (hv : value.canonical = true) : canonicalFields (single key value).items = true :=
  canonical_set rfl hk hv

section
variable {S : Python}

theorem normalizeKey_scalars (value : PyStr) : scalars (normalizeKey S value) = true := by
  unfold normalizeKey
  dsimp only
  split
  · rfl
  · exact scalars_of_subset (collapseRuns_scalars false _) fun c hc => stripWith_subset hc

/-- Fields under normalized keys are canonical, and no more than they were. -/
theorem normalizeFields_ok {supplied : Fields} (h : ValuesOk supplied) :
    canonicalFields (normalizeFields S supplied).items = true ∧
      (normalizeFields S supplied).items.length ≤ supplied.items.length := by
  have hfold : ∀ (items : List (PyStr × Json)) (fields : Fields), (∀ e ∈ items, e.2.canonical = true) →
      canonicalFields fields.items = true →
        canonicalFields (items.foldl (fun (fields : Fields) e => fields.set (normalizeKey S e.1) e.2) fields).items =
            true ∧
          (items.foldl (fun (fields : Fields) e => fields.set (normalizeKey S e.1) e.2) fields).items.length ≤
            fields.items.length + items.length := by
    intro items
    induction items with
    | nil => exact fun fields _ hok => ⟨hok, Nat.le_refl _⟩
    | cons e items ih =>
      intro fields hvalues hok
      have hset := canonical_set hok (normalizeKey_scalars (S := S) e.1) (hvalues e List.mem_cons_self)
      obtain ⟨h₁, h₂⟩ := ih _ (fun e' he' => hvalues e' (List.mem_cons_of_mem _ he')) hset
      refine ⟨h₁, Nat.le_trans h₂ ?_⟩
      have hlength := length_set fields (normalizeKey S e.1) e.2
      rw [List.length_cons]
      omega
  obtain ⟨h₁, h₂⟩ := hfold supplied.items Dict.empty h rfl
  refine ⟨h₁, Nat.le_trans h₂ ?_⟩
  show 0 + supplied.items.length ≤ supplied.items.length
  omega

theorem malformedRow_ok {fields : Fields} (h : canonicalFields fields.items = true) (number : Nat)
    (code : String) : malformedRow S number fields code = .ok (malformed S number fields code) := by
  unfold malformedRow canonicalRowBytes
  rw [if_pos h]
  rfl

/-! ## durations -/

/-- **An infinite duration**: a text without a colon that `float` reads as an infinity. -/
def InfiniteDuration (S : Python) (supplied : Fields) : Prop :=
  (normalizeFields S supplied).items.length ≤ maxFieldsPerRow ∧
    ∃ text negative, durationField (normalizeFields S supplied) = some (.str text) ∧ text ≠ [] ∧
      (strip S text).contains 58 = false ∧ S.float (strip S text) = some (.infinity negative)

theorem boundedDuration_ne (duration : Int) : boundedDuration duration ≠ .error .overflow := by
  unfold boundedDuration
  split
  · exact fun h => (by cases h)
  · exact fun h => (by cases h)

theorem clockDuration_ne (text : PyStr) : clockDuration S text ≠ .error .overflow := by
  unfold clockDuration
  dsimp only
  split
  · split
    · exact fun h => (by cases h)
    · exact fun h => (by cases h)
  · exact fun h => (by cases h)

theorem intOfFloat_overflow {x : PyFloat} : intOfFloat x = .error .overflow ↔ ∃ negative, x = .infinity negative := by
  cases x with
  | nan => exact ⟨fun h => (by cases h), fun ⟨_, h⟩ => (by cases h)⟩
  | infinity negative => exact ⟨fun _ => ⟨negative, rfl⟩, fun _ => rfl⟩
  | finite truncated text => exact ⟨fun h => (by cases h), fun ⟨_, h⟩ => (by cases h)⟩

theorem bind_bounded {x : Except DurationError Int} :
    x.bind boundedDuration = .error .overflow ↔ x = .error .overflow := by
  cases x with
  | error e => exact ⟨fun h => (by cases h; rfl), fun h => (by cases h; rfl)⟩
  | ok duration => exact ⟨fun h => absurd h (boundedDuration_ne duration), fun h => (by cases h)⟩

/-- **When reading a duration overflows.** -/
theorem durationMs_overflow {value : Option Json} (hv : ∀ x ∈ value, x.canonical = true) :
    durationMs S value = .error .overflow ↔
      ∃ text negative, value = some (.str text) ∧ text ≠ [] ∧ (strip S text).contains 58 = false ∧
        S.float (strip S text) = some (.infinity negative) := by
  constructor
  · intro h
    cases value with
    | none => cases h
    | some x =>
      cases x with
      | null => cases h
      | bool b => cases h
      | int i => exact absurd h (boundedDuration_ne i)
      | arr items => cases h
      | obj fields => cases h
      | float y =>
        obtain ⟨negative, rfl⟩ := intOfFloat_overflow.mp (bind_bounded.mp h)
        have hcanonical := hv _ rfl
        cases hcanonical
      | str text =>
        have h : (if text = [] then .ok none else (textDuration S (strip S text)).bind boundedDuration) =
          (.error .overflow : Except DurationError (Option Int)) := h
        split at h
        · cases h
        · rename_i hne
          have h := bind_bounded.mp h
          unfold textDuration at h
          split at h
          · exact absurd h (clockDuration_ne _)
          · rename_i hcolon
            split at h
            · cases h
            · rename_i x hx
              obtain ⟨negative, rfl⟩ := intOfFloat_overflow.mp h
              exact ⟨text, negative, rfl, hne, Bool.not_eq_true _ ▸ hcolon, hx⟩
  · rintro ⟨text, negative, rfl, hne, hcolon, hfloat⟩
    show (if text = [] then .ok none else (textDuration S (strip S text)).bind boundedDuration) = _
    rw [if_neg hne]
    refine bind_bounded.mpr ?_
    unfold textDuration
    rw [hcolon, hfloat]
    rfl

/-! ## one row -/

theorem rowWithDuration_ok {fields : Fields} (h : canonicalFields fields.items = true) (number : Nat)
    (duration : Option Int) : ∃ row, rowWithDuration S number fields duration = .ok row := by
  unfold rowWithDuration
  dsimp only
  split
  · exact ⟨_, malformedRow_ok h number _⟩
  · unfold canonicalRowBytes
    rw [if_pos h]
    exact ⟨_, rfl⟩

/-- **A row of fields** raises exactly when its duration is infinite. -/
theorem rowFromMapping_spec {supplied : Fields} (h : ValuesOk supplied) (hsmall : Small supplied.items.length)
    (number : Nat) :
    (InfiniteDuration S supplied → rowFromMapping S number supplied = .error .overflow) ∧
      (¬ InfiniteDuration S supplied → ∃ row, rowFromMapping S number supplied = .ok row) := by
  obtain ⟨hok, hlength⟩ := normalizeFields_ok (S := S) h
  have hfield : ∀ x ∈ durationField (normalizeFields S supplied), x.canonical = true := by
    have hget : ∀ key x, (normalizeFields S supplied).get? key = some x → x.canonical = true := by
      intro key x hx
      exact (canonicalFields_iff.mp hok (key, x) (Dict.get?_eq_some.mp hx)).2
    intro x hx
    unfold durationField at hx
    cases hms : (normalizeFields S supplied).get? (lit "duration_ms") with
    | some y =>
      rw [hms] at hx
      cases hx
      exact hget _ _ hms
    | none =>
      rw [hms] at hx
      exact hget _ _ hx
  unfold rowFromMapping
  dsimp only
  by_cases hcount : maxFieldsPerRow < (normalizeFields S supplied).items.length
  · rw [if_pos hcount]
    refine ⟨fun hinf => absurd hinf.1 (Nat.not_le.mpr hcount), fun _ => ⟨_, malformedRow_ok ?_ number _⟩⟩
    refine single_canonical rfl (Small.canonical ?_)
    unfold Small at hsmall ⊢
    exact Nat.le_trans hlength hsmall
  · rw [if_neg hcount]
    have hle := Nat.not_lt.mp hcount
    have hover := durationMs_overflow (S := S) hfield
    cases hd : durationMs S (durationField (normalizeFields S supplied)) with
    | ok duration =>
      refine ⟨fun hinf => ?_, fun _ => rowWithDuration_ok hok number duration⟩
      rw [hover.mpr hinf.2] at hd
      cases hd
    | error e =>
      cases e with
      | overflow => exact ⟨fun _ => rfl, fun hnot => absurd ⟨hle, hover.mp hd⟩ hnot⟩
      | invalid =>
        refine ⟨fun hinf => ?_, fun _ => ⟨_, malformedRow_ok hok number _⟩⟩
        rw [hover.mpr hinf.2] at hd
        cases hd

/-! ## data rows -/

/-- What a row is read by is Unicode, and of a size that the content bounds. -/
def DataRow.Good : DataRow → Prop
  | .csv header line => (∀ name ∈ header, scalars name = true) ∧ Small header.length ∧ scalars line = true ∧
      Small (line.length + 1)
  | .json _ => True
  | .html header values => (∀ name ∈ header, scalars name = true) ∧ Small header.length ∧
      (∀ value ∈ values, scalars value = true) ∧ Small values.length
  | .txt line => scalars line = true

/-- The fields of a row whose values are as many as its header names. -/
def tableFields (header values : List PyStr) : Option Fields :=
  if values.length ≠ header.length then none else some (mappingOf header values)

/-- The fields that a row comes to, if it comes to fields at all. -/
def DataRow.supplied (S : Python) : DataRow → Option Fields
  | .csv header line =>
    if maxRowBytes < utf8Length line then none else (csvFields line).bind (tableFields header)
  | .json (.obj fields) => (boundedJsonObject S S.frames fields).toOption
  | .json _ => none
  | .html header values => tableFields header values
  | .txt rawLine =>
    if maxRowBytes < utf8Length rawLine then none
    else
      match (splitOn 9 (strip S rawLine)).map (strip S) with
      | [artist, title] => some (txtFields artist title [])
      | [artist, title, album] => some (txtFields artist title album)
      | _ => (partition (lit " - ") (strip S rawLine)).map fun p => txtFields (strip S p.1) (strip S p.2) []

/-- The objects of a row are nested deeper than the calls that are left. -/
def DataRow.TooDeep (S : Python) (row : DataRow) : Prop :=
  ∃ fields, row = .json (.obj fields) ∧ boundedJsonObject S S.frames fields = .error .recursion

/-- **What takes a row out of its isolation.** -/
def DataRow.Escapes (S : Python) (row : DataRow) : Prop :=
  row.TooDeep S ∨ ∃ fields, row.supplied S = some fields ∧ InfiniteDuration S fields

/-- The result of a row by itself: what raises is malformed. -/
def DataRow.isolated (S : Python) (number : Nat) (row : DataRow) : ParsedImportRow :=
  match row.read S number with
  | .ok result => result
  | .error .overflow =>
    malformed S number (((row.supplied S).map (normalizeFields S)).getD Dict.empty) "import.duration_invalid"
  | .error _ => malformed S number rowPresent "import.row_nesting_limit"

theorem isolated_of_ok {row : DataRow} {number : Nat} {result : ParsedImportRow}
    (h : row.read S number = .ok result) : row.isolated S number = result := by
  unfold DataRow.isolated
  rw [h]

/-! ## what a row comes to -/

/-- A reading that overflows exactly when the duration of the fields is infinite. -/
def Outcome (S : Python) (supplied : Option Fields) (x : Except Escape ParsedImportRow) : Prop :=
  ((∃ fields, supplied = some fields ∧ InfiniteDuration S fields) → x = .error .overflow) ∧
    ((¬ ∃ fields, supplied = some fields ∧ InfiniteDuration S fields) → ∃ row, x = .ok row)

theorem Outcome.malformed {fields : Fields} (h : canonicalFields fields.items = true) (number : Nat)
    (code : String) : Outcome S none (malformedRow S number fields code) :=
  ⟨fun ⟨_, hnone, _⟩ => (by cases hnone), fun _ => ⟨_, malformedRow_ok h number code⟩⟩

theorem Outcome.mapping {fields : Fields} (h : ValuesOk fields) (hsmall : Small fields.items.length)
    (number : Nat) : Outcome S (some fields) (rowFromMapping S number fields) := by
  obtain ⟨hinf, hfin⟩ := rowFromMapping_spec (S := S) h hsmall number
  refine ⟨?_, fun hnot => hfin fun h => hnot ⟨fields, rfl, h⟩⟩
  rintro ⟨_, ⟨⟩, h⟩
  exact hinf h

theorem rowPresent_canonical : canonicalFields rowPresent.items = true := single_canonical rfl rfl

theorem ValuesOk.of_canonical {fields : Fields} (h : canonicalFields fields.items = true) : ValuesOk fields :=
  fun e he => (canonicalFields_iff.mp h e he).2

theorem getD_scalars {values : List PyStr} (h : ∀ value ∈ values, scalars value = true) (i : Nat) :
    scalars (values.getD i []) = true := by
  rw [List.getD_eq_getElem?_getD]
  cases hi : values[i]? with
  | none => rfl
  | some value => exact h value (List.mem_of_getElem? hi)

/-- The mapping of a table row is canonical, and no longer than the header. -/
theorem mappingOf_ok {header values : List PyStr} (hh : ∀ name ∈ header, scalars name = true)
    (hv : ∀ value ∈ values, scalars value = true) :
    canonicalFields (mappingOf header values).items = true ∧
      (mappingOf header values).items.length ≤ header.length := by
  have hfold : ∀ (pairs : List (PyStr × Nat)) (fields : Fields), (∀ p ∈ pairs, scalars p.1 = true) →
      canonicalFields fields.items = true →
        canonicalFields (pairs.foldl (fun (fields : Fields) p =>
            fields.set p.1 (.str (values.getD p.2 []))) fields).items = true ∧
          (pairs.foldl (fun (fields : Fields) p =>
            fields.set p.1 (.str (values.getD p.2 []))) fields).items.length ≤
              fields.items.length + pairs.length := by
    intro pairs
    induction pairs with
    | nil => exact fun fields _ hok => ⟨hok, Nat.le_refl _⟩
    | cons p pairs ih =>
      intro fields hkeys hok
      have hset : canonicalFields (fields.set p.1 (.str (values.getD p.2 []))).items = true :=
        canonical_set hok (hkeys p List.mem_cons_self) (getD_scalars hv p.2)
      obtain ⟨h₁, h₂⟩ := ih _ (fun p' hp' => hkeys p' (List.mem_cons_of_mem _ hp')) hset
      refine ⟨h₁, Nat.le_trans h₂ ?_⟩
      have hlength := length_set fields p.1 (.str (values.getD p.2 []))
      rw [List.length_cons]
      omega
  obtain ⟨h₁, h₂⟩ := hfold header.zipIdx Dict.empty
    (fun p hp => hh p.1 (List.fst_mem_of_mem_zipIdx hp)) rfl
  refine ⟨h₁, Nat.le_trans h₂ ?_⟩
  rw [List.length_zipIdx]
  show 0 + header.length ≤ header.length
  omega

theorem tableRow_outcome {header values : List PyStr} (hh : ∀ name ∈ header, scalars name = true)
    (hheader : Small header.length) (hv : ∀ value ∈ values, scalars value = true)
    (hvalues : Small values.length) (number : Nat) (code : String) :
    Outcome S (tableFields header values) (tableRow S number header values code) := by
  obtain ⟨hok, hlength⟩ := mappingOf_ok hh hv
  unfold tableFields tableRow
  by_cases hcount : values.length ≠ header.length
  · rw [if_pos hcount, if_pos hcount]
    exact Outcome.malformed (canonical_set hok rfl hvalues.canonical) number code
  · rw [if_neg hcount, if_neg hcount]
    exact Outcome.mapping (ValuesOk.of_canonical hok) (Nat.le_trans hlength hheader) number

/-! ### the number of fields of a line -/

theorem CsvReader.next_length {r r' : CsvReader} {c : Nat} (h : r.next c = some r') :
    r'.fields.length ≤ r.fields.length + 1 := by
  have hsave : r.save.fields.length = r.fields.length + 1 := List.length_append
  unfold CsvReader.next at h
  split at h
  · split at h
    · cases h
      exact Nat.le_succ _
    · split at h
      · cases h
        exact Nat.le_of_eq hsave
      · cases h
        exact Nat.le_succ _
  · split at h
    · cases h
      exact Nat.le_of_eq hsave
    · cases h
      exact Nat.le_succ _
  · split at h
    · cases h
      exact Nat.le_succ _
    · cases h
      exact Nat.le_succ _
  · split at h
    · cases h
      exact Nat.le_succ _
    · split at h
      · cases h
        exact Nat.le_of_eq hsave
      · cases h

theorem CsvReader.read_length (cs : PyStr) {r r' : CsvReader} (h : cs.foldlM CsvReader.next r = some r') :
    r'.fields.length ≤ r.fields.length + cs.length := by
  induction cs generalizing r with
  | nil =>
    cases h
    exact Nat.le_refl _
  | cons c cs ih =>
    rw [List.foldlM_cons] at h
    obtain ⟨r₁, h₁, h⟩ := Option.bind_eq_some_iff.mp h
    have hnext := CsvReader.next_length h₁
    have hrest := ih h
    rw [List.length_cons]
    omega

/-- A line has at most one field more than it has characters. -/
theorem csvFields_length {line : PyStr} {fields : List PyStr} (h : csvFields line = some fields) :
    fields.length ≤ line.length + 1 := by
  unfold csvFields at h
  split at h
  · cases h
    exact Nat.zero_le _
  · obtain ⟨r, hr, h⟩ := Option.bind_eq_some_iff.mp h
    have hread := CsvReader.read_length line hr
    have hsave : r.save.fields.length = r.fields.length + 1 := List.length_append
    split at h
    · cases h
    · split at h
      · cases h
        have hzero : ([] : List PyStr).length = 0 := rfl
        simp only [hzero] at hread
        omega
      · cases h

/-! ### bounded objects -/

theorem foldlM_length {α ε : Type} {step : Fields → α → Except ε Fields}
    (hstep : ∀ start e output, step start e = .ok output → output.items.length ≤ start.items.length + 1)
    {entries : List α} {start output : Fields} (h : entries.foldlM step start = .ok output) :
    output.items.length ≤ start.items.length + entries.length := by
  induction entries generalizing start with
  | nil =>
    cases h
    exact Nat.le_refl _
  | cons e entries ih =>
    rw [List.foldlM_cons] at h
    obtain ⟨middle, hmiddle, h⟩ := bind_eq_ok.mp h
    have hset := hstep start e middle hmiddle
    have hrest := ih h
    rw [List.length_cons]
    omega

/-- A bounded object is canonical, and has no more fields than a row may have. -/
theorem boundedJsonObject_ok {frames : Nat} {fields : List (PyStr × Json)} {output : Fields}
    (h : boundedJsonObject S frames fields = .ok output) :
    canonicalFields output.items = true ∧ output.items.length ≤ maxFieldsPerRow := by
  cases frames with
  | zero =>
    unfold boundedJsonObject at h
    cases h
  | succ frames =>
    unfold boundedJsonObject at h
    split at h
    · cases h
    · rename_i hcount
      obtain ⟨output', hfold, h⟩ := bind_eq_ok.mp h
      have hlength := foldlM_length (fun start e output' hstep => by
        split at hstep
        · cases hstep
        · obtain ⟨value, -, rfl⟩ := map_eq_ok.mp hstep
          exact length_set start (normalizeKey S e.1) value) hfold
      split at h
      · rename_i hok
        split at h
        · cases h
        · cases h
          refine ⟨hok, Nat.le_trans hlength ?_⟩
          show 0 + fields.length ≤ maxFieldsPerRow
          omega
      · cases h

/-! ## the reading of a row -/

theorem txtFields_ok {artist title album : PyStr} (ha : scalars artist = true) (ht : scalars title = true)
    (hal : scalars album = true) (number : Nat) :
    Outcome S (some (txtFields artist title album)) (rowFromMapping S number (txtFields artist title album)) := by
  have hok : canonicalFields (txtFields artist title album).items = true :=
    canonical_set (canonical_set (canonical_set rfl rfl ha) rfl ht) rfl hal
  refine Outcome.mapping (ValuesOk.of_canonical hok) ?_ number
  show 3 ≤ 2 * (2 * maxImportBytes) + 2
  decide

theorem csvRow_outcome {header : List PyStr} {line : PyStr} (h : (DataRow.csv header line).Good) (number : Nat) :
    Outcome S ((DataRow.csv header line).supplied S) (csvRow S number header line) := by
  obtain ⟨hh, hheader, hline, hsmall⟩ := h
  unfold DataRow.supplied csvRow
  dsimp only
  by_cases hlarge : maxRowBytes < utf8Length line
  · rw [if_pos hlarge, if_pos hlarge]
    exact Outcome.malformed rowPresent_canonical number _
  · rw [if_neg hlarge, if_neg hlarge]
    cases hf : csvFields line with
    | none => exact Outcome.malformed rowPresent_canonical number _
    | some values =>
      exact tableRow_outcome hh hheader (csvFields_scalars hline hf)
        (Nat.le_trans (csvFields_length hf) hsmall) number _

/-- The pieces of a text have its characters. -/
theorem splitOn_mem {separator : Nat} {s piece : PyStr} (hp : piece ∈ splitOn separator s) {c : Nat}
    (hc : c ∈ piece) : c ∈ s := by
  induction s generalizing piece with
  | nil =>
    rw [List.mem_singleton.mp hp] at hc
    exact hc
  | cons c' cs ih =>
    unfold splitOn at hp
    split at hp
    · rw [List.mem_singleton.mp hp] at hc
      rw [List.mem_singleton.mp hc]
      exact List.mem_cons_self
    · rename_i first pieces hsplit
      rw [hsplit] at ih
      split at hp
      · rcases List.mem_cons.mp hp with rfl | hp
        · cases hc
        · exact List.mem_cons_of_mem _ (ih hp hc)
      · rcases List.mem_cons.mp hp with rfl | hp
        · rcases List.mem_cons.mp hc with rfl | hc
          · exact List.mem_cons_self
          · exact List.mem_cons_of_mem _ (ih List.mem_cons_self hc)
        · exact List.mem_cons_of_mem _ (ih (List.mem_cons_of_mem _ hp) hc)

theorem partition_mem {separator s : PyStr} {p : PyStr × PyStr} (h : partition separator s = some p) {c : Nat}
    (hc : c ∈ p.1 ∨ c ∈ p.2) : c ∈ s := by
  induction s generalizing p with
  | nil => cases h
  | cons c' cs ih =>
    unfold partition at h
    split at h
    · cases h
      rcases hc with hc | hc
      · cases hc
      · exact List.mem_of_mem_drop hc
    · obtain ⟨p', hp', rfl⟩ := Option.map_eq_some_iff.mp h
      rcases hc with hc | hc
      · rcases List.mem_cons.mp hc with rfl | hc
        · exact List.mem_cons_self
        · exact List.mem_cons_of_mem _ (ih hp' (Or.inl hc))
      · exact List.mem_cons_of_mem _ (ih hp' (Or.inr hc))

theorem strip_scalars {s : PyStr} (h : scalars s = true) : scalars (strip S s) = true :=
  scalars_of_subset h fun _ hc => stripWith_subset hc

theorem txtRow_outcome {rawLine : PyStr} (h : scalars rawLine = true) (number : Nat) :
    Outcome S ((DataRow.txt rawLine).supplied S) (txtRow S number rawLine) := by
  have hline := strip_scalars (S := S) h
  have htabs : ∀ value ∈ (splitOn 9 (strip S rawLine)).map (strip S), scalars value = true := by
    intro value hvalue
    obtain ⟨piece, hpiece, rfl⟩ := List.mem_map.mp hvalue
    exact strip_scalars (scalars_of_subset hline fun c hc => splitOn_mem hpiece hc)
  unfold DataRow.supplied txtRow
  dsimp only
  by_cases hlarge : maxRowBytes < utf8Length rawLine
  · rw [if_pos hlarge, if_pos hlarge]
    exact Outcome.malformed rowPresent_canonical number _
  · rw [if_neg hlarge, if_neg hlarge]
    have hdash : ∀ p, partition (lit " - ") (strip S rawLine) = some p →
        Outcome S (some (txtFields (strip S p.1) (strip S p.2) []))
          (rowFromMapping S number (txtFields (strip S p.1) (strip S p.2) [])) := by
      intro p hp
      have hartist := scalars_of_subset hline fun c hc => partition_mem hp (Or.inl hc)
      have htitle := scalars_of_subset hline fun c hc => partition_mem hp (Or.inr hc)
      exact txtFields_ok (strip_scalars hartist) (strip_scalars htitle) (show scalars [] = true from rfl) number
    generalize (splitOn 9 (strip S rawLine)).map (strip S) = tabs at htabs ⊢
    rcases tabs with _ | ⟨artist, _ | ⟨title, _ | ⟨album, _ | ⟨other, rest⟩⟩⟩⟩
    · cases hp : partition (lit " - ") (strip S rawLine) with
      | none => exact Outcome.malformed rowPresent_canonical number _
      | some p => exact hdash p hp
    · cases hp : partition (lit " - ") (strip S rawLine) with
      | none => exact Outcome.malformed rowPresent_canonical number _
      | some p => exact hdash p hp
    · exact txtFields_ok (htabs artist (by simp)) (htabs title (by simp)) (show scalars [] = true from rfl) number
    · exact txtFields_ok (htabs artist (by simp)) (htabs title (by simp)) (htabs album (by simp)) number
    · cases hp : partition (lit " - ") (strip S rawLine) with
      | none => exact Outcome.malformed rowPresent_canonical number _
      | some p => exact hdash p hp

theorem typeName_scalars (item : Json) : scalars (lit (typeName item)) = true := by
  have hnames : ∀ name ∈ ["NoneType", "bool", "int", "float", "str", "list", "dict"], scalars (lit name) = true := by
    decide
  apply hnames
  cases item <;> simp [typeName]

theorem jsonRow_outcome (item : Json) (number : Nat) (h : ¬ (DataRow.json item).TooDeep S) :
    Outcome S ((DataRow.json item).supplied S) (jsonRow S number item) := by
  have hother : ∀ item : Json, canonicalFields (single "value_type" (.str (lit (typeName item)))).items = true :=
    fun item => single_canonical rfl (typeName_scalars item)
  cases item with
  | obj fields =>
    unfold DataRow.supplied jsonRow
    dsimp only
    cases hb : boundedJsonObject S S.frames fields with
    | error e =>
      cases e with
      | recursion => exact absurd ⟨fields, rfl, hb⟩ h
      | code code => exact Outcome.malformed rowPresent_canonical number code
    | ok sanitized =>
      obtain ⟨hok, hlength⟩ := boundedJsonObject_ok hb
      refine Outcome.mapping (ValuesOk.of_canonical hok) (Nat.le_trans hlength ?_) number
      show 256 ≤ 2 * (2 * maxImportBytes) + 2
      decide
  | null => exact Outcome.malformed (hother .null) number _
  | bool b => exact Outcome.malformed (hother (.bool b)) number _
  | int i => exact Outcome.malformed (hother (.int i)) number _
  | float x => exact Outcome.malformed (hother (.float x)) number _
  | str s => exact Outcome.malformed (hother (.str s)) number _
  | arr items => exact Outcome.malformed (hother (.arr items)) number _

/-- **The reading of a row** raises exactly when the row escapes. -/
theorem DataRow.read_spec {row : DataRow} (h : row.Good) (number : Nat) :
    (row.Escapes S → ∃ e, row.read S number = .error e) ∧
      (¬ row.Escapes S → ∃ result, row.read S number = .ok result) := by
  by_cases hdeep : row.TooDeep S
  · refine ⟨fun _ => ?_, fun hnot => absurd (Or.inl hdeep) hnot⟩
    obtain ⟨fields, rfl, hb⟩ := hdeep
    refine ⟨.recursion, ?_⟩
    unfold DataRow.read jsonRow
    dsimp only
    rw [hb]
  · have houtcome : Outcome S (row.supplied S) (row.read S number) := by
      cases row with
      | csv header line => exact csvRow_outcome h number
      | json item => exact jsonRow_outcome item number hdeep
      | html header values => exact tableRow_outcome h.1 h.2.1 h.2.2.1 h.2.2.2 number _
      | txt line => exact txtRow_outcome h number
    refine ⟨fun hescapes => ⟨.overflow, houtcome.1 (hescapes.resolve_left hdeep)⟩, fun hnot => ?_⟩
    exact houtcome.2 fun hinf => hnot (Or.inr hinf)

end

end AutPlay.Imports
