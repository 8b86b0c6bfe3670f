import AutPlay.Imports.Isolation

/-!
# The laws of imports

* `dataRows_good`       the data rows of a content that decodes are Unicode, and bounded;
* `rows_isolated_iff`   an import has the results of its rows if and only if nothing escapes.
-/

set_option linter.unusedSectionVars false

namespace AutPlay.Imports

open AutPlay.Result

section
variable {S : Python}

/-! ## lines -/

theorem splitLinesFrom_length {line text l : PyStr} (hl : l ∈ splitLinesFrom line text) :
    l.length ≤ line.length + text.length := by
  induction line, text using splitLinesFrom.induct with
  | case1 =>
    unfold splitLinesFrom at hl
    rw [if_pos rfl] at hl
    cases hl
  | case2 line hne =>
    unfold splitLinesFrom at hl
    rw [if_neg hne] at hl
    rw [List.mem_singleton.mp hl, List.length_reverse]
    exact Nat.le_refl _
  | case3 line cs ih =>
    unfold splitLinesFrom at hl
    rcases List.mem_cons.mp hl with rfl | hl
    · rw [List.length_reverse]
      exact Nat.le_add_right _ _
    · have h := ih hl
      simp only [List.length_cons, List.length_nil] at h ⊢
      omega
  | case4 line c cs hne hbreak ih =>
    rw [splitLinesFrom.eq_3 _ _ _ hne, if_pos hbreak] at hl
    rcases List.mem_cons.mp hl with rfl | hl
    · rw [List.length_reverse]
      exact Nat.le_add_right _ _
    · have h := ih hl
      simp only [List.length_cons, List.length_nil] at h ⊢
      omega
  | case5 line c cs hne hbreak ih =>
    rw [splitLinesFrom.eq_3 _ _ _ hne, if_neg hbreak] at hl
    have h := ih hl
    simp only [List.length_cons] at h ⊢
    omega

theorem splitLines_length {text line : PyStr} (hl : line ∈ splitLines text) : line.length ≤ text.length := by
  have h := splitLinesFrom_length hl
  rw [List.length_nil, Nat.zero_add] at h
  exact h

/-! ## tables -/

theorem collapseSpaces_mem {isSpace : Nat → Bool} {inRun : Bool} {s : PyStr} {c : Nat}
    (h : c ∈ collapseSpaces isSpace inRun s) : c = 32 ∨ c ∈ s := by
  induction s generalizing inRun with
  | nil => cases h
  | cons c' cs ih =>
    unfold collapseSpaces at h
    split at h
    · split at h
      · exact (ih h).imp_right (List.mem_cons_of_mem _)
      · rcases List.mem_cons.mp h with h | h
        · exact Or.inl h
        · exact (ih h).imp_right (List.mem_cons_of_mem _)
    · rcases List.mem_cons.mp h with rfl | h
      · exact Or.inr List.mem_cons_self
      · exact (ih h).imp_right (List.mem_cons_of_mem _)

theorem cellText_scalars {cell : List PyStr} (h : ∀ s ∈ cell, scalars s = true) :
    scalars (cellText S cell) = true := by
  refine strip_scalars (scalars_iff.mpr fun c hc => ?_)
  rcases collapseSpaces_mem hc with rfl | hc
  · rfl
  · obtain ⟨s, hs, hc⟩ := List.mem_flatten.mp hc
    exact scalars_iff.mp (h s hs) c hc

/-- A row of at most so many Unicode cells. -/
def GoodCells (n : Nat) (row : List PyStr) : Prop := (∀ cell ∈ row, scalars cell = true) ∧ row.length ≤ n

theorem GoodCells.mono {n m : Nat} {row : List PyStr} (h : GoodCells n row) (hle : n ≤ m) : GoodCells m row :=
  ⟨h.1, Nat.le_trans h.2 hle⟩

/-- What a table holds after so many events. -/
structure Table.Good (n : Nat) (t : Table) : Prop where
  rows : ∀ row ∈ t.rows, GoodCells n row
  row : ∀ row ∈ t.row, GoodCells n row
  cell : ∀ cell ∈ t.cell, ∀ s ∈ cell, scalars s = true

theorem Table.Good.mono {n m : Nat} {t : Table} (h : t.Good n) (hle : n ≤ m) : t.Good m :=
  ⟨fun row hrow => (h.rows row hrow).mono hle, fun row hrow => (h.row row hrow).mono hle, h.cell⟩

theorem Table.Good.start {n : Nat} {t : Table} (h : t.Good n) (tag : HtmlTag) : (t.start tag).Good n := by
  unfold Table.start
  split
  · exact ⟨h.rows, h.row, h.cell⟩
  · split
    · refine ⟨h.rows, ?_, h.cell⟩
      rintro _ ⟨⟩
      exact ⟨fun cell hcell => absurd hcell List.not_mem_nil, Nat.zero_le n⟩
    · split
      · refine ⟨h.rows, h.row, ?_⟩
        rintro _ ⟨⟩ s hs
        cases hs
      · exact h

theorem Table.Good.close {n : Nat} {t t' : Table} {tag : HtmlTag} (h : t.Good n) (hc : t.close S tag = some t') :
    t'.Good (n + 1) := by
  have hle := Nat.le_succ n
  unfold Table.close at hc
  split at hc
  · cases hc
    exact Table.Good.mono ⟨h.rows, h.row, h.cell⟩ hle
  · split at hc
    · rename_i hcell
      obtain ⟨row, hrow, rfl⟩ := Option.map_eq_some_iff.mp hc
      refine ⟨(h.mono hle).rows, ?_, fun cell hnone => (by cases hnone)⟩
      rintro _ ⟨⟩
      obtain ⟨hcells, hlength⟩ := h.row row hrow
      refine ⟨fun cell hmem => ?_, ?_⟩
      · rcases List.mem_append.mp hmem with hmem | hmem
        · exact hcells cell hmem
        · rw [List.mem_singleton.mp hmem]
          apply cellText_scalars
          obtain ⟨cell', hcell'⟩ := Option.isSome_iff_exists.mp hcell.2.2
          rw [hcell']
          exact h.cell cell' hcell'
      · rw [List.length_append, List.length_singleton]
        omega
    · split at hc
      · split at hc
        · cases hc
          exact h.mono hle
        · rename_i row hrow
          cases hc
          refine ⟨fun row' hrow' => ?_, fun row' hnone => (by cases hnone), h.cell⟩
          dsimp only at hrow'
          split at hrow'
          · exact (h.rows row' hrow').mono hle
          · rcases List.mem_append.mp hrow' with hrow' | hrow'
            · exact (h.rows row' hrow').mono hle
            · rw [List.mem_singleton.mp hrow']
              exact (h.row row hrow).mono hle
      · cases hc
        exact h.mono hle

theorem Table.Good.data {n : Nat} {t : Table} (h : t.Good n) {text : PyStr} (hs : scalars text = true) :
    (t.data text).Good n := by
  unfold Table.data
  split
  · refine ⟨h.rows, h.row, fun cell hcell s hmem => ?_⟩
    obtain ⟨cell', hcell', rfl⟩ := Option.map_eq_some_iff.mp hcell
    rcases List.mem_append.mp hmem with hmem | hmem
    · exact h.cell cell' hcell' s hmem
    · rw [List.mem_singleton.mp hmem]
      exact hs
  · exact h

/-- What one event keeps. -/
theorem Table.Good.handle {n : Nat} {t t' : Table} {e : HtmlEvent} (h : t.Good n)
    (hs : ∀ s, e = .data s → scalars s = true) (he : t.handle S e = some t') : t'.Good (n + 1) := by
  cases e with
  | startTag tag =>
    cases he
    exact (h.start tag).mono (Nat.le_succ n)
  | endTag tag => exact h.close he
  | data text =>
    cases he
    exact (h.data (hs text rfl)).mono (Nat.le_succ n)

theorem Table.Good.feed {n : Nat} (events : List HtmlEvent) {t : Table} (h : t.Good n)
    (hs : ∀ s, HtmlEvent.data s ∈ events → scalars s = true) : (t.feed S events).1.Good (n + events.length) := by
  induction events generalizing n t with
  | nil => exact h
  | cons e events ih =>
    unfold Table.feed
    split
    · exact h.mono (Nat.le_add_right n _)
    · rename_i t' he
      have hhead := h.handle (fun s hse => hs s (hse ▸ List.mem_cons_self)) he
      have hrest := ih hhead fun s hmem => hs s (List.mem_cons_of_mem _ hmem)
      rw [List.length_cons, ← Nat.add_assoc, Nat.add_right_comm]
      exact hrest

theorem htmlTable_good {text : PyStr} (h : scalars text = true) :
    (htmlTable S text).1.Good (2 * text.length) := by
  have hempty : (⟨[], none, none, 0⟩ : Table).Good 0 :=
    ⟨fun row hrow => absurd hrow List.not_mem_nil, fun row hnone => (by cases hnone),
      fun cell hnone => (by cases hnone)⟩
  have hfeed := hempty.feed (S := S) (S.html text) fun s hs => S.scalars_html text s h hs
  rw [Nat.zero_add] at hfeed
  exact hfeed.mono (S.length_html text)

/-! ## the rows of a content -/

theorem numbered_mem {α : Type} {first : Nat} {make : α → DataRow} {rows : List α} {p : Nat × DataRow}
    (h : p ∈ numbered first make rows) : ∃ x ∈ rows, p.2 = make x := by
  obtain ⟨q, hq, rfl⟩ := List.mem_map.mp h
  exact ⟨q.1, List.fst_mem_of_mem_zipIdx hq, rfl⟩

theorem normalizedHeader_ok {code : String} {header names : List PyStr}
    (h : normalizedHeader S code header = .ok names) :
    (∀ name ∈ names, scalars name = true) ∧ names.length = header.length := by
  unfold normalizedHeader at h
  dsimp only at h
  split at h
  · cases h
  · cases h
    refine ⟨fun name hname => ?_, List.length_map _⟩
    obtain ⟨value, -, rfl⟩ := List.mem_map.mp hname
    exact normalizeKey_scalars value

theorem csvRows_good {text : PyStr} {rows : Rows} (hs : scalars text = true) (hsize : text.length ≤ maxImportBytes)
    (h : csvRows S text = .ok rows) : ∀ p ∈ rows, p.2.Good := by
  have hsmall : ∀ line ∈ splitLines text, Small (line.length + 1) := by
    intro line hline
    have hlength := splitLines_length hline
    unfold Small
    omega
  unfold csvRows at h
  split at h
  · cases h
  · rename_i first lines hlines
    split at h
    · cases h
    · rename_i header hheader
      obtain ⟨names, hnames, rfl⟩ := map_eq_ok.mp h
      obtain ⟨hscalars, hlength⟩ := normalizedHeader_ok hnames
      intro p hp
      obtain ⟨line, hline, he⟩ := numbered_mem hp
      have hmem : line ∈ splitLines text := by
        rw [hlines]
        exact List.mem_cons_of_mem _ hline
      have hfirst : first ∈ splitLines text := by
        rw [hlines]
        exact List.mem_cons_self
      rw [he]
      refine ⟨hscalars, ?_, splitLines_scalars hs hmem, hsmall line hmem⟩
      rw [hlength]
      exact Nat.le_trans (csvFields_length hheader) (hsmall first hfirst)

theorem jsonRows_good {root : Json} {schemaVersion : String} {rows : Rows}
    (h : jsonRows S root schemaVersion = .ok rows) : ∀ p ∈ rows, p.2.Good := by
  unfold jsonRows at h
  dsimp only at h
  obtain ⟨values, -, h⟩ := bind_eq_ok.mp h
  split at h
  · cases h
    intro p hp
    obtain ⟨item, -, he⟩ := numbered_mem hp
    rw [he]
    trivial
  · cases h

theorem htmlRows_good {text : PyStr} {rows : Rows} (hs : scalars text = true)
    (hsize : text.length ≤ maxImportBytes) (h : htmlRows S (htmlTable S text).1 = .ok rows) :
    ∀ p ∈ rows, p.2.Good := by
  have hgood := htmlTable_good (S := S) hs
  have hsmall : ∀ n, n ≤ 2 * text.length → Small n := by
    intro n hn
    unfold Small
    omega
  unfold htmlRows at h
  split at h
  · cases h
  · rename_i header lines hrows
    obtain ⟨names, hnames, rfl⟩ := map_eq_ok.mp h
    obtain ⟨hscalars, hlength⟩ := normalizedHeader_ok hnames
    intro p hp
    obtain ⟨values, hvalues, he⟩ := numbered_mem hp
    obtain ⟨hcells, hcount⟩ := hgood.rows values (by rw [hrows]; exact List.mem_cons_of_mem _ hvalues)
    obtain ⟨-, hheader⟩ := hgood.rows header (by rw [hrows]; exact List.mem_cons_self)
    rw [he]
    refine ⟨hscalars, ?_, hcells, hsmall _ hcount⟩
    rw [hlength]
    exact hsmall _ hheader

theorem txtRows_good {text : PyStr} {rows : Rows} (hs : scalars text = true) (h : txtRows S text = .ok rows) :
    ∀ p ∈ rows, p.2.Good := by
  unfold txtRows at h
  dsimp only at h
  split at h
  · cases h
  · cases h
    intro p hp
    obtain ⟨q, hq, rfl⟩ := List.mem_map.mp hp
    exact splitLines_scalars hs (List.fst_mem_of_mem_zipIdx (List.mem_filter.mp hq).1)

variable (S) in
/-- The data rows of a text whose envelope is usable. -/
def dataRows (format : ImportFormat) (schemaVersion : String) (text : PyStr) : Option Rows :=
  match format with
  | .csv => (csvRows S text).toOption
  | .json => (S.json text).bind fun root => (jsonRows S root schemaVersion).toOption
  | .html => (htmlRows S (htmlTable S text).1).toOption
  | .txt => (txtRows S text).toOption

theorem toOption_eq_some {ε α : Type} {x : Except ε α} {a : α} : x.toOption = some a ↔ x = .ok a := by
  cases x with
  | error e => exact ⟨fun h => (by cases h), fun h => (by cases h)⟩
  | ok b => exact ⟨fun h => congrArg Except.ok (Option.some.inj h), fun h => congrArg some (Except.ok.inj h)⟩

theorem dataRows_good {format : ImportFormat} {schemaVersion : String} {text : PyStr} {rows : Rows}
    (hs : scalars text = true) (hsize : text.length ≤ maxImportBytes)
    (h : dataRows S format schemaVersion text = some rows) : ∀ p ∈ rows, p.2.Good := by
  cases format with
  | csv => exact csvRows_good hs hsize (toOption_eq_some.mp h)
  | json =>
    obtain ⟨root, -, h⟩ := Option.bind_eq_some_iff.mp h
    exact jsonRows_good (toOption_eq_some.mp h)
  | html => exact htmlRows_good hs hsize (toOption_eq_some.mp h)
  | txt => exact txtRows_good hs (toOption_eq_some.mp h)

/-! ## imports -/

/-- A content that decodes to such a text, with such data rows. -/
structure Usable (S : Python) (e : ImportEnvelope) (text : PyStr) (encoding : String) (rows : Rows) : Prop where
  decodes : decode S e.content = .ok (text, encoding)
  rows_eq : dataRows S e.format e.schemaVersion text = some rows
  count : rows.length ≤ maxImportRows

variable (S) in
/-- What escapes from the reading of the text itself: an integer of too many digits or too deep a nesting
anywhere in a JSON text, and a row that ends inside one of its cells anywhere in an HTML text. -/
def TextEscapes (format : ImportFormat) (text : PyStr) : Prop :=
  match format with
  | .json => ∃ root, S.json text = some root ∧ (root.hugeInt = true ∨ S.scannerDepth < root.depth)
  | .html => (htmlTable S text).2 = true
  | .csv => False
  | .txt => False

/-- **Nothing escapes**, neither from the text nor from a row. -/
def NoEscape (S : Python) (format : ImportFormat) (text : PyStr) (rows : Rows) : Prop :=
  ¬ TextEscapes S format text ∧ ∀ p ∈ rows, ¬ p.2.Escapes S

theorem decode_text {content : Bytes} {text : PyStr} {encoding : String}
    (h : decode S content = .ok (text, encoding)) : scalars text = true ∧ text.length ≤ content.length := by
  unfold decode at h
  split at h
  · rename_i text' hdecode
    cases h
    exact ⟨S.scalars_utf8Sig _ _ hdecode, S.length_utf8Sig _ _ hdecode⟩
  · split at h
    · rename_i text' hdecode
      cases h
      exact ⟨S.scalars_cp1251 _ _ hdecode, S.length_cp1251 _ _ hdecode⟩
    · cases h

/-- A text is read by its rows, unless it escapes. -/
theorem parseFormat_eq {format : ImportFormat} {schemaVersion : String} {text : PyStr} {rows : Rows}
    (h : dataRows S format schemaVersion text = some rows) :
    (¬ TextEscapes S format text → parseFormat S format schemaVersion text = readRows S rows) ∧
      (TextEscapes S format text → ∃ e, parseFormat S format schemaVersion text = .error e) := by
  cases format with
  | csv =>
    refine ⟨fun _ => ?_, fun hfalse => hfalse.elim⟩
    show (csvRows S text).bind (readRows S) = _
    rw [toOption_eq_some.mp h]
    rfl
  | json =>
    obtain ⟨root, hroot, h⟩ := Option.bind_eq_some_iff.mp h
    have hload : loads S text = if root.hugeInt = true then .error .digits
        else if S.scannerDepth < root.depth then .error .recursion else .ok root := by
      unfold loads
      rw [hroot]
    constructor
    · intro hno
      have hhuge : ¬ root.hugeInt = true := fun hh => hno ⟨root, hroot, Or.inl hh⟩
      have hdepth : ¬ S.scannerDepth < root.depth := fun hd => hno ⟨root, hroot, Or.inr hd⟩
      show (loads S text).bind _ = _
      rw [hload, if_neg hhuge, if_neg hdepth]
      show (jsonRows S root schemaVersion).bind (readRows S) = _
      rw [toOption_eq_some.mp h]
      rfl
    · rintro ⟨root', hroot', hescape⟩
      rw [hroot] at hroot'
      cases hroot'
      show ∃ e, (loads S text).bind _ = _
      rw [hload]
      rcases hescape with hhuge | hdepth
      · rw [if_pos hhuge]
        exact ⟨_, rfl⟩
      · rw [if_pos hdepth]
        split
        · exact ⟨_, rfl⟩
        · exact ⟨_, rfl⟩
  | html =>
    constructor
    · intro hno
      have hno : ¬ (htmlTable S text).2 = true := hno
      show parseHtml S text = _
      unfold parseHtml
      rw [if_neg hno, toOption_eq_some.mp h]
      rfl
    · intro hfailed
      refine ⟨.envelope "import.html_malformed", ?_⟩
      show parseHtml S text = _
      unfold parseHtml
      exact if_pos hfailed
  | txt =>
    refine ⟨fun _ => ?_, fun hfalse => hfalse.elim⟩
    show (txtRows S text).bind (readRows S) = _
    rw [toOption_eq_some.mp h]
    rfl

theorem readRows_isolated {rows : Rows} (hgood : ∀ p ∈ rows, p.2.Good) :
    readRows S rows = .ok (rows.map fun p => p.2.isolated S p.1) ↔ ∀ p ∈ rows, ¬ p.2.Escapes S := by
  constructor
  · intro h p hp hescapes
    obtain ⟨e, he⟩ := (DataRow.read_spec (hgood p hp) p.1).1 hescapes
    have hread := mapM_forall₂ h
    obtain ⟨n, hn, hget⟩ := List.mem_iff_getElem.mp hp
    have hn' := hread.length_eq ▸ hn
    have hat := hread.get hn hn'
    simp only [List.get_eq_getElem, hget] at hat
    rw [he] at hat
    cases hat
  · intro h
    refine mapM_eq_ok_map fun p hp => ?_
    obtain ⟨result, hresult⟩ := (DataRow.read_spec (hgood p hp) p.1).2 (h p hp)
    rw [isolated_of_ok hresult]
    exact hresult

theorem parseImport_eq {e : ImportEnvelope} {text : PyStr} {encoding : String} {rows : Rows}
    (h : Usable S e text encoding rows) (hno : ¬ TextEscapes S e.format text) :
    parseImport S e = (readRows S rows).bind fun results =>
      if maxImportRows < results.length then .error (.envelope "import.row_limit_exceeded")
      else .ok ⟨e, encoding, results⟩ := by
  unfold parseImport
  rw [h.decodes]
  show (parseFormat S e.format e.schemaVersion text).bind _ = _
  rw [(parseFormat_eq h.rows_eq).1 hno]

/-- **Import rows are isolated**, each with the result that it has by itself, if and only if nothing
escapes. -/
theorem rows_isolated_iff {e : ImportEnvelope} {text : PyStr} {encoding : String} {rows : Rows}
    (h : Usable S e text encoding rows) :
    parseImport S e = .ok ⟨e, encoding, rows.map fun p => p.2.isolated S p.1⟩ ↔
      NoEscape S e.format text rows := by
  obtain ⟨hscalars, hlength⟩ := decode_text h.decodes
  have hgood := dataRows_good hscalars (Nat.le_trans hlength e.size_le) h.rows_eq
  constructor
  · intro hok
    have hno : ¬ TextEscapes S e.format text := by
      intro hyes
      obtain ⟨err, herr⟩ := (parseFormat_eq h.rows_eq).2 hyes
      unfold parseImport at hok
      rw [h.decodes] at hok
      have hok : (parseFormat S e.format e.schemaVersion text).bind _ = _ := hok
      rw [herr] at hok
      cases hok
    refine ⟨hno, (readRows_isolated hgood).mp ?_⟩
    rw [parseImport_eq h hno] at hok
    obtain ⟨results, hresults, hok⟩ := bind_eq_ok.mp hok
    split at hok
    · cases hok
    · cases hok
      exact hresults
  · rintro ⟨hno, hrows⟩
    have hcount : ¬ maxImportRows < (rows.map fun p => p.2.isolated S p.1).length := by
      rw [List.length_map]
      exact Nat.not_lt.mpr h.count
    rw [parseImport_eq h hno, (readRows_isolated hgood).mpr hrows]
    show (if maxImportRows < (rows.map fun p => p.2.isolated S p.1).length then _ else _) = _
    rw [if_neg hcount]

end

/-! ## a library of plain text -/

namespace Sample

def ofText (s : String) : Bytes := s.toList.map fun c => UInt8.ofNat c.toNat

def ascii (b : Bytes) : Option PyStr :=
  if b.all (· < 128) = true then some (b.map UInt8.toNat) else none

theorem ascii_length {b : Bytes} {t : PyStr} (h : ascii b = some t) : t.length ≤ b.length := by
  unfold ascii at h
  split at h
  · cases h
    exact Nat.le_of_eq (List.length_map _)
  · cases h

theorem ascii_scalars {b : Bytes} {t : PyStr} (h : ascii b = some t) : scalars t = true := by
  unfold ascii at h
  split at h
  · cases h
    refine scalars_iff.mpr fun c hc => ?_
    obtain ⟨x, -, rfl⟩ := List.mem_map.mp hc
    have hx := x.toNat_lt
    unfold isScalar
    rw [Bool.or_eq_true, decide_eq_true_eq]
    exact Or.inl (Nat.lt_trans hx (by decide))
  · cases h

def digits (s : PyStr) : Option Nat :=
  if s ≠ [] ∧ s.all (fun c => 48 ≤ c && c ≤ 57) = true then some (s.foldl (fun n c => n * 10 + (c - 48)) 0)
  else none

def float (s : PyStr) : Option PyFloat :=
  if s = lit "1e999" then some (.infinity false)
  else (digits s).map fun n => .finite n (s ++ lit ".0")

/-- An object of these members, as texts that need no escape. -/
def encode (fields : List (PyStr × Json)) : Bytes :=
  let member (key : PyStr) : Option PyStr :=
    match fields.find? fun e => e.1 = key with
    | some (_, .str s) => some ([34] ++ key ++ [34, 58, 34] ++ s ++ [34])
    | _ => none
  ([123] ++ join [44] ((["artist", "duration", "title"].map lit).filterMap member) ++ [125]).map UInt8.ofNat

def library : Python where
  decodeUtf8Sig := ascii
  decodeCp1251 := ascii
  isSpace c := c = 32 || (9 ≤ c && c ≤ 13) || (28 ≤ c && c ≤ 31)
  isDigit c := 48 ≤ c && c ≤ 57
  casefold s := s.map fun c => if 65 ≤ c ∧ c ≤ 90 then c + 32 else c
  int s := (digits s).map Int.ofNat
  float := float
  json _ := none
  scannerDepth := 1000
  frames := 1000
  strOf _ := []
  html _ := []
  encode := encode
  digest b :=
    if b = ofText "\x7b\"artist\":\"b\",\"duration\":\"3:05\",\"title\":\"a\"\x7d" then "53a89be2b47762ff" else ""
  scalars_utf8Sig _ _ h := ascii_scalars h
  scalars_cp1251 _ _ h := ascii_scalars h
  scalars_html _ _ _ h := absurd h List.not_mem_nil
  length_utf8Sig _ _ h := ascii_length h
  length_cp1251 _ _ h := ascii_length h
  length_html _ := Nat.zero_le _

def csvImport (text : String) (h : ofText text ≠ [] ∧ (ofText text).length ≤ maxImportBytes) : ImportEnvelope where
  format := .csv
  content := ofText text
  schemaVersion := importEnvelopeVersion
  adapterId := "file"
  adapterVersion := "1"
  version_eq := rfl
  size_pos := h.1
  size_le := h.2
  adapter_ok := by decide

def header : List PyStr := ["title", "artist", "duration"].map lit

def oneSong : ImportEnvelope := csvImport "title,artist,duration\na,b,3:05" (by decide)

def twoSongs : ImportEnvelope := csvImport "title,artist,duration\nc,d,1e999\na,b,3:05" (by decide)

end Sample

theorem rows_isolated_one :
    parseImport Sample.library Sample.oneSong =
      .ok ⟨Sample.oneSong, "utf-8-sig",
        [(2, DataRow.csv Sample.header (lit "a,b,3:05"))].map fun p => p.2.isolated Sample.library p.1⟩ := by
  have husable : Usable Sample.library Sample.oneSong (lit "title,artist,duration\na,b,3:05") "utf-8-sig"
      [(2, DataRow.csv Sample.header (lit "a,b,3:05"))] := ⟨by rfl, by rfl, by decide⟩
  refine (rows_isolated_iff husable).mpr ⟨fun hfalse => hfalse, fun p hp => ?_⟩
  rw [List.mem_singleton.mp hp]
  rintro (⟨fields, ⟨⟩, -⟩ | ⟨fields, hsupplied, -, text, negative, hduration, -, hcolon, -⟩)
  have hfields : (DataRow.csv Sample.header (lit "a,b,3:05")).supplied Sample.library =
      some (mappingOf Sample.header (["a", "b", "3:05"].map lit)) := by rfl
  rw [hfields] at hsupplied
  cases hsupplied
  have htext : durationField (normalizeFields Sample.library
      (mappingOf Sample.header (["a", "b", "3:05"].map lit))) = some (.str (lit "3:05")) := by rfl
  rw [htext] at hduration
  cases hduration
  exact absurd hcolon (by decide)

/-- The duration of one row takes the other row with it. -/
theorem infinite_duration_escapes :
    Usable Sample.library Sample.twoSongs (lit "title,artist,duration\nc,d,1e999\na,b,3:05") "utf-8-sig"
        [(2, .csv Sample.header (lit "c,d,1e999")), (3, .csv Sample.header (lit "a,b,3:05"))] ∧
      parseImport Sample.library Sample.twoSongs = .error .overflow := by
  have husable : Usable Sample.library Sample.twoSongs (lit "title,artist,duration\nc,d,1e999\na,b,3:05")
      "utf-8-sig" [(2, .csv Sample.header (lit "c,d,1e999")), (3, .csv Sample.header (lit "a,b,3:05"))] :=
    ⟨by rfl, by rfl, by decide⟩
  refine ⟨husable, ?_⟩
  have hfirst : (DataRow.csv Sample.header (lit "c,d,1e999")).read Sample.library 2 = .error .overflow := by rfl
  rw [parseImport_eq husable fun hfalse => hfalse]
  unfold readRows
  rw [List.mapM_cons, hfirst]
  rfl

end AutPlay.Imports
