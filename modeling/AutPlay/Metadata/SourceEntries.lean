import AutPlay.Metadata.Source
import Mathlib.Data.Nat.Digits.Defs

/-!
# Entries of the evidence

* `kept`                  what is asked of the sanitizer: the entries that are valid on their own;
* `readExternalId_text`, `readPicture_asdict`     an entry that was read is read again as it is;
* `cleanField_eq`, `cleanExternalId_eq`           the sanitizer's own checks agree with the reader's;
* `readFields_kept`, `readExternalIds_kept`, `readPictures_kept`     a document that is read as a whole
                          is made of entries that are valid on their own.
-/

set_option linter.unusedSectionVars false

namespace AutPlay.Metadata.Evidence
open Jobs (JsonValue JsonObject)

/-! ## what is kept -/

def keptField (key : String) (value : JsonValue) : Option MetadataValue :=
  if key ∈ sourceFields then (validateValue key value).toOption else none

def keptExternalId (key : String) (value : JsonValue) : Option String :=
  if key ∈ externalKeys then (readExternalId key value).toOption else none

/-- The external identifiers that are valid on their own, in the order of their keys. -/
def keptExternalIds (external : Option (Dict String JsonValue)) : Dict String String :=
  .ofKeys externalKeys (by decide) fun key => (external.bind fun d => d.get? key).bind (keptExternalId key)

def keptPictures (tools : UrlTools) (pictures : List JsonValue) : List SourceArtwork :=
  pictures.filterMap fun picture => (readPicture tools picture).toOption

/-- **What is asked of the sanitizer**: the head, and the entries that are valid on their own. -/
def kept (tools : UrlTools) (entries fields : Dict String JsonValue) (provider sourceId : String) :
    SourceMetadata :=
  { schemaVersion := 1
    provider := provider
    sourceId := sourceId
    fields := fields.filterMap keptField
    externalIds := keptExternalIds ((entries.get? "external_ids").bind asDict)
    artwork := keptPictures tools (rawPictures entries) }

theorem toOption_eq_some {ε α : Type} {x : Except ε α} {a : α} : x.toOption = some a ↔ x = .ok a := by
  cases x with
  | error e =>
    exact ⟨fun h => Option.noConfusion rfl (heq_of_eq h), fun h => Except.noConfusion rfl rfl (heq_of_eq h)⟩
  | ok b => exact ⟨fun h => congrArg Except.ok (Option.some.inj h), fun h => congrArg some (Except.ok.inj h)⟩

/-- A traversal that succeeds is the list of what its elements give. -/
theorem filterMap_of_mapM {ε α β : Type} {f : α → Except ε β} {g : α → Option β} {xs : List α} {ys : List β}
    (h : xs.mapM f = .ok ys) (hg : ∀ x ∈ xs, g x = (f x).toOption) : xs.filterMap g = ys := by
  have hall := Result.mapM_forall₂ h
  clear h
  induction hall with
  | nil => rfl
  | @cons x y xs ys hxy _ ih =>
    have hx : g x = some y := (hg x List.mem_cons_self).trans (toOption_eq_some.mpr hxy)
    rw [List.filterMap_cons, hx]
    exact congrArg (y :: ·) (ih fun x' hx' => hg x' (List.mem_cons_of_mem _ hx'))

/-! ## texts -/

theorem boundedText_eq_ok {maximum : Nat} {value : JsonValue} {s : String} :
    boundedText maximum value = .ok s ↔
      value = .str s ∧ 1 ≤ s.toList.length ∧ s.toList.length ≤ maximum ∧ strip s = s ∧
        s.toList.any isControl = false := by
  cases value with
  | str text =>
    unfold boundedText
    dsimp only
    split
    · rename_i hbad
      refine ⟨fun h => Except.noConfusion rfl rfl (heq_of_eq h), ?_⟩
      rintro ⟨heq, hpos, hle, hstrip, hprint⟩
      cases heq
      rcases hbad with h | h | h | h
      · omega
      · omega
      · exact absurd hstrip.symm h
      · rw [hprint] at h
        cases h
    · rename_i hok
      rw [not_or, not_or, not_or, not_not] at hok
      obtain ⟨hpos, hle, hstrip, hprint⟩ := hok
      constructor
      · intro h
        cases h
        exact ⟨rfl, by omega, by omega, hstrip.symm, Bool.eq_false_of_not_eq_true hprint⟩
      · rintro ⟨heq, -⟩
        cases heq
        rfl
  | _ =>
    refine ⟨fun h => Except.noConfusion rfl rfl (heq_of_eq h), fun h => ?_⟩
    cases h.1

theorem boundedText_text {maximum : Nat} {value : JsonValue} {s : String}
    (h : boundedText maximum value = .ok s) : value = .str s :=
  (boundedText_eq_ok.mp h).1

theorem opaqueSourceId_text {value : JsonValue} {s : String} (h : opaqueSourceId value = .ok s) :
    value = .str s := by
  unfold opaqueSourceId at h
  obtain ⟨identity, hb, h⟩ := Result.bind_eq_ok.mp h
  split at h
  · cases h
  · cases h
    exact boundedText_text hb

theorem sourceArtUrl_text {tools : UrlTools} {value : JsonValue} {s : String}
    (h : sourceArtUrl tools value = .ok s) : value = .str s := by
  unfold sourceArtUrl at h
  obtain ⟨url, hb, h⟩ := Result.bind_eq_ok.mp h
  split at h
  · cases h
    exact boundedText_text hb
  · cases h

theorem readExternalId_eq_ok {key : String} {value : JsonValue} {s : String} :
    readExternalId key value = .ok s ↔
      boundedText (if key = "isrc" then 12 else 128) value = .ok s ∧ externalPattern key s = true := by
  unfold readExternalId
  rw [Result.bind_eq_ok]
  constructor
  · rintro ⟨identity, hb, h⟩
    split at h
    · rename_i hpattern
      cases h
      exact ⟨hb, hpattern⟩
    · cases h
  · rintro ⟨hb, hpattern⟩
    refine ⟨s, hb, ?_⟩
    rw [if_pos hpattern]

theorem readExternalId_text {key : String} {value : JsonValue} {s : String}
    (h : readExternalId key value = .ok s) : value = .str s :=
  boundedText_text (readExternalId_eq_ok.mp h).1

/-! ## fields -/

theorem sourceFields_sub {key : String} (h : key ∈ sourceFields) : key ∈ allFields :=
  (List.mem_filter.mp h).1

theorem cleanField_eq : cleanField = keptField := by
  funext key value
  unfold cleanField keptField
  split
  · rename_i hkey
    have hknown : ((Dict.single key value).items.any fun e => e.1 ∉ allowed false) = false := by
      rw [List.any_eq_false]
      intro e he
      rw [List.mem_singleton.mp he, decide_eq_true_eq, not_not]
      exact sourceFields_sub hkey
    have hvalidate : validateFields (.single key value) false =
        (Dict.single key value).mapM validateValue := by
      unfold validateFields
      rw [if_neg (by rw [hknown]; exact Bool.false_ne_true)]
    rw [hvalidate]
    cases hv : validateValue key value with
    | ok v =>
      have hsingle : (Dict.single key value).mapM validateValue = .ok (Dict.single key v) := by
        rw [Dict.mapM_eq_ok]
        have hentry : Dict.mapEntry validateValue (key, value) = .ok (key, v) :=
          Dict.mapEntry_eq_ok.mpr ⟨rfl, hv⟩
        exact Result.bind_of_ok hentry (Result.bind_of_ok rfl rfl)
      rw [hsingle]
      dsimp only
      rw [Dict.get?_single, if_pos rfl]
      rfl
    | error err =>
      cases hm : (Dict.single key value).mapM validateValue with
      | error err' => rfl
      | ok d =>
        obtain ⟨e, he⟩ := Result.ok_of_mem_mapM (Dict.mapM_eq_ok.mp hm) List.mem_cons_self
        have hval := (Dict.mapEntry_eq_ok.mp he).2
        rw [hv] at hval
        cases hval
  · rfl

theorem readFields_kept {raw : Dict String JsonValue} {fields : Dict String MetadataValue}
    (hsource : ∀ e ∈ raw.items, e.1 ∈ sourceFields) (h : validateFields raw false = .ok fields) :
    raw.filterMap keptField = fields := by
  unfold validateFields at h
  split at h
  · cases h
  · refine Dict.ext_items (filterMap_of_mapM (Dict.mapM_eq_ok.mp h) fun e he => ?_)
    unfold Dict.keepEntry Dict.mapEntry keptField
    rw [if_pos (hsource e he)]
    cases validateValue e.1 e.2 with
    | error err => rfl
    | ok v => rfl

theorem keptField_eq_some {key : String} {value : JsonValue} {v : MetadataValue} :
    keptField key value = some v ↔ key ∈ sourceFields ∧ validateValue key value = .ok v := by
  unfold keptField
  split
  · rename_i hkey
    rw [toOption_eq_some]
    exact ⟨fun h => ⟨hkey, h⟩, fun h => h.2⟩
  · rename_i hkey
    exact ⟨fun h => Option.noConfusion rfl (heq_of_eq h), fun h => absurd h.1 hkey⟩

/-- Each field is one of a source, with a value that passes the checks. -/
def SourceChecked (fields : Dict String MetadataValue) : Prop :=
  ∀ key v, fields.get? key = some v → key ∈ sourceFields ∧ validateValue key v.raw = .ok v

theorem sourceChecked_filterMap (raw : Dict String JsonValue) : SourceChecked (raw.filterMap keptField) := by
  intro key v hv
  rw [Dict.get?_filterMap, Option.bind_eq_some_iff] at hv
  obtain ⟨value, _, hkept⟩ := hv
  obtain ⟨hkey, hvalue⟩ := keptField_eq_some.mp hkept
  exact ⟨hkey, validateValue_raw hvalue⟩

theorem SourceChecked.checked {fields : Dict String MetadataValue} (h : SourceChecked fields) :
    Checked fields := fun key v hv => ⟨sourceFields_sub (h key v hv).1, (h key v hv).2⟩

/-- A value that passes the checks holds no long number. -/
theorem dumpable_of_validateValue {key : String} {v : MetadataValue} (h : validateValue key v.raw = .ok v) :
    Dumpable v.raw := by
  cases v with
  | null => exact trivial
  | text s => exact trivial
  | genres items =>
    refine (dumpable_list _).mpr fun v hv => ?_
    obtain ⟨s, _, rfl⟩ := List.mem_map.mp hv
    exact trivial
  | number n =>
    have hn : 1 ≤ n ∧ n ≤ 9999 := by
      unfold MetadataValue.raw validateValue at h
      dsimp only at h
      split at h
      · unfold numberValue at h
        dsimp only at h
        split at h
        · assumption
        · cases h
      · split at h
        · cases h
        · cases h
    have hlen := Nat.toDigits_length 10 n.natAbs 4 (by decide) (by omega)
    show (Nat.toDigits 10 n.natAbs).length ≤ 4300
    omega

theorem dumpable_fieldsDocument {fields : Dict String MetadataValue} (h : Checked fields) :
    Dumpable (fieldsDocument fields) := by
  refine (dumpable_dict _).mpr fun e he => ?_
  obtain ⟨e', he', rfl⟩ := List.mem_map.mp he
  exact dumpable_of_validateValue (h e'.1 e'.2 (Dict.get?_eq_some.mpr he')).2

/-! ## external identifiers -/

theorem alphanumeric_range {c : Char} (h : isAlphanumeric c = true) : 48 ≤ c.toNat ∧ c.toNat ≤ 122 := by
  unfold isAlphanumeric isLetter Char.isDigit at h
  simp only [Bool.or_eq_true, Bool.and_eq_true, decide_eq_true_eq, Char.le_def, UInt32.le_iff_toNat_le] at h
  have hA : 'A'.val.toNat = 65 := rfl
  have hZ : 'Z'.val.toNat = 90 := rfl
  have ha : 'a'.val.toNat = 97 := rfl
  have hz : 'z'.val.toNat = 122 := rfl
  have h0 : '0'.val.toNat = 48 := rfl
  have h9 : '9'.val.toNat = 57 := rfl
  rw [hA, hZ, ha, hz] at h
  show 48 ≤ c.val.toNat ∧ c.val.toNat ≤ 122
  omega

/-- The characters of an identifier are printable ASCII. -/
theorem pattern_range {key s : String} (h : externalPattern key s = true) {c : Char} (hc : c ∈ s.toList) :
    45 ≤ c.toNat ∧ c.toNat ≤ 122 := by
  unfold externalPattern at h
  split at h
  · have hletter {c : Char} (h : decide ('A' ≤ c) && decide (c ≤ 'Z') || c.isDigit) :
        isAlphanumeric c = true := by
      unfold isAlphanumeric isLetter
      rcases Bool.or_eq_true .. |>.mp h with h | h
      · rw [h, Bool.true_or, Bool.true_or]
      · rw [h, Bool.or_true]
    unfold isIsrc at h
    dsimp only at h
    rw [Bool.and_eq_true, Bool.and_eq_true, Bool.and_eq_true, List.all_eq_true, List.all_eq_true,
      List.all_eq_true] at h
    have hsplit : s.toList = s.toList.take 2 ++ ((s.toList.drop 2).take 3 ++ s.toList.drop 5) := by
      have hdrop : (s.toList.drop 2).drop 3 = s.toList.drop 5 := List.drop_drop
      rw [← hdrop, List.take_append_drop, List.take_append_drop]
    have hrange : isAlphanumeric c = true := by
      rw [hsplit, List.mem_append, List.mem_append] at hc
      rcases hc with hc | hc | hc
      · exact hletter (Bool.or_eq_true .. |>.mpr (Or.inl (h.1.1.2 c hc)))
      · exact hletter (h.1.2 c hc)
      · exact hletter (Bool.or_eq_true .. |>.mpr (Or.inr (h.2 c hc)))
    have := alphanumeric_range hrange
    omega
  · unfold isNativeId at h
    rw [Bool.and_eq_true, Bool.and_eq_true, List.all_eq_true] at h
    have hchar := h.2 c hc
    rw [Bool.or_eq_true, Bool.or_eq_true, Bool.or_eq_true] at hchar
    rcases hchar with ((hchar | hchar) | hchar) | hchar
    · have := alphanumeric_range hchar
      omega
    · rw [of_decide_eq_true hchar]
      decide
    · rw [of_decide_eq_true hchar]
      decide
    · rw [of_decide_eq_true hchar]
      decide

theorem pattern_length {key s : String} (h : externalPattern key s = true) :
    1 ≤ s.toList.length ∧ s.toList.length ≤ if key = "isrc" then 12 else 128 := by
  unfold externalPattern at h
  split at h
  · rename_i hkey
    rw [if_pos hkey]
    unfold isIsrc at h
    dsimp only at h
    rw [Bool.and_eq_true, Bool.and_eq_true, Bool.and_eq_true, decide_eq_true_eq] at h
    omega
  · rename_i hkey
    rw [if_neg hkey]
    unfold isNativeId at h
    rw [Bool.and_eq_true, Bool.and_eq_true, decide_eq_true_eq, decide_eq_true_eq] at h
    exact h.1

/-- The sanitizer's check of an identifier says no less than the reader's. -/
theorem readExternalId_of_pattern {key s : String} (h : externalPattern key s = true) :
    readExternalId key (.str s) = .ok s := by
  have hlen := pattern_length h
  refine readExternalId_eq_ok.mpr ⟨boundedText_eq_ok.mpr ⟨rfl, hlen.1, hlen.2, ?_, ?_⟩, h⟩
  · refine strip_eq_self fun c hc => ?_
    have := pattern_range h hc
    unfold isSpace
    dsimp only
    simp only [Bool.or_eq_false_iff, Bool.and_eq_false_iff, decide_eq_false_iff_not]
    omega
  · rw [List.any_eq_false]
    intro c hc
    have := pattern_range h hc
    unfold isControl
    rw [Bool.or_eq_true, Bool.and_eq_true, decide_eq_true_eq, decide_eq_true_eq, decide_eq_true_eq]
    omega

theorem keptExternalId_eq_some {key : String} {value : JsonValue} {s : String} :
    keptExternalId key value = some s ↔ key ∈ externalKeys ∧ readExternalId key value = .ok s := by
  unfold keptExternalId
  split
  · rename_i hkey
    rw [toOption_eq_some]
    exact ⟨fun h => ⟨hkey, h⟩, fun h => h.2⟩
  · rename_i hkey
    exact ⟨fun h => Option.noConfusion rfl (heq_of_eq h), fun h => absurd h.1 hkey⟩

theorem cleanExternalId_eq : cleanExternalId = keptExternalId := by
  funext key value
  apply Option.ext
  intro s
  rw [keptExternalId_eq_some]
  constructor
  · intro h
    unfold cleanExternalId at h
    split at h
    · split at h
      · rename_i hok
        cases h
        exact ⟨hok.1, readExternalId_of_pattern hok.2⟩
      · cases h
    · cases h
  · rintro ⟨hkey, h⟩
    cases readExternalId_text h
    unfold cleanExternalId
    dsimp only
    rw [if_pos ⟨hkey, (readExternalId_eq_ok.mp h).2⟩]

/-- The loop over the keys. -/
theorem foldlM_addExternalId {external : Dict String JsonValue} {keys : List String}
    {ids ids' : Dict String String} (hsub : ∀ k ∈ keys, k ∈ externalKeys) (hnodup : keys.Nodup)
    (hnew : ∀ k ∈ keys, ids.get? k = none) (h : keys.foldlM (addExternalId external) ids = .ok ids') :
    ids'.items = ids.items ++ (keys.map fun k => (k, ())).filterMap
      (Dict.keepEntry fun k _ => (external.get? k).bind (keptExternalId k)) := by
  induction keys generalizing ids with
  | nil =>
    cases h
    exact (List.append_nil _).symm
  | cons k keys ih =>
    rw [List.foldlM_cons] at h
    obtain ⟨ids₁, hadd, h⟩ := Result.bind_eq_ok.mp h
    obtain ⟨hk, hnodup⟩ := List.nodup_cons.mp hnodup
    have hrest (ids : Dict String String) :=
      @ih ids (fun k' hk' => hsub k' (List.mem_cons_of_mem _ hk')) hnodup
    rw [List.map_cons, List.filterMap_cons]
    unfold addExternalId at hadd
    split at hadd
    · rename_i hnone
      cases hadd
      have hskip : Dict.keepEntry (fun k (_ : Unit) => (external.get? k).bind (keptExternalId k)) (k, ()) =
          none := by
        unfold Dict.keepEntry
        dsimp only
        rw [hnone]
        rfl
      rw [hskip]
      exact hrest ids (fun k' hk' => hnew k' (List.mem_cons_of_mem _ hk')) h
    · rename_i value hvalue
      obtain ⟨s, hs, rfl⟩ := Result.map_eq_ok.mp hadd
      have hone : Dict.keepEntry (fun k (_ : Unit) => (external.get? k).bind (keptExternalId k)) (k, ()) =
          some (k, s) := by
        refine Dict.keepEntry_eq_some.mpr ⟨rfl, ?_⟩
        rw [hvalue]
        exact keptExternalId_eq_some.mpr ⟨hsub k List.mem_cons_self, hs⟩
      rw [hone]
      dsimp only
      have hnew' : ∀ k' ∈ keys, (ids.set k s).get? k' = none := by
        intro k' hk'
        have hne : k' ≠ k := by
          rintro rfl
          exact hk hk'
        rw [Dict.get?_set_ne _ _ hne]
        exact hnew k' (List.mem_cons_of_mem _ hk')
      rw [hrest (ids.set k s) hnew' h, Dict.items_set_of_none (hnew k List.mem_cons_self), List.append_assoc]
      rfl

/-- The loop goes through where each identifier is read. -/
theorem foldlM_addExternalId_ok {external : Dict String JsonValue} {keys : List String}
    {ids : Dict String String}
    (h : ∀ k ∈ keys, ∀ v, external.get? k = some v → ∃ s, readExternalId k v = .ok s) :
    ∃ ids', keys.foldlM (addExternalId external) ids = .ok ids' := by
  induction keys generalizing ids with
  | nil => exact ⟨ids, rfl⟩
  | cons k keys ih =>
    have hadd : ∃ ids₁, addExternalId external ids k = .ok ids₁ := by
      unfold addExternalId
      cases hv : external.get? k with
      | none => exact ⟨ids, rfl⟩
      | some v =>
        obtain ⟨s, hs⟩ := h k List.mem_cons_self v hv
        exact ⟨ids.set k s, Result.map_eq_ok.mpr ⟨s, hs, rfl⟩⟩
    obtain ⟨ids₁, hids⟩ := hadd
    obtain ⟨ids', h'⟩ := @ih ids₁ fun k' hk' => h k' (List.mem_cons_of_mem _ hk')
    exact ⟨ids', Result.bind_of_ok hids h'⟩

theorem asDict_items (d : Dict String JsonValue) : asDict (.dict d.items) = some d := by
  unfold asDict
  dsimp only
  rw [dif_pos d.nodup]

theorem asDict_eq_some {v : JsonValue} {d : Dict String JsonValue} :
    asDict v = some d ↔ v = .dict d.items := by
  refine ⟨fun h => ?_, fun h => h ▸ asDict_items d⟩
  unfold asDict at h
  split at h
  · split at h
    · cases h
      rfl
    · cases h
  · cases h

theorem readExternalIds_kept {value : JsonValue} {ids : Dict String String}
    (h : readExternalIds value = .ok ids) : keptExternalIds (asDict value) = ids := by
  unfold readExternalIds at h
  split at h
  · cases h
  · rename_i external hexternal
    rw [hexternal]
    split at h
    · cases h
    · have hitems := foldlM_addExternalId (fun k hk => hk) (by decide)
        (fun k _ => Dict.get?_empty k) h
      exact Dict.ext_items hitems.symm

/-- Identifiers that are valid on their own are read. -/
theorem readExternalIds_of_valid {d : Dict String JsonValue}
    (h : ∀ k v, d.get? k = some v → k ∈ externalKeys ∧ ∃ s, readExternalId k v = .ok s) :
    readExternalIds (.dict d.items) = .ok (keptExternalIds (some d)) := by
  have hknown : (d.items.any fun e => e.1 ∉ externalKeys) = false := by
    rw [List.any_eq_false]
    intro e he
    rw [decide_eq_true_eq, not_not]
    exact (h e.1 e.2 (Dict.get?_eq_some.mpr he)).1
  obtain ⟨ids, hids⟩ :=
    @foldlM_addExternalId_ok d externalKeys .empty fun k _ v hv => (h k v hv).2
  have hread : readExternalIds (.dict d.items) = .ok ids := by
    unfold readExternalIds
    rw [asDict_items]
    dsimp only
    rw [if_neg (by rw [hknown]; exact Bool.false_ne_true)]
    exact hids
  rw [hread, ← asDict_items, readExternalIds_kept hread]

theorem get?_keptExternalIds {external : Option (Dict String JsonValue)} {k : String} :
    (keptExternalIds external).get? k = (external.bind fun d => d.get? k).bind (keptExternalId k) := by
  by_cases hk : k ∈ externalKeys
  · exact Dict.get?_ofKeys _ _ hk
  · have hnone (v : JsonValue) : keptExternalId k v = none := if_neg hk
    have hleft : (keptExternalIds external).get? k = none := by
      unfold keptExternalIds Dict.ofKeys
      rw [Dict.get?_filterMap, Option.bind_eq_none_iff]
      intro _ hu
      obtain ⟨k', hk', heq⟩ := List.mem_map.mp (Dict.get?_eq_some.mp hu)
      cases heq
      exact absurd hk' hk
    rw [hleft]
    cases external.bind fun d => d.get? k with
    | none => rfl
    | some v => exact (hnone v).symm

/-! ## pictures -/

theorem readPicture_eq_ok {tools : UrlTools} {item : JsonValue} {a : SourceArtwork} :
    readPicture tools item = .ok a ↔
      ∃ d : Dict String JsonValue, item = .dict d.items ∧ d.items.length = 3 ∧
        d.get? "kind" = some (.str a.kind) ∧ d.get? "url" = some (.str a.url) ∧
        d.get? "source_id" = some (.str a.sourceId) ∧ a.kind ∈ artworkKinds ∧
        sourceArtUrl tools (.str a.url) = .ok a.url ∧ opaqueSourceId (.str a.sourceId) = .ok a.sourceId := by
  constructor
  · intro h
    unfold readPicture at h
    split at h
    · cases h
    · rename_i d hd
      split at h
      · cases h
      · rename_i hlen
        split at h
        · rename_i kind url sourceId hkind hurl hsource
          split at h
          · rename_i hin
            obtain ⟨url', hurl', h⟩ := Result.bind_eq_ok.mp h
            obtain ⟨source', hsource', h⟩ := Result.bind_eq_ok.mp h
            cases h
            cases sourceArtUrl_text hurl'
            cases opaqueSourceId_text hsource'
            exact ⟨d, asDict_eq_some.mp hd, not_not.mp hlen, hkind, hurl, hsource, hin, hurl', hsource'⟩
          · cases h
        · cases h
  · rintro ⟨d, rfl, hlen, hkind, hurl, hsource, hin, hurl', hsource'⟩
    unfold readPicture
    rw [asDict_items]
    dsimp only
    rw [if_neg (not_not.mpr hlen), hkind, hurl, hsource]
    dsimp only
    rw [if_pos hin]
    exact Result.bind_of_ok hurl' (Result.bind_of_ok hsource' rfl)

/-- The entries of a picture. -/
def SourceArtwork.entries (a : SourceArtwork) : Dict String JsonValue :=
  ⟨[("kind", .str a.kind), ("url", .str a.url), ("source_id", .str a.sourceId)],
    show (["kind", "url", "source_id"] : List String).Nodup by decide⟩

theorem readPicture_asdict_eq {tools : UrlTools} {a b : SourceArtwork}
    (h : readPicture tools a.asdict = .ok b) : b = a := by
  obtain ⟨d, hd, _, hkind, hurl, hsource, _⟩ := readPicture_eq_ok.mp h
  have hentries : d = a.entries := Dict.ext_items (JsonValue.dict.inj hd).symm
  subst hentries
  have hk : a.entries.get? "kind" = some (.str a.kind) := rfl
  have hu : a.entries.get? "url" = some (.str a.url) := rfl
  have hs : a.entries.get? "source_id" = some (.str a.sourceId) := rfl
  rw [hk] at hkind
  rw [hu] at hurl
  rw [hs] at hsource
  cases a
  cases b
  cases hkind
  cases hurl
  cases hsource
  rfl

theorem readPicture_asdict {tools : UrlTools} {item : JsonValue} {a : SourceArtwork}
    (h : readPicture tools item = .ok a) : readPicture tools a.asdict = .ok a := by
  obtain ⟨_, _, _, _, _, _, hin, hurl, hsource⟩ := readPicture_eq_ok.mp h
  exact readPicture_eq_ok.mpr ⟨a.entries, rfl, rfl, rfl, rfl, rfl, hin, hurl, hsource⟩

/-- A picture that is read has the entries of its document, in some order. -/
theorem readPicture_perm {tools : UrlTools} {item : JsonValue} {a : SourceArtwork}
    (h : readPicture tools item = .ok a) :
    ∃ fields, item = .dict fields ∧ fields.Perm a.entries.items := by
  obtain ⟨d, rfl, hlen, hkind, hurl, hsource, _⟩ := readPicture_eq_ok.mp h
  refine ⟨d.items, rfl, ?_⟩
  have hsub : a.entries.items ⊆ d.items := by
    intro e he
    have he : e ∈ [("kind", JsonValue.str a.kind), ("url", .str a.url), ("source_id", .str a.sourceId)] := he
    simp only [List.mem_cons, List.not_mem_nil, or_false] at he
    rcases he with rfl | rfl | rfl
    · exact Dict.get?_eq_some.mp hkind
    · exact Dict.get?_eq_some.mp hurl
    · exact Dict.get?_eq_some.mp hsource
  have hnodup : a.entries.items.Nodup := List.Nodup.of_map Prod.fst a.entries.nodup
  exact ((List.subperm_of_subset hnodup hsub).perm_of_length_le (by rw [hlen]; exact le_rfl)).symm

theorem encodedSize_picture {tools : UrlTools} {item : JsonValue} {a : SourceArtwork}
    (h : readPicture tools item = .ok a) : encodedSize item = encodedSize a.asdict := by
  obtain ⟨fields, rfl, hperm⟩ := readPicture_perm h
  exact encodedSize_perm hperm

theorem dumpable_asdict (a : SourceArtwork) : Dumpable a.asdict := ⟨trivial, trivial, trivial, trivial⟩

theorem dumpable_picture {tools : UrlTools} {item : JsonValue} {a : SourceArtwork}
    (h : readPicture tools item = .ok a) : Dumpable item := by
  obtain ⟨fields, rfl, hperm⟩ := readPicture_perm h
  have hall := (dumpable_dict a.entries.items).mp (dumpable_asdict a)
  exact (dumpable_dict fields).mpr fun e he => hall e (hperm.subset he)

theorem readPictures_kept {tools : UrlTools} {value : JsonValue} {artwork : List SourceArtwork}
    (h : readPictures tools value = .ok artwork) :
    ∃ pictures, value = .list pictures ∧ pictures.length ≤ 4 ∧ keptPictures tools pictures = artwork := by
  unfold readPictures at h
  split at h
  · rename_i pictures
    split at h
    · cases h
    · rename_i hfew
      exact ⟨pictures, rfl, by omega, filterMap_of_mapM h fun _ _ => rfl⟩
  · cases h

theorem readPictures_one {tools : UrlTools} {picture : JsonValue} {artwork : List SourceArtwork} :
    readPictures tools (.list [picture]) = .ok artwork ↔
      ∃ a, readPicture tools picture = .ok a ∧ artwork = [a] := by
  have hread : readPictures tools (.list [picture]) = [picture].mapM (readPicture tools) := by
    unfold readPictures
    exact if_neg (by rw [List.length_singleton]; decide)
  rw [hread, List.mapM_cons]
  constructor
  · intro h
    obtain ⟨a, ha, h⟩ := Result.bind_eq_ok.mp h
    cases h
    exact ⟨a, ha, rfl⟩
  · rintro ⟨a, ha, rfl⟩
    exact Result.bind_of_ok ha rfl

/-- Pictures that were read are read again. -/
theorem readPictures_document {tools : UrlTools} {artwork : List SourceArtwork} (hfew : artwork.length ≤ 4)
    (h : ∀ a ∈ artwork, readPicture tools a.asdict = .ok a) :
    readPictures tools (artworkDocument artwork) = .ok artwork := by
  unfold readPictures artworkDocument
  dsimp only
  rw [List.length_map, if_neg (by omega)]
  exact Result.mapM_map_eq_ok h

theorem readPictures_document_eq {tools : UrlTools} {artwork artwork' : List SourceArtwork}
    (h : readPictures tools (artworkDocument artwork) = .ok artwork') : artwork' = artwork := by
  unfold readPictures artworkDocument at h
  dsimp only at h
  split at h
  · cases h
  · have hone : ∀ v ∈ artwork.map SourceArtwork.asdict, ∀ a, readPicture tools v = .ok a → a.asdict = v := by
      intro v hv a ha
      obtain ⟨b, _, rfl⟩ := List.mem_map.mp hv
      rw [readPicture_asdict_eq ha]
    have hsame : artwork'.map SourceArtwork.asdict = (artwork.map SourceArtwork.asdict).map fun v => v :=
      Result.map_eq_of_mapM h hone
    rw [List.map_id'] at hsame
    refine List.map_injective_iff.mpr ?_ hsame
    intro a b hab
    cases a
    cases b
    cases hab
    rfl

theorem mem_keptPictures {tools : UrlTools} {pictures : List JsonValue} {a : SourceArtwork} :
    a ∈ keptPictures tools pictures ↔ ∃ p ∈ pictures, readPicture tools p = .ok a := by
  unfold keptPictures
  rw [List.mem_filterMap]
  exact exists_congr fun p => and_congr Iff.rfl toOption_eq_some

end AutPlay.Metadata.Evidence
