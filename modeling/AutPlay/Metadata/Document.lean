import AutPlay.Metadata.Fields

/-!
# Descriptions and where they come from

A description holds a value and the evidence of it for each of its fields.

* `MetadataDocument.merge`    a patch merged in, field by field;
* `MetadataDocument.Sound`    each field has its evidence and a checked value;
* `Sound.merge`               a merge keeps that;
* `merge_user_locked`         a merge that is not the user's leaves the user's fields alone.
-/

set_option linter.unusedSectionVars false

namespace AutPlay.Metadata

inductive MetadataSource
  | embedded
  | sourceNative
  | musicbrainz
  | user
  deriving DecidableEq

structure FieldEvidence where
  source : MetadataSource
  sourceId : String
  observedAt : String
  locked : Bool := false
  normalizationVersion : String := "lookup-v1"
  deriving DecidableEq

structure MetadataDocument where
  fields : Dict String MetadataValue
  provenance : Dict String FieldEvidence

namespace MetadataDocument

/-- The body of `merge`'s loop. -/
def mergeField (evidence : FieldEvidence) (fillOnly : Bool) (doc : MetadataDocument)
    (entry : String × MetadataValue) : MetadataDocument :=
  if evidence.source ≠ .user ∧
      (doc.provenance.get? entry.1).any (fun old => old.locked || old.source = .user) then doc
  else if evidence.source ≠ .user ∧ entry.2 = .null then doc
  else if fillOnly ∧ (doc.fields.get? entry.1).any (fun v => v ≠ .null) then doc
  else
    { fields := doc.fields.set entry.1 entry.2
      provenance := doc.provenance.set entry.1 evidence }

/-- **`merge`**. -/
def merge (doc : MetadataDocument) (fields : Dict String MetadataValue) (evidence : FieldEvidence)
    (fillOnly : Bool) : Except ValueError MetadataDocument :=
  (validateFields (fields.mapValues MetadataValue.raw) (evidence.source = .user)).map
    fun validated =>
    let evidence := if evidence.source = .user then { evidence with locked := true } else evidence
    validated.items.foldl (mergeField evidence fillOnly) doc

/-- The fields that pass the test, each with its evidence. -/
def restrict (doc : MetadataDocument) (keep : String → FieldEvidence → Bool) :
    MetadataDocument where
  fields := doc.fields.filter fun key _ => (doc.provenance.get? key).all (keep key)
  provenance := doc.provenance.filter keep

/-! ## the laws of a description -/

/-- **A sound description**: the fields and the evidence stand under the same keys, and the values
pass the checks. -/
structure Sound (doc : MetadataDocument) : Prop where
  sameKeys : ∀ key, doc.fields.has key = doc.provenance.has key
  checked : Checked doc.fields

/-- The user's own edit stands there. -/
def UserLocked (doc : MetadataDocument) (key : String) : Prop :=
  ∃ evidence, doc.provenance.get? key = some evidence ∧ evidence.source = .user ∧
    evidence.locked = true

/-- The field stands as it stood. -/
structure Same (key : String) (doc doc' : MetadataDocument) : Prop where
  value : doc'.fields.get? key = doc.fields.get? key
  evidence : doc'.provenance.get? key = doc.provenance.get? key

theorem Same.refl (key : String) (doc : MetadataDocument) : Same key doc doc := ⟨rfl, rfl⟩

theorem Same.trans {key : String} {a b c : MetadataDocument} (h : Same key a b)
    (h' : Same key b c) : Same key a c :=
  ⟨h'.value.trans h.value, h'.evidence.trans h.evidence⟩

theorem UserLocked.of_same {key : String} {doc doc' : MetadataDocument}
    (h : doc.UserLocked key) (hs : Same key doc doc') : doc'.UserLocked key := by
  obtain ⟨evidence, he, hsource⟩ := h
  exact ⟨evidence, hs.evidence.trans he, hsource⟩

theorem sound_empty : Sound ⟨.empty, .empty⟩ := ⟨fun _ => rfl, fun _ _ h => by cases h⟩

/-! ### one field -/

section
variable {evidence : FieldEvidence} {fillOnly : Bool} {doc : MetadataDocument}
  {entry : String × MetadataValue}

/-- A turn leaves the description, or sets the field and its evidence. -/
theorem mergeField_cases :
    mergeField evidence fillOnly doc entry = doc ∨
    mergeField evidence fillOnly doc entry =
      ⟨doc.fields.set entry.1 entry.2, doc.provenance.set entry.1 evidence⟩ ∧
      (evidence.source = .user ∨
        (doc.provenance.get? entry.1).any (fun old => old.locked || old.source = .user) = false) := by
  unfold mergeField
  split
  · exact Or.inl rfl
  · rename_i hkept
    split
    · exact Or.inl rfl
    · split
      · exact Or.inl rfl
      · refine Or.inr ⟨rfl, ?_⟩
        by_cases huser : evidence.source = .user
        · exact Or.inl huser
        · right
          cases hany : (doc.provenance.get? entry.1).any
              (fun old => old.locked || old.source = .user) with
          | false => rfl
          | true => exact absurd ⟨huser, hany⟩ hkept

theorem has_set {α : Type} (d : Dict String α) (key key' : String) (v : α) :
    (d.set key v).has key' = (decide (key' = key) || d.has key') := by
  unfold Dict.has
  rw [Dict.get?_set]
  by_cases h : key' = key
  · rw [if_pos h, decide_eq_true h]
    rfl
  · rw [if_neg h, decide_eq_false h, Bool.false_or]

theorem Sound.mergeField (h : doc.Sound)
    (hentry : entry.1 ∈ allFields ∧ validateValue entry.1 entry.2.raw = .ok entry.2) :
    (mergeField evidence fillOnly doc entry).Sound := by
  rcases @mergeField_cases evidence fillOnly doc entry with heq | ⟨heq, _⟩
  · rw [heq]
    exact h
  · rw [heq]
    refine ⟨?_, ?_⟩
    · intro key
      show (doc.fields.set _ _).has key = (doc.provenance.set _ _).has key
      rw [has_set, has_set, h.sameKeys key]
    · intro key v hv
      rw [Dict.get?_set] at hv
      split at hv
      · rename_i hkey
        cases hv
        rw [hkey]
        exact hentry
      · exact h.checked key v hv

/-- Another field stays. -/
theorem mergeField_other {key : String} (h : key ≠ entry.1) :
    Same key doc (mergeField evidence fillOnly doc entry) := by
  rcases @mergeField_cases evidence fillOnly doc entry with heq | ⟨heq, _⟩
  · rw [heq]
    exact .refl key doc
  · rw [heq]
    refine ⟨?_, ?_⟩
    · show (doc.fields.set _ _).get? key = _
      rw [Dict.get?_set, if_neg h]
    · show (doc.provenance.set _ _).get? key = _
      rw [Dict.get?_set, if_neg h]

/-- The user's field stays, whoever else writes. -/
theorem mergeField_user_locked {key : String} (huser : evidence.source ≠ .user)
    (h : doc.UserLocked key) : Same key doc (mergeField evidence fillOnly doc entry) := by
  by_cases hkey : key = entry.1
  · rcases @mergeField_cases evidence fillOnly doc entry with heq | ⟨_, hfree⟩
    · rw [heq]
      exact .refl key doc
    · obtain ⟨old, hold, _, hlocked⟩ := h
      rcases hfree with hu | hfree
      · exact absurd hu huser
      · rw [← hkey, hold, Option.any_some, hlocked, Bool.true_or] at hfree
        cases hfree
  · exact mergeField_other hkey

end

/-! ### a patch -/

section
variable {evidence : FieldEvidence} {fillOnly : Bool} {doc doc' : MetadataDocument}
  {fields : Dict String MetadataValue}

/-- What a merge did: the checked fields, one turn each. -/
theorem merge_eq_ok (h : doc.merge fields evidence fillOnly = .ok doc') :
    ∃ validated : Dict String MetadataValue, ∃ evidence' : FieldEvidence,
      Checked validated ∧ (∀ key, validated.has key = true ↔ fields.has key = true) ∧
      evidence'.source = evidence.source ∧
      doc' = validated.items.foldl (mergeField evidence' fillOnly) doc := by
  unfold merge at h
  cases hv : validateFields (fields.mapValues MetadataValue.raw) (evidence.source = .user) with
  | error e =>
    rw [hv] at h
    cases h
  | ok validated =>
    rw [hv] at h
    cases h
    obtain ⟨hchecked, hkeys⟩ := validateFields_checked hv
    refine ⟨validated, _, hchecked, ?_, ?_, rfl⟩
    · intro key
      rw [hkeys key, Dict.has_mapValues]
    · split <;> rfl

theorem Sound.merge (hdoc : doc.Sound) (h : doc.merge fields evidence fillOnly = .ok doc') :
    doc'.Sound := by
  obtain ⟨validated, evidence', hchecked, _, _, rfl⟩ := merge_eq_ok h
  have hall : ∀ e ∈ validated.items, e.1 ∈ allFields ∧ validateValue e.1 e.2.raw = .ok e.2 :=
    fun e he => hchecked e.1 e.2 (Dict.get?_eq_some.mpr he)
  generalize validated.items = items at hall
  clear h
  induction items generalizing doc with
  | nil => exact hdoc
  | cons e items ih =>
    exact ih (hdoc.mergeField (hall e List.mem_cons_self))
      fun e' he' => hall e' (List.mem_cons_of_mem _ he')

/-- **A merge that is not the user's leaves the user's fields alone.** -/
theorem merge_user_locked {key : String} (hlocked : doc.UserLocked key)
    (huser : evidence.source ≠ .user) (h : doc.merge fields evidence fillOnly = .ok doc') :
    Same key doc doc' := by
  obtain ⟨validated, evidence', _, _, hsource, rfl⟩ := merge_eq_ok h
  clear h
  generalize validated.items = items
  induction items generalizing doc with
  | nil => exact .refl key doc
  | cons e items ih =>
    have hstep : Same key doc (mergeField evidence' fillOnly doc e) :=
      mergeField_user_locked (by rw [hsource]; exact huser) hlocked
    exact hstep.trans (ih (hlocked.of_same hstep))

/-- A field that the patch does not name stays. -/
theorem merge_other {key : String} (hkey : fields.has key = false)
    (h : doc.merge fields evidence fillOnly = .ok doc') : Same key doc doc' := by
  obtain ⟨validated, evidence', _, hkeys, _, rfl⟩ := merge_eq_ok h
  have hnot : ∀ e ∈ validated.items, key ≠ e.1 := by
    intro e he hke
    have hin : validated.has key = true := by
      rw [Dict.has_iff]
      exact ⟨e.2, Dict.get?_eq_some.mpr (by rw [hke]; exact he)⟩
    rw [hkeys key, hkey] at hin
    cases hin
  clear h hkeys
  generalize validated.items = items at hnot
  induction items generalizing doc with
  | nil => exact .refl key doc
  | cons e items ih =>
    have hstep : Same key doc (mergeField evidence' fillOnly doc e) :=
      mergeField_other (hnot e List.mem_cons_self)
    exact hstep.trans (ih fun e' he' => hnot e' (List.mem_cons_of_mem _ he'))

end

/-! ### fields that go together with their evidence -/

section
variable {doc : MetadataDocument} {keep : String → FieldEvidence → Bool}

theorem restrict_fields (h : doc.Sound) (key : String) :
    (doc.restrict keep).fields.get? key =
      if (doc.provenance.get? key).any (keep key) then doc.fields.get? key else none := by
  have hkeys := h.sameKeys key
  unfold Dict.has at hkeys
  show (doc.fields.filter _).get? key = _
  rw [Dict.get?_filter]
  cases hp : doc.provenance.get? key with
  | none =>
    rw [hp] at hkeys
    rw [Option.isSome_eq_false_iff.mp hkeys |> Option.isNone_iff_eq_none.mp]
    rfl
  | some old =>
    rw [Option.any_some]
    cases doc.fields.get? key with
    | none => cases keep key old <;> rfl
    | some v =>
      cases hk : keep key old with
      | true =>
        rw [Option.filter_some_pos (by rw [Option.all_some]; exact hk)]
        rfl
      | false =>
        rw [Option.filter_some_neg (by rw [Option.all_some, hk])]
        rfl

theorem restrict_provenance (key : String) :
    (doc.restrict keep).provenance.get? key = (doc.provenance.get? key).filter (keep key) :=
  Dict.get?_filter _ _ _

theorem Sound.restrict (h : doc.Sound) : (doc.restrict keep).Sound where
  sameKeys key := by
    have hkeys := h.sameKeys key
    unfold Dict.has at hkeys ⊢
    rw [restrict_fields h, restrict_provenance]
    cases hp : doc.provenance.get? key with
    | none => rfl
    | some old =>
      rw [hp] at hkeys
      rw [Option.any_some]
      cases hk : keep key old with
      | true =>
        rw [if_pos rfl, hkeys, Option.filter_some_pos hk]
      | false =>
        rw [if_neg Bool.false_ne_true, Option.filter_some_neg hk]
        rfl
  checked key v hv := by
    rw [restrict_fields h] at hv
    split at hv
    · exact h.checked key v hv
    · cases hv

/-- A field that passes the test stays. -/
theorem restrict_same (h : doc.Sound) {key : String} {evidence : FieldEvidence}
    (he : doc.provenance.get? key = some evidence) (hk : keep key evidence = true) :
    Same key doc (doc.restrict keep) := by
  refine ⟨?_, ?_⟩
  · rw [restrict_fields h, he, Option.any_some, hk, if_pos rfl]
  · rw [restrict_provenance, he, Option.filter_some_pos hk]

end

end MetadataDocument

end AutPlay.Metadata
