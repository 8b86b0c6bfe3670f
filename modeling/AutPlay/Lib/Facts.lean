import Mathlib.Data.List.Basic
import Mathlib.Data.List.Nodup
import Mathlib.Data.List.Induction
import Mathlib.Order.Basic

/-!
# A log of facts about pages

A log is a list of facts.  A fact has an identifier and is about a page; a fact whose identifier is
in the log is not recorded again.

* `record`            the log after a batch of facts;
* `latest`            the last fact of a page;
* `latest_record`     a fact of the batch is the last of its page, or its identifier was known and
                      the page stays as it was;
* `replica`           what a reader that keeps the last fact of every page ends with;
* `latest_max`        in a log that grows along an order, the last fact is the largest.
-/

set_option linter.unusedSectionVars false

namespace AutPlay

section
variable {φ ι κ : Type*} [DecidableEq ι] [DecidableEq κ]

/-- The log after one fact. -/
def recordOne (id : φ → ι) (log : List φ) (f : φ) : List φ :=
  if id f ∈ log.map id then log else log ++ [f]

def record (id : φ → ι) (log fs : List φ) : List φ := fs.foldl (recordOne id) log

def latest (page : φ → κ) (log : List φ) (k : κ) : Option φ :=
  (log.filter (fun f => page f = k)).getLast?

/-- The reader that keeps the last fact of every page. -/
def replica (page : φ → κ) (log : List φ) : κ → Option φ :=
  log.foldl (fun view f => Function.update view (page f) (some f)) (fun _ => none)

variable {id : φ → ι} {page : φ → κ} {log fs : List φ} {f g : φ} {k : κ}

theorem recordOne_known (h : id f ∈ log.map id) : recordOne id log f = log := if_pos h

theorem recordOne_new (h : id f ∉ log.map id) : recordOne id log f = log ++ [f] := if_neg h

theorem record_cons : record id log (f :: fs) = record id (recordOne id log f) fs := rfl

theorem latest_append_one :
    latest page (log ++ [f]) k = if page f = k then some f else latest page log k := by
  unfold latest
  rw [List.filter_append]
  by_cases h : page f = k
  · rw [if_pos h]
    simp [h]
  · rw [if_neg h]
    simp [h]

theorem latest_mem (h : latest page log k = some f) : f ∈ log ∧ page f = k := by
  have hm : f ∈ log.filter (fun f => page f = k) := List.mem_of_getLast? h
  rw [List.mem_filter] at hm
  exact ⟨hm.1, of_decide_eq_true hm.2⟩

theorem mem_ids_recordOne {i : ι} :
    i ∈ (recordOne id log f).map id ↔ i ∈ log.map id ∨ i = id f := by
  by_cases h : id f ∈ log.map id
  · rw [recordOne_known h]
    refine ⟨Or.inl, fun hi => hi.elim (fun hi => hi) fun hi => ?_⟩
    rw [hi]
    exact h
  · rw [recordOne_new h, List.map_append, List.mem_append, List.map_singleton, List.mem_singleton]

/-- A page of which the batch has no fact stays as it was. -/
theorem latest_record_other (h : ∀ f ∈ fs, page f ≠ k) :
    latest page (record id log fs) k = latest page log k := by
  induction fs generalizing log with
  | nil => rfl
  | cons f fs ih =>
    rw [record_cons, ih fun g hg => h g (List.mem_cons_of_mem _ hg)]
    by_cases hk : id f ∈ log.map id
    · rw [recordOne_known hk]
    · rw [recordOne_new hk, latest_append_one, if_neg (h f (List.mem_cons_self ..))]

/-- **A batch about distinct pages, with distinct identifiers**: each of its facts is the last of
its page afterwards, unless its identifier was known. -/
theorem latest_record (hp : (fs.map page).Nodup) (hi : (fs.map id).Nodup) (hf : f ∈ fs) :
    latest page (record id log fs) (page f) =
      if id f ∈ log.map id then latest page log (page f) else some f := by
  induction fs generalizing log with
  | nil => exact absurd hf List.not_mem_nil
  | cons g fs ih =>
    rw [List.map_cons, List.nodup_cons] at hp hi
    rw [record_cons]
    rcases List.mem_cons.mp hf with rfl | hf
    · have hother : ∀ h ∈ fs, page h ≠ page f :=
        fun h hh hpage => hp.1 (hpage ▸ List.mem_map_of_mem hh)
      rw [latest_record_other hother]
      by_cases hk : id f ∈ log.map id
      · rw [recordOne_known hk, if_pos hk]
      · rw [recordOne_new hk, if_neg hk, latest_append_one, if_pos rfl]
    · have hpg : page g ≠ page f := fun h => hp.1 (h ▸ List.mem_map_of_mem hf)
      have hid : id f ≠ id g := fun h => hi.1 (h ▸ List.mem_map_of_mem hf)
      have hlatest : latest page (recordOne id log g) (page f) = latest page log (page f) := by
        by_cases hk : id g ∈ log.map id
        · rw [recordOne_known hk]
        · rw [recordOne_new hk, latest_append_one, if_neg hpg]
      rw [ih hp.2 hi.2 hf, hlatest]
      by_cases hk : id f ∈ log.map id
      · rw [if_pos hk, if_pos ((mem_ids_recordOne).mpr (Or.inl hk))]
      · rw [if_neg hk, if_neg fun h => ((mem_ids_recordOne).mp h).elim hk hid]

/-- A log only grows, by facts of the batch in their order. -/
theorem record_eq_append (id : φ → ι) (log fs : List φ) :
    ∃ new, new.Sublist fs ∧ record id log fs = log ++ new := by
  induction fs generalizing log with
  | nil => exact ⟨[], List.Sublist.slnil, (List.append_nil log).symm⟩
  | cons f fs ih =>
    obtain ⟨new, hs, he⟩ := ih (recordOne id log f)
    rw [record_cons, he]
    by_cases hk : id f ∈ log.map id
    · rw [recordOne_known hk]
      exact ⟨new, hs.cons f, rfl⟩
    · rw [recordOne_new hk, List.append_assoc]
      exact ⟨f :: new, hs.cons_cons f, rfl⟩

/-- The reader ends with the last fact of every page. -/
theorem replica_eq_latest : replica page log k = latest page log k := by
  induction log using List.reverseRecOn with
  | nil => rfl
  | append_singleton log f ih =>
    unfold replica at ih ⊢
    rw [List.foldl_append, List.foldl_cons, List.foldl_nil, latest_append_one]
    by_cases h : page f = k
    · rw [if_pos h, ← h, Function.update_self]
    · rw [if_neg h, Function.update_of_ne (Ne.symm h), ih]

/-- In a log that grows along `rank`, the last fact of a page is above the others. -/
theorem latest_lt {rank : φ → Int} (hr : log.Pairwise (fun a b => rank a < rank b))
    (h : latest page log k = some f) (hg : g ∈ log) (hk : page g = k) :
    g = f ∨ rank g < rank f := by
  unfold latest at h
  obtain ⟨l, hl⟩ := List.getLast?_eq_some_iff.mp h
  have hm : g ∈ log.filter (fun f => page f = k) :=
    List.mem_filter.mpr ⟨hg, decide_eq_true hk⟩
  have hs : (log.filter (fun f => page f = k)).Pairwise (fun a b => rank a < rank b) :=
    hr.sublist List.filter_sublist
  rw [hl] at hm hs
  rcases List.mem_append.mp hm with hm | hm
  · exact Or.inr ((List.pairwise_append.mp hs).2.2 g hm f (List.mem_singleton.mpr rfl))
  · exact Or.inl (List.mem_singleton.mp hm)

/-- The last fact of a page is the one that no other fact of the page is above. -/
theorem latest_iff {rank : φ → Int} (hr : log.Pairwise (fun a b => rank a < rank b)) :
    latest page log k = some f ↔
      f ∈ log ∧ page f = k ∧ ∀ g ∈ log, page g = k → rank g ≤ rank f := by
  constructor
  · intro h
    obtain ⟨hm, hp⟩ := latest_mem h
    refine ⟨hm, hp, fun g hg hk => ?_⟩
    rcases latest_lt hr h hg hk with rfl | hlt
    · exact Int.le_refl _
    · exact Int.le_of_lt hlt
  · rintro ⟨hm, hp, hmax⟩
    cases hl : latest page log k with
    | none =>
      have hf : f ∈ log.filter (fun g => page g = k) :=
        List.mem_filter.mpr ⟨hm, decide_eq_true hp⟩
      rw [List.getLast?_eq_none_iff.mp hl] at hf
      exact absurd hf List.not_mem_nil
    | some x =>
      obtain ⟨hx, hxp⟩ := latest_mem hl
      rcases latest_lt hr hl hm hp with rfl | hlt
      · rfl
      · have h := hmax x hx hxp
        omega

end

end AutPlay
