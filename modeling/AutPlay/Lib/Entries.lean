import AutPlay.Lib.Dict
import Mathlib.Data.List.Perm.Lattice

/-!
# Dictionaries made from entries

* `Dict.single`        one entry;
* `Dict.filterMap`     the entries whose value a partial function takes;
* `Dict.ofKeys`        what a function says of a list of keys, in their order;
* `perm_of_get?`       two dictionaries that say the same hold the same entries, in some order.
-/

set_option linter.unusedSectionVars false

namespace AutPlay.Dict

section
variable {κ α β : Type*}

theorem ext_items {d d' : Dict κ α} (h : d.items = d'.items) : d = d' := by
  cases d
  cases d'
  cases h
  rfl

def single (k : κ) (v : α) : Dict κ α := ⟨[(k, v)], List.nodup_singleton k⟩

/-- One entry of `filterMap`. -/
def keepEntry (f : κ → α → Option β) (e : κ × α) : Option (κ × β) := (f e.1 e.2).map fun b => (e.1, b)

theorem keepEntry_eq_some {f : κ → α → Option β} {e : κ × α} {e' : κ × β} :
    keepEntry f e = some e' ↔ e'.1 = e.1 ∧ f e.1 e.2 = some e'.2 := by
  unfold keepEntry
  rw [Option.map_eq_some_iff]
  constructor
  · rintro ⟨b, hb, rfl⟩
    exact ⟨rfl, hb⟩
  · rintro ⟨hk, hb⟩
    exact ⟨e'.2, hb, Prod.ext hk.symm rfl⟩

theorem map_fst_filterMap (f : κ → α → Option β) (items : List (κ × α)) :
    ((items.filterMap (keepEntry f)).map Prod.fst).Sublist (items.map Prod.fst) := by
  induction items with
  | nil => exact List.Sublist.refl []
  | cons e items ih =>
    rw [List.filterMap_cons]
    split
    · exact ih.cons e.1
    · rename_i e' he
      rw [List.map_cons, List.map_cons, ((keepEntry_eq_some).mp he).1]
      exact ih.cons_cons e.1

/-- The entries that `f` takes. -/
def filterMap (d : Dict κ α) (f : κ → α → Option β) : Dict κ β where
  items := d.items.filterMap (keepEntry f)
  nodup := d.nodup.sublist (map_fst_filterMap f d.items)

/-- The keys that `f` answers, in their order. -/
def ofKeys (keys : List κ) (h : keys.Nodup) (f : κ → Option α) : Dict κ α :=
  let table : Dict κ Unit :=
    ⟨keys.map fun k => (k, ()), by
      rwa [List.map_map, show Prod.fst ∘ (fun k : κ => (k, ())) = id from rfl, List.map_id]⟩
  table.filterMap fun k _ => f k

end

section
variable {κ α β : Type*} [DecidableEq κ]

@[simp] theorem get?_single (k k' : κ) (v : α) :
    (single k v).get? k' = if k' = k then some v else none := by
  apply Option.ext
  intro w
  rw [get?_eq_some]
  unfold single
  rw [List.mem_singleton, Prod.mk.injEq]
  split
  · rename_i h
    rw [Option.some.injEq]
    exact ⟨fun hw => hw.2.symm, fun hw => ⟨h, hw.symm⟩⟩
  · rename_i h
    exact ⟨fun hw => absurd hw.1 h, fun hw => Option.noConfusion rfl (heq_of_eq hw)⟩

theorem get?_filterMap (d : Dict κ α) (f : κ → α → Option β) (k : κ) :
    (d.filterMap f).get? k = (d.get? k).bind (f k) := by
  apply Option.ext
  intro b
  rw [get?_eq_some, Option.bind_eq_some_iff]
  unfold filterMap
  rw [List.mem_filterMap]
  constructor
  · rintro ⟨e, he, hb⟩
    obtain ⟨rfl, hb⟩ := (keepEntry_eq_some).mp hb
    exact ⟨e.2, get?_eq_some.mpr he, hb⟩
  · rintro ⟨a, ha, hb⟩
    exact ⟨(k, a), get?_eq_some.mp ha, (keepEntry_eq_some).mpr ⟨rfl, hb⟩⟩

theorem get?_ofKeys {keys : List κ} (h : keys.Nodup) (f : κ → Option α) {k : κ} (hk : k ∈ keys) :
    (ofKeys keys h f).get? k = f k := by
  unfold ofKeys
  rw [get?_filterMap, get?_eq_some.mpr (List.mem_map.mpr ⟨k, hk, rfl⟩)]
  rfl

theorem ofKeys_congr {keys : List κ} (h : keys.Nodup) {f g : κ → Option α} (hfg : ∀ k ∈ keys, f k = g k) :
    ofKeys keys h f = ofKeys keys h g := by
  refine ext_items (List.filterMap_congr fun e he => ?_)
  obtain ⟨k, hk, rfl⟩ := List.mem_map.mp he
  unfold keepEntry
  dsimp only
  rw [hfg k hk]

/-- Dictionaries that say the same hold the same entries. -/
theorem perm_of_get? {d d' : Dict κ α} (h : ∀ k, d.get? k = d'.get? k) : d.items.Perm d'.items := by
  have hnodup (d : Dict κ α) : d.items.Nodup := List.Nodup.of_map Prod.fst d.nodup
  rw [List.perm_ext_iff_of_nodup (hnodup d) (hnodup d')]
  intro e
  rw [← Prod.eta e, ← get?_eq_some, ← get?_eq_some, h]

end

end AutPlay.Dict
