import Mathlib.Data.List.Basic
import Mathlib.Data.List.Induction
import Mathlib.Data.List.Pairwise
import Mathlib.Order.Lattice

/-!
# Following a log by pages

A log is a list whose sequences ascend.  A reader asks for the rows behind a sequence, at most so many of them, and
goes on from the last one.

* `answerTo`              the rows, the sequence to go on from, and whether there is more;
* `answered_rows`         an answer is a stretch of the log;
* `taken_received`        a reader that leaves out what it knows has a prefix of the log, whatever answer it takes;
* `answered_all`          an answer without more reaches the end.
-/

set_option linter.unusedSectionVars false

namespace AutPlay.Follow

section
variable {α κ : Type*} (seq : α → Int)

/-- The sequences of the log ascend. -/
def Ascends (log : List α) : Prop := log.Pairwise fun a b => seq a < seq b

/-- The rows behind a sequence. -/
def behind (log : List α) (s : Int) : List α := log.filter fun r => s < seq r

/-- The rows up to a sequence. -/
def through (log : List α) (s : Int) : List α := log.filter fun r => seq r ≤ s

/-- The rows behind one sequence and up to another. -/
def between (log : List α) (s n : Int) : List α := log.filter fun r => s < seq r ∧ seq r ≤ n

structure Answer (α : Type*) where
  rows : List α
  next : Int
  more : Bool

def answerTo (log : List α) (s : Int) (limit : Nat) : Answer α :=
  let rows := (behind seq log s).take (limit + 1)
  let page := rows.take limit
  ⟨page, (page.getLast?.map seq).getD s, limit < rows.length⟩

variable {seq} {log new : List α} {s n f : Int} {limit : Nat}

theorem mem_behind {r : α} : r ∈ behind seq log s ↔ r ∈ log ∧ s < seq r := by
  unfold behind
  rw [List.mem_filter, decide_eq_true_iff]

theorem mem_through {r : α} : r ∈ through seq log s ↔ r ∈ log ∧ seq r ≤ s := by
  unfold through
  rw [List.mem_filter, decide_eq_true_iff]

theorem mem_between {r : α} : r ∈ between seq log s n ↔ r ∈ log ∧ s < seq r ∧ seq r ≤ n := by
  unfold between
  rw [List.mem_filter, decide_eq_true_iff]

theorem Ascends.behind (h : Ascends seq log) : Ascends seq (behind seq log s) := h.sublist List.filter_sublist

theorem answerTo_rows : (answerTo seq log s limit).rows = (behind seq log s).take limit := by
  show ((behind seq log s).take (limit + 1)).take limit = _
  rw [List.take_take, Nat.min_eq_left (Nat.le_succ limit)]

theorem answerTo_more : (answerTo seq log s limit).more = true ↔ limit < (behind seq log s).length := by
  show decide (limit < ((behind seq log s).take (limit + 1)).length) = true ↔ _
  rw [decide_eq_true_iff, List.length_take]
  omega

theorem answerTo_next : (answerTo seq log s limit).next =
    ((((behind seq log s).take limit).getLast?.map seq).getD s) := by
  rw [← answerTo_rows]
  rfl

/-- The last sequence of an ascending list bounds it. -/
theorem le_last {l : List α} (h : Ascends seq l) {r : α} (hr : r ∈ l) : seq r ≤ (l.getLast?.map seq).getD s := by
  induction l using List.reverseRecOn with
  | nil => exact absurd hr List.not_mem_nil
  | append_singleton l x _ =>
    rw [List.getLast?_concat, Option.map_some, Option.getD_some]
    obtain ⟨-, -, hlt⟩ := List.pairwise_append.mp h
    rcases List.mem_append.mp hr with hr | hr
    · exact (hlt r hr x (List.mem_singleton_self x)).le
    · rw [List.mem_singleton.mp hr]

theorem last_mem (seq : α → Int) (s : Int) (l : List α) :
    (l.getLast?.map seq).getD s = s ∨ ∃ r ∈ l, (l.getLast?.map seq).getD s = seq r := by
  cases hl : l.getLast? with
  | none => exact .inl rfl
  | some x => exact .inr ⟨x, List.mem_of_getLast? hl, rfl⟩

theorem le_next (log : List α) (s : Int) (limit : Nat) : s ≤ (answerTo seq log s limit).next := by
  rw [answerTo_next]
  obtain heq | ⟨r, hr, heq⟩ := last_mem seq s ((behind seq log s).take limit)
  · exact heq.ge
  · rw [heq]
    exact ((mem_behind).mp (List.mem_of_mem_take hr)).2.le

/-- What is next is a sequence of the log, or where the reader was. -/
theorem next_mem : (answerTo seq log s limit).next = s ∨ ∃ r ∈ log, (answerTo seq log s limit).next = seq r := by
  rw [answerTo_next]
  obtain heq | ⟨r, hr, heq⟩ := last_mem seq s ((behind seq log s).take limit)
  · exact .inl heq
  · exact .inr ⟨r, ((mem_behind).mp (List.mem_of_mem_take hr)).1, heq⟩

theorem filter_behind (t : Int) : (behind seq log s).filter (fun r => seq r ≤ t) = between seq log s t := by
  unfold between behind
  rw [List.filter_filter]
  refine List.filter_congr fun r _ => ?_
  rw [Bool.eq_iff_iff, Bool.and_eq_true, decide_eq_true_iff, decide_eq_true_iff, decide_eq_true_iff, and_comm]

/-- **An answer is a stretch of the log**: the rows behind the sequence, up to the next one. -/
theorem answered_rows (h : Ascends seq log) :
    (answerTo seq log s limit).rows = between seq log s (answerTo seq log s limit).next := by
  have hall := h.behind (s := s)
  have hsplit := List.take_append_drop limit (behind seq log s)
  have hasc : Ascends seq ((behind seq log s).take limit) := hall.sublist (List.take_sublist _ _)
  have hleft : ((behind seq log s).take limit).filter
      (fun r => decide (seq r ≤ (answerTo seq log s limit).next)) = (behind seq log s).take limit := by
    refine List.filter_eq_self.mpr fun r hr => decide_eq_true ?_
    rw [answerTo_next]
    exact le_last hasc hr
  have hright : ((behind seq log s).drop limit).filter
      (fun r => decide (seq r ≤ (answerTo seq log s limit).next)) = [] := by
    refine List.filter_eq_nil_iff.mpr fun r hr => ?_
    rw [decide_eq_true_iff, not_le, answerTo_next]
    obtain heq | ⟨x, hx, heq⟩ := last_mem seq s ((behind seq log s).take limit)
    · rw [heq]
      exact ((mem_behind).mp (List.mem_of_mem_drop hr)).2
    · rw [heq]
      have hpair := hsplit ▸ hall
      exact (List.pairwise_append.mp hpair).2.2 x hx r hr
  calc (answerTo seq log s limit).rows
      = (behind seq log s).take limit := answerTo_rows
    _ = ((behind seq log s).take limit).filter (fun r => seq r ≤ (answerTo seq log s limit).next) ++
          ((behind seq log s).drop limit).filter (fun r => seq r ≤ (answerTo seq log s limit).next) := by
        rw [hleft, hright, List.append_nil]
    _ = (behind seq log s).filter (fun r => seq r ≤ (answerTo seq log s limit).next) := by
        rw [← List.filter_append, hsplit]
    _ = between seq log s (answerTo seq log s limit).next := filter_behind _

/-- **Without more the answer reaches the end** of the log. -/
theorem answered_all (h : Ascends seq log) (hmore : (answerTo seq log s limit).more = false) {r : α} (hr : r ∈ log) :
    seq r ≤ (answerTo seq log s limit).next := by
  have hlen : ¬ limit < (behind seq log s).length := by
    rw [← answerTo_more, hmore]
    exact Bool.false_ne_true
  have hrows : (answerTo seq log s limit).rows = behind seq log s := by
    rw [answerTo_rows, List.take_of_length_le (Nat.le_of_not_lt hlen)]
  by_cases hs : s < seq r
  · have hmem : r ∈ (answerTo seq log s limit).rows := hrows ▸ (mem_behind).mpr ⟨hr, hs⟩
    rw [answered_rows h] at hmem
    exact ((mem_between).mp hmem).2.2
  · exact (not_lt.mp hs).trans (le_next log s limit)

/-- With more the page is full. -/
theorem answered_full (hmore : (answerTo seq log s limit).more = true) :
    (answerTo seq log s limit).rows.length = limit := by
  rw [answerTo_rows, List.length_take, Nat.min_eq_left ((answerTo_more).mp hmore).le]

/-! ## the log grows -/

theorem through_append (hnew : ∀ r ∈ new, s < seq r) : through seq (log ++ new) s = through seq log s := by
  have hnone : new.filter (fun r => decide (seq r ≤ s)) = [] := by
    refine List.filter_eq_nil_iff.mpr fun r hr => ?_
    rw [decide_eq_true_iff, not_le]
    exact hnew r hr
  unfold through
  rw [List.filter_append, hnone, List.append_nil]

theorem between_append (hnew : ∀ r ∈ new, n < seq r) : between seq (log ++ new) s n = between seq log s n := by
  have hnone : new.filter (fun r => decide (s < seq r ∧ seq r ≤ n)) = [] := by
    refine List.filter_eq_nil_iff.mpr fun r hr => ?_
    rw [decide_eq_true_iff]
    exact fun h => absurd h.2 (not_le.mpr (hnew r hr))
  unfold between
  rw [List.filter_append, hnone, List.append_nil]

/-- Up to a later sequence there are the rows between besides. -/
theorem through_split (h : Ascends seq log) (hle : f ≤ n) : through seq log n = through seq log f ++ between seq log f n := by
  induction log with
  | nil => rfl
  | cons r log ih =>
    obtain ⟨hr, hlog⟩ := List.pairwise_cons.mp h
    have ih := ih hlog
    unfold through between at ih ⊢
    by_cases hf : seq r ≤ f
    · rw [List.filter_cons_of_pos (by simpa using hf.trans hle), List.filter_cons_of_pos (by simpa using hf),
        List.filter_cons_of_neg (by simpa using fun hlt => absurd hf (not_le.mpr hlt)), ih, List.cons_append]
    · -- all the later rows are behind `f` as well
      have hnone : log.filter (fun x => decide (seq x ≤ f)) = [] := by
        refine List.filter_eq_nil_iff.mpr fun x hx => ?_
        rw [decide_eq_true_iff, not_le]
        exact (not_le.mp hf).trans (hr x hx)
      rw [hnone, List.nil_append] at ih
      rw [List.filter_cons_of_neg (a := r) (p := fun x => decide (seq x ≤ f)) (by simpa using hf), hnone,
        List.nil_append]
      by_cases hn : seq r ≤ n
      · rw [List.filter_cons_of_pos (by simpa using hn),
          List.filter_cons_of_pos (by simpa using ⟨not_le.mp hf, hn⟩), ih]
      · rw [List.filter_cons_of_neg (by simpa using hn),
          List.filter_cons_of_neg (by simpa using fun _ => not_le.mp hn), ih]

/-! ## the reader -/

variable (key : α → κ) [DecidableEq κ] (shown : α → Bool)

/-- What a reader has after it took rows and left out those it knows. -/
def receive (taken rows : List α) : List α :=
  rows.foldl (fun taken r => if ∃ x ∈ taken, key x = key r then taken else taken ++ [r]) taken

variable {key} {shown} {taken rows : List α}

theorem receive_known (h : ∀ r ∈ rows, r ∈ taken) : receive key taken rows = taken := by
  unfold receive
  induction rows with
  | nil => rfl
  | cons r rows ih =>
    rw [List.foldl_cons, if_pos ⟨r, h r List.mem_cons_self, rfl⟩]
    exact ih fun x hx => h x (List.mem_cons_of_mem _ hx)

theorem receive_new (h : ((taken ++ rows).map key).Nodup) : receive key taken rows = taken ++ rows := by
  unfold receive
  induction rows generalizing taken with
  | nil => exact (List.append_nil taken).symm
  | cons r rows ih =>
    have hr : ¬ ∃ x ∈ taken, key x = key r := by
      rintro ⟨x, hx, heq⟩
      rw [List.map_append, List.nodup_append] at h
      exact h.2.2 (key x) (List.mem_map_of_mem hx) (key r) (List.mem_map_of_mem List.mem_cons_self) heq
    rw [List.foldl_cons, if_neg hr, ih, List.append_assoc, List.singleton_append]
    rwa [List.append_assoc, List.singleton_append]

theorem receive_append {rows' : List α} :
    receive key taken (rows ++ rows') = receive key (receive key taken rows) rows' := List.foldl_append ..

theorem mem_receive {x : α} (h : x ∈ receive key taken rows) : x ∈ taken ∨ x ∈ rows := by
  unfold receive at h
  induction rows generalizing taken with
  | nil => exact .inl h
  | cons r rows ih =>
    rw [List.foldl_cons] at h
    split at h
    · exact (ih h).imp id (List.mem_cons_of_mem r)
    · rcases ih h with h | h
      · rcases List.mem_append.mp h with h | h
        · exact .inl h
        · exact .inr (List.mem_singleton.mp h ▸ List.mem_cons_self)
      · exact .inr (List.mem_cons_of_mem r h)

theorem subset_receive {x : α} (h : x ∈ taken) : x ∈ receive key taken rows := by
  unfold receive
  induction rows generalizing taken with
  | nil => exact h
  | cons r rows ih =>
    rw [List.foldl_cons]
    split
    · exact ih h
    · exact ih (List.mem_append_left _ h)

/-- **A reader that leaves out what it knows keeps a prefix of the log**, whatever stretch it takes, as long as that
starts no later than the prefix ends. -/
theorem taken_received (h : Ascends seq log) (hkeys : (log.map key).Nodup) (hs : s ≤ f) :
    receive key ((through seq log f).filter shown) ((between seq log s n).filter shown) =
      (through seq log (max f n)).filter shown := by
  by_cases hfn : n ≤ f
  · rw [max_eq_left hfn]
    refine receive_known fun r hr => ?_
    obtain ⟨hr, hshown⟩ := List.mem_filter.mp hr
    obtain ⟨hmem, -, hle⟩ := (mem_between).mp hr
    exact List.mem_filter.mpr ⟨(mem_through).mpr ⟨hmem, hle.trans hfn⟩, hshown⟩
  · have hlt := not_le.mp hfn
    -- what is known comes first, the rest is new
    have hsplit : between seq log s n = between seq log s f ++ between seq log f n := by
      have hall := through_split (h.behind (s := s)) hlt.le
      have hinside (a : Int) : through seq (behind seq log s) a = between seq log s a := filter_behind a
      have hrest : between seq (behind seq log s) f n = between seq log f n := by
        unfold between behind
        rw [List.filter_filter]
        refine List.filter_congr fun r _ => ?_
        rw [Bool.eq_iff_iff]
        simp only [Bool.and_eq_true, decide_eq_true_iff]
        exact ⟨fun h => h.1, fun h => ⟨h, hs.trans_lt h.1⟩⟩
      rw [hinside, hinside, hrest] at hall
      exact hall
    have hknown : ∀ r ∈ (between seq log s f).filter shown, r ∈ (through seq log f).filter shown := by
      intro r hr
      obtain ⟨hr, hshown⟩ := List.mem_filter.mp hr
      obtain ⟨hmem, -, hle⟩ := (mem_between).mp hr
      exact List.mem_filter.mpr ⟨(mem_through).mpr ⟨hmem, hle⟩, hshown⟩
    rw [hsplit, List.filter_append, receive_append, receive_known hknown, max_eq_right hlt.le, through_split h hlt.le,
      List.filter_append]
    refine receive_new ?_
    rw [← List.filter_append, ← through_split h hlt.le]
    exact hkeys.sublist ((List.filter_sublist.trans List.filter_sublist).map key)

/-- The rows up to a sequence are the first ones. -/
theorem through_prefix (h : Ascends seq log) (n : Int) : through seq log n <+: log := by
  induction log with
  | nil => exact List.prefix_refl []
  | cons r log ih =>
    obtain ⟨hr, hlog⟩ := List.pairwise_cons.mp h
    unfold through
    by_cases hn : seq r ≤ n
    · rw [List.filter_cons_of_pos (by simpa using hn)]
      exact List.cons_prefix_cons.mpr ⟨rfl, ih hlog⟩
    · have hnone : (r :: log).filter (fun x => decide (seq x ≤ n)) = [] := by
        refine List.filter_eq_nil_iff.mpr fun x hx => ?_
        rw [decide_eq_true_iff, not_le]
        rcases List.mem_cons.mp hx with rfl | hx
        · exact not_le.mp hn
        · exact (not_le.mp hn).trans (hr x hx)
      rw [hnone]
      exact List.nil_prefix

end

end AutPlay.Follow
