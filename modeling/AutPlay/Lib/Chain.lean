import Mathlib.Data.List.Induction
import AutPlay.Lib.Run

/-!
# Signed chains

A chain is a table of entries, each with a tag of its text, and one head that signs how many there are
and the tag of the last.  The texts number themselves and name the tag before them; what they say is
applied to a record `ρ`, one after the other.

* `Scheme`, `Scheme.read`        the tags, the checks and the record of a chain; `none` is a refusal;
* `Scheme.extend`                one more entry and a new head;
* `read_extend`                  an extension is read as the record with one more text applied;
* `Scheme.unique`                two accepted chains with the same head are the same;
* `Scheme.accepted_is_past`      a chain put together from the past is a past chain;
* `Scheme.call`                  a call that reads the chain, and writes one entry at most;
* `Store`, `Store.run_kept`      a store that is written, and tampered with: the invariant rule.

A tag stands for its message: `NoForgery` says that a tag the owner made is made of no other message.
-/

set_option linter.unusedSectionVars false

namespace AutPlay.Chain

structure Entry (τ : Type*) where
  sequence : Nat
  document : String
  digest : τ
  deriving DecidableEq

structure Head (τ : Type*) where
  sequence : Nat
  digest : τ
  signature : τ
  deriving DecidableEq

/-- The rows of the two tables, the entries in the order of their sequence. -/
structure File (τ : Type*) where
  entries : List (Entry τ)
  heads : List (Head τ)

/-- What the owner of a key tags: the text of an entry, or the contents of a head; `purpose` separates
the chains of one key. -/
inductive Message (τ : Type*)
  | event (purpose document : String)
  | head (purpose : String) (sequence : Nat) (digest : τ)
  deriving DecidableEq

/-- **No forgery**: a tag that was made of a message is the tag of no other one. -/
def NoForgery {τ : Type*} (mac : Message τ → τ) (signed : Message τ → Prop) : Prop :=
  ∀ m m', signed m → mac m' = mac m → m' = m

/-- One chain: its tags, what its texts say, and the record that they make. -/
structure Scheme (δ τ ρ : Type*) where
  mac : Message τ → τ
  eventPurpose : String
  headPurpose : String
  zero : τ
  dumps : δ → String
  loads : String → Option δ
  loads_dumps : ∀ d, loads (dumps d) = some d
  sequenceOf : δ → Nat
  previousOf : δ → τ
  start : ρ
  apply : ρ → δ → Option ρ
  capacity : Nat
  maxLength : Nat

namespace Scheme

section
variable {δ τ ρ : Type*} [DecidableEq τ] (S : Scheme δ τ ρ)

def eventMac (document : String) : τ := S.mac (.event S.eventPurpose document)

def headMac (sequence : Nat) (digest : τ) : τ := S.mac (.head S.headPurpose sequence digest)

/-- The checks on one entry after `n` others, the last with tag `previous`. -/
def Fits (n : Nat) (previous : τ) (e : Entry τ) (d : δ) : Prop :=
  e.sequence = n + 1 ∧ e.sequence ≤ S.capacity ∧ e.document.length ≤ S.maxLength ∧
    e.digest = S.eventMac e.document ∧ S.sequenceOf d = e.sequence ∧ S.previousOf d = previous

instance (n : Nat) (previous : τ) (e : Entry τ) (d : δ) : Decidable (S.Fits n previous e d) :=
  inferInstanceAs (Decidable (_ ∧ _ ∧ _ ∧ _ ∧ _ ∧ _))

/-- One entry: its text, checked and applied. -/
def readEntry (n : Nat) (previous : τ) (r : ρ) (e : Entry τ) : Option ρ :=
  (S.loads e.document).bind fun d => if S.Fits n previous e d then S.apply r d else none

def readFrom : Nat → τ → ρ → List (Entry τ) → Option (ρ × Nat × τ)
  | n, previous, r, [] => some (r, n, previous)
  | n, previous, r, e :: es =>
    (S.readEntry n previous r e).bind fun r' => readFrom (n + 1) e.digest r' es

/-- The head signs what was read. -/
def checkHead (h : Head τ) (x : ρ × Nat × τ) : Option (ρ × Nat × τ) :=
  if h.signature = S.headMac h.sequence h.digest ∧ h.sequence = x.2.1 ∧ h.digest = x.2.2 then some x
  else none

def readWith (es : List (Entry τ)) : List (Head τ) → Option (ρ × Nat × τ)
  | [h] => (S.readFrom 0 S.zero S.start es).bind (S.checkHead h)
  | _ => none

/-- The record of a chain, the number of its entries and the tag of the last. -/
def read (f : File τ) : Option (ρ × Nat × τ) := S.readWith f.entries f.heads

/-- The entry of a text after `n` others. -/
def entryOf (n : Nat) (d : δ) : Entry τ := ⟨n + 1, S.dumps d, S.eventMac (S.dumps d)⟩

def headOf (n : Nat) (digest : τ) : Head τ := ⟨n, digest, S.headMac n digest⟩

/-- The empty chain. -/
def empty : File τ := ⟨[], [S.headOf 0 S.zero]⟩

/-- One more entry and its head, in a file of `n` entries. -/
def extend (f : File τ) (n : Nat) (d : δ) : File τ :=
  ⟨f.entries ++ [S.entryOf n d], [S.headOf (n + 1) (S.eventMac (S.dumps d))]⟩

/-! ## reading -/

variable {S} {f : File τ} {n m : Nat} {previous digest : τ} {r r' : ρ} {es : List (Entry τ)} {d : δ}

theorem readEntry_eq_some {e : Entry τ} :
    S.readEntry n previous r e = some r' ↔
      ∃ d, S.loads e.document = some d ∧ S.Fits n previous e d ∧ S.apply r d = some r' := by
  unfold readEntry
  rw [Option.bind_eq_some_iff]
  constructor
  · rintro ⟨d, hd, h⟩
    by_cases hf : S.Fits n previous e d
    · rw [if_pos hf] at h
      exact ⟨d, hd, hf, h⟩
    · rw [if_neg hf] at h
      cases h
  · rintro ⟨d, hd, hf, h⟩
    exact ⟨d, hd, by rw [if_pos hf, h]⟩

theorem readFrom_snoc {e : Entry τ} {x : ρ × Nat × τ} :
    S.readFrom n previous r (es ++ [e]) = some x ↔
      ∃ y, S.readFrom n previous r es = some y ∧ S.readEntry y.2.1 y.2.2 y.1 e = some x.1 ∧
        x.2 = (y.2.1 + 1, e.digest) := by
  induction es generalizing n previous r with
  | nil =>
    show (S.readEntry n previous r e).bind (fun r' => some (r', n + 1, e.digest)) = some x ↔ _
    rw [Option.bind_eq_some_iff]
    constructor
    · rintro ⟨r', hr, h⟩
      cases h
      exact ⟨(r, n, previous), rfl, hr, rfl⟩
    · rintro ⟨y, hy, hr, hx⟩
      cases hy
      exact ⟨x.1, hr, by rw [← hx]⟩
  | cons a es ih =>
    show (S.readEntry n previous r a).bind (fun r' => S.readFrom (n + 1) a.digest r' (es ++ [e])) = some x ↔ _
    constructor
    · intro h
      obtain ⟨r₁, hr₁, h⟩ := Option.bind_eq_some_iff.mp h
      obtain ⟨y, hy, hrest⟩ := ih.mp h
      refine ⟨y, ?_, hrest⟩
      show (S.readEntry n previous r a).bind (fun r' => S.readFrom (n + 1) a.digest r' es) = some y
      rw [hr₁]
      exact hy
    · rintro ⟨y, hy, hrest⟩
      obtain ⟨r₁, hr₁, hy⟩ := Option.bind_eq_some_iff.mp hy
      rw [hr₁]
      exact ih.mpr ⟨y, hy, hrest⟩

theorem readFrom_length {x : ρ × Nat × τ} (h : S.readFrom n previous r es = some x) :
    x.2.1 = n + es.length := by
  induction es generalizing n previous r with
  | nil =>
    cases h
    rfl
  | cons a es ih =>
    obtain ⟨r₁, -, h⟩ := Option.bind_eq_some_iff.mp h
    rw [ih h, List.length_cons]
    omega

theorem read_eq_some {x : ρ × Nat × τ} :
    S.read f = some x ↔ ∃ h, f.heads = [h] ∧ S.readFrom 0 S.zero S.start f.entries = some x ∧
      h.signature = S.headMac h.sequence h.digest ∧ h.sequence = x.2.1 ∧ h.digest = x.2.2 := by
  unfold read
  constructor
  · intro hread
    rcases hh : f.heads with _ | ⟨h, _ | ⟨h', hs⟩⟩
    · rw [hh] at hread
      cases hread
    · rw [hh] at hread
      obtain ⟨y, hy, hc⟩ := Option.bind_eq_some_iff.mp hread
      unfold checkHead at hc
      split at hc
      · rename_i hok
        cases hc
        exact ⟨h, rfl, hy, hok⟩
      · cases hc
    · rw [hh] at hread
      cases hread
  · rintro ⟨h, hh, hx, hok⟩
    rw [hh]
    show (S.readFrom 0 S.zero S.start f.entries).bind (S.checkHead h) = some x
    rw [hx]
    exact if_pos hok

theorem read_empty : S.read S.empty = some (S.start, 0, S.zero) :=
  (read_eq_some).mpr ⟨S.headOf 0 S.zero, rfl, rfl, rfl, rfl, rfl⟩

/-- **An extension** of an accepted chain is accepted exactly when its text passes the checks, and is
read as the record with the text applied. -/
theorem read_extend {x : ρ × Nat × τ} (h : S.read f = some (r, n, previous)) :
    S.read (S.extend f n d) = some x ↔
      S.Fits n previous (S.entryOf n d) d ∧ S.apply r d = some x.1 ∧
        x.2 = (n + 1, S.eventMac (S.dumps d)) := by
  obtain ⟨h₀, -, hfrom, -⟩ := (read_eq_some).mp h
  have hentry : ∀ r', S.readEntry n previous r (S.entryOf n d) = some r' ↔
      S.Fits n previous (S.entryOf n d) d ∧ S.apply r d = some r' := by
    intro r'
    rw [readEntry_eq_some]
    constructor
    · rintro ⟨d', hd', hf, ha⟩
      have hd : S.loads (S.dumps d) = some d' := hd'
      rw [S.loads_dumps] at hd
      cases hd
      exact ⟨hf, ha⟩
    · rintro ⟨hf, ha⟩
      exact ⟨d, S.loads_dumps d, hf, ha⟩
  rw [read_eq_some]
  constructor
  · rintro ⟨h', -, hx, -⟩
    obtain ⟨y, hy, he, hlast⟩ := (readFrom_snoc).mp hx
    rw [hfrom] at hy
    cases hy
    obtain ⟨hf, ha⟩ := (hentry x.1).mp he
    exact ⟨hf, ha, hlast⟩
  · rintro ⟨hf, ha, hlast⟩
    refine ⟨S.headOf (n + 1) (S.eventMac (S.dumps d)), rfl,
      (readFrom_snoc).mpr ⟨(r, n, previous), hfrom, (hentry x.1).mpr ⟨hf, ha⟩, hlast⟩, rfl, ?_, ?_⟩
    · rw [hlast]
      rfl
    · rw [hlast]
      rfl

/-! ## tampering -/

/-- **The chain behind a head is unique** where the tags of its texts are not forged. -/
theorem unique {signed : Message τ → Prop} (hmac : NoForgery S.mac signed) {es es' : List (Entry τ)}
    (hs : ∀ e ∈ es, signed (.event S.eventPurpose e.document)) {r₁ r₂ : ρ} {d : τ} {x : τ × τ} {y : ρ × ρ}
    (h : S.readFrom n x.1 y.1 es = some (r₁, m, d)) (h' : S.readFrom n x.2 y.2 es' = some (r₂, m, d)) :
    es' = es := by
  induction es using List.reverseRecOn generalizing es' m d r₁ r₂ with
  | nil =>
    have hl := readFrom_length h
    have hl' := readFrom_length h'
    dsimp only at hl hl'
    rw [List.length_nil] at hl
    exact List.length_eq_zero_iff.mp (by omega)
  | append_singleton es e ih =>
    rcases List.eq_nil_or_concat es' with rfl | ⟨fs, e', rfl⟩
    · have hl := readFrom_length h
      have hl' := readFrom_length h'
      dsimp only at hl hl'
      rw [List.length_append, List.length_singleton] at hl
      rw [List.length_nil] at hl'
      omega
    · rw [List.concat_eq_append] at h' ⊢
      obtain ⟨u, hu, he, hlast⟩ := (readFrom_snoc).mp h
      obtain ⟨u', hu', he', hlast'⟩ := (readFrom_snoc).mp h'
      obtain ⟨t, ht, hfit, -⟩ := (readEntry_eq_some).mp he
      obtain ⟨t', ht', hfit', -⟩ := (readEntry_eq_some).mp he'
      have hd : d = e.digest := congrArg Prod.snd hlast
      have hd' : d = e'.digest := congrArg Prod.snd hlast'
      have hm : m = u.2.1 + 1 := congrArg Prod.fst hlast
      have hm' : m = u'.2.1 + 1 := congrArg Prod.fst hlast'
      -- equal tags stand for equal texts
      have htag : S.eventMac e'.document = S.eventMac e.document := by
        rw [← hfit'.2.2.2.1, ← hfit.2.2.2.1, ← hd, ← hd']
      have hmsg := hmac _ _ (hs e (List.mem_append_right _ (List.mem_singleton_self e))) htag
      have hdoc : e'.document = e.document := by
        injection hmsg
      have hn : u'.2.1 = u.2.1 := by omega
      have hsame : e' = e := by
        have hseq : e'.sequence = e.sequence := by
          rw [hfit'.1, hfit.1, hn]
        have hdig : e'.digest = e.digest := hd'.symm.trans hd
        cases e
        cases e'
        cases hdoc
        cases hseq
        cases hdig
        rfl
      have hprev : u'.2.2 = u.2.2 := by
        rw [hdoc, ht] at ht'
        cases ht'
        exact hfit'.2.2.2.2.2.symm.trans hfit.2.2.2.2.2
      obtain ⟨ru, nu, du⟩ := u
      obtain ⟨ru', nu', du'⟩ := u'
      have hn : nu' = nu := hn
      have hprev : du' = du := hprev
      subst hn
      subst hprev
      rw [hsame, ih (fun a ha => hs a (List.mem_append_left _ ha)) hu hu']

/-- What the owner signed to write these files. -/
def Signed (S : Scheme δ τ ρ) (past : List (File τ)) (m : Message τ) : Prop :=
  ∃ g ∈ past, (∃ e ∈ g.entries, m = .event S.eventPurpose e.document) ∨
    ∃ h ∈ g.heads, m = .head S.headPurpose h.sequence h.digest

/-- What the owner signed for other chains: never a head of this one. -/
structure Foreign (S : Scheme δ τ ρ) where
  signed : Message τ → Prop
  other : ∀ n d, ¬ signed (.head S.headPurpose n d)

/-- **Put together from the past**: every signature is one that the owner made, for whatever row of
whatever chain; the entries may be anything. -/
def Assembled (S : Scheme δ τ ρ) (foreign : S.Foreign) (past : List (File τ)) (f : File τ) : Prop :=
  ∀ h ∈ f.heads, ∃ m, (S.Signed past m ∨ foreign.signed m) ∧ h.signature = S.mac m

/-- **A chain that is put together from the past is a past chain**, if it is accepted: its head is the
head of a past chain, and behind that head there is one chain only. -/
theorem accepted_is_past {foreign : S.Foreign} {past : List (File τ)}
    (hmac : NoForgery S.mac fun m => S.Signed past m ∨ foreign.signed m)
    (hpast : ∀ g ∈ past, (S.read g).isSome = true) (ha : S.Assembled foreign past f)
    (hread : (S.read f).isSome = true) :
    ∃ g ∈ past, f.entries = g.entries ∧ S.read f = S.read g := by
  obtain ⟨x, hx⟩ := Option.isSome_iff_exists.mp hread
  obtain ⟨h, hh, hfrom, hsig, hseq, hdig⟩ := (read_eq_some).mp hx
  have hmem : h ∈ f.heads := by
    rw [hh]
    exact List.mem_singleton_self h
  obtain ⟨m, hm, hsigm⟩ := ha h hmem
  -- the signature verifies, so that it was made for these very contents
  have hsame : Message.head S.headPurpose h.sequence h.digest = m :=
    hmac m _ hm (hsig.symm.trans hsigm)
  rcases hm with ⟨g, hg, ⟨e, -, he⟩ | ⟨h', hh', he⟩⟩ | hforeign
  · rw [he] at hsame
    cases hsame
  · obtain ⟨y, hy⟩ := Option.isSome_iff_exists.mp (hpast g hg)
    obtain ⟨h'', hgh, hfrom', -, hseq', hdig'⟩ := (read_eq_some).mp hy
    rw [hgh, List.mem_singleton] at hh'
    subst hh'
    rw [he] at hsame
    injection hsame with _ hs hd
    obtain ⟨r₁, n₁, d₁⟩ := x
    obtain ⟨r₂, n₂, d₂⟩ := y
    have hn : n₁ = n₂ := hseq.symm.trans (hs.trans hseq')
    have hdd : d₁ = d₂ := hdig.symm.trans (hd.trans hdig')
    subst hn
    subst hdd
    have hes : f.entries = g.entries := by
      refine unique (x := (S.zero, S.zero)) (y := (S.start, S.start)) hmac (fun e he => ?_) hfrom' hfrom
      exact Or.inl ⟨g, hg, Or.inl ⟨e, he, rfl⟩⟩
    have hr : r₁ = r₂ := by
      rw [hes, hfrom'] at hfrom
      cases hfrom
      rfl
    refine ⟨g, hg, hes, ?_⟩
    rw [hx, hy, hr]
  · rw [← hsame] at hforeign
    exact absurd hforeign (foreign.other _ _)

/-! ## calls -/

section
variable {α β : Type*}

/-- A call: it reads the chain and refuses, answers, or answers and writes one entry.  The new chain is
read before it is committed. -/
def call (S : Scheme δ τ ρ) (plan : ρ → Nat → τ → Option (Option δ × β)) (f : File τ) :
    Option (β × File τ) :=
  (S.read f).bind fun x =>
    (plan x.1 x.2.1 x.2.2).bind fun p =>
      match p.1 with
      | none => some (p.2, f)
      | some d => if (S.read (S.extend f x.2.1 d)).isSome then some (p.2, S.extend f x.2.1 d) else none

/-- **What a call does**: the chain is accepted, and afterwards it is the same, or one entry longer and
accepted again, with the text applied. -/
theorem call_eq_some {plan : ρ → Nat → τ → Option (Option δ × β)} {b : β} {f' : File τ}
    (h : S.call plan f = some (b, f')) :
    ∃ r n previous, S.read f = some (r, n, previous) ∧
      ((plan r n previous = some (none, b) ∧ f' = f) ∨
        ∃ d r', plan r n previous = some (some d, b) ∧ S.apply r d = some r' ∧ f' = S.extend f n d ∧
          S.read f' = some (r', n + 1, S.eventMac (S.dumps d))) := by
  obtain ⟨⟨r, n, previous⟩, hx, h⟩ := Option.bind_eq_some_iff.mp h
  obtain ⟨⟨o, b'⟩, hp, h⟩ := Option.bind_eq_some_iff.mp h
  refine ⟨r, n, previous, hx, ?_⟩
  cases o with
  | none =>
    cases h
    exact Or.inl ⟨hp, rfl⟩
  | some d =>
    dsimp only at h
    split at h
    · rename_i hok
      cases h
      obtain ⟨⟨r', n', d'⟩, hr'⟩ := Option.isSome_iff_exists.mp hok
      obtain ⟨-, ha, hlast⟩ := (read_extend hx).mp hr'
      cases hlast
      exact Or.inr ⟨d, r', hp, ha, rfl, hr'⟩
    · cases h

/-- A call that plans a text which passes the checks writes it. -/
theorem call_writes {plan : ρ → Nat → τ → Option (Option δ × β)} {b : β}
    (h : S.read f = some (r, n, previous)) (hp : plan r n previous = some (some d, b))
    (hf : S.Fits n previous (S.entryOf n d) d) (ha : S.apply r d = some r') :
    S.call plan f = some (b, S.extend f n d) := by
  have hr : S.read (S.extend f n d) = some (r', n + 1, S.eventMac (S.dumps d)) :=
    (read_extend h).mpr ⟨hf, ha, rfl⟩
  unfold call
  rw [h]
  show (plan r n previous).bind _ = _
  rw [hp]
  show (if (S.read (S.extend f n d)).isSome then _ else none) = _
  rw [hr]
  rfl

end

end

end Scheme

/-! ## stores -/

/-- A chain as it stands, and every state that it was committed in. -/
structure Store (τ : Type*) where
  file : File τ
  past : List (File τ)

namespace Store

section
variable {δ τ ρ α β : Type*} [DecidableEq τ] (S : Scheme δ τ ρ)
  (plan : α → ρ → Nat → τ → Option (Option δ × β)) (foreign : S.Foreign)

def initial : Store τ := ⟨S.empty, [S.empty]⟩

inductive Label (α β τ : Type*)
  | served (a : α) (b : β)
  | refused (a : α)
  | tampered

/-- A call that is served commits its file; one that is refused leaves it; in between the file may be put
together from the past. -/
inductive Step : Store τ → Label α β τ → Store τ → Prop
  | served {s : Store τ} {a : α} {b : β} {f : File τ} (h : S.call (plan a) s.file = some (b, f)) :
      Step s (.served a b) ⟨f, f :: s.past⟩
  | refused (s : Store τ) (a : α) : Step s (.refused a) s
  | tampered {s : Store τ} {f : File τ} (h : S.Assembled foreign s.past f) :
      Step s .tampered ⟨f, s.past⟩

variable {S plan foreign}

/-- A committed state: it is accepted, and its record and length are in the invariant. -/
def Committed (S : Scheme δ τ ρ) (I : ρ → Nat → Prop) (g : File τ) : Prop :=
  ∃ r n d, S.read g = some (r, n, d) ∧ I r n

theorem Committed.isSome {I : ρ → Nat → Prop} {g : File τ} (h : Committed S I g) :
    (S.read g).isSome = true := by
  obtain ⟨r, n, d, hr, -⟩ := h
  rw [hr]
  rfl

/-- The owner's tags, of a store and of other chains, are not forged. -/
def Safe (S : Scheme δ τ ρ) (foreign : S.Foreign) (s : Store τ) : Prop :=
  NoForgery S.mac fun m => S.Signed s.past m ∨ foreign.signed m

theorem Safe.of_step {s s' : Store τ} {label : Label α β τ} (hs : Step S plan foreign s label s')
    (h : Safe S foreign s') : Safe S foreign s := by
  intro m m' hm
  refine h m m' ?_
  rcases hm with ⟨g, hg, hgm⟩ | hf
  · cases hs with
    | served h => exact Or.inl ⟨g, List.mem_cons_of_mem _ hg, hgm⟩
    | refused a => exact Or.inl ⟨g, hg, hgm⟩
    | tampered h => exact Or.inl ⟨g, hg, hgm⟩
  · exact Or.inr hf

/-- All past states are committed ones, and the file is put together from them. -/
structure Kept (S : Scheme δ τ ρ) (foreign : S.Foreign) (I : ρ → Nat → Prop) (s : Store τ) : Prop where
  past : ∀ g ∈ s.past, Committed S I g
  file : s.file ∈ s.past ∨ S.Assembled foreign s.past s.file

/-- **What is accepted is the past.** -/
theorem Kept.accepted {I : ρ → Nat → Prop} {s : Store τ} (h : Kept S foreign I s)
    (hmac : Safe S foreign s) (hread : (S.read s.file).isSome = true) :
    ∃ g ∈ s.past, s.file.entries = g.entries ∧ S.read s.file = S.read g := by
  rcases h.file with hf | hf
  · exact ⟨s.file, hf, rfl, rfl⟩
  · exact Scheme.accepted_is_past hmac (fun g hg => (h.past g hg).isSome) hf hread

theorem Kept.committed {I : ρ → Nat → Prop} {s : Store τ} (h : Kept S foreign I s)
    (hmac : Safe S foreign s) {r : ρ} {n : Nat} {d : τ} (hread : S.read s.file = some (r, n, d)) : I r n := by
  obtain ⟨g, hg, -, hsame⟩ := h.accepted hmac (by rw [hread]; rfl)
  obtain ⟨r', n', d', hr', hI⟩ := h.past g hg
  rw [hread, hr'] at hsame
  cases hsame
  exact hI

/-- **Evident**: whatever the file was put together from, it is a past state or it is refused; and no
committed state is refused. -/
structure Evident (S : Scheme δ τ ρ) (s : Store τ) : Prop where
  tampered : (S.read s.file).isSome = true → ∃ g ∈ s.past, s.file.entries = g.entries ∧ S.read s.file = S.read g
  accepted : ∀ g ∈ s.past, (S.read g).isSome = true

theorem Kept.evident {I : ρ → Nat → Prop} {s : Store τ} (h : Kept S foreign I s)
    (hmac : Safe S foreign s) : Evident S s :=
  ⟨h.accepted hmac, fun g hg => (h.past g hg).isSome⟩

/-- **The invariant rule of a store**: what the empty record has, and every text that a call plans
keeps, every committed state has. -/
theorem run_kept {I : ρ → Nat → Prop} (h₀ : I S.start 0)
    (hI : ∀ a r n previous d b r', I r n → plan a r n previous = some (some d, b) →
      S.apply r d = some r' → I r' (n + 1))
    {s : Store τ} {labels : List (Label α β τ)}
    (p : Path (Step S plan foreign) (initial S) labels s) (hmac : Safe S foreign s) :
    Kept S foreign I s := by
  have hrun := p.invariant (I := fun s => Safe S foreign s → Kept S foreign I s) ?_ ?_
  · exact hrun hmac
  · intro s label s' hk hs hsafe
    have hkept := hk (hsafe.of_step hs)
    cases hs with
    | refused a => exact hkept
    | tampered h => exact ⟨hkept.past, Or.inr h⟩
    | @served a b f h =>
      refine ⟨fun g hg => ?_, Or.inl List.mem_cons_self⟩
      rcases List.mem_cons.mp hg with rfl | hg
      · obtain ⟨r, n, previous, hr, ⟨-, rfl⟩ | ⟨d, r', hp, ha, -, hr'⟩⟩ := Scheme.call_eq_some h
        · exact ⟨r, n, previous, hr, hkept.committed (hsafe.of_step (.served h)) hr⟩
        · have hIr := hkept.committed (hsafe.of_step (.served h)) hr
          exact ⟨r', n + 1, _, hr', hI a r n previous d b r' hIr hp ha⟩
      · exact hkept.past g hg
  · intro _
    refine ⟨fun g hg => ?_, Or.inl List.mem_cons_self⟩
    rw [List.mem_singleton.mp hg]
    exact ⟨S.start, 0, S.zero, Scheme.read_empty, h₀⟩

end

end Store

end AutPlay.Chain
