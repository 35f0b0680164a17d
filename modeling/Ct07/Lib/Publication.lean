/-
# A record that is published by a flag

One thread copies records, part by part and in any order of the parts, to a shared place, and
raises a flag behind each copy.  Other threads look at the flag, and when it is raised they read
the parts, in any order.  Nothing keeps the threads apart.

* `begin`, `copy`, `publish` : the steps of the writer;
* `look`, `readPart`, `finish` : the steps of a reader;
* `Answer.Faithful` : what a reader can rely on;
* `State.Inv` : the invariant, which each step keeps;
* `look_inv`, `finish_inv` : every answer is faithful.

A reader gets nothing only if nothing had been published when it looked.  Every part that it gets
is one of a record whose copy has begun, and all of them are those of the record that was
published last unless a copy was under way meanwhile.
-/
import Mathlib.Data.Fintype.Basic
import Mathlib.Data.List.Infix
import Mathlib.Logic.Function.Basic

namespace Publication

/-! ## Operations -/

/-- The writer; `done` are the parts that it has copied. -/
inductive Writer (ι α : Type*) where
  | idle
  | copying (record : ι → α) (done : Finset ι)

/-- A reader that has seen the flag raised, with the parts it has read, and with the records that
had been published when it looked. -/
structure Reader (ι α : Type*) where
  seen : ι → Option α
  published : List (ι → α)

/-- What a reader got: nothing, or a record.  Along with it stand the records that had been
published when it looked, and those whose copy had begun when it had got all parts. -/
structure Answer (ι α : Type*) where
  value : Option (ι → α)
  published : List (ι → α)
  begun : List (ι → α)

/-- The shared place, the threads, and the history, the newest first. -/
structure State (τ ι α : Type*) where
  payload : ι → α
  flag : Bool
  writer : Writer ι α
  reader : τ → Option (Reader ι α)
  begun : List (ι → α)
  published : List (ι → α)

/-- At first the flag is down; what the place holds then does not matter. -/
def State.init (τ : Type*) {ι α : Type*} (payload : ι → α) : State τ ι α :=
  ⟨payload, false, .idle, fun _ => none, [], []⟩

section Steps

variable {τ ι α : Type*}

/-- The writer begins to copy a record. -/
def begin (s : State τ ι α) (record : ι → α) : Option (State τ ι α) :=
  match s.writer with
  | .idle => some { s with writer := .copying record ∅, begun := record :: s.begun }
  | .copying _ _ => none

/-- The writer copies a part. -/
def copy [DecidableEq ι] (s : State τ ι α) (i : ι) : Option (State τ ι α) :=
  match s.writer with
  | .idle => none
  | .copying record done =>
      if i ∈ done then none
      else
        let payload := Function.update s.payload i (record i)
        some { s with payload := payload, writer := .copying record (insert i done) }

/-- The writer raises the flag when all parts are there. -/
def publish [DecidableEq ι] [Fintype ι] (s : State τ ι α) : Option (State τ ι α) :=
  match s.writer with
  | .idle => none
  | .copying record done =>
      if done = Finset.univ then
        some { s with flag := true, writer := .idle, published := record :: s.published }
      else none

variable [DecidableEq τ]

def State.setReader (s : State τ ι α) (t : τ) (r : Option (Reader ι α)) : State τ ι α :=
  { s with reader := Function.update s.reader t r }

/-- A reader looks at the flag: it begins to read, or gets nothing. -/
def look (s : State τ ι α) (t : τ) : Option (State τ ι α × Option (Answer ι α)) :=
  match s.reader t with
  | some _ => none
  | none =>
      if s.flag then some (s.setReader t (some ⟨fun _ => none, s.published⟩), none)
      else some (s, some ⟨none, s.published, s.begun⟩)

/-- A reader reads a part, maybe not for the first time. -/
def readPart [DecidableEq ι] (s : State τ ι α) (t : τ) (i : ι) : Option (State τ ι α) :=
  match s.reader t with
  | none => none
  | some r =>
      let seen := Function.update r.seen i (some (s.payload i))
      some (s.setReader t (some ⟨seen, r.published⟩))

/-- A reader that has read all parts is done. -/
def finish [Fintype ι] (s : State τ ι α) (t : τ) : Option (State τ ι α × Answer ι α) :=
  match s.reader t with
  | none => none
  | some r =>
      if h : ∀ i, (r.seen i).isSome then
        let record := fun i => (r.seen i).get (h i)
        some (s.setReader t none, ⟨some record, r.published, s.begun⟩)
      else none

end Steps

/-! ## What is proved -/

section Faithful

variable {τ ι α : Type*}

/-- What a reader can rely on. -/
structure Answer.Faithful (a : Answer ι α) : Prop where
  /-- it gets nothing only if there was nothing -/
  nothing : a.value = none ↔ a.published = []
  /-- every part is one of a record -/
  parts : ∀ v ∈ a.value, ∀ i, ∃ record ∈ a.begun, v i = record i
  /-- all parts are of the last record when no copy was under way -/
  last : ∀ v ∈ a.value, a.begun = a.published → a.published.head? = some v

/-- If a single record is ever copied, a reader gets nothing or this record. -/
theorem Answer.Faithful.of_single {a : Answer ι α} (h : a.Faithful) {record : ι → α}
    (hbegun : ∀ r ∈ a.begun, r = record) : ∀ v ∈ a.value, v = record := by
  intro v hv
  funext i
  obtain ⟨r, hr, heq⟩ := h.parts v hv i
  rw [heq, hbegun r hr]

/-! ## The invariant -/

/-- What the writer has got to, for the records begun and published. -/
def Writer.Fits (w : Writer ι α) (begun published : List (ι → α)) : Prop :=
  match w with
  | .idle => begun = published
  | .copying record _ => begun = record :: published

/-- The part `i` is one of the record that is copied, or else of the last one. -/
def Writer.PartFits (w : Writer ι α) (published : List (ι → α)) (i : ι) (a : α) : Prop :=
  match w with
  | .idle => ∀ record ∈ published.head?, a = record i
  | .copying record done =>
      (i ∈ done → a = record i) ∧ (i ∉ done → ∀ last ∈ published.head?, a = last i)

/-- A reader that has not read all parts yet. -/
structure Reader.Fits (r : Reader ι α) (begun published : List (ι → α)) : Prop where
  nonempty : r.published ≠ []
  suffix : r.published <:+ published
  parts : ∀ i a, r.seen i = some a → ∃ record ∈ begun, a = record i
  last : begun = r.published → ∀ i a, r.seen i = some a → ∀ record ∈ r.published.head?, a = record i

/-- The invariant. -/
structure State.Inv (s : State τ ι α) : Prop where
  flag : s.flag = true ↔ s.published ≠ []
  writer : s.writer.Fits s.begun s.published
  payload : ∀ i, s.writer.PartFits s.published i (s.payload i)
  reader : ∀ t r, s.reader t = some r → r.Fits s.begun s.published

theorem init_inv (payload : ι → α) : (State.init τ payload).Inv where
  flag := by simp [State.init]
  writer := rfl
  payload := fun _ _ h => nomatch h
  reader := fun _ _ h => nomatch h

/-- The records published are among those begun. -/
theorem Writer.Fits.suffix {w : Writer ι α} {begun published : List (ι → α)}
    (h : w.Fits begun published) : published <:+ begun := by
  cases w with
  | idle =>
      have heq : begun = published := h
      rw [heq]
  | copying record done =>
      have heq : begun = record :: published := h
      rw [heq]
      exact List.suffix_cons record published

/-- A part of the shared place is one of a record, when one has been published. -/
theorem Writer.PartFits.exists_record {w : Writer ι α} {begun published : List (ι → α)} {i : ι}
    {a : α} (h : w.PartFits published i a) (hw : w.Fits begun published)
    (hne : published ≠ []) : ∃ record ∈ begun, a = record i := by
  obtain ⟨last, rest, rfl⟩ := List.exists_cons_of_ne_nil hne
  have hlast : last ∈ begun := hw.suffix.mem List.mem_cons_self
  cases w with
  | idle => exact ⟨last, hlast, h last rfl⟩
  | copying record done =>
      by_cases hi : i ∈ done
      · have heq : begun = record :: last :: rest := hw
        refine ⟨record, ?_, h.1 hi⟩
        rw [heq]
        exact List.mem_cons_self
      · exact ⟨last, hlast, h.2 hi last rfl⟩

/-- A copy that begins later does not change what a reader can rely on. -/
theorem Reader.Fits.begin {r : Reader ι α} {begun published : List (ι → α)}
    (h : r.Fits begun published) (hsuffix : published <:+ begun) (record : ι → α) :
    r.Fits (record :: begun) published where
  nonempty := h.nonempty
  suffix := h.suffix
  parts := by
    intro i a hseen
    obtain ⟨r', hr', heq⟩ := h.parts i a hseen
    exact ⟨r', List.mem_cons_of_mem _ hr', heq⟩
  last := by
    intro heq
    -- there are more records now than when the reader looked
    have hle := (h.suffix.trans hsuffix).length_le
    have hlen := congrArg List.length heq
    rw [List.length_cons] at hlen
    omega

theorem Reader.Fits.publish {r : Reader ι α} {begun published : List (ι → α)}
    (h : r.Fits begun published) (record : ι → α) : r.Fits begun (record :: published) where
  nonempty := h.nonempty
  suffix := h.suffix.trans (List.suffix_cons record published)
  parts := h.parts
  last := h.last

/-- A reader that has just looked. -/
theorem Reader.Fits.start {begun published : List (ι → α)} (h : published ≠ []) :
    (⟨fun _ => none, published⟩ : Reader ι α).Fits begun published where
  nonempty := h
  suffix := List.suffix_refl published
  parts := fun _ _ h => nomatch h
  last := fun _ _ _ h => nomatch h

/-- A reader reads a part that the shared place holds. -/
theorem Reader.Fits.readPart [DecidableEq ι] {r : Reader ι α} {w : Writer ι α}
    {begun published : List (ι → α)} {i : ι} {a : α} (h : r.Fits begun published)
    (hw : w.Fits begun published) (ha : w.PartFits published i a) :
    (⟨Function.update r.seen i (some a), r.published⟩ : Reader ι α).Fits begun published where
  nonempty := h.nonempty
  suffix := h.suffix
  parts := by
    intro j b hseen
    replace hseen : Function.update r.seen i (some a) j = some b := hseen
    have hne : published ≠ [] := by
      rintro rfl
      exact h.nonempty (List.suffix_nil.1 h.suffix)
    by_cases hji : j = i
    · subst hji
      rw [Function.update_self] at hseen
      cases hseen
      exact ha.exists_record hw hne
    · rw [Function.update_of_ne hji] at hseen
      exact h.parts j b hseen
  last := by
    intro heq j b hseen record hrecord
    replace hseen : Function.update r.seen i (some a) j = some b := hseen
    by_cases hji : j = i
    · subst hji
      rw [Function.update_self] at hseen
      cases hseen
      -- no copy is under way, and the last record is the one that the reader has found
      have heq' : begun = r.published := heq
      have hpub : published = r.published := by
        refine (h.suffix.eq_of_length_le ?_).symm
        rw [← heq']
        exact hw.suffix.length_le
      cases w with
      | idle => exact ha record (by rw [hpub]; exact hrecord)
      | copying r' done =>
          have hcons : begun = r' :: published := hw
          have hlen := congrArg List.length (hcons.symm.trans (heq'.trans hpub.symm))
          rw [List.length_cons] at hlen
          omega
    · rw [Function.update_of_ne hji] at hseen
      exact h.last heq j b hseen record hrecord

end Faithful

/-! ## One step -/

section Step

variable {τ ι α : Type*} [DecidableEq τ] [DecidableEq ι] [Fintype ι] {s s' : State τ ι α}

omit [DecidableEq τ] [DecidableEq ι] [Fintype ι] in
theorem begin_inv (h : s.Inv) {record : ι → α} (hs : begin s record = some s') : s'.Inv := by
  unfold begin at hs
  split at hs
  · rename_i hidle
    cases Option.some.inj hs
    have hwriter := h.writer
    have hpayload := h.payload
    rw [hidle] at hwriter hpayload
    have hbegun : s.begun = s.published := hwriter
    refine ⟨h.flag, ?_, fun i => ⟨fun hi => ?_, fun _ => hpayload i⟩, fun t r hr => ?_⟩
    · show record :: s.begun = record :: s.published
      rw [hbegun]
    · exact absurd hi (Finset.notMem_empty i)
    · exact (h.reader t r hr).begin (by rw [hbegun]) record
  · cases hs

omit [DecidableEq τ] [Fintype ι] in
theorem copy_inv (h : s.Inv) {i : ι} (hs : copy s i = some s') : s'.Inv := by
  unfold copy at hs
  split at hs
  · cases hs
  · rename_i record done hcopying
    rw [Option.ite_none_left_eq_some] at hs
    obtain ⟨hi, hs⟩ := hs
    cases Option.some.inj hs
    have hwriter := h.writer
    have hpayload := h.payload
    rw [hcopying] at hwriter hpayload
    refine ⟨h.flag, hwriter, fun j => ?_, h.reader⟩
    show (Writer.copying record (insert i done)).PartFits _ j (Function.update s.payload i _ j)
    by_cases hji : j = i
    · subst hji
      rw [Function.update_self]
      exact ⟨fun _ => rfl, fun hj => absurd (Finset.mem_insert_self j done) hj⟩
    · rw [Function.update_of_ne hji]
      constructor
      · intro hj
        exact (hpayload j).1 (Finset.mem_of_mem_insert_of_ne hj hji)
      · intro hj
        exact (hpayload j).2 fun hmem => hj (Finset.mem_insert_of_mem hmem)

omit [DecidableEq τ] in
theorem publish_inv (h : s.Inv) (hs : publish s = some s') : s'.Inv := by
  unfold publish at hs
  split at hs
  · cases hs
  · rename_i record done hcopying
    rw [Option.ite_none_right_eq_some] at hs
    obtain ⟨hdone, hs⟩ := hs
    cases Option.some.inj hs
    have hwriter := h.writer
    have hpayload := h.payload
    rw [hcopying] at hwriter hpayload
    refine ⟨by simp, hwriter, fun i r hr => ?_, fun t r hr => (h.reader t r hr).publish record⟩
    have hr' : record = r := Option.some.inj hr
    rw [← hr']
    apply (hpayload i).1
    rw [hdone]
    exact Finset.mem_univ i

omit [DecidableEq ι] [Fintype ι] in
/-- A reader changes. -/
theorem State.Inv.setReader (h : s.Inv) (t : τ) {r : Option (Reader ι α)}
    (hr : ∀ r' ∈ r, r'.Fits s.begun s.published) : (s.setReader t r).Inv := by
  refine ⟨h.flag, h.writer, h.payload, fun u r' hr' => ?_⟩
  replace hr' : Function.update s.reader t r u = some r' := hr'
  by_cases hu : u = t
  · subst hu
    rw [Function.update_self] at hr'
    exact hr r' hr'
  · rw [Function.update_of_ne hu] at hr'
    exact h.reader u r' hr'

omit [DecidableEq ι] [Fintype ι] in
theorem look_inv (h : s.Inv) {t : τ} {answer : Option (Answer ι α)}
    (hs : look s t = some (s', answer)) : s'.Inv ∧ ∀ a ∈ answer, a.Faithful := by
  unfold look at hs
  split at hs
  · cases hs
  · split at hs
    · rename_i hflag
      cases hs
      constructor
      · apply h.setReader
        rintro r' ⟨⟩
        exact .start (h.flag.1 hflag)
      · rintro a ⟨⟩
    · rename_i hflag
      cases hs
      have hnothing : s.published = [] := by
        by_contra hne
        exact hflag (h.flag.2 hne)
      refine ⟨h, ?_⟩
      rintro a ⟨⟩
      constructor
      · simp [hnothing]
      · rintro v ⟨⟩
      · rintro v ⟨⟩

omit [Fintype ι] in
theorem readPart_inv (h : s.Inv) {t : τ} {i : ι} (hs : readPart s t i = some s') : s'.Inv := by
  unfold readPart at hs
  split at hs
  · cases hs
  · rename_i r hr
    cases hs
    apply h.setReader
    rintro r' ⟨⟩
    exact (h.reader t r hr).readPart h.writer (h.payload i)

omit [DecidableEq ι] in
theorem finish_inv (h : s.Inv) {t : τ} {a : Answer ι α} (hs : finish s t = some (s', a)) :
    s'.Inv ∧ a.Faithful := by
  unfold finish at hs
  split at hs
  · cases hs
  · rename_i r hr
    split at hs
    · rename_i hall
      cases hs
      have hfits := h.reader t r hr
      have hseen : ∀ i, r.seen i = some ((r.seen i).get (hall i)) := fun i => by simp
      constructor
      · apply h.setReader
        rintro r' ⟨⟩
      · constructor
        · simp [hfits.nonempty]
        · rintro v ⟨⟩ i
          exact hfits.parts i _ (hseen i)
        · rintro v ⟨⟩ heq
          obtain ⟨last, rest, hlast⟩ := List.exists_cons_of_ne_nil hfits.nonempty
          have hhead : r.published.head? = some last := by rw [hlast]; rfl
          show r.published.head? = _
          rw [hhead]
          apply congrArg some
          funext i
          exact (hfits.last heq i _ (hseen i) last hhead).symm
    · cases hs

end Step

end Publication
