import Folio.Proofs.Script.Splice
import Mathlib.Data.List.Induction

/-!
# The scan over scheduled edits

A schedule has the last edit of each range, and `render` scans it by start and stop
(`pairwise_ordered`). If of two ranges that meet one lies in the other, in two layers at most, the
scan keeps an edit unless a shorter one begins with it or it lies in one that is kept itself
(`mem_kept_iff`).
-/

namespace Folio.Script

/-! ## Schedules -/

namespace Edit

/-- Whether an edit is the last one for its range. -/
def IsLast (edits : List Edit) (e : Edit) : Prop :=
  (edits.filter (·.sameRange e)).getLast? = some e

instance (edits : List Edit) (e : Edit) : Decidable (IsLast edits e) :=
  inferInstanceAs (Decidable (_ = _))

/-- Whether one of two edits of different ranges is rendered first. -/
def Before (a b : Edit) : Prop :=
  a.start < b.start ∨ a.start = b.start ∧ a.stop < b.stop

variable {e f g : Edit} {edits : List Edit}

theorem sameRange_iff : e.sameRange f = true ↔ e.start = f.start ∧ e.stop = f.stop := by
  simp [sameRange]

theorem sameRange_comm (e f : Edit) : e.sameRange f = f.sameRange e := by
  rw [Bool.eq_iff_iff, sameRange_iff, sameRange_iff]
  exact and_congr eq_comm eq_comm

theorem IsLast.mem (last : IsLast edits e) : e ∈ edits :=
  List.mem_of_mem_filter (List.mem_of_getLast? last)

theorem exists_isLast (member : e ∈ edits) : ∃ f, f.sameRange e = true ∧ IsLast edits f := by
  have own : e ∈ edits.filter (·.sameRange e) := List.mem_filter.2 ⟨member, by simp [sameRange]⟩
  cases last : (edits.filter (·.sameRange e)).getLast? with
  | none => exact absurd (List.getLast?_eq_none_iff.1 last ▸ own) List.not_mem_nil
  | some f =>
    have same := (List.mem_filter.1 (List.mem_of_getLast? last)).2
    refine ⟨f, same, ?_⟩
    rw [IsLast, ← last]
    congr 2
    funext g
    simp only [sameRange, (sameRange_iff.1 same).1, (sameRange_iff.1 same).2]

theorem isLast_concat (edits : List Edit) (last e : Edit) : IsLast (edits ++ [last]) e ↔
    (IsLast edits e ∧ e.sameRange last = false) ∨ e = last := by
  rw [IsLast, IsLast, List.filter_append, sameRange_comm e last]
  cases same : last.sameRange e with
  | true => simp [same, eq_comm]
  | false =>
    have other : e ≠ last := by
      rintro rfl
      simp [sameRange] at same
    simp [same, other]

theorem mem_foldl_schedule : e ∈ edits.foldl schedule [] ↔ IsLast edits e := by
  induction edits using List.reverseRecOn with
  | nil => simp [IsLast]
  | append_singleton edits last ih =>
    rw [List.foldl_append, isLast_concat, ← ih]
    simp [schedule]

theorem pairwise_foldl_schedule (edits : List Edit) :
    (edits.foldl schedule []).Pairwise fun a b => a.sameRange b = false := by
  induction edits using List.reverseRecOn with
  | nil => exact List.Pairwise.nil
  | append_singleton edits last ih =>
    rw [List.foldl_append, List.foldl_cons, List.foldl_nil, schedule]
    refine List.pairwise_append.2 ⟨ih.filter _, List.pairwise_singleton _ _, ?_⟩
    intro a member b single
    rw [List.mem_singleton.1 single]
    simpa using (List.mem_filter.1 member).2

/-- The scheduled edits in the order in which they are rendered. -/
def ordered (edits : List Edit) : List Edit :=
  (edits.foldl schedule []).mergeSort isBefore

theorem mem_ordered : e ∈ ordered edits ↔ IsLast edits e :=
  List.mem_mergeSort.trans mem_foldl_schedule

theorem pairwise_ordered (edits : List Edit) : (ordered edits).Pairwise Before := by
  have sorted : (ordered edits).Pairwise fun a b => a.isBefore b = true := by
    refine List.pairwise_mergeSort (fun a b c => ?_) (fun a b => ?_) _
    · simp only [isBefore, Bool.or_eq_true, Bool.and_eq_true, decide_eq_true_eq, beq_iff_eq]
      omega
    · simp only [isBefore, Bool.or_eq_true, Bool.and_eq_true, decide_eq_true_eq, beq_iff_eq]
      omega
  have apart : (ordered edits).Pairwise fun a b => a.sameRange b = false :=
    ((List.mergeSort_perm _ _).pairwise_iff fun other => (sameRange_comm _ _).trans other).2
      (pairwise_foldl_schedule edits)
  refine (sorted.and apart).imp fun {a b} both => ?_
  have other := mt sameRange_iff.2 (Bool.eq_false_iff.1 both.2)
  simp only [isBefore, Bool.or_eq_true, Bool.and_eq_true, decide_eq_true_eq, beq_iff_eq] at both
  unfold Before
  omega

/-- The order in which edits of different ranges are scheduled is lost. -/
theorem ordered_congr {edits edits' : List Edit}
    (same : ∀ e, edits.filter (·.sameRange e) = edits'.filter (·.sameRange e)) :
    ordered edits = ordered edits' := by
  have irreflexive (edits : List Edit) : (ordered edits).Nodup :=
    (pairwise_ordered edits).imp fun {a b} before => by
      rintro rfl
      unfold Before at before
      omega
  have perm : (ordered edits).Perm (ordered edits') := by
    refine (List.perm_ext_iff_of_nodup (irreflexive _) (irreflexive _)).2 fun e => ?_
    rw [mem_ordered, mem_ordered, IsLast, IsLast, same]
  refine perm.eq_of_pairwise ?_ (pairwise_ordered _) (pairwise_ordered _)
  intro a b _ _ before after
  unfold Before at before after
  omega

end Edit

open Edit

/-! ## The scan -/

/-- A source from an offset on and what becomes of it under edits that follow each other: the range
of each is replaced, and all between them stays. -/
inductive Replaced : Nat → List Edit → List Char → List Char → Prop
  | done (offset : Nat) (kept : List Char) : Replaced offset [] kept kept
  | edit {offset : Nat} {e : Edit} {edits : List Edit} {gap old rest output : List Char}
      (start : e.start = offset + gap.length) (stop : e.stop = e.start + old.length)
      (later : Replaced e.stop edits rest output) :
      Replaced offset (e :: edits) (gap ++ old ++ rest) (gap ++ e.text.toList ++ output)

/-- The edits that the scan comes to with its cursor not yet past their start. -/
def keptFrom (cursor : Nat) : List Edit → List Edit
  | [] => []
  | e :: edits => if e.start < cursor then keptFrom cursor edits else e :: keptFrom e.stop edits

section Scan

variable {edits : List Edit} {cursor : Nat} {source : List Char} {e : Edit}

theorem splice_replaced
    (within : ∀ e ∈ edits, e.start < e.stop ∧ e.stop ≤ cursor + source.length) :
    Replaced cursor (keptFrom cursor edits) source (splice cursor source edits) := by
  induction edits generalizing cursor source with
  | nil => exact .done cursor source
  | cons e edits ih =>
    obtain ⟨⟨some, bound⟩, within⟩ := List.forall_mem_cons.1 within
    rw [keptFrom, splice]
    split
    · exact ih within
    · have cut : source.take (e.start - cursor) ++ (source.drop (e.start - cursor)).take
          (e.stop - e.start) ++ source.drop (e.stop - cursor) = source :=
        take_append_slice (by omega) (by omega)
      have later := @ih e.stop (source.drop (e.stop - cursor)) fun f member => by
        have := within f member
        rw [List.length_drop]
        omega
      have start : e.start = cursor + (source.take (e.start - cursor)).length := by
        rw [List.length_take]
        omega
      have stop : e.stop = e.start +
          ((source.drop (e.start - cursor)).take (e.stop - e.start)).length := by
        rw [List.length_take, List.length_drop]
        omega
      have replaced := Replaced.edit start stop later
      rwa [cut] at replaced

theorem mem_of_mem_keptFrom (member : e ∈ keptFrom cursor edits) : e ∈ edits := by
  induction edits generalizing cursor with
  | nil => exact member
  | cons f edits ih =>
    rw [keptFrom] at member
    split at member
    · exact List.mem_cons_of_mem _ (ih member)
    · exact (List.mem_cons.1 member).elim (fun same => by simp [same]) fun later =>
        List.mem_cons_of_mem _ (ih later)

/-- An edit is kept unless one that is kept before it goes past its start. -/
theorem mem_keptFrom_iff (ordered : edits.Pairwise Before) : e ∈ keptFrom cursor edits ↔
    e ∈ edits ∧ cursor ≤ e.start ∧ ∀ f ∈ keptFrom cursor edits, f.Before e → f.stop ≤ e.start := by
  induction edits generalizing cursor with
  | nil => simp [keptFrom]
  | cons first edits ih =>
    obtain ⟨before, ordered⟩ := List.pairwise_cons.1 ordered
    rw [keptFrom]
    split
    · next past =>
      rw [ih ordered, List.mem_cons]
      refine and_congr_left fun ⟨start, _⟩ => ?_
      have other : e ≠ first := by
        rintro rfl
        omega
      simp [other]
    · next start =>
      rw [List.mem_cons, List.mem_cons, ih ordered, List.forall_mem_cons]
      constructor
      · rintro (rfl | ⟨member, past, kept⟩)
        · refine ⟨Or.inl rfl, by omega, fun own => ?_, fun f member earlier => ?_⟩
          · unfold Before at own
            omega
          · have := before f (mem_of_mem_keptFrom member)
            unfold Before at this earlier
            omega
        · have := before e member
          exact ⟨Or.inr member, by unfold Before at this; omega, fun _ => past, kept⟩
      · rintro ⟨rfl | member, -, past, kept⟩
        · exact Or.inl rfl
        · exact Or.inr ⟨member, past (before e member), kept⟩

theorem pairwise_keptFrom (some : ∀ e ∈ edits, e.start < e.stop) :
    (∀ e ∈ keptFrom cursor edits, cursor ≤ e.start) ∧
      (keptFrom cursor edits).Pairwise fun a b => a.stop ≤ b.start := by
  induction edits generalizing cursor with
  | nil => exact ⟨nofun, List.Pairwise.nil⟩
  | cons first edits ih =>
    obtain ⟨own, some⟩ := List.forall_mem_cons.1 some
    rw [keptFrom]
    split
    · exact ih some
    · obtain ⟨bounds, pairwise⟩ := @ih first.stop some
      refine ⟨List.forall_mem_cons.2 ⟨by omega, fun e member => ?_⟩,
        List.pairwise_cons.2 ⟨bounds, pairwise⟩⟩
      have := bounds e member
      omega

end Scan

/-! ## Layered edits -/

namespace Edit

/-- Whether an edit lies in another of a different range. -/
def Inside (e f : Edit) : Prop :=
  f.start ≤ e.start ∧ e.stop ≤ f.stop ∧ e.sameRange f = false

instance (e f : Edit) : Decidable (e.Inside f) :=
  inferInstanceAs (Decidable (_ ∧ _ ∧ _))

/-- Whether a shorter edit begins with an edit. -/
def Shadowed (edits : List Edit) (f : Edit) : Prop :=
  ∃ g ∈ edits, g.start = f.start ∧ g.stop < f.stop

/-- Whether an edit is the last one for its range, which lies in no other. -/
def Outermost (edits : List Edit) (e : Edit) : Prop :=
  IsLast edits e ∧ ∀ f ∈ edits, ¬ e.Inside f

instance (edits : List Edit) (e : Edit) : Decidable (Outermost edits e) :=
  inferInstanceAs (Decidable (_ ∧ _))

/-- Whether an edit is the last one for its range and not shadowed, and lies in none but shadowed
ones. -/
def Prevails (edits : List Edit) (e : Edit) : Prop :=
  IsLast edits e ∧ ¬ Shadowed edits e ∧ ∀ f ∈ edits, e.Inside f → Shadowed edits f

/-- Edits of which any two have the same range or are apart, or one lies in the other, and then the
other lies in no third. -/
structure Layered (edits : List Edit) : Prop where
  some : ∀ e ∈ edits, e.start < e.stop
  apart : ∀ e ∈ edits, ∀ f ∈ edits, e.sameRange f = true ∨ e.stop ≤ f.start ∨ f.stop ≤ e.start ∨
    e.Inside f ∨ f.Inside e
  shallow : ∀ e ∈ edits, ∀ f ∈ edits, ∀ g ∈ edits, e.Inside f → ¬ f.Inside g

namespace Layered

variable {e f : Edit} {edits : List Edit}

/-- The edits that the scan keeps. -/
abbrev kept (edits : List Edit) : List Edit :=
  keptFrom 0 (ordered edits)

theorem mem_kept : e ∈ kept edits ↔
    IsLast edits e ∧ ∀ f ∈ kept edits, f.Before e → f.stop ≤ e.start := by
  rw [kept, Script.mem_keptFrom_iff (pairwise_ordered edits), mem_ordered]
  simp

/-- An edit that is not kept has a kept one before it that goes past its start. -/
theorem exists_of_not_mem_kept (last : IsLast edits e) (lost : e ∉ kept edits) :
    ∃ f ∈ kept edits, f.Before e ∧ e.start < f.stop := by
  by_contra none
  push Not at none
  exact lost (mem_kept.2 ⟨last, none⟩)

theorem not_shadowed_of_mem_kept (layered : Layered edits) (member : e ∈ kept edits) :
    ¬ Shadowed edits e := by
  rintro ⟨g, requested, start, shorter⟩
  obtain ⟨g, same, last⟩ := exists_isLast requested
  obtain ⟨start', stop⟩ := sameRange_iff.1 same
  have some := layered.some g last.mem
  have clear := (mem_kept.1 member).2
  by_cases first : g ∈ kept edits
  · have := clear g first (by unfold Before; omega)
    omega
  · obtain ⟨h, first, before, past⟩ := exists_of_not_mem_kept last first
    have := clear h first (by unfold Before at before ⊢; omega)
    omega

/-- What a kept edit lies in is shadowed by it or by the edit that was kept instead. -/
theorem shadowed_of_mem_kept (layered : Layered edits) (member : e ∈ kept edits)
    (requested : f ∈ edits) (inside : e.Inside f) : Shadowed edits f := by
  obtain ⟨last, clear⟩ := mem_kept.1 member
  have some := layered.some e last.mem
  have other := mt sameRange_iff.2 (Bool.eq_false_iff.1 inside.2.2)
  have low := inside.1
  have high := inside.2.1
  by_cases begins : f.start = e.start
  · exact ⟨e, last.mem, begins.symm, by omega⟩
  obtain ⟨f', same, last'⟩ := exists_isLast requested
  obtain ⟨start, stop⟩ := sameRange_iff.1 same
  have lost : f' ∉ kept edits := fun first => by
    have := clear f' first (by unfold Before; omega)
    omega
  obtain ⟨g, first, before, past⟩ := exists_of_not_mem_kept last' lost
  have earlier := (mem_kept.1 first).1.mem
  unfold Before at before
  rcases layered.apart g earlier f requested with equal | apart | apart | within | within
  · obtain ⟨start', stop'⟩ := sameRange_iff.1 equal
    omega
  · omega
  · have := layered.some f requested
    omega
  · obtain ⟨le, -, -⟩ := within
    exact ⟨g, earlier, by omega, by omega⟩
  · exact absurd within (layered.shallow e last.mem f requested g earlier inside)

theorem mem_kept_of_prevails (layered : Layered edits) (prevails : Prevails edits e) :
    e ∈ kept edits := by
  obtain ⟨last, lit, inside⟩ := prevails
  by_contra lost
  obtain ⟨f, first, before, past⟩ := exists_of_not_mem_kept last lost
  have earlier := (mem_kept.1 first).1.mem
  unfold Before at before
  rcases layered.apart e last.mem f earlier with equal | apart | apart | within | within
  · obtain ⟨start, stop⟩ := sameRange_iff.1 equal
    omega
  · have := layered.some e last.mem
    omega
  · omega
  · exact layered.not_shadowed_of_mem_kept first (inside f earlier within)
  · obtain ⟨le, -, -⟩ := within
    exact lit ⟨f, earlier, by omega, by omega⟩

/-- The scan keeps the edits that prevail. -/
theorem mem_kept_iff (layered : Layered edits) : e ∈ kept edits ↔ Prevails edits e :=
  ⟨fun member => ⟨(mem_kept.1 member).1, layered.not_shadowed_of_mem_kept member,
    fun _ => layered.shadowed_of_mem_kept member⟩, layered.mem_kept_of_prevails⟩

end Layered

end Edit

end Folio.Script
