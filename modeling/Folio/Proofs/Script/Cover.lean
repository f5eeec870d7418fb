import Folio.Script.Tree

/-!
# Tokens cover their source

The tokens of a scan stand one after the other without a gap (`scan_covers`), so the significant
ones ascend inside the source (`significant_ascending`).
-/

namespace Folio.Script

/-- Tokens that are a text from an offset on, each beginning where the one before ends. -/
inductive Covers : Nat → List Token → List Char → Prop
  | nil (offset : Nat) : Covers offset [] []
  | cons {t : Token} {tokens : List Token} {rest : List Char} (some : t.text ≠ "")
      (later : Covers t.stop tokens rest) :
      Covers t.start (t :: tokens) (t.text.toList ++ rest)

theorem Covers.ofList {kind : Kind} {offset : Nat} {c : Char} {body rest : List Char}
    {tokens : List Token} (later : Covers (offset + (c :: body).length) tokens rest) :
    Covers offset (⟨kind, String.ofList (c :: body), offset, false⟩ :: tokens)
      (c :: body ++ rest) := by
  have stop : Token.stop ⟨kind, String.ofList (c :: body), offset, false⟩ =
      offset + (c :: body).length := by
    rw [Token.stop, String.length_ofList]
  have covers := @Covers.cons ⟨kind, String.ofList (c :: body), offset, false⟩ _ _ (by simp)
    (stop ▸ later)
  rwa [String.toList_ofList] at covers

theorem scanFrom_covers {mode : Mode} {previous : Option Char} {offset : Nat} {s : List Char}
    {tokens : List Token} (scanned : scanFrom mode previous offset s = .ok tokens) :
    Covers offset tokens s := by
  fun_induction scanFrom mode previous offset s generalizing tokens with
  | case1 => cases scanned; exact .nil _
  | case2 => cases scanned
  | case3 => cases scanned
  | case4 mode previous offset c r found shaped text later laterScanned =>
    rename_i ih
    cases scanned
    have covers := @Covers.ofList found.kind _ _ _ _ _ (ih laterScanned)
    rwa [List.cons_append, List.take_append_drop] at covers

theorem scan_covers {source : List Char} {tokens : List Token} (scanned : scan source = .ok tokens) :
    Covers 0 tokens source :=
  scanFrom_covers scanned

/-! ## Ascending tokens -/

/-- Tokens with text that follow each other without overlap between two offsets. -/
def Ascending (low : Nat) (tokens : List Token) (high : Nat) : Prop :=
  match tokens with
  | [] => low ≤ high
  | t :: tokens => low ≤ t.start ∧ t.start < t.stop ∧ Ascending t.stop tokens high

theorem Ascending.mono {low low' high : Nat} {tokens : List Token}
    (ascending : Ascending low tokens high) (le : low' ≤ low) : Ascending low' tokens high := by
  cases tokens with
  | nil => exact Nat.le_trans le ascending
  | cons t tokens => exact ⟨Nat.le_trans le ascending.1, ascending.2⟩

theorem Ascending.le {low high : Nat} {tokens : List Token}
    (ascending : Ascending low tokens high) : low ≤ high := by
  induction tokens generalizing low with
  | nil => exact ascending
  | cons t tokens ih =>
    obtain ⟨start, some, later⟩ := ascending
    have := ih later
    omega

/-- Of ascending tokens, those after some others ascend from the end of the last one. -/
theorem Ascending.of_append {low high : Nat} {before : List Token} {t : Token}
    {after : List Token} (ascending : Ascending low (before ++ t :: after) high) :
    low ≤ t.start ∧ t.start < t.stop ∧ Ascending t.stop after high := by
  induction before generalizing low with
  | nil => exact ascending
  | cons head before ih =>
    obtain ⟨start, some, later⟩ := ascending
    obtain ⟨le, rest⟩ := ih later
    exact ⟨by omega, rest⟩

theorem Ascending.pairwise {low high : Nat} {tokens : List Token}
    (ascending : Ascending low tokens high) :
    (∀ t ∈ tokens, low ≤ t.start) ∧ tokens.Pairwise fun t t' => t.start < t'.start := by
  induction tokens generalizing low with
  | nil => exact ⟨fun t member => (by cases member), List.Pairwise.nil⟩
  | cons t tokens ih =>
    obtain ⟨start, some, later⟩ := ascending
    obtain ⟨bounds, pairwise⟩ := ih later
    refine ⟨fun t' member => ?_, List.pairwise_cons.2 ⟨fun t' member => ?_, pairwise⟩⟩
    · rcases List.mem_cons.1 member with rfl | member
      · exact start
      · have := bounds t' member
        omega
    · have := bounds t' member
      omega

theorem Covers.significant_ascending {offset : Nat} {tokens : List Token} {s : List Char}
    (covers : Covers offset tokens s) (broken : Bool) :
    Ascending offset (significantFrom broken tokens) (offset + s.length) := by
  induction covers generalizing broken with
  | nil offset => exact Nat.le_refl offset
  | @cons t tokens rest some later ih =>
    have positive : 0 < t.text.length := by
      rw [← String.length_toList]
      exact List.length_pos_iff.2 fun h => some (String.toList_eq_nil_iff.1 h)
    have total : t.start + (t.text.toList ++ rest).length = t.stop + rest.length := by
      simp [Token.stop, Nat.add_assoc, String.length_toList]
    rw [total]
    have le : t.start < t.stop := Nat.lt_add_of_pos_right positive
    unfold significantFrom
    split
    · exact (ih _).mono (Nat.le_of_lt le)
    · exact ⟨Nat.le_refl _, le, ih _⟩

theorem significant_ascending {source : List Char} {tokens : List Token}
    (scanned : scan source = .ok tokens) :
    Ascending 0 (significant tokens) source.length := by
  simpa [significant] using (scan_covers scanned).significant_ascending false

end Folio.Script
