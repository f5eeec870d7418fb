/-!
# Similar words

Two words are similar if three fifths of their characters agree, counted by their longest common
block and, again, on both sides of it. `similarWords` picks the words that a person may have meant.
-/

namespace Folio.CommandLine

/-- The length of the common beginning of two texts. -/
def commonStart : List Char → List Char → Nat
  | a :: as, b :: bs => if a = b then commonStart as bs + 1 else 0
  | _, _ => 0

/-- A common block: where it starts in both texts and its length. -/
structure CommonBlock where
  left : Nat
  right : Nat
  length : Nat
  deriving DecidableEq, Repr

/-- The longest common block of two texts, the first one of those. -/
def longestBlock (a b : List Char) : CommonBlock :=
  (List.range a.length).foldl (fun best i =>
    (List.range b.length).foldl (fun best j =>
      let n := commonStart (a.drop i) (b.drop j)
      if best.length < n then ⟨i, j, n⟩ else best) best) ⟨0, 0, 0⟩

/-- How many characters agree. Each round takes a common block out, so the length of a text bounds
the rounds. -/
def agreement : Nat → List Char → List Char → Nat
  | 0, _, _ => 0
  | bound + 1, a, b =>
    let block := longestBlock a b
    if block.length = 0 then 0
    else
      block.length + agreement bound (a.take block.left) (b.take block.right)
        + agreement bound (a.drop (block.left + block.length)) (b.drop (block.right + block.length))

/-- How similar a word is to another: agreeing characters, and characters in all. -/
def similarity (candidate word : String) : Nat × Nat :=
  (2 * agreement candidate.length candidate.toList word.toList, candidate.length + word.length)

/-- Whether a share is at least as large as another, the words deciding between equal ones. -/
def atLeastAs (a b : (Nat × Nat) × String) : Bool :=
  let x := a.1.1 * b.1.2
  let y := b.1.1 * a.1.2
  decide (y < x) || (x == y && !decide (a.2 < b.2))

/-- At most three words that are similar to one, in alphabetical order. -/
def similarWords (word : String) (candidates : List String) : List String :=
  let scored := (candidates.map fun c => (similarity c word, c)).filter fun s =>
    decide (3 * s.1.2 ≤ 5 * s.1.1)
  (((scored.mergeSort atLeastAs).take 3).map (·.2)).mergeSort fun a b => !decide (b < a)

end Folio.CommandLine
