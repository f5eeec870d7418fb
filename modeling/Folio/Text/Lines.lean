import Folio.Text.Split
import Folio.Text.Utf8

/-!
# Lines

Texts come with line ends of several kinds. `unifyLines` makes those of files line feeds;
`shownLines` are the lines of a text that is shown, where any break of a line counts.
-/

namespace Folio.Text

/-- All line ends become line feeds. -/
def unifyLines : List Char → List Char
  | '\r' :: '\n' :: r => '\n' :: unifyLines r
  | '\r' :: r => '\n' :: unifyLines r
  | c :: r => c :: unifyLines r
  | [] => []

/-- The text that some bytes hold, with line feeds only. -/
def decodeLines (bytes : Bytes) : Except DecodeFault String :=
  (decode bytes).map fun s => String.ofList (unifyLines s.toList)

/-- The lines of a text of any kind of line end. -/
def lines (s : String) : List (List Char) :=
  splitOn '\n' (unifyLines s.toList)

/-- Whether a character ends a line that is shown. -/
def isLineBreak (c : Char) : Bool :=
  let n := c.toNat
  (0x0A ≤ n && n ≤ 0x0D) || (0x1C ≤ n && n ≤ 0x1E) || n == 0x85 || n == 0x2028 || n == 0x2029

/-- The lines of some characters, the first of which goes on from `line`, whose characters come
last first. A break at the end begins no further line. -/
def breakLines (line : List Char) : List Char → List (List Char)
  | [] => if line.isEmpty then [] else [line.reverse]
  | '\r' :: '\n' :: r => line.reverse :: breakLines [] r
  | c :: r => if isLineBreak c then line.reverse :: breakLines [] r else breakLines (c :: line) r

/-- The lines of some messages that are shown one below the other. -/
def shownLines (messages : List String) : List String :=
  (breakLines [] (messages.flatMap fun m => m.toList ++ ['\n'])).map String.ofList

theorem return_not_mem_unifyLines (s : List Char) : '\r' ∉ unifyLines s := by
  fun_induction unifyLines s with
  | case1 r ih => simpa using ih
  | case2 r _ ih => simpa using ih
  | case3 c r _ hc ih =>
    simp only [List.mem_cons, not_or]
    exact ⟨fun h => hc h.symm, ih⟩
  | case4 => simp

end Folio.Text
