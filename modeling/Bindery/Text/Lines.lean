/-!
# White space and lines

White space is what has the Unicode property `White_Space`. A line ends at a line feed, and a
carriage return right before it belongs to the ending. The last line may have no ending; nothing
follows a final line feed.
-/

namespace Bindery.Text

/-! ## White space -/

def isBlank (c : Char) : Bool :=
  let n := c.toNat
  (0x9 ≤ n && n ≤ 0xd) || n == 0x20 || n == 0x85 || n == 0xa0 || n == 0x1680 ||
    (0x2000 ≤ n && n ≤ 0x200a) || n == 0x2028 || n == 0x2029 || n == 0x202f || n == 0x205f ||
    n == 0x3000

/-- Whether nothing but white space stands in the text; so for the empty text. -/
def isBlankText (text : String) : Bool :=
  text.toList.all isBlank

/-- The text without the white space at its two ends. -/
def trim (cs : List Char) : List Char :=
  ((cs.dropWhile isBlank).reverse.dropWhile isBlank).reverse

theorem length_trim_le (cs : List Char) : (trim cs).length ≤ cs.length := by
  have shrink (l : List Char) : (l.dropWhile isBlank).length ≤ l.length :=
    (List.dropWhile_sublist isBlank).length_le
  have h₁ := shrink cs
  have h₂ := shrink (cs.dropWhile isBlank).reverse
  simp only [trim, List.length_reverse] at h₂ ⊢
  omega

/-! ## Lines -/

/-- Splits a text into lines; `line` holds the characters of the current line so far, latest
first. -/
def linesFrom (line : List Char) : List Char → List String
  | [] => if line.isEmpty then [] else [String.ofList line.reverse]
  | '\n' :: rest =>
    let kept := match line with
      | '\r' :: before => before
      | _ => line
    String.ofList kept.reverse :: linesFrom [] rest
  | c :: rest => linesFrom (c :: line) rest

/-- The lines of a text, without their endings. -/
def lines (text : String) : List String :=
  linesFrom [] text.toList

end Bindery.Text
