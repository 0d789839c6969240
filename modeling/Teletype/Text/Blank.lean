import Teletype.Text.Span
/-!
# Blanks

White space is the Unicode property of that name, everywhere in the library: for trimming, for
splitting into words, and for what a line may drop when it is wrapped.
-/

namespace Teletype.Text

/-- The white space characters. -/
def blankSpans : List Span :=
  [⟨0x9, 0xd, 1⟩, ⟨0x20, 0x20, 1⟩, ⟨0x85, 0x85, 1⟩, ⟨0xa0, 0xa0, 1⟩, ⟨0x1680, 0x1680, 1⟩,
    ⟨0x2000, 0x200a, 1⟩, ⟨0x2028, 0x2029, 1⟩, ⟨0x202f, 0x202f, 1⟩, ⟨0x205f, 0x205f, 1⟩,
    ⟨0x3000, 0x3000, 1⟩]

/-- Whether a character is white space. -/
def isBlank (c : Char) : Bool := inSpans blankSpans c

/-- Characters without the blanks on the right. -/
def trimRightChars (cs : List Char) : List Char := (cs.reverse.dropWhile isBlank).reverse

/-- Characters without the blanks on either side. -/
def trimChars (cs : List Char) : List Char := trimRightChars (cs.dropWhile isBlank)

/-- A text without the blanks on either side. -/
def trim (s : String) : String := String.ofList (trimChars s.toList)

/-- The words of a list of characters, given the letters of the word being read in reverse. -/
def wordsFrom : List Char → List Char → List (List Char)
  | [], [] => []
  | [], word => [word.reverse]
  | c :: cs, word =>
    if isBlank c then
      if word.isEmpty then wordsFrom cs [] else word.reverse :: wordsFrom cs []
    else wordsFrom cs (c :: word)

/-- The words of a text: what stands between blanks. -/
def words (s : String) : List String := (wordsFrom s.toList []).map String.ofList

/-- The whole text between line feeds, however many there are. -/
def linesOf : List Char → List (List Char)
  | [] => [[]]
  | c :: cs =>
    if c = '\n' then [] :: linesOf cs
    else match linesOf cs with
      | [] => [[c]]
      | line :: rest => (c :: line) :: rest

end Teletype.Text
