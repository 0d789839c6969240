/-!
# Markup on a plain terminal

A terminal that knows no markup drops the tags and reads the escapes back, one kind after another.
-/

namespace Teletype.Markup

/-- Markup without its tags, given whether the text begins inside one. -/
def dropTags : Bool → List Char → List Char
  | _, [] => []
  | inTag, c :: cs =>
    if c = '<' then dropTags true cs
    else if inTag then dropTags (c ≠ '>') cs
    else c :: dropTags false cs

/-- Replaces every occurrence of a word after skipping a number of characters. -/
def replaceFrom (word replacement : List Char) : Nat → List Char → List Char
  | _, [] => []
  | skip + 1, _ :: cs => replaceFrom word replacement skip cs
  | 0, c :: cs =>
    if word.isPrefixOf (c :: cs) then
      replacement ++ replaceFrom word replacement (word.length - 1) cs
    else c :: replaceFrom word replacement 0 cs

/-- Replaces every occurrence of a word, from left to right. -/
def replace (word replacement cs : List Char) : List Char := replaceFrom word replacement 0 cs

/-- The escapes and what they stand for, in the order in which they are read back. The ampersand
comes last, so that nothing it uncovers is read as another escape. -/
def entities : List (List Char × List Char) :=
  [("&nbsp;".toList, [' ']), ("&lt;".toList, ['<']), ("&gt;".toList, ['>']),
    ("&quot;".toList, ['"']), ("&#39;".toList, ['\'']), ("&amp;".toList, ['&'])]

/-- The plain text of markup. -/
def plainText (markup : List Char) : List Char :=
  entities.foldl (fun cs (word, replacement) ↦ replace word replacement cs)
    (dropTags false markup)

end Teletype.Markup
