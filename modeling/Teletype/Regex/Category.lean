import Teletype.Regex.CharSet
import Teletype.Text.Edition
/-!
# Categories that patterns can name

Patterns go by the edition before the latest one: characters that came with the latest edition count
as unassigned, and the one letter whose category has changed since has its former one.
-/

namespace Teletype.CharSet

/-- The characters that came after the edition that patterns go by. -/
def recent : CharSet := ofSpans Text.Edition.latest.added

/-- The characters in the spans of a table that patterns know. -/
def known (spans : List Text.Span) : CharSet := difference (ofSpans spans) recent

/-- The letter that was a lowercase letter in the edition that patterns go by and has no case any
more. -/
def formerLowercase : CharSet := ofCodes [0x295]

/-- The characters with one of some categories. -/
def ofCategories (categories : List Text.Category) : CharSet :=
  let s := known (categories.flatMap Text.Category.spans)
  if categories.contains .lowercaseLetter then union [s, formerLowercase]
  else difference s formerLowercase

/-- The characters of a category. -/
def ofCategory (category : Text.Category) : CharSet := ofCategories [category]

/-- The characters without a category. -/
def unassigned : CharSet := complement (ofCategories Text.Category.all)

/-- Controls, format characters, private and unassigned ones. -/
def other : CharSet := union [ofCategories [.control, .format, .privateUse], unassigned]

/-- The category, or union of categories, of a name. -/
def category? (name : String) : Option CharSet :=
  match name with
  | "any" => some (complement ⟨[]⟩)
  | "ascii" => some (range '\x00' '\x7f')
  | "assigned" => some (complement unassigned)
  | "cn" | "unassigned" => some unassigned
  | "c" | "other" => some other
  | "l" | "letter" => some (ofCategories Text.Category.letters)
  | "lc" | "casedletter" => some (ofCategories Text.Category.casedLetters)
  | "m" | "mark" | "combiningmark" => some (ofCategories Text.Category.marks)
  | "n" | "number" => some (ofCategories Text.Category.numbers)
  | "p" | "punctuation" | "punct" => some (ofCategories Text.Category.punctuation)
  | "s" | "symbol" => some (ofCategories Text.Category.symbols)
  | "z" | "separator" => some (ofCategories Text.Category.separators)
  | name =>
    (Text.Category.all.find? fun category ↦ category.names.contains name).map ofCategory

end Teletype.CharSet
