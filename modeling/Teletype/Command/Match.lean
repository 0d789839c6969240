import Std.Data.ExtTreeMap
import Teletype.Content.Basic
import Teletype.Regex.Reader
/-!
# Matching commands

Typed input answers a command when it is one of its words, blanks around it and case aside, or when
all of it matches one of its patterns. Patterns that cannot be read match nothing. What was read of
a pattern is kept, so every pattern is read once.
-/

namespace Teletype

/-- What a command answers to, ready for matching. -/
inductive Matcher where
  | words (words : List String)
  | patterns (patterns : List Regex)

/-- A pattern for all of the input in any case. -/
def wholePattern (source : String) : List Char :=
  "(?i)^(?:".toList ++ source.toList ++ ")$".toList

/-- Reads a pattern for all of the input in any case. -/
def compilePattern (source : String) : Except Regex.PatternError Regex :=
  Regex.ofChars (wholePattern source)

/-- A word or an input without what does not count in comparing them. -/
def foldInput (s : String) : String := Text.lowercase (Text.trim s)

namespace Matcher

/-- The matcher of words. -/
def ofWords (all : List String) : Matcher := words (all.map foldInput)

/-- Whether some input answers. -/
def accepts (m : Matcher) (input : String) : Bool :=
  match m with
  | words all => all.contains (foldInput input)
  | patterns all => all.any fun r ↦ r.occursIn (Text.trimChars input.toList)

end Matcher

/-- Patterns that have been read, with what they turned out to be. -/
abbrev PatternCache := Std.ExtTreeMap String (Option Regex)

namespace PatternCache

/-- What a pattern is, from the cache or read anew. -/
def lookup (cache : PatternCache) (source : String) : Option Regex × PatternCache :=
  match cache[source]? with
  | some read => (read, cache)
  | none =>
    let read := (compilePattern source).toOption
    (read, cache.insert source read)

/-- What several patterns are, leaving out those that cannot be read. -/
def lookupAll (cache : PatternCache) : List String → List Regex × PatternCache
  | [] => ([], cache)
  | source :: sources =>
    let (first, cache) := cache.lookup source
    let (rest, cache) := PatternCache.lookupAll cache sources
    (first.toList ++ rest, cache)

/-- The matcher of a command. -/
def matcher (cache : PatternCache) (c : Command) : Matcher × PatternCache :=
  if c.allowRegex then
    let (patterns, cache) := lookupAll cache c.patterns
    (.patterns patterns, cache)
  else (.ofWords c.patterns, cache)

/-- The first command that an input answers to. -/
def find? (cache : PatternCache) (input : String) : List Command → Option Command × PatternCache
  | [] => (none, cache)
  | c :: commands =>
    let (m, cache) := matcher cache c
    if m.accepts input then (some c, cache) else PatternCache.find? cache input commands

end PatternCache

end Teletype
