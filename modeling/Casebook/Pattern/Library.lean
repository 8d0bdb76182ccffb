/-
# Libraries of patterns

A vocabulary does not read patterns itself.  It has a library compile the notation of each when it is
built, and later has what was compiled searched for in texts.  Nothing else is asked of the library, and
a vocabulary is the same thing with any library that answers these two questions (`PatternLibrary`).

The library that the program was written for is `regex`, with `Regex` for a compiled pattern.
`Pattern.Reader` has one for a part of the same notation, with which everything here runs
(`Pattern.library`).
-/

namespace Casebook

/-- A library of patterns, by what a vocabulary asks of it. -/
class PatternLibrary where
  /-- A pattern that has been compiled. -/
  Compiled : Type
  /-- Compiles the notation of a pattern, if it is one. -/
  compile : String → Option Compiled
  /-- Whether a pattern is found in a text. -/
  isMatch : Compiled → String → Bool

end Casebook
