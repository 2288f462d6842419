import Abac.Function.Quantified

/-!
# Remembering patterns

Reading a pattern is costly, so each pattern matching function remembers the patterns that it read
last. A pattern that cannot be read is not remembered. When there is no room left, the pattern that
was read first makes way. A session keeps these memories over several calls; the answers are those
of `Function.apply`, however patterns are read.
-/

namespace Abac

/-- How to search for patterns, by their text; the one that was read first is at the front. -/
structure PatternCache where
  entries : List (String × (String → Bool))

namespace PatternCache

/-- How many patterns are remembered at most. -/
def capacity : Nat := 64

/-- No patterns. -/
def empty : PatternCache := ⟨[]⟩

/-- What is remembered of a pattern. -/
def find? (c : PatternCache) (pattern : String) : Option (String → Bool) :=
  (c.entries.find? fun e => e.1 == pattern).map Prod.snd

/-- The cache with one more pattern. -/
def insert (c : PatternCache) (pattern : String) (occursIn : String → Bool) : PatternCache :=
  ⟨(if c.entries.length < capacity then c.entries else c.entries.tail) ++ [(pattern, occursIn)]⟩

/-- Read a pattern, from memory if it is there. -/
def read (c : PatternCache) (patterns : PatternReader) (pattern : String) :
    Except String (String → Bool) × PatternCache :=
  match c.find? pattern with
  | some occursIn => (.ok occursIn, c)
  | none =>
    match patterns pattern with
    | .ok occursIn => (.ok occursIn, c.insert pattern occursIn)
    | .error reason => (.error reason, c)

end PatternCache

/-- What the pattern matching functions remember between calls, by the type of the values searched.
-/
structure Session where
  caches : DataType → PatternCache

namespace Session

/-- Nothing is remembered. -/
def fresh : Session := ⟨fun _ => .empty⟩

/-- The session with another cache for one type. -/
def setCache (s : Session) (t : DataType) (c : PatternCache) : Session :=
  ⟨fun u => if u = t then c else s.caches u⟩

/-- Search the text of a value for a pattern. -/
def applyPatternMatch (s : Session) (patterns : PatternReader) (t : DataType)
    (args : List Argument) : Except Halt Outcome × Session :=
  let f : StandardFunction := .patternMatch t
  match checkArity f.id f.arity args *> patternArguments f.id t args with
  | .error h => (.error h, s)
  | .ok (pattern, text) =>
    let (search, c) := (s.caches t).read patterns pattern
    (patternAnswer f.id text search, s.setCache t c)

/-- Apply a function, in surroundings where nothing else is to be found unless some are given. -/
def apply (s : Session) (f : Function) (args : List Argument) (env : Surroundings := .bare) :
    Except Halt Outcome × Session :=
  match f with
  | .standard (.patternMatch t) => s.applyPatternMatch env.patterns t args
  | f => (f.apply args env, s)

end Session

end Abac
