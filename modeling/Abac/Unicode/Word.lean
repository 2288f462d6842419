import Abac.Unicode.Property

/-!
# Word characters

The characters that make up words for a pattern: letters, marks, decimal digits, connectors and the
two joiners.
-/

namespace Abac.Unicode

/-- The word characters. -/
def wordSet : CharSet :=
  .unions [Property.alphabeticSet, setOf joinControlRows,
    Category.unions [.nonspacingMark, .spacingMark, .enclosingMark, .decimalNumber,
      .connectorPunctuation]]

end Abac.Unicode
