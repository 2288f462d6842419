/-!
# Identifiers

Categories, attributes, data types, functions and combining algorithms are named by texts that look
like URIs. An identifier is compared by its text, and its short name is what follows the last colon
or number sign. The standard identifiers of one family share a stem that carries a version.
-/

namespace Abac

/-- A name that is compared by its text. -/
structure Identifier where
  /-- The text of the identifier. -/
  text : String
  deriving DecidableEq, Hashable, Inhabited, Repr

namespace Identifier

/-- Whether a character separates the segments of an identifier. -/
def isSeparator (c : Char) : Bool := c == '#' || c == ':'

/-- The segment after the last separator, or all of the text if there is none. -/
def shortName (i : Identifier) : String :=
  String.ofList ((i.text.toList.reverse.takeWhile fun c => !isSeparator c).reverse)

/-- The order of identifiers is that of their texts, code point by code point. -/
def cmp (a b : Identifier) : Ordering := compare a.text b.text

/-- The stem of the standard function identifiers of one version. -/
def functionStem (version : String) : String :=
  "urn:oasis:names:tc:xacml:" ++ version ++ ":function:"

/-- A standard function identifier. -/
def function (version name : String) : Identifier := ⟨functionStem version ++ name⟩

/-- A standard identifier of an algorithm that combines rules. -/
def ruleAlgorithm (version name : String) : Identifier :=
  ⟨"urn:oasis:names:tc:xacml:" ++ version ++ ":rule-combining-algorithm:" ++ name⟩

/-- A standard identifier of an algorithm that combines policies. -/
def policyAlgorithm (version name : String) : Identifier :=
  ⟨"urn:oasis:names:tc:xacml:" ++ version ++ ":policy-combining-algorithm:" ++ name⟩

end Identifier

end Abac
