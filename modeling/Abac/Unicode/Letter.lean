import Abac.Unicode.Property

/-!
# Letters of the latest edition

Lower case and the names of groups in patterns follow edition 17 of the character database, while
the sets that patterns ask for follow edition 16. Here are the sets of edition 17, as what it added
to the ones of edition 16.
-/

namespace Abac.Unicode

/-- Rows of the letters in a wide sense that edition 17 added. -/
def laterAlphabeticRows : List String :=
  ["88F C5C CDC A7CE-A7CF A7D2 A7D4 A7F1 10940-10959 10EC5-10EC7 10EFA-10EFB 11B60-11B67",
    "11DB0-11DDB 16EA0-16EB8 16EBB-16ED3 16FF2-16FF6 187F8-187FF 18D09-18D1E 18D80-18DF2",
    "1E6C0-1E6DE 1E6E0-1E6F5 1E6FE-1E6FF 2B73A-2B73F 2CEA2-2CEAD 323B0-33479"]

/-- Rows of the numbers that edition 17 added. -/
def laterNumberRows : List String := ["11DE0-11DE9 16FF4-16FF6"]

/-- Rows of the letters with a case that edition 17 added. -/
def laterCasedRows : List String := ["A7CE-A7CF A7D2 A7D4 A7F1 16EA0-16EB8 16EBB-16ED3"]

/-- Rows of what edition 17 added to the characters that case ignores. -/
def laterCaseIgnorableRows : List String :=
  ["1ACF-1ADD 1AE0-1AEB A7F1 10EC5 10EFA-10EFB 11B60 11B62-11B64 11B66 11DD9 16FF2-16FF3",
    "1E6E3 1E6E6 1E6EE-1E6EF 1E6F5 1E6FF"]

/-- The letters in a wide sense. -/
def letterSet : CharSet := Property.alphabeticSet.union (setOf laterAlphabeticRows)

/-- The numbers of all kinds. -/
def numberSet : CharSet :=
  (Category.unions [.decimalNumber, .letterNumber, .otherNumber]).union (setOf laterNumberRows)

/-- The letters with a case. The glottal stop lost its case in edition 17. -/
def casedSet : CharSet :=
  (Property.casedSet.difference (setOf ["295"])).union (setOf laterCasedRows)

/-- The characters that case ignores. -/
def caseIgnorableSet : CharSet := Property.caseIgnorableSet.union (setOf laterCaseIgnorableRows)

end Abac.Unicode
