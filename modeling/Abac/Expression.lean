import Abac.Function

/-!
# Expressions

An expression is a literal, a lookup of attributes by name or by a path, a variable, or a function
applied to expressions. A function may also stand alone, as the argument of another function.
-/

namespace Abac

/-- A lookup of attributes by category and name. Its outcome is the bag of the values of a type. -/
structure Designator where
  category : Identifier
  attributeId : Identifier
  dataType : DataType
  issuer : Option String
  /-- Whether there must be a value. -/
  mustBePresent : Bool
  deriving DecidableEq, Repr

/-- The key that a designator looks up. -/
def Designator.key (d : Designator) : LookupKey :=
  ⟨d.category, d.attributeId, d.dataType, d.issuer⟩

/-- An expression. -/
inductive Expression where
  | literal (v : Value)
  | designator (d : Designator)
  | selector (s : Selector)
  | apply (f : Function) (args : List Expression)
  | variable (id : String)
  | function (f : Function)

namespace Expression

/-- What is known of the outcome before evaluation: its data type, and whether it is a bag. -/
def staticType : Expression → Option (DataType × Bool)
  | .literal v => some (v.dataType, false)
  | .designator d => some (d.dataType, true)
  | .selector s => some (s.dataType, true)
  | .apply f _ => f.returnType.map fun t => (t, f.returnsBag)
  | .variable _ => none
  | .function _ => none

mutual

/-- The variables that an expression refers to, from left to right. -/
def references : Expression → List String
  | .variable id => [id]
  | .apply _ args => referencesOfAll args
  | _ => []

/-- The variables that a list of expressions refers to. -/
def referencesOfAll : List Expression → List String
  | [] => []
  | e :: rest => e.references ++ referencesOfAll rest

end

end Expression

/-- A variable and the expression it stands for. -/
structure Definition where
  id : String
  expression : Expression

/-- Definitions, in the order in which their variables were first defined. -/
abbrev Definitions := List Definition

namespace Definitions

/-- The expression of a variable; the first definition counts. -/
def find? (ds : Definitions) (id : String) : Option Expression :=
  (List.find? (fun d : Definition => d.id == id) ds).map Definition.expression

/-- Whether a variable is defined. -/
def defines (ds : Definitions) (id : String) : Bool := ds.any fun d => d.id == id

/-- Define a variable; a new definition takes the place of an old one. -/
def insert : Definitions → Definition → Definitions
  | [], d => [d]
  | c :: rest, d => if c.id = d.id then d :: rest else c :: insert rest d

/-- The definitions that come from defining variables one after another. -/
def ofList (ds : List Definition) : Definitions := ds.foldl insert []

end Definitions

end Abac
