import Abac.Pattern.Form
import Abac.Pattern.ReadError
import Abac.Text.Blank
import Abac.Text.Cut
import Abac.Text.Numeral
import Abac.Unicode.Letter

/-!
# Reading patterns

The notation is the common one: literals, a dot, sets in brackets with nested sets and set
operations, anchors, word boundaries, groups with flags, alternatives and repetitions. There are no
references to groups and no looking around. Outside of sets an opening brace always starts a
repetition.

A pattern is read from left to right. In verbose mode blanks and comments do not count; the mode is
part of the state, and a change of it inside a group holds up to the end of the group. The readers
that call each other take fuel; the length of the pattern is enough.
-/

namespace Abac.Pattern

/-! ## Blanks and comments -/

/-- In verbose mode, the text without the blanks and comments it starts with. `inComment` says
whether a comment has started. -/
def skipVerbose (inComment : Bool) : List Char → List Char
  | [] => []
  | c :: rest =>
    if inComment then skipVerbose (c != '\n') rest
    else if Text.isBlank c then skipVerbose false rest
    else if c = '#' then skipVerbose true rest
    else c :: rest

/-- The text from the next character that counts. -/
def skip (verbose : Bool) (s : List Char) : List Char :=
  if verbose then skipVerbose false s else s

/-- The text after its first character, from the next one that counts. -/
def advance (verbose : Bool) (s : List Char) : List Char := skip verbose s.tail

/-- The character that a hyphen at the start of a text is looked at together with. In verbose mode
blanks are passed over, and so is one number sign, but not the comment that it starts. -/
def afterHyphen (verbose : Bool) (s : List Char) : Option Char :=
  if !verbose then s.tail.head?
  else
    match Text.trimLeft s.tail with
    | '#' :: rest => (Text.trimLeft rest).head?
    | rest => rest.head?

/-! ## Escapes -/

/-- The value of a hexadecimal digit. -/
def hexDigit? (c : Char) : Option Nat :=
  if c.isDigit then some (c.toNat - 48)
  else if 'a' ≤ c ∧ c ≤ 'f' then some (c.toNat - 87)
  else if 'A' ≤ c ∧ c ≤ 'F' then some (c.toNat - 55)
  else none

/-- The character with a code point, if it has one. -/
def charOf? (n : Nat) : Option Char :=
  if n.isValidChar then some (Char.ofNat n) else none

/-- A given number of hexadecimal digits. -/
def readHexDigits (x : Bool) : Nat → Nat → List Char → Except ReadError (Nat × List Char)
  | 0, n, s => .ok (n, s)
  | k + 1, n, s =>
    match s with
    | [] => .error .badEscape
    | c :: _ =>
      match hexDigit? c with
      | some d => readHexDigits x k (16 * n + d) (advance x s)
      | none => .error .badEscape

/-- Hexadecimal digits up to a closing brace. -/
def readHexBrace (x : Bool) : Nat → Bool → Nat → List Char → Except ReadError (Nat × List Char)
  | 0, _, _, _ => .error .badEscape
  | fuel + 1, any, n, s =>
    match s with
    | [] => .error .badEscape
    | '\x7d' :: _ => if any then .ok (n, advance x s) else .error .badEscape
    | c :: _ =>
      match hexDigit? c with
      | some d => readHexBrace x fuel true (16 * n + d) (advance x s)
      | none => .error .badEscape

/-- A character by its number; `width` digits unless braces enclose them. -/
def readHex (x : Bool) (width : Nat) (s : List Char) :
    Except ReadError (Primitive × List Char) := do
  let (n, rest) ← match s with
    | '\x7b' :: _ => readHexBrace x (s.length + 1) false 0 (advance x s)
    | _ => readHexDigits x width 0 s
  match charOf? n with
  | some c => return (.literal ⟨c, width = 2 ∧ s.head? ≠ some '\x7b'⟩, rest)
  | none => throw .badEscape

/-- The characters up to a closing brace, and the text after it. -/
def readName (x : Bool) : Nat → List Char → List Char → Except ReadError (List Char × List Char)
  | 0, _, _ => .error .badEscape
  | fuel + 1, name, s =>
    match s with
    | [] => .error .badEscape
    | '\x7d' :: rest => .ok (name, rest)
    | c :: _ => readName x fuel (name ++ [c]) (advance x s)

/-- A property after its letter: its text in braces, or a single character. -/
def readProperty (x : Bool) (negated : Bool) (s : List Char) :
    Except ReadError (Primitive × List Char) := do
  let (name, rest) ← match s with
    | [] => throw .badEscape
    | '\\' :: _ => throw .badEscape
    | '\x7b' :: _ => readName x (s.length + 1) [] (advance x s)
    | c :: rest => pure ([c], rest)
  return (.property negated name, rest)

/-- The kind of characters that a letter stands for. -/
def kind? : Char → Option Kind
  | 'd' => some .digit
  | 's' => some .blank
  | 'w' => some .word
  | _ => none

/-- Whether a character has a meaning in the notation and stands for itself after a backslash. -/
def isMeta (c : Char) : Bool :=
  c == '\\' || c == '.' || c == '+' || c == '*' || c == '?' || c == '(' || c == ')' ||
    c == '|' || c == '[' || c == ']' || c == '\x7b' || c == '\x7d' || c == '^' || c == '$' ||
    c == '#' || c == '&' || c == '-' || c == '~'

/-- Whether a character stands for itself after a backslash. -/
def isEscapable (c : Char) : Bool :=
  isMeta c || (c.toNat < 0x80 && !c.isAlphanum && c != '<' && c != '>')

/-- The character that a letter after a backslash stands for. -/
def controlEscape? : Char → Option Char
  | 'a' => some '\x07'
  | 'f' => some '\x0c'
  | 't' => some '\t'
  | 'n' => some '\n'
  | 'r' => some '\r'
  | 'v' => some '\x0b'
  | _ => none

/-- Whether a character may stand in the name of a special word boundary. -/
def isBoundaryName (c : Char) : Bool := c.isAlpha || c == '-'

/-- The special word boundary with a name. -/
def namedBoundary? (name : List Char) : Option Anchor :=
  match String.ofList name with
  | "start" => some .wordStart
  | "end" => some .wordEnd
  | "start-half" => some .wordStartHalf
  | "end-half" => some .wordEndHalf
  | _ => none

/-- The name of a special word boundary: the characters that may stand in one. -/
def readBoundaryName (x : Bool) : Nat → List Char → List Char → List Char × List Char
  | 0, name, s => (name, s)
  | fuel + 1, name, s =>
    match s with
    | c :: _ =>
      if isBoundaryName c then readBoundaryName x fuel (name ++ [c]) (advance x s) else (name, s)
    | [] => (name, s)

/-- A word boundary after its letter. Braces with a name select a special one; other braces are left
to be a repetition. -/
def readBoundary (x : Bool) (s : List Char) : Except ReadError (Anchor × List Char) :=
  match s with
  | '\x7b' :: _ =>
    match advance x s with
    | [] => .error .badEscape
    | c :: r =>
      if !isBoundaryName c then .ok (.boundary, s)
      else
        match readBoundaryName x (s.length + 1) [] (c :: r) with
        | (name, '\x7d' :: rest) =>
          match namedBoundary? name with
          | some a => .ok (a, rest)
          | none => .error .badEscape
        | _ => .error .badEscape
  | _ => .ok (.boundary, s)

/-- The anchor that a letter after a backslash stands for, other than a word boundary. -/
def anchorEscape? : Char → Option Anchor
  | 'A' => some .textStart
  | 'z' => some .textEnd
  | 'B' => some .noBoundary
  | '<' => some .wordStart
  | '>' => some .wordEnd
  | _ => none

/-- What a backslash and the text after it stand for. -/
def readEscape (x : Bool) : List Char → Except ReadError (Primitive × List Char)
  | [] => .error .badEscape
  | c :: rest =>
    if c.isDigit then .error .unsupported
    else if c = 'x' then readHex x 2 (skip x rest)
    else if c = 'u' then readHex x 4 (skip x rest)
    else if c = 'U' then readHex x 8 (skip x rest)
    else if c = 'p' then readProperty x false (skip x rest)
    else if c = 'P' then readProperty x true (skip x rest)
    else if c = 'b' then (readBoundary x rest).map fun p => (.anchor p.1, p.2)
    else if isEscapable c then .ok (.literal ⟨c, false⟩, rest)
    else
      match kind? c.toLower, controlEscape? c, anchorEscape? c with
      | some k, _, _ => .ok (.kind c.isUpper k, rest)
      | _, some d, _ => .ok (.literal ⟨d, false⟩, rest)
      | _, _, some a => .ok (.anchor a, rest)
      | _, _, _ => .error .badEscape

/-! ## Sets in brackets -/

/-- The set of a name between colons. -/
def asciiClass? (name : String) : Option CharSet :=
  let ranges : Option (List (Nat × Nat)) :=
    match name with
    | "alnum" => some [(0x30, 0x39), (0x41, 0x5A), (0x61, 0x7A)]
    | "alpha" => some [(0x41, 0x5A), (0x61, 0x7A)]
    | "ascii" => some [(0, 0x7F)]
    | "blank" => some [(0x09, 0x09), (0x20, 0x20)]
    | "cntrl" => some [(0, 0x1F), (0x7F, 0x7F)]
    | "digit" => some [(0x30, 0x39)]
    | "graph" => some [(0x21, 0x7E)]
    | "lower" => some [(0x61, 0x7A)]
    | "print" => some [(0x20, 0x7E)]
    | "punct" => some [(0x21, 0x2F), (0x3A, 0x40), (0x5B, 0x60), (0x7B, 0x7E)]
    | "space" => some [(0x09, 0x0D), (0x20, 0x20)]
    | "upper" => some [(0x41, 0x5A)]
    | "word" => some [(0x30, 0x39), (0x41, 0x5A), (0x5F, 0x5F), (0x61, 0x7A)]
    | "xdigit" => some [(0x30, 0x39), (0x41, 0x46), (0x61, 0x66)]
    | _ => none
  ranges.map CharSet.mk

/-- A set by a name between colons, and the text after its closing bracket. -/
def readAsciiClass? (s : List Char) : Option (SetForm × List Char) :=
  match s with
  | '[' :: ':' :: rest =>
    let (negated, body) := match rest with
      | '^' :: r => (true, r)
      | _ => (false, rest)
    match Text.cutFirst ':' body with
    | some (name, ']' :: after) =>
      (asciiClass? (String.ofList name)).map fun s => (.named negated s, after)
    | _ => none
  | _ => none

/-- A single member of a set. -/
def readMember (x : Bool) (s : List Char) : Except ReadError (Primitive × List Char) :=
  match s with
  | [] => .error .unclosedSet
  | '\\' :: rest => readEscape x rest
  | c :: rest => .ok (.literal ⟨c, false⟩, rest)

/-- A primitive as a member of a set. -/
def Primitive.asMember : Primitive → Except ReadError SetForm
  | .literal c => .ok (.literal c)
  | .property negated name => .ok (.property negated name)
  | .kind negated k => .ok (.kind negated k)
  | .dot => .error .badSetMember
  | .anchor _ => .error .badSetMember

/-- A primitive as an end of a range. -/
def Primitive.asEnd : Primitive → Except ReadError Literal
  | .literal c => .ok c
  | _ => .error .badRange

/-- A member or a range of a set. A hyphen before a closing bracket or another hyphen makes no
range. -/
def readRange (x : Bool) (s : List Char) : Except ReadError (SetForm × List Char) := do
  let (first, rest) ← readMember x s
  let rest := skip x rest
  match rest with
  | [] => throw .unclosedSet
  | '-' :: _ =>
    let next := afterHyphen x rest
    if next = some ']' ∨ next = some '-' then return (← first.asMember, rest)
    let after := advance x rest
    if after.isEmpty then throw .unclosedSet
    let (last, rest) ← readMember x after
    let a ← first.asEnd
    let b ← last.asEnd
    if a.char ≤ b.char then return (.range a b, rest) else throw .badRange
  | _ => return (← first.asMember, rest)

/-- A set when its last members are known, given from last to first. `pending` is an operation that
waits for its right side. -/
def finishOperation (pending : Option (SetOperator × SetForm)) (members : List SetForm) : SetForm :=
  let s := SetForm.ofMembers members.reverse
  match pending with
  | none => s
  | some (op, l) => .operation op l s

/-- The operator at the start of a text, and the text after it. -/
def setOperator? : List Char → Option (SetOperator × List Char)
  | '&' :: '&' :: rest => some (.intersection, rest)
  | '-' :: '-' :: rest => some (.difference, rest)
  | '~' :: '~' :: rest => some (.symmetricDifference, rest)
  | _ => none

/-- The hyphens that a set starts with, as members before others, and the text after them. -/
def readHyphens (x : Bool) : Nat → List SetForm → List Char → List SetForm × List Char
  | 0, members, s => (members, s)
  | fuel + 1, members, s =>
    if s.head? = some '-' then readHyphens x fuel (.literal ⟨'-', false⟩ :: members) (advance x s)
    else (members, s)

mutual

/-- A set after its opening bracket: whether it is negated, the set, and the text after it. `room`
is how many more sets may be nested in one another. -/
def readSet (x : Bool) : Nat → Nat → List Char → Except ReadError (Bool × SetForm × List Char)
  | 0, _, _ => .error .unclosedSet
  | _ + 1, 0, _ => .error .tooDeep
  | fuel + 1, room + 1, s =>
    let s := skip x s
    let (negated, s) := if s.head? = some '^' then (true, advance x s) else (false, s)
    let (start, s) := readHyphens x s.length [] s
    let (start, s) := match start, s with
      | [], ']' :: _ => ([SetForm.literal ⟨']', false⟩], advance x s)
      | _, _ => (start, s)
    if s.isEmpty then .error .unclosedSet
    else (readMembers x fuel room none start s).map fun p => (negated, p)

/-- The members of a set up to its closing bracket. `pending` is an operation that waits for its
right side, and `members` are the members since, from last to first. -/
def readMembers (x : Bool) :
    Nat → Nat → Option (SetOperator × SetForm) → List SetForm → List Char →
      Except ReadError (SetForm × List Char)
  | 0, _, _, _, _ => .error .unclosedSet
  | fuel + 1, room, pending, members, s =>
    let s := skip x s
    match setOperator? s with
    | some (op, rest) =>
      readMembers x fuel room (some (op, finishOperation pending members)) [] rest
    | none =>
      match s with
      | [] => .error .unclosedSet
      | ']' :: rest => .ok (finishOperation pending members, rest)
      | '[' :: rest =>
        match readAsciiClass? s with
        | some (named, after) => readMembers x fuel room pending (named :: members) after
        | none =>
          match readSet x fuel room rest with
          | .error e => .error e
          | .ok (negated, inner, after) =>
            readMembers x fuel room pending (.brackets negated inner :: members) after
      | _ =>
        match readRange x s with
        | .error e => .error e
        | .ok (member, after) => readMembers x fuel room pending (member :: members) after

end

/-! ## Repetitions -/

/-- A decimal number between optional blanks; `none` if there is no digit. -/
def readCount (x : Bool) (s : List Char) : Except ReadError (Option Nat × List Char) :=
  let s := Text.trimLeft s
  let rec digitsFrom : Nat → List Char → List Char → List Char × List Char
    | 0, ds, s => (ds, s)
    | fuel + 1, ds, s =>
      match s with
      | c :: _ => if c.isDigit then digitsFrom fuel (ds ++ [c]) (advance x s) else (ds, s)
      | [] => (ds, s)
  let (ds, rest) := digitsFrom (s.length + 1) [] s
  let rest := skip x (Text.trimLeft rest)
  if ds.isEmpty then .ok (none, rest)
  else
    match Text.readBounded 0xFFFFFFFF ds with
    | some n => .ok (some n, rest)
    | none => .error .badRepetition

/-- The bounds of a repetition after its opening brace, and the text after its closing one. -/
def readBounds (x : Bool) (s : List Char) : Except ReadError ((Nat × Option Nat) × List Char) := do
  if s.isEmpty then throw .badRepetition
  let (least, rest) ← readCount x s
  let some n := least | throw .badRepetition
  match rest with
  | '\x7d' :: after => return ((n, some n), after)
  | ',' :: _ =>
    match advance x rest with
    | '\x7d' :: after => return ((n, none), after)
    | more =>
      match ← readCount x more with
      | (some m, '\x7d' :: after) =>
        if n ≤ m then return ((n, some m), after) else throw .badRepetition
      | _ => throw .badRepetition
  | _ => throw .badRepetition

/-- Whether a text does not start with a question mark, which asks for a short match, and the text
after it. -/
def readGreed : List Char → Bool × List Char
  | '?' :: rest => (false, rest)
  | s => (true, s)

/-! ## Groups -/

/-- Whether a character may stand in the name of a group. -/
def isGroupNameChar (first : Bool) (c : Char) : Bool :=
  c == '_' || Unicode.letterSet.contains c.toNat ||
    (!first && (c == '.' || c == '[' || c == ']' || Unicode.numberSet.contains c.toNat))

/-- The name of a group up to its closing angle, and the text after it. -/
def readGroupName (s : List Char) : Except ReadError (String × List Char) :=
  match Text.cutFirst '>' s with
  | none => .error .badGroupName
  | some ([], _) => .error .badGroupName
  | some (c :: r, rest) =>
    if isGroupNameChar true c && r.all (isGroupNameChar false) then
      .ok (String.ofList (c :: r), rest)
    else .error .badGroupName

/-- The flag of a letter. -/
def flag? : Char → Option Flag
  | 'i' => some .ignoreCase
  | 'm' => some .multiLine
  | 's' => some .dotAll
  | 'U' => some .swapGreed
  | 'u' => some .unicode
  | 'x' => some .verbose
  | 'R' => some .crlf
  | _ => none

/-- Flags up to the colon or parenthesis that ends them. No flag and no minus sign may occur twice,
and a flag must follow the minus sign. `seen` are the characters so far, from last to first. -/
def readFlags (seen : List Char) : List Char → Except ReadError (List FlagChange × List Char)
  | [] => .error .badFlags
  | c :: rest =>
    if c = ':' ∨ c = ')' then
      if seen.head? = some '-' then .error .badFlags else .ok ([], c :: rest)
    else if seen.contains c then .error .badFlags
    else if c = '-' then readFlags (c :: seen) rest
    else
      match flag? c with
      | some f => (readFlags (c :: seen) rest).map fun p => (⟨f, !seen.contains '-'⟩ :: p.1, p.2)
      | none => .error .badFlags

/-- Whether blanks and comments do not count after some changes of flags. -/
def verboseAfter (x : Bool) (changes : List FlagChange) : Bool :=
  changes.foldl (fun x c => if c.flag = .verbose then c.on else x) x

/-! ## The pattern -/

/-- What is known while a pattern is read. -/
structure State where
  /-- Whether blanks and comments do not count. -/
  verbose : Bool
  /-- The names of the groups so far. -/
  names : List String
  /-- How many groups there are so far. -/
  groups : Nat

/-- The last part of a sequence, if it can be repeated, and the parts before it. What only set flags
cannot be repeated. -/
def repeatable : List Form → Except ReadError (Form × List Form)
  | .flags _ :: _ => .error .nothingToRepeat
  | a :: rest => .ok (a, rest)
  | [] => .error .nothingToRepeat

/-- A character that is no operator, or an escape. -/
def readPrimitive (x : Bool) : List Char → Except ReadError (Primitive × List Char)
  | [] => .error .badEscape
  | '\\' :: rest => readEscape x rest
  | '.' :: rest => .ok (.dot, rest)
  | '^' :: rest => .ok (.anchor .caret, rest)
  | '$' :: rest => .ok (.anchor .dollar, rest)
  | c :: rest => .ok (.literal ⟨c, false⟩, rest)

/-- Whether a text starts a look ahead or behind, after the parenthesis. -/
def startsLook : List Char → Bool
  | '?' :: '=' :: _ => true
  | '?' :: '!' :: _ => true
  | '?' :: '<' :: '=' :: _ => true
  | '?' :: '<' :: '!' :: _ => true
  | _ => false

/-- The head of a group. -/
inductive GroupHead where
  /-- The match of the group is kept, under a name if it has one. -/
  | kept (name : Option String)
  /-- The match of the group is not kept, and flags change inside of it. -/
  | plain (changes : List FlagChange)

/-- What an opening parenthesis starts. -/
inductive Opening where
  | group (head : GroupHead)
  /-- No group, but flags that change from here on. -/
  | flags (changes : List FlagChange)

/-- What stands after an opening parenthesis. -/
def readOpening (s : List Char) : Except ReadError (Opening × List Char) :=
  if startsLook s then .error .unsupported
  else
    match s with
    | '?' :: 'P' :: '<' :: rest => (readGroupName rest).map fun p =>
      (.group (.kept (some p.1)), p.2)
    | '?' :: '<' :: rest => (readGroupName rest).map fun p =>
      (.group (.kept (some p.1)), p.2)
    | '?' :: rest =>
      if rest.isEmpty then .error .unclosedGroup
      else
        match readFlags [] rest with
        | .error e => .error e
        | .ok (changes, ')' :: after) =>
          if changes.isEmpty then .error .nothingToRepeat else .ok (.flags changes, after)
        | .ok (changes, after) => .ok (.group (.plain changes), after.tail)
    | _ => .ok (.group (.kept none), s)

/-- The number and the flags of a group, and the state inside of it. -/
def State.enter (st : State) : GroupHead → Except ReadError (Option Nat × List FlagChange × State)
  | .kept name =>
    if name.any st.names.contains then .error .badGroupName
    else .ok (some (st.groups + 1), [], ⟨st.verbose, name.toList ++ st.names, st.groups + 1⟩)
  | .plain changes =>
    .ok (none, changes, { st with verbose := verboseAfter st.verbose changes })

mutual

/-- The choices of a group or of the whole pattern, up to a closing parenthesis or the end;
`choices` have been read of them, from last to first. `room` is how many more groups may be nested
in one another. -/
def readChoices :
    Nat → Nat → State → List Form → List Char → Except ReadError (Form × State × List Char)
  | 0, _, _, _, _ => .error .tooDeep
  | fuel + 1, room, st, choices, s =>
    match readParts fuel room st [] s with
    | .error e => .error e
    | .ok (a, st, '|' :: rest) => readChoices fuel room st (a :: choices) rest
    | .ok (a, st, rest) => .ok (.ofChoices (a :: choices).reverse, st, rest)

/-- A sequence up to a bar, a closing parenthesis or the end; `parts` has been read of it, from last
to first. -/
def readParts :
    Nat → Nat → State → List Form → List Char → Except ReadError (Form × State × List Char)
  | 0, _, _, _, _ => .error .tooDeep
  | fuel + 1, room, st, parts, s =>
    let x := st.verbose
    let s := skip x s
    match s with
    | [] => .ok (.ofParts parts.reverse, st, [])
    | ')' :: _ => .ok (.ofParts parts.reverse, st, s)
    | '|' :: _ => .ok (.ofParts parts.reverse, st, s)
    | '(' :: rest =>
      match readOpening (skip x rest) with
      | .error e => .error e
      | .ok (.flags changes, after) =>
        readParts fuel room { st with verbose := verboseAfter x changes }
          (.flags changes :: parts) after
      | .ok (.group head, after) =>
        match st.enter head with
        | .error e => .error e
        | .ok (index, changes, inside) =>
          match room with
          | 0 => .error .tooDeep
          | room + 1 =>
            match readChoices fuel room inside [] after with
            | .error e => .error e
            | .ok (a, inside, ')' :: after) =>
              readParts fuel (room + 1) { inside with verbose := x }
                (.group index changes a :: parts) after
            | .ok _ => .error .unclosedGroup
    | '[' :: rest =>
      match readSet x (rest.length + 1) maxDepth rest with
      | .error e => .error e
      | .ok (negated, members, after) =>
        readParts fuel room st (.set negated members :: parts) after
    | '?' :: rest =>
      match repeatable parts with
      | .error e => .error e
      | .ok (a, before) =>
        let (greedy, after) := readGreed rest
        readParts fuel room st (.repeated 0 (some 1) greedy a :: before) after
    | '*' :: rest =>
      match repeatable parts with
      | .error e => .error e
      | .ok (a, before) =>
        let (greedy, after) := readGreed rest
        readParts fuel room st (.repeated 0 none greedy a :: before) after
    | '+' :: rest =>
      match repeatable parts with
      | .error e => .error e
      | .ok (a, before) =>
        let (greedy, after) := readGreed rest
        readParts fuel room st (.repeated 1 none greedy a :: before) after
    | '\x7b' :: rest =>
      match repeatable parts with
      | .error e => .error e
      | .ok (a, before) =>
        match readBounds x (skip x rest) with
        | .error e => .error e
        | .ok ((least, most), after) =>
          let (greedy, after) := readGreed (skip x after)
          readParts fuel room st (.repeated least most greedy a :: before) after
    | _ =>
      match readPrimitive x s with
      | .error e => .error e
      | .ok (p, after) => readParts fuel room st (.primitive p :: parts) after

end

/-- Read the written form of a pattern. -/
def readForm (text : String) : Except ReadError Form :=
  let s := text.toList
  match readChoices (2 * s.length + 2) maxDepth ⟨false, [], 0⟩ [] s with
  | .error e => .error e
  | .ok (a, _, []) => .ok a
  | .ok _ => .error .unopenedGroup

end Abac.Pattern
