import StateMachine.Source.Grammar.Function

/-!
# Items

The items that can be declared inside a block. An item that is only nearly right is kept as it
stands, with its attributes; every other one is spelled anew.
-/

namespace StateMachine.Source

open Parse

/-- An item behind its attributes, or `none` if it is to be kept as it stands. -/
abbrev Parse.Kept := Parse (Option (List Tree))

/-- An item with its attributes. -/
def withAttributes (r : Rules) (p : Parse.Kept) : Parse (List Tree) := do
  let before ← ahead
  let attrs ← attributeTrees r
  match ← p with
  | some trees => return attrs ++ trees
  | none => since before

/-- Keeps an item as it stands if the condition holds. -/
def keepIf (condition : Bool) (trees : List Tree) : Parse.Kept :=
  pure (if condition then none else some trees)

/-! ### Parts of items -/

def semicolon : Parse (List Tree) := mark ";"

def optionalValue (r : Rules) : Parse (List Tree) :=
  ifThen (peekMark "=") (do return (← mark "=") ++ (← r.exprTrees))

def colonType (r : Rules) : Parse (List Tree) := do return (← mark ":") ++ (← r.typeTrees)

def itemBlock (r : Rules) (item : Parse (List Tree)) : Parse (List Tree) :=
  group .brace (do return (← innerAttributeTrees r) ++ (← untilEnd item))

/-- Bounds behind a colon, up to a given end. A colon without bounds is dropped; the flag tells
whether there is one. -/
def boundsUntil (r : Rules) (ends : Parse Bool) : Parse (Bool × List Tree) := do
  let colon ← optionalMark ":"
  if colon.isEmpty then return (false, [])
  else
    let found ← list r.boundTrees "+" ends
    return (true, if found.isEmpty then [] else colon ++ Entry.trees id found)

def constName : Parse (List Tree) := do
  if (← peekIdentifier) || (← peekWord "_") then return [.word (← anyWord)]
  else expected [.identifier, .token "_"]

/-- The rest of a constant behind its word: whether it has a value, whether it has neither
parameters nor conditions, and the trees. -/
def constRest (r : Rules) : Parse (Bool × Bool × List Tree) := do
  let named ← constName
  let generic ← peekMark "<"
  let typed := (← parameterTrees r) ++ (← colonType r)
  let value ← optionalValue r
  let conditional ← peekWord "where"
  let _ ← conditions r
  let ending ← semicolon
  return (!value.isEmpty, !(generic || conditional), named ++ typed ++ value ++ ending)

/-- Where the conditions of a type alias may stand. -/
inductive ConditionPlace
  | beforeEquals
  | behindType
  | either
  deriving DecidableEq

/-- A type alias: whether it has bounds, whether it has a type, and the trees. -/
def typeAlias (r : Rules) (place : ConditionPlace) : Parse (Bool × Bool × List Tree) := do
  let named := (← word "type") ++ (← name) ++ (← parameterTrees r)
  let ends : Parse Bool := do return (← peekWord "where") || (← peekMark "=") || (← peekMark ";")
  let (bounded, bounds) ← boundsUntil r ends
  let isEarly := place ≠ .behindType && (← peekWord "where")
  let early ← ifThen (pure isEarly) (conditions r)
  let type ← ifThen (peekMark "=") (do return (← mark "=") ++ (← r.typeTrees))
  let late ← ifThen (pure (place ≠ .beforeEquals && !isEarly)) (conditions r)
  let ending ← semicolon
  return (bounded, !type.isEmpty, named ++ bounds ++ early ++ type ++ late ++ ending)

/-- A call of a macro as an item. Only braces need no semicolon behind them. -/
def macroItem (name : Parse (List Tree)) : Parse (List Tree) := do
  let path := wordPathTrees (← wordPath)
  let front := path ++ (← mark "!") ++ (← name)
  let braces ← peekGroup .brace
  return front ++ (← anyGroup) ++ (← if braces then pure [] else semicolon)

def peekMacroItem : Parse Bool := do
  return (← peekIdentifier) || (← peekOneOf ["self", "super", "crate"]) || (← peekMark "::")

def macroStarts : List Sought :=
  [.identifier, .token "self", .token "super", .token "crate", .token "::"]

/-- Fails for want of an item. A word that is there but does not go on as it should is left out;
without a visibility it may also be a macro. -/
def expectedItem {α : Type} (words : List String) (plain : Bool) : Parse α := do
  let front := frontWord? (← ahead)
  let missing := words.filter (fun w => front ≠ some w)
  expected (missing.map .token ++ if plain then macroStarts else [])

/-! ### Foreign items -/

def foreignStatic (r : Rules) : Parse.Kept := do
  let vis ← visibility
  let unsafety ← optionalWord "unsafe"
  let safe ← ifThen (do return unsafety.isEmpty && (← peekWord "safe")) (word "safe")
  let named := (← word "static") ++ (← optionalWord "mut") ++ (← name) ++ (← colonType r)
  let value ← optionalValue r
  let ending ← semicolon
  keepIf (!(unsafety.isEmpty && safe.isEmpty && value.isEmpty)) (vis ++ named ++ ending)

def foreignItem (r : Rules) : Parse (List Tree) :=
  withAttributes r (do
    let before ← ahead
    let vis ← visibility
    let qualified : Parse Bool := do
      return (← peekOneOf ["unsafe", "safe"]) && (← peekBehind 1 (peekWord "static"))
    if ← peekSignature true then
      let (safe, head) ← signature r true
      if ← peekGroup .brace then
        let _ ← attributedBlock r
        return none
      else keepIf safe (vis ++ head ++ (← semicolon))
    else if (← peekWord "static") || (← qualified) then
      moveTo before
      foreignStatic r
    else if ← peekWord "type" then
      let (bounded, typed, trees) ← typeAlias r .either
      keepIf (bounded || typed) (vis ++ trees)
    else if vis.isEmpty && (← peekMacroItem) then return some (← macroItem (pure []))
    else expectedItem ["fn", "static", "type"] vis.isEmpty)

def foreignBlock (r : Rules) : Parse (List Tree) := do
  let front := (← optionalWord "unsafe") ++ (← word "extern") ++ (← ifThen peekString literal)
  return front ++ (← itemBlock r (foreignItem r))

/-- A package from outside, which may be renamed. -/
def externCrate : Parse (List Tree) := do
  let front := (← visibility) ++ (← word "extern") ++ (← word "crate") ++ (← nameOr ["self"])
  let renamed ← ifThen (peekWord "as") (do return (← word "as") ++ (← nameOr ["_"]))
  return front ++ renamed ++ (← semicolon)

/-- An item with the word for what lies outside: a package or a block. -/
def externItem (r : Rules) : Parse (List Tree) := do
  let before ← ahead
  let _ ← visibility
  let _ ← word "extern"
  if ← peekWord "crate" then
    moveTo before
    externCrate
  else
    let named ← peekString
    let _ ← ifThen (pure named) literal
    if ← peekGroup .brace then
      moveTo before
      foreignBlock r
    else if named then expected [.group .brace]
    else expected [.token "crate", .group .brace, .stringLiteral]

/-! ### Uses -/

/-- The tree of names that are brought into scope, for as many levels as `fuel` allows. Groups may
hold names from the root of all packages if nothing stands before them; the flag tells whether some
do. -/
def useTree (fromRoot : Bool) : Nat → Parse (Bool × List Tree)
  | 0 => return (false, [])
  | fuel + 1 => do
    if (← peekIdentifier) || (← peekOneOf ["self", "super", "crate", "try"]) then
      let first := [Tree.word (← anyWord)]
      if ← peekMark "::" then
        let colons ← mark "::"
        let (_, rest) ← useTree false fuel
        return (false, first ++ colons ++ rest)
      else if ← peekWord "as" then
        let renamed ← word "as"
        if (← peekIdentifier) || (← peekWord "_") then
          return (false, first ++ renamed ++ [.word (← anyWord)])
        else expected [.identifierOrUnderscore]
      else return (false, first)
    else if ← peekMark "*" then return (false, ← mark "*")
    else if ← peekGroup .brace then
      let entries ← inGroup .brace (commaList (do
        let colons ← ifThen (pure fromRoot) (optionalMark "::")
        let (nested, trees) ← useTree (fromRoot && colons.isEmpty) fuel
        return (nested || !colons.isEmpty, trees)))
      return (entries.any (·.1.1), [.group .brace (Entry.trees Prod.snd entries)])
    else expected [.identifier, .token "self", .token "super", .token "crate", .token "try",
      .token "*", .group .brace]

def useItem : Parse.Kept := do
  let front := (← visibility) ++ (← word "use")
  let colons ← optionalMark "::"
  let (rooted, trees) ← useTree colons.isEmpty (Tree.sizeList (← ahead) + 1)
  keepIf rooted (front ++ colons ++ trees ++ (← semicolon))

/-! ### Traits -/

def traitFunction (r : Rules) : Parse (List Tree) := do
  let (_, head) ← signature r false
  if ← peekGroup .brace then return head ++ (← attributedBlock r)
  else if ← peekMark ";" then return head ++ (← semicolon)
  else expected [.group .brace, .token ";"]

def traitConst (r : Rules) : Parse.Kept := do
  let front ← word "const"
  if (← peekIdentifier) || (← peekWord "_") then
    let (_, plain, trees) ← constRest r
    keepIf (!plain) (front ++ trees)
  else expected [.identifier, .token "_", .token "async", .token "unsafe", .token "extern",
    .token "fn"]

def traitItem (r : Rules) : Parse (List Tree) :=
  withAttributes r (do
    let front := (← visibility) ++ (← optionalWord "default")
    let plain := front.isEmpty
    let functionWords : Parse Bool := peekOneOf ["async", "unsafe", "extern", "fn"]
    let found ←
      if ← peekSignature false then some <$> traitFunction r
      else if (← peekWord "const") && (← peekBehind 1 functionWords) then some <$> traitFunction r
      else if ← peekWord "const" then traitConst r
      else if ← peekWord "type" then do
        let (_, _, trees) ← typeAlias r .behindType
        pure (some trees)
      else if plain && (← peekMacroItem) then some <$> macroItem (pure [])
      else expectedItem ["fn", "const", "type"] plain
    return if plain then found else none)

/-- The rest of a trait behind its parameters. -/
def traitRest (r : Rules) : Parse (List Tree) := do
  let ends : Parse Bool := do return (← peekWord "where") || (← peekGroup .brace)
  let (_, bounds) ← boundsUntil r ends
  return bounds ++ (← conditions r) ++ (← itemBlock r (traitItem r))

/-- The rest of another name for bounds, behind its parameters. -/
def traitAliasRest (r : Rules) : Parse (List Tree) := do
  let equals ← mark "="
  let ends : Parse Bool := do return (← peekWord "where") || (← peekMark ";")
  let bounds ← list (Bound.trees <$> r.bound false false) "+" ends
  return equals ++ Entry.trees id bounds ++ (← conditions r) ++ (← semicolon)

/-- The words of a trait, its name and its parameters. -/
def traitHead (r : Rules) : Parse (List Tree) := do
  let front := (← visibility) ++ (← optionalWord "unsafe") ++ (← optionalWord "auto")
  return front ++ (← word "trait") ++ (← name) ++ (← parameterTrees r)

def markedTrait (r : Rules) : Parse (List Tree) := do
  return (← traitHead r) ++ (← traitRest r)

/-- A trait, or another name for bounds. -/
def traitOrAlias (r : Rules) : Parse (List Tree) := do
  let front ← traitHead r
  if (← peekGroup .brace) || (← peekMark ":") || (← peekWord "where") then
    return front ++ (← traitRest r)
  else if ← peekMark "=" then return front ++ (← traitAliasRest r)
  else expected [.group .brace, .token ":", .token "where", .token "="]

/-! ### Implementations -/

/-- A function of an implementation. One without a body is kept as it stands. -/
def implFunction (r : Rules) (front : List Tree) : Parse.Kept := do
  let (_, head) ← signature r false
  if ← peekMark ";" then
    let _ ← semicolon
    return none
  else return some (front ++ head ++ (← attributedBlock r))

def implItem (r : Rules) : Parse (List Tree) :=
  withAttributes r (do
    let vis ← visibility
    let isDefault := (← peekWord "default") && !(← peekBehind 1 (peekMark "!"))
    let default ← ifThen (pure isDefault) (word "default")
    let front := vis ++ default
    if ← peekSignature false then implFunction r front
    else if ← peekWord "const" then
      let const ← word "const"
      let (valued, plain, trees) ← constRest r
      keepIf (!(valued && plain)) (front ++ const ++ trees)
    else if ← peekWord "type" then
      let (bounded, typed, trees) ← typeAlias r .behindType
      keepIf (bounded || !typed) (front ++ trees)
    else if front.isEmpty && (← peekMacroItem) then return some (← macroItem (pure []))
    else if isDefault then expectedItem ["fn", "const", "type"] false
    else expectedItem ["default", "fn", "const", "type"] front.isEmpty)

/-- What an implementation is of: a trait and a type, or a type alone. The flag tells whether it
has to be kept as it stands. -/
def implSubject (r : Rules) : Parse (Bool × List Tree) := do
  let negative := (← peekMark "!") && !(← peekBehind 1 (peekGroup .brace))
  let polarity ← ifThen (pure negative) (mark "!")
  let first ← r.type true
  if ← peekWord "for" then
    let trees := polarity ++ first.trees ++ (← word "for") ++ (← r.typeTrees)
    match first with
    | .path _ _ => return (false, trees)
    | _ => return (true, trees)
  else if negative then throw .negativeInherent
  else return (false, first.trees)

def implBlock (r : Rules) : Parse.Kept := do
  let vis ← visibility
  let front := (← optionalWord "default") ++ (← optionalWord "unsafe") ++ (← word "impl")
  let params ← ifThen peekParameters (parameterTrees r)
  let isConst := (← peekWord "const") || ((← peekMark "?") && (← peekBehind 1 (peekWord "const")))
  let _ ← ifThen (pure isConst) (do return (← optionalMark "?") ++ (← word "const"))
  let (kept, subject) ← implSubject r
  let rest := (← conditions r) ++ (← itemBlock r (implItem r))
  keepIf (!vis.isEmpty || isConst || kept) (front ++ params ++ subject ++ rest)

/-! ### The other items -/

/-- A function. One without a body is kept as it stands. -/
def functionItem (r : Rules) : Parse.Kept := do implFunction r (← visibility)

/-- A static. One without a type or without a value is kept as it stands. -/
def staticItem (r : Rules) : Parse.Kept := do
  let named := (← visibility) ++ (← word "static") ++ (← optionalWord "mut") ++ (← name)
  if ← peekMark "=" then
    let _ ← optionalValue r
    let _ ← semicolon
    return none
  else
    let type ← colonType r
    if ← peekMark ";" then
      let _ ← semicolon
      return none
    else
      let value := (← mark "=") ++ (← r.exprTrees)
      return some (named ++ type ++ value ++ (← semicolon))

/-- A constant. One without a value, or with parameters or conditions, is kept as it stands. -/
def constItem (r : Rules) : Parse.Kept := do
  let front := (← visibility) ++ (← word "const")
  let (valued, plain, trees) ← constRest r
  keepIf (!(valued && plain)) (front ++ trees)

def moduleItem (r : Rules) : Parse (List Tree) := do
  let front := (← visibility) ++ (← optionalWord "unsafe") ++ (← word "mod") ++ (← nameOr ["try"])
  if ← peekMark ";" then return front ++ (← semicolon)
  else if ← peekGroup .brace then return front ++ (← itemBlock r r.item)
  else expected [.token ";", .group .brace]

/-- A name for a type. One with bounds or without a type is kept as it stands. -/
def typeItem (r : Rules) : Parse.Kept := do
  let vis ← visibility
  let (bounded, typed, trees) ← typeAlias r .beforeEquals
  keepIf (bounded || !typed) (vis ++ trees)

/-- One variant of an enumeration. Its visibility is dropped. -/
def variant (r : Rules) : Parse (List Tree) := do
  let attrs ← attributeTrees r
  let _ ← visibility
  let named ← name
  let fields ←
    if ← peekGroup .brace then group .brace (namedFields r)
    else if ← peekGroup .paren then group .paren (unnamedFields r)
    else pure []
  return attrs ++ named ++ fields ++ (← optionalValue r)

def enumItem (r : Rules) : Parse (List Tree) := do
  let front := (← visibility) ++ (← word "enum") ++ (← name) ++ (← parameterTrees r)
  return front ++ (← conditions r) ++ (← group .brace (commaTrees (variant r)))

def unionItem (r : Rules) : Parse (List Tree) := do
  let front := (← visibility) ++ (← word "union") ++ (← name) ++ (← parameterTrees r)
  return front ++ (← conditions r) ++ (← group .brace (namedFields r))

/-- A definition of a macro behind a word of its own, which is kept as it stands. -/
def macroDefinition : Parse.Kept := do
  let _ ← visibility
  let _ ← word "macro"
  let _ ← name
  let inputs ← peekGroup .paren
  let _ ← ifThen (pure inputs) anyGroup
  if ← peekGroup .brace then
    let _ ← anyGroup
    return none
  else if inputs then expected [.group .brace]
  else expected [.group .paren, .group .brace]

def unsafeItem (r : Rules) : Parse.Kept := do
  let before ← ahead
  let _ ← visibility
  let _ ← word "unsafe"
  let whole (p : Parse.Kept) : Parse.Kept := do
    moveTo before
    p
  let isAuto := (← peekWord "auto") && (← peekBehind 1 (peekWord "trait"))
  if isAuto || (← peekWord "trait") then whole (some <$> markedTrait r)
  else if ← peekWord "impl" then whole (implBlock r)
  else if ← peekWord "extern" then whole (some <$> foreignBlock r)
  else if ← peekWord "mod" then whole (some <$> moduleItem r)
  else expectedItem ["trait", "auto", "impl", "extern", "mod"] false

/-- The words that an item can start with, in the order in which they are looked for. -/
def itemWords : List String :=
  ["fn", "extern", "use", "static", "const", "unsafe", "mod", "type", "struct", "enum", "union",
    "trait", "auto", "impl", "default", "macro"]

def itemRest (r : Rules) : Parse.Kept := do
  let before ← ahead
  let vis ← visibility
  let here ← ahead
  let whole (p : Parse.Kept) : Parse.Kept := do
    moveTo before
    p
  if ← peekSignature false then whole (functionItem r)
  else
    match frontWord? here with
    | some "extern" => whole (some <$> externItem r)
    | some "use" => whole useItem
    | some "static" => whole (staticItem r)
    | some "const" => whole (constItem r)
    | some "unsafe" => whole (unsafeItem r)
    | some "mod" => whole (some <$> moduleItem r)
    | some "type" => whole (typeItem r)
    | some "struct" => whole ((some ∘ Structure.trees) <$> structureItem r)
    | some "enum" => whole (some <$> enumItem r)
    | some "trait" => whole (some <$> traitOrAlias r)
    | some "impl" => whole (implBlock r)
    | some "macro" => whole macroDefinition
    | front =>
      if front == some "union" && (← peekBehind 1 peekIdentifier) then
        whole (some <$> unionItem r)
      else if front == some "auto" && (← peekBehind 1 (peekWord "trait")) then
        whole (some <$> markedTrait r)
      else if front == some "default" && !(← peekBehind 1 (peekMark "!")) then whole (implBlock r)
      else if vis.isEmpty && (← peekMacroItem) then
        return some (← macroItem (ifThen (do return (← peekIdentifier) || (← peekWord "try"))
          (do return [.word (← anyWord)])))
      else expectedItem itemWords vis.isEmpty

def itemRule (r : Rules) : Parse (List Tree) := withAttributes r (itemRest r)

end StateMachine.Source
