/-!
The words of a command line. A word is an option, the value of the option in front of it, the name
of a command, which ends the words of this level, or an operand. An option is given at most once.
-/

namespace Courier

inductive OptionKind where
  | flag
  | text
  /-- The name of a file, which is not empty. -/
  | file
  | choice (names : List String)
  deriving DecidableEq, Repr, Inhabited

structure OptionSpec where
  name : String
  short : Option Char := none
  kind : OptionKind
  deriving DecidableEq, Repr, Inhabited

structure WordGrammar where
  options : List OptionSpec
  operands : Nat := 0
  commands : List String := []
  versioned : Bool := false
  deriving DecidableEq, Repr, Inhabited

/-- Why there is nothing to carry out. -/
inductive Usage where
  | mistaken
  | help
  | version
  deriving DecidableEq, Repr, Inhabited

structure Words where
  /-- The options by name, with their values; that of a flag is empty. -/
  given : List (String × String) := []
  operands : List String := []
  /-- The command that ended the level, and what follows it. -/
  command : Option (String × List String) := none
  deriving DecidableEq, Repr, Inhabited

namespace OptionKind

def takesValue : OptionKind → Bool
  | .flag => false
  | _ => true

def accepts (kind : OptionKind) (value : String) : Bool :=
  match kind with
  | .flag => value.isEmpty
  | .text => true
  | .file => !value.isEmpty
  | .choice names => names.contains value

end OptionKind

namespace Words

def has (words : Words) (name : String) : Bool :=
  words.given.any (·.1 == name)

def value? (words : Words) (name : String) : Option String :=
  words.given.lookup name

def give (words : Words) (option : OptionSpec) (value : String) : Except Usage Words :=
  if words.has option.name ∨ !option.kind.accepts value then .error .mistaken
  else .ok { words with given := words.given ++ [(option.name, value)] }

def operand (words : Words) (grammar : WordGrammar) (word : String) : Except Usage Words :=
  if words.operands.length < grammar.operands then
    .ok { words with operands := words.operands ++ [word] }
  else .error .mistaken

/-- Whether a word looks like an option. A single hyphen does not. -/
def isOption (word : String) : Bool :=
  match word.toList with
  | '-' :: _ :: _ => true
  | _ => false

/-- Flags that share a hyphen. -/
def giveShort (grammar : WordGrammar) (words : Words) : List Char → Except Usage Words
  | [] => .ok words
  | letter :: rest => do
    if letter = 'h' then throw .help
    if letter = 'V' ∧ grammar.versioned then throw .version
    match grammar.options.find? (·.short == some letter) with
    | some option => giveShort grammar (← words.give option "") rest
    | none => throw .mistaken

/-- The name of a long option and the value after an equals sign, if there is one. -/
def splitLong (word : List Char) : String × Option String :=
  let name := word.takeWhile (· != '=')
  match word.dropWhile (· != '=') with
  | [] => (String.ofList name, none)
  | _ :: value => (String.ofList name, some (String.ofList value))

def read (grammar : WordGrammar) (words : Words) : List String → Except Usage Words
  | [] => .ok words
  | word :: rest =>
    if grammar.commands.contains word then .ok { words with command := some (word, rest) }
    else match word.toList with
    | ['-', '-'] => rest.foldlM (fun words word => words.operand grammar word) words
    | '-' :: '-' :: long => do
      let (name, value) := splitLong long
      if name = "help" then throw (if value.isSome then Usage.mistaken else .help)
      if name = "version" ∧ grammar.versioned then
        throw (if value.isSome then Usage.mistaken else .version)
      match grammar.options.find? (·.name == name), value with
      | none, _ => throw .mistaken
      | some option, some value =>
        if option.kind.takesValue then read grammar (← words.give option value) rest
        else throw .mistaken
      | some option, none =>
        if option.kind.takesValue then
          match rest with
          | [] => throw .mistaken
          | value :: rest =>
            if isOption value then throw .mistaken
            else read grammar (← words.give option value) rest
        else read grammar (← words.give option "") rest
    | '-' :: letter :: letters => do
      read grammar (← giveShort grammar words (letter :: letters)) rest
    | _ => do
      read grammar (← words.operand grammar word) rest

end Words

end Courier
