/-!
# Words

A command line is a list of words: options, their values, and operands. An option has a name behind
two hyphens and perhaps a letter behind one; letters can stand together. The value of an option
stands behind an equals sign or is the next word. Behind a word of two hyphens all are operands. A
word can name a command, to which the words behind it belong.

## Main definitions

* `UsageError`: why words are not understood.
* `CommandOption`, `Grammar`: what is understood.
* `Reading`: what has been read.
* `Grammar.read`: reads words.
-/

namespace ImageSync.CommandLine

/-- Why words are not understood, or what else they ask for. -/
inductive UsageError where
  /-- Help is asked for. -/
  | helpAsked
  /-- The version is asked for. -/
  | versionAsked
  /-- There is no option and no command. -/
  | nothingGiven
  /-- There is no command. -/
  | noCommand
  | unknownCommand
  | unknownArgument
  /-- Something that has to be given is not. -/
  | missingArgument
  /-- An option is given twice. -/
  | repeated
  /-- A value is missing or not among those that are possible. -/
  | badValue
  /-- A value cannot be read. -/
  | unreadableValue
  /-- A value is given to an option that has none. -/
  | unwantedValue
deriving DecidableEq, Repr

/-- The status that the program ends with. -/
def UsageError.exitStatus : UsageError → Nat
  | helpAsked => 0
  | versionAsked => 0
  | _ => 2

variable {σ : Type}

/-- What an option does with the settings. -/
inductive Effect (σ : Type) where
  /-- It has no value. -/
  | mark (f : σ → σ)
  /-- It has a value, which may be refused. -/
  | store (f : String → σ → Except UsageError σ)
  /-- It ends the reading. -/
  | stop (e : UsageError)

/-- An option. -/
structure CommandOption (σ : Type) where
  name : String
  letter : Option Char := none
  effect : Effect σ

/-- What is understood. -/
structure Grammar (σ : Type) where
  options : List (CommandOption σ)
  commands : List String := []
  /-- The most operands. -/
  operands : Nat := 0

/-- What has been read. -/
structure Reading (σ : Type) where
  settings : σ
  /-- The names of the options that were given. -/
  given : List String := []
  operands : List String := []
  /-- The last option if its value is the next word or was the last one. -/
  held : Option (CommandOption σ × Option String) := none

namespace Reading

/-- Whether the next word is the value of an option. -/
def isAwaiting (r : Reading σ) : Bool := r.held.any fun h => h.2.isNone

/-- Carries out an option. -/
def apply (r : Reading σ) (o : CommandOption σ) (value : Option String) :
    Except UsageError (Reading σ) :=
  let settle (f : σ → Except UsageError σ) : Except UsageError (Reading σ) :=
    if o.name ∈ r.given then .error .repeated
    else (f r.settings).map fun s => { r with settings := s, given := o.name :: r.given }
  match o.effect, value with
  | .mark f, none => settle fun s => .ok (f s)
  | .mark _, some _ => .error .unwantedValue
  | .store _, none => .error .badValue
  | .store f, some v => settle (f v)
  | .stop e, none => .error e
  | .stop _, some _ => .error .unwantedValue

/-- Carries out the option that is held. -/
def settle (r : Reading σ) : Except UsageError (Reading σ) :=
  match r.held with
  | none => .ok r
  | some (o, value) => { r with held := none }.apply o value

/-- Goes on with an option. Its value, if it has one that is not known yet, is the next word. -/
def goOn (r : Reading σ) (o : CommandOption σ) (value : Option String) :
    Except UsageError (Reading σ) :=
  match o.effect, value with
  | .store _, none => r.settle.map fun r => { r with held := some (o, none) }
  | .store _, some _ => r.settle.bind fun r => r.apply o value
  | _, some _ => .error .unwantedValue
  | _, none => r.settle.bind fun r => r.apply o none

end Reading

/-- What a word looks like. -/
inductive Word where
  /-- Two hyphens. -/
  | divider
  /-- An option with its name. -/
  | long (name : String) (value : Option String)
  /-- Options with their letters. -/
  | short (letters : List Char)
  /-- Any other word. -/
  | plain
deriving DecidableEq, Repr

/-- What a word looks like. A single hyphen looks like any other word. -/
def Word.ofString (s : String) : Word :=
  match s.toList with
  | ['-', '-'] => divider
  | '-' :: '-' :: cs =>
    let name := cs.takeWhile (· ≠ '=')
    match cs.dropWhile (· ≠ '=') with
    | [] => long (String.ofList name) none
    | _ :: value => long (String.ofList name) (some (String.ofList value))
  | '-' :: c :: cs => short (c :: cs)
  | _ => plain

namespace Grammar

/-- Goes on with an option given by its name. -/
def readLong (g : Grammar σ) (r : Reading σ) (name : String) (value : Option String) :
    Except UsageError (Reading σ) :=
  match g.options.find? fun o => o.name = name with
  | none => .error .unknownArgument
  | some o => r.goOn o value

/-- Goes on with options given by their letters. What follows the letter of an option with a value
is the value, perhaps behind an equals sign. -/
def readLetters (g : Grammar σ) (r : Reading σ) : List Char → Except UsageError (Reading σ)
  | [] => .ok r
  | c :: cs =>
    match g.options.find? fun o => o.letter = some c with
    | none => .error .unknownArgument
    | some o =>
      match o.effect, cs with
      | .store _, [] => r.goOn o none
      | .store _, '=' :: value => r.goOn o (some (String.ofList value))
      | .store _, value => r.goOn o (some (String.ofList value))
      | _, _ =>
        match r.goOn o none with
        | .error e => .error e
        | .ok r => readLetters g r cs

/-- The error for an operand that is too many. -/
def surplus (g : Grammar σ) (onlyOperands : Bool) (word : String) : UsageError :=
  if g.commands.isEmpty || (onlyOperands && word ∈ g.commands) then .unknownArgument
  else .unknownCommand

/-- Reads words up to their end or up to a command. The option in front of a command may still be
held. -/
def read (g : Grammar σ) (onlyOperands : Bool) (r : Reading σ) :
    List String → Except UsageError (Reading σ × Option (String × List String))
  | [] => r.settle.map fun r => (r, none)
  | word :: words =>
    let operand : Except UsageError (Reading σ) :=
      if r.operands.length < g.operands then
        r.settle.map fun r => { r with operands := r.operands ++ [word] }
      else .error (g.surplus onlyOperands word)
    let next (onlyOperands : Bool) (r : Except UsageError (Reading σ)) :=
      match r with
      | .error e => .error e
      | .ok r => read g onlyOperands r words
    if onlyOperands then next true operand
    else if !r.isAwaiting && word ∈ g.commands then .ok (r, some (word, words))
    else
      match Word.ofString word with
      | .divider => next true (.ok r)
      | .long name value => next false (g.readLong r name value)
      | .short letters => next false (g.readLetters r letters)
      | .plain =>
        match r.held with
        | some (o, none) => next false (.ok { r with held := some (o, some word) })
        | _ => next false operand

end Grammar

end ImageSync.CommandLine
