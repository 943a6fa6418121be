import RowGate.Text.Cut

/-! # Arguments

A command line has two levels: the program's own options, and behind the name of a command the
options and operands of that command. Some options are known at both levels.
-/

namespace RowGate.Cli

/-- An option with a value. -/
structure Setting where
  name : String
  letter : Option Char := none
  repeats : Bool := false
  accepts : String → Bool := fun _ => true

structure Level where
  settings : List Setting
  operands : Nat := 0
  commands : List String := []
  tellsVersion : Bool := false

/-- Why a command line is not run: it is wrong, or it asks for something else. -/
inductive Stop where
  | usage
  | help
  | version
deriving DecidableEq, Repr

/-- What a level holds: its options with their values, its operands, and the command with all that
follows it. -/
structure Found where
  values : List (String × String) := []
  operands : List String := []
  command : Option (String × List String) := none
deriving DecidableEq, Repr

namespace Found

def all (f : Found) (name : String) : List String :=
  (f.values.filter fun v => v.1 = name).map (·.2)

def value? (f : Found) (name : String) : Option String := f.values.lookup name

/-- Adds a value, which has to fit; only some options may be given more than once. -/
def addValue (f : Found) (s : Setting) (value : String) : Except Stop Found :=
  if s.accepts value && (s.repeats || (f.value? s.name).isNone) then
    .ok { f with values := f.values ++ [(s.name, value)] }
  else .error .usage

def addOperand (f : Found) (l : Level) (word : String) : Except Stop Found :=
  if f.operands.length < l.operands then .ok { f with operands := f.operands ++ [word] }
  else .error .usage

end Found

/-- What a single word is. The value of an option may stand in the same word. -/
inductive Word where
  | operandsOnly
  | setting (s : Setting) (value : Option String)
  | stop (reason : Stop)
  | plain

namespace Level

/-- A word of two dashes and a name. -/
def longWord (l : Level) (s : List Char) : Word :=
  let (name, value) := match Text.cutFirst '=' s with
    | some (name, value) => (String.ofList name, some (String.ofList value))
    | none => (String.ofList s, none)
  if name = "help" then .stop (if value.isNone then .help else .usage)
  else if name = "version" ∧ l.tellsVersion then .stop (if value.isNone then .version else .usage)
  else match l.settings.find? fun o => o.name = name with
    | some o => .setting o value
    | none => .stop .usage

/-- A word of one dash and a letter; a value may follow, with or without `=`. -/
def shortWord (l : Level) (c : Char) (s : List Char) : Word :=
  if c = 'h' then .stop .help
  else if c = 'V' ∧ l.tellsVersion then .stop .version
  else match l.settings.find? fun o => o.letter = some c, s with
    | some o, [] => .setting o none
    | some o, '=' :: s => .setting o (some (String.ofList s))
    | some o, s => .setting o (some (String.ofList s))
    | none, _ => .stop .usage

def word (l : Level) (w : String) : Word :=
  match w.toList with
  | ['-', '-'] => .operandsOnly
  | '-' :: '-' :: s => l.longWord s
  | '-' :: c :: s => l.shortWord c s
  | _ => .plain

/-- A word with a leading dash is no value, except for the dash alone. -/
def isDashed (w : String) : Bool :=
  match w.toList with
  | '-' :: _ :: _ => true
  | _ => false

/-- Reads words from left to right, up to the name of a command. -/
def read (l : Level) : Found → List String → Except Stop Found
  | f, [] => .ok f
  | f, w :: ws => match l.word w with
    | .operandsOnly => ws.foldlM (fun f w => f.addOperand l w) f
    | .stop reason => .error reason
    | .setting s (some value) => do l.read (← f.addValue s value) ws
    | .setting s none => match ws with
      | [] => .error .usage
      | value :: ws =>
        if isDashed value then .error .usage else do l.read (← f.addValue s value) ws
    | .plain =>
      if w ∈ l.commands then .ok { f with command := some (w, ws) }
      else do l.read (← f.addOperand l w) ws

end Level

end RowGate.Cli
