import MessageBus.Decimal.Digits
/-!
# Command-line arguments

A command line names a configuration file, if any, and one command with its positional arguments and
flags. Arguments are read from left to right and the first fault decides. A flag that still waits for
its value, or whose value came as an argument of its own, is entered when the next flag or positional
argument is met, or at the end: so a bad value is noticed before any help that is asked for later.
-/
namespace MessageBus.Command
set_option autoImplicit false

/-! ## The language -/

inductive Flag
  | config
  | params
  | filter
  | count
deriving DecidableEq, Repr

namespace Flag

def short : Flag → Char
  | .config => 'c'
  | .params => 'p'
  | .filter => 'f'
  | .count => 'n'

def long : Flag → String
  | .config => "config"
  | .params => "params"
  | .filter => "filter"
  | .count => "count"

/-- The count that a value writes, in 64 bits. -/
def count? (value : String) : Option Nat :=
  (Digits.parse? value).filter (· < UInt64.size)

/-- A file is named by some text, and a count is a natural number of 64 bits. -/
def admits : Flag → String → Bool
  | .config, value => value ≠ ""
  | .count, value => (count? value).isSome
  | .params, _ | .filter, _ => true

end Flag

inductive Verb
  | request
  | subscribe
  | topic
  | filter
  | endpoints
deriving DecidableEq, Repr

namespace Verb

def all : List Verb := [.request, .subscribe, .topic, .filter, .endpoints]

def name : Verb → String
  | .request => "request"
  | .subscribe => "subscribe"
  | .topic => "topic"
  | .filter => "filter"
  | .endpoints => "endpoints"

def flags : Verb → List Flag
  | .request => [.params]
  | .subscribe => [.filter, .count]
  | .topic | .filter | .endpoints => []

/-- How many positional arguments a command takes. -/
def arity : Verb → Nat
  | .request => 2
  | .subscribe | .topic | .filter => 1
  | .endpoints => 0

def ofName? (name : String) : Option Verb := all.find? (·.name = name)

end Verb

/-- A command with its arguments; `params` and `filter` are still texts. -/
inductive Action
  | request (service command params : String)
  | subscribe (service filter : String) (count : Option Nat)
  | topic (text : String)
  | filter (text : String)
  | endpoints
deriving DecidableEq, Repr

structure Invocation where
  config : Option String
  action : Action
deriving DecidableEq, Repr

inductive Refusal
  | help
  | usage
deriving DecidableEq, Repr

/-! ## Words -/

inductive Word
  /-- Two dashes: only positional arguments follow. -/
  | escape
  | long (name : String) (value : Option String)
  | short (letter : Char) (value : Option String)
  | plain
deriving DecidableEq, Repr

namespace Word

/-- A long flag: what stands after the first equals sign is its value. -/
def ofLong (cs : List Char) : Word :=
  let name := String.ofList (cs.takeWhile (· ≠ '='))
  match cs.dropWhile (· ≠ '=') with
  | [] => .long name none
  | _ :: value => .long name (some (String.ofList value))

/-- The value written next to a short flag, with or without an equals sign. -/
def attached : List Char → Option String
  | [] => none
  | '=' :: cs => some (String.ofList cs)
  | cs => some (String.ofList cs)

def ofArgument (arg : String) : Word :=
  match arg.toList with
  | ['-', '-'] => .escape
  | '-' :: '-' :: cs => ofLong cs
  | '-' :: c :: cs => .short c (attached cs)
  | _ => .plain

end Word

/-! ## Reading -/

/-- What was read of a command's arguments. -/
structure Reading where
  values : List (Flag × String)
  /-- The last flag whose value is an argument of its own, and that value once it was read. -/
  pending : Option (Flag × Option String)
  positionals : List String
  /-- Whether only positional arguments follow. -/
  trailing : Bool
deriving DecidableEq, Repr

namespace Reading

def empty : Reading := ⟨[], none, [], false⟩

def value? (r : Reading) (flag : Flag) : Option String := r.values.lookup flag

/-- Enters a flag's value: it must be admitted, and be the first. -/
def enter (r : Reading) (flag : Flag) (value : String) : Except Refusal Reading :=
  if flag.admits value && (r.value? flag).isNone then
    .ok { r with values := (flag, value) :: r.values }
  else .error .usage

def settle (r : Reading) : Except Refusal Reading :=
  match r.pending with
  | none => .ok r
  | some (flag, some value) => { r with pending := none }.enter flag value
  | some (_, none) => .error .usage

/-- Whether the next plain argument is the value of a flag. -/
def awaiting (r : Reading) : Bool :=
  match r.pending with
  | some (_, none) => !r.trailing
  | _ => false

def flag (r : Reading) (flag : Option Flag) (value : Option String) : Except Refusal Reading := do
  let r ← r.settle
  match flag, value with
  | none, _ => .error .usage
  | some f, some value => r.enter f value
  | some f, none => return { r with pending := some (f, none) }

/-- A plain argument: the value that is waited for, or else positional, of which `arity` are taken. -/
def plain (arity : Nat) (r : Reading) (arg : String) : Except Refusal Reading :=
  match r.awaiting, r.pending with
  | true, some (flag, _) => .ok { r with pending := some (flag, some arg) }
  | _, _ => do
    let r ← r.settle
    if r.positionals.length < arity then return { r with positionals := r.positionals ++ [arg] }
    else .error .usage

/-- Reads one argument of a command that has these flags and takes `arity` positional arguments. -/
def next (flags : List Flag) (arity : Nat) (r : Reading) (arg : String) : Except Refusal Reading :=
  if r.trailing then r.plain arity arg
  else
    match Word.ofArgument arg with
    | .escape => .ok { r with trailing := true }
    | .plain => r.plain arity arg
    | .long "help" none | .short 'h' _ => do
      let _ ← r.settle
      .error .help
    | .long name value => r.flag (flags.find? (·.long = name)) value
    | .short letter value => r.flag (flags.find? (·.short = letter)) value

end Reading

/-! ## Actions -/

def Verb.action? (verb : Verb) (r : Reading) : Option Action :=
  match verb, r.positionals with
  | .request, [service, command] =>
    some (.request service command ((r.value? .params).getD "{}"))
  | .subscribe, [service] =>
    some (.subscribe service ((r.value? .filter).getD "{}") ((r.value? .count).bind Flag.count?))
  | .topic, [text] => some (.topic text)
  | .filter, [text] => some (.filter text)
  | .endpoints, [] => some .endpoints
  | _, _ => none

def Verb.read (verb : Verb) (args : List String) : Except Refusal Action := do
  let r ← args.foldlM (Reading.next verb.flags verb.arity) .empty
  match verb.action? (← r.settle) with
  | some action => return action
  | none => .error .usage

/-- What asking for help on some names comes to: at most one name, of a command. -/
def helpOn : List String → Refusal
  | [] => .help
  | [name] => if name = "help" || (Verb.ofName? name).isSome then .help else .usage
  | _ => .usage

/-- Reads a command line of which a part was read already. -/
def readFrom (r : Reading) : List String → Except Refusal Invocation
  | [] => .error .usage
  | arg :: rest =>
    if r.trailing || r.awaiting then do readFrom (← r.next [.config] 0 arg) rest
    else if arg = "help" then .error (helpOn rest)
    else
      match Verb.ofName? arg with
      | some verb => do
        let action ← verb.read rest
        let r ← r.settle
        return ⟨r.value? .config, action⟩
      | none => do readFrom (← r.next [.config] 0 arg) rest

def Invocation.parse (args : List String) : Except Refusal Invocation := readFrom .empty args

end MessageBus.Command
