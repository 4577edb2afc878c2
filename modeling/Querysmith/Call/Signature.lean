import Querysmith.Error
import Querysmith.Text.Joined

/-!
# Written calls

A call as a caller writes it has a name, arguments in order and arguments by name. A signature
puts the arguments to parameters: first those in order, then those by name, then defaults.
-/

namespace Querysmith

/-- A call as it is written. -/
structure Call (α : Type) where
  name : String
  arguments : List α := []
  named : List (String × α) := []

/-- A parameter, with a default when it can be left out. -/
structure Parameter where
  name : String
  default : Option Value := none

/-- The parameters of an operation. -/
structure Signature where
  /-- The full name of the operation. -/
  operation : String
  parameters : List Parameter
  /-- Whether further arguments are taken in order. -/
  takesRest : Bool := false
  /-- Whether the object that the operation belongs to counts as an argument. -/
  onObject : Bool := true

namespace Signature

variable {α : Type}

/-- A parameter that has to be given. -/
def required (name : String) : Parameter := { name }

/-- A parameter that can be left out. -/
def optional (name : String) (default : Value) : Parameter := { name, default := some default }

/-- The ending of a plural. -/
def plural (n : Nat) : String := if n = 1 then "" else "s"

/-- Names between quotes, in a sentence. -/
def enumerate : List String → String
  | [] => ""
  | [a] => "'" ++ a ++ "'"
  | [a, b] => "'" ++ a ++ "' and '" ++ b ++ "'"
  | names =>
    Text.commaJoined (names.dropLast.map fun a => "'" ++ a ++ "'") ++
      ", and '" ++ names.getLastD "" ++ "'"

/-- The name that the object itself goes by among the arguments. -/
def objectName : String := "self"

/-- Whether the parameter of this name has an argument in order; none when there is no such
parameter. -/
def isGiven? (sig : Signature) (call : Call α) (name : String) : Option Bool :=
  if sig.onObject && name = objectName then some true
  else (sig.parameters.findIdx? fun p => p.name = name).map fun i => i < call.arguments.length

/-- Refuses an argument by name that has no parameter, or whose parameter has an argument in
order already. -/
def checkNamed (sig : Signature) (call : Call α) (name : String) : Except Error Unit :=
  match sig.isGiven? call name with
  | none =>
    .error (.badCall (sig.operation ++ "() got an unexpected keyword argument '" ++ name ++ "'"))
  | some true =>
    .error (.badCall (sig.operation ++ "() got multiple values for argument '" ++ name ++ "'"))
  | some false => .ok ()

/-- The message about too many arguments. -/
def tooMany (sig : Signature) (count : Nat) : String :=
  let object := if sig.onObject then 1 else 0
  let most := sig.parameters.length + object
  let least := (sig.parameters.filter fun p => p.default.isNone).length + object
  let given := count + object
  let range := if least < most then "from " ++ toString least ++ " to " ++ toString most
    else toString most
  sig.operation ++ "() takes " ++ range ++ " positional argument" ++ plural most ++ " but " ++
    toString given ++ (if given = 1 then " was" else " were") ++ " given"

/-- The argument of the parameter at a position, when there is one. -/
def argument? (ofDefault : Value → α) (call : Call α) (p : Parameter) (position : Nat) :
    Option α :=
  match call.arguments[position]? with
  | some a => some a
  | none =>
    match call.named.find? fun e => e.1 = p.name with
    | some e => some e.2
    | none => p.default.map ofDefault

/-- The names of the parameters that have no argument. -/
def missing (sig : Signature) (ofDefault : Value → α) (call : Call α) : List String :=
  (sig.parameters.zipIdx.filter fun p => (argument? ofDefault call p.1 p.2).isNone).map
    fun p => p.1.name

/-- The arguments by parameter, and the further ones in order. -/
def bind (sig : Signature) (ofDefault : Value → α) (call : Call α) :
    Except Error (List α × List α) := do
  let _ ← call.named.mapM fun e => sig.checkNamed call e.1
  if !sig.takesRest && sig.parameters.length < call.arguments.length then
    throw (.badCall (sig.tooMany call.arguments.length))
  let absent := sig.missing ofDefault call
  if !absent.isEmpty then
    throw (.badCall (sig.operation ++ "() missing " ++ toString absent.length ++
      " required positional argument" ++ plural absent.length ++ ": " ++ enumerate absent))
  pure (sig.parameters.zipIdx.filterMap fun p => argument? ofDefault call p.1 p.2,
    call.arguments.drop sig.parameters.length)

end Signature

/-- How an operation is written: its parameters, and what their arguments make. -/
structure Form (α β : Type) where
  parameters : List Parameter
  make : List α → Except Error β

namespace Form

variable {α β : Type}

/-- Refuses arguments whose number is not that of the parameters. -/
def unfit : Except Error β := .error (.badCall "arguments do not fit")

/-- What is made, if the number of arguments is right. -/
def fitting : Option β → Except Error β
  | some b => .ok b
  | none => unfit

/-- A form whose arguments are taken as they are. -/
def plain (parameters : List Parameter) (make : List α → Option β) : Form α β where
  parameters
  make args := fitting (make args)

/-- A form without parameters. -/
def bare (b : β) : Form α β := ⟨[], fun _ => .ok b⟩

/-- What a written call makes. -/
def read (form : Form α β) (operation : String) (ofDefault : Value → α) (call : Call α)
    (onObject : Bool := true) : Except Error β := do
  let sig : Signature := { operation, parameters := form.parameters, onObject }
  let (args, _) ← sig.bind ofDefault call
  form.make args

end Form

end Querysmith
