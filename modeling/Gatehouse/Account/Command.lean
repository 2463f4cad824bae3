import Gatehouse.Account.Accounts
import Gatehouse.Text.CharacterSet
import Gatehouse.Text.Split

/-!
The command that registers an account: a user name, an optional nickname and an optional role.
Long options may be shortened while it stays clear which one is meant, take their value from
behind an equals sign or from the next argument, and end at a double dash.
-/
namespace Gatehouse.Command
open Text

/-- What the command is asked to do. -/
structure Request where
  username : String
  nickname : String
  role : Role
  deriving DecidableEq, Repr

inductive Choice where
  | help
  | nickname
  | role
  deriving DecidableEq, Repr

def options : List (String × Choice) :=
  [("-h", .help), ("--help", .help), ("--nickname", .nickname), ("--role", .role)]

/-- An argument by its form. -/
inductive Argument where
  | operand (text : String)
  | option (choice : Choice) (value : Option String)
  /-- The double dash: only operands follow. -/
  | endOfOptions
  /-- It looks like an option, but there is none with this name. -/
  | unknown
  deriving DecidableEq, Repr

/-- An argument error; its details only go to the terminal. -/
def usageError : Fault := .exit "2"

/-- Digits of any script with an optional fraction behind a dash are an operand. -/
def isNegativeNumber (cs : List Char) : Bool :=
  let digits (ds : List Char) : Bool := ds.all fun c => (digitValue? c).isSome
  match cs with
  | '-' :: r =>
    match cutFirst '.' r with
    | none => !r.isEmpty && digits r
    | some (a, b) => digits a && !b.isEmpty && digits b
  | _ => false

/-- The options that a shortened name may mean. -/
def candidates (name : List Char) : List Choice :=
  (options.filter fun o => name.isPrefixOf o.1.toList).map (·.2)

/-- An option whose name may be shortened; none if no option is meant. -/
def shortened? (cs : List Char) : Except Fault (Option Argument) :=
  let (name, value) := match cutFirst '=' cs with
    | some (n, v) => (n, some (String.ofList v))
    | none => (cs, none)
  if "--".toList.isPrefixOf cs then
    match candidates name with
    | [] => .ok none
    | [c] => .ok (some (.option c value))
    | _ => .error usageError
  else if "-h".toList.isPrefixOf cs then .error usageError
  else .ok none

/-- The form of an argument before a double dash. -/
def classify (text : String) : Except Fault Argument :=
  let cs := text.toList
  match cs with
  | '-' :: _ :: _ =>
    if text = "--" then .ok .endOfOptions
    else
      match options.lookup text with
      | some c => .ok (.option c none)
      | none => do
        match ← shortened? cs with
        | some a => .ok a
        | none =>
          .ok (if isNegativeNumber cs || cs.contains ' ' then .operand text else .unknown)
  | _ => .ok (.operand text)

def classifyAll : List String → Except Fault (List Argument)
  | [] => .ok []
  | a :: r => do
    match ← classify a with
    | .endOfOptions => .ok (.endOfOptions :: r.map .operand)
    | c => (c :: ·) <$> classifyAll r

/-- What has been given so far. -/
structure Given where
  username : Option String := none
  nickname : String := ""
  role : Role := .user
  /-- There was an argument that nothing is known to do with. -/
  surplus : Bool := false

def Given.put (g : Given) (c : Choice) (value : String) : Except Fault Given :=
  match c with
  | .help => .error usageError
  | .nickname => .ok { g with nickname := value }
  | .role => (Role.ofName? value).elim (.error usageError) fun r => .ok { g with role := r }

/-- Takes up an operand: only the first one is needed. -/
def Given.operand (g : Given) (text : String) : Given :=
  if g.username.isSome then { g with surplus := true } else { g with username := some text }

/-- Takes up the arguments from left to right; a request for help ends the command. A double
dash stands next to the operand. -/
def collect : Given → List Argument → Except Fault Given
  | g, [] => .ok g
  | g, .operand text :: .endOfOptions :: r => collect (g.operand text) r
  | g, .endOfOptions :: r => collect { g with surplus := g.surplus || g.username.isSome } r
  | g, .unknown :: r => collect { g with surplus := true } r
  | g, .operand text :: r => collect (g.operand text) r
  | g, .option c (some v) :: r => do
    let g ← g.put c v
    collect g r
  | _, .option .help none :: _ => .error (.exit "0")
  | g, .option c none :: .operand v :: r => do
    let g ← g.put c v
    collect g r
  | _, .option _ none :: _ => .error usageError

def parse (arguments : List String) : Except Fault Request := do
  let forms ← classifyAll arguments
  let g ← collect {} forms
  match g.username, g.surplus with
  | some u, false => .ok ⟨u, g.nickname, g.role⟩
  | _, _ => .error usageError

/-- What the command prints about a new account. -/
def report (a : Account) : String :=
  s!"Created user {a.username} (id={a.id}, role={a.role.name}).\n"

/-- Runs the command with a password: what it prints, and the accounts after it. -/
def run (t : Accounts) (db : Database) (k : Password.Scheme) (arguments : List String)
    (password : String) : Except Fault (String × Accounts) := do
  let request ← parse arguments
  if password = "" then .error (.exit "Password must not be empty.")
  else do
    let (a, t) ← t.register db k.hash request.username password request.role request.nickname
    .ok (report a, t)

end Gatehouse.Command
