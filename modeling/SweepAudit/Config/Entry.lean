import SweepAudit.Config.Name

/-!
Entries of a configuration. The entry of a field holds what the variables that lead to
it make up: a setting, a table of members, or a sequence. Of the members only the keys
are kept, and of a sequence nothing, as no field has a use for more.
-/

namespace SweepAudit.Config

abbrev Variables := List (String × String)

inductive Composite where
  | table (keys : List String)
  | sequence
  deriving DecidableEq

def Composite.kind : Composite → String
  | .table _ => "map"
  | .sequence => "sequence"

inductive Entry where
  | setting (setting : Setting)
  | composite (composite : Composite)
  deriving DecidableEq

namespace Entry

/-- The entry after a setting has been put into it. Only the first step tells what becomes of the
entry: a table keeps the members that it has, and anything else makes way. -/
def put (entry : Option Entry) (value : String) : List Step → Entry
  | [] => .setting (.ofText value)
  | .item _ :: _ => .composite .sequence
  | .member key :: _ =>
    match entry with
    | some (.composite (.table keys)) =>
      .composite (.table (if key ∈ keys then keys else keys ++ [key]))
    | _ => .composite (.table [key])

def putAll (field : String) (entry : Option Entry) : Variables → Option Entry
  | [] => entry
  | (name, value) :: env =>
    let name := Name.ofText name
    if name.field = field then putAll field (some (put entry value name.steps)) env
    else putAll field entry env

end Entry

def entry? (env : Variables) (field : String) : Option Entry := Entry.putAll field none env

def misplaced? (env : Variables) : Option Misplaced :=
  env.findSome? fun (name, _) => (Name.ofText name).misplaced?

end SweepAudit.Config
