import VersionedApi.Failure.Misuse
import VersionedApi.Files.Path

/-!
# The environment of a run

The variables of a run and what is known about its machine. They decide where the settings of a user lie.
-/

namespace VersionedApi

/-- The environment of a run. -/
structure Environment where
  bindings : List (String × String)
  /-- The name of the operating system. -/
  system : String
  /-- The home directory of the account, for a run without the variable that names one. -/
  accountHome : String
deriving Repr

namespace Environment

/-- The value of a variable. -/
def get? (env : Environment) (name : String) : Option String :=
  env.bindings.lookup name

/-- The value of a variable, if it is not empty. -/
def given? (env : Environment) (name : String) : Option String :=
  (env.get? name).filter fun value => !value.isEmpty

/-- The home directory. A name that starts with a tilde asks for the home directory of another account,
which is not looked up. -/
def home (env : Environment) : Except Misuse Path :=
  let named := (env.get? "HOME").getD env.accountHome
  let text := String.ofList (named.toList.reverse.dropWhile fun c => c == '/').reverse
  if text.startsWith "~" then .error .noHome
  else .ok (Path.ofString (if text.isEmpty then "/" else text))

/-- Whether the system keeps settings in a common directory. -/
def hasConfigHome (env : Environment) : Bool :=
  env.system == "Linux" || env.system.endsWith "BSD"

/-- The directory of the settings of a user. -/
def configDirectory (env : Environment) : Except Misuse Path :=
  if env.hasConfigHome then
    match env.given? "XDG_CONFIG_HOME" with
    | some named => .ok ((Path.ofString named).child "apigen")
    | none => env.home.map fun home => (home.child ".config").child "apigen"
  else env.home.map fun home => home.child ".apigen"

end Environment

end VersionedApi
