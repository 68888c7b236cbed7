import LoginVault.Login.Basic
import LoginVault.Text.Blank

/-!
# Form — the form for a new login

A login can be submitted if neither its address nor its user name is an empty field.
-/

namespace LoginVault

/-- What keeps a login from being submitted. -/
inductive FormProblem where
  | urlMissing
  | usernameMissing
  deriving DecidableEq, Repr

/-- The text of a problem. -/
def FormProblem.message : FormProblem → String
  | .urlMissing => "URL is required"
  | .usernameMissing => "Username is required"

/-- What keeps this login from being submitted, if anything does. -/
def NewLogin.problem? (r : NewLogin) : Option FormProblem :=
  if Text.isEmptyField r.url then some .urlMissing
  else if Text.isEmptyField r.username then some .usernameMissing
  else none

/-- The state of the form: whether it is shown, whether a login is on its way, and the error to
show, empty if there is none. -/
structure Form where
  isOpen : Bool
  submitting : Bool
  error : String
  deriving DecidableEq, Repr

/-- A form that is not shown. -/
def Form.closed : Form := ⟨false, false, ""⟩

/-- A form that has just been opened. -/
def Form.opened : Form := ⟨true, false, ""⟩

end LoginVault
