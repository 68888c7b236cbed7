import LoginVault.Text.CaseFold
import LoginVault.Text.Quoted

/-!
# Login.Basic — logins

A login is known by its identifier, a number or a text; a number and a text that look alike are
two identifiers. The password of a login is never part of how the login is shown.
-/

namespace LoginVault

/-- What a login is known by. -/
inductive LoginId where
  | number (n : Int)
  | name (s : String)
  deriving DecidableEq, Repr

/-- The text of an identifier. -/
def LoginId.text : LoginId → String
  | .number n => toString n
  | .name s => s

/-- The text of an identifier, quoted if it is a text. -/
def LoginId.describe : LoginId → String
  | .number n => toString n
  | .name s => Text.quoted s

/-- How a password is shown: that it is there, or that it is empty. -/
def describeSecret (password : String) : String :=
  if password.isEmpty then "SecretStr('')" else "SecretStr('**********')"

/-- A login of the store. The address is kept exactly as stored. -/
structure Login where
  id : LoginId
  url : String
  username : String
  password : String
  deriving DecidableEq, Repr

/-- How a login is shown. -/
def Login.describe (l : Login) : String :=
  s!"Credential(id={l.id.describe}, url={Text.quoted l.url}, username={Text.quoted l.username}"
    ++ s!", password={describeSecret l.password})"

/-- What stands for a password that is not to be seen. -/
def passwordMask : String := "••••••••"

/-- The password as it is put on a screen. -/
def Login.shownPassword (reveal : Bool) (l : Login) : String :=
  if reveal then l.password else passwordMask

/-- A login to be created. An empty password asks the store to make one up. -/
structure NewLogin where
  url : String
  username : String
  password : String
  deriving DecidableEq, Repr

/-- How a login to be created is shown. -/
def NewLogin.describe (r : NewLogin) : String :=
  s!"NewCredential(url={Text.quoted r.url}, username={Text.quoted r.username}"
    ++ s!", password={describeSecret r.password})"

/-- One page of the collection: logins, how many there are, and how many of those match. -/
structure LoginPage where
  logins : List Login
  total : Option Int
  filtered : Option Int
  deriving DecidableEq, Repr

/-! ## Matching -/

/-- Whether `s` holds `fragment` as a contiguous part. -/
def holdsPart (fragment : List Char) : List Char → Bool
  | [] => fragment.isEmpty
  | c :: s => fragment.isPrefixOf (c :: s) || holdsPart fragment s

/-- Whether the address of the login holds the fragment, regardless of case. -/
def Login.matchesFragment (l : Login) (fragment : String) : Bool :=
  holdsPart (Text.caseFold fragment.toList) (Text.caseFold l.url.toList)

end LoginVault
