import LoginVault.Named

/-!
# Environment — named settings

The environment gives texts to names. A setting that is empty counts as not given.
-/

namespace LoginVault

/-- The variables of the environment, each with its value. -/
abbrev Environment := Named String

/-- The value of a variable that is set and not empty. -/
def Environment.setting? (env : Environment) (name : String) : Option String :=
  (env.lookup name).filter (!·.isEmpty)

end LoginVault
