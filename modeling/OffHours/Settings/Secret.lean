import OffHours.Data.Reader
import OffHours.Settings.Override

/-!
# Secrets

The access token stands in a file of its own or in the environment, which goes before the file.
A blank token counts as none. Secrets are never shown.
-/

namespace OffHours

/-- A token that gives access to the management interface. -/
structure AccessToken where
  /-- The token itself. -/
  secret : String

/-- How a token is shown: always in the same way. -/
def AccessToken.shown (_ : AccessToken) : String := "AccessToken(***)"

/-- The content of a file with secrets. -/
structure Secrets where
  /-- The access token, if it is there. -/
  token : Option String := none

namespace Secrets

/-- The fields of the section with the token. -/
def sectionFields : FieldReader (Option String) := .nullable "access_token" Value.text?

/-- The fields of a file with secrets. -/
def fields : FieldReader Secrets := do
  let token ← .withDefault "azure" (fun value => value.record? sectionFields) none
  return { token }

/-- The secrets in a value. -/
def ofValue? (value : Value) : Option Secrets := value.record? fields

/-- How secrets are shown: whether there is a token, and nothing of it. -/
def shown (secrets : Secrets) : String :=
  let token := if secrets.token.isSome then "Some(\"***\")" else "None"
  "SecretsFile \x7b azure: AzureSecrets \x7b access_token: " ++ token ++ " \x7d \x7d"

/-- The token to use. -/
def accessToken? (secrets : Secrets) (environment : Environment) : Option String :=
  ((environment.filled? Environment.accessToken).or secrets.token).filter
    fun token => !Text.allBlank token

end Secrets

end OffHours
