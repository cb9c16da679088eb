/-
The configuration of a realm.

Every field may be unset, which is not the same as false or empty.  Account editing took the place
of mail editing: a stored record may still have the old field, which counts only while the new
one is unset and is never written again.

* `RealmConfiguration.normalize` moves the old field to the new one;
* `RealmConfiguration.ofStored` reads a stored text that way.
-/
import RealmRegistry.Schema.Stored

namespace RealmRegistry

open Schema

/-- The configuration of a realm. -/
structure RealmConfiguration where
  defaultClientId : Option String
  defaultRedirectUri : Option String
  selfAuthenticatorDeletion : Option Bool
  selfPasswordChange : Option Bool
  /-- superseded by `selfAccountEditing` -/
  selfMailEditing : Option Bool
  selfAccountEditing : Option Bool
  selfAccountDeletion : Option Bool
  showAuthenticatorsTab : Option Bool
  showPasswordTab : Option Bool
  showProfileTab : Option Bool
  showMailEditing : Option Bool
  showAccountDeletionButton : Option Bool
  registerExecuteActions : Option (List String)
  redirectCancelledRegistrationUrl : Option String
  redirectSuccessfulRegistrationUrl : Option String
deriving DecidableEq

namespace RealmConfiguration

/-- The fields of a stored configuration. -/
def layout : Layout :=
  .cons "default_client_id" .optional .text <|
  .cons "default_redirect_uri" .optional .text <|
  .cons "api_self_authenticator_deletion_enabled" .optional .flag <|
  .cons "api_self_password_change_enabled" .optional .flag <|
  .cons "api_self_mail_editing_enabled" .retired .flag <|
  .cons "api_self_account_editing_enabled" .optional .flag <|
  .cons "api_self_account_deletion_enabled" .optional .flag <|
  .cons "show_authenticators_tab" .optional .flag <|
  .cons "show_password_tab" .optional .flag <|
  .cons "show_profile_tab" .optional .flag <|
  .cons "show_mail_editing" .optional .flag <|
  .cons "show_account_deletion_button" .optional .flag <|
  .cons "register_execute_actions" .optional (.list .text) <|
  .cons "redirect_cancelled_registration_url" .optional .text <|
  .cons "redirect_successful_registration_url" .optional .text <|
  .nil

instance instShaped : Shaped RealmConfiguration where
  shape := .record "RealmConfiguration" layout
  pack c :=
    (c.defaultClientId, c.defaultRedirectUri, c.selfAuthenticatorDeletion, c.selfPasswordChange,
      c.selfMailEditing, c.selfAccountEditing, c.selfAccountDeletion, c.showAuthenticatorsTab,
      c.showPasswordTab, c.showProfileTab, c.showMailEditing, c.showAccountDeletionButton,
      c.registerExecuteActions, c.redirectCancelledRegistrationUrl,
      c.redirectSuccessfulRegistrationUrl, ())
  unpack := fun (a, b, c, d, e, f, g, h, i, j, k, l, m, n, o, ()) =>
    ⟨a, b, c, d, e, f, g, h, i, j, k, l, m, n, o⟩
  unpack_pack _ := rfl
  pack_unpack _ := rfl

/-- Moves the old field to the new one unless the new one is set, and forgets it. -/
def normalize (c : RealmConfiguration) : RealmConfiguration :=
  { c with
    selfAccountEditing := c.selfAccountEditing.or c.selfMailEditing
    selfMailEditing := none }

/-- The configuration of a stored text. -/
def ofStored (text : String) : Except Complaint RealmConfiguration :=
  (decode RealmConfiguration text).map normalize

end RealmConfiguration

end RealmRegistry
