/-
Context keys: named settings between a customer realm and the realm that holds its identities.

The identifier of a key is chosen by the caller, is unique among all customers and stays the same
when the key changes.
-/
import RealmRegistry.Schema.Stored

namespace RealmRegistry

open Schema

/-- The settings of a context key, each of which may be unset. -/
structure ContextKeyConfiguration where
  identificationUri : Option String
  identificationClientId : Option String
  onboardingRedirectUri : Option String
  onboardingClientId : Option String
  redirectMode : Option Bool
  autoVoucher : Option Bool
deriving DecidableEq

namespace ContextKeyConfiguration

/-- The fields of stored settings. -/
def layout : Layout :=
  .cons "identification_uri" .optional .text <|
  .cons "identification_client_id" .optional .text <|
  .cons "onboarding_redirect_uri" .optional .text <|
  .cons "onboarding_client_id" .optional .text <|
  .cons "redirect_mode" .optional .flag <|
  .cons "auto_voucher" .optional .flag <|
  .nil

instance instShaped : Shaped ContextKeyConfiguration where
  shape := .record "ContextKeyConfiguration" layout
  pack c :=
    (c.identificationUri, c.identificationClientId, c.onboardingRedirectUri,
      c.onboardingClientId, c.redirectMode, c.autoVoucher, ())
  unpack := fun (a, b, c, d, e, f, ()) => ⟨a, b, c, d, e, f⟩
  unpack_pack _ := rfl
  pack_unpack _ := rfl

end ContextKeyConfiguration

/-- A context key. -/
structure ContextKey where
  id : String
  label : String
  identitiesRealm : String
  customerRealm : String
  config : ContextKeyConfiguration
deriving DecidableEq

namespace ContextKey

/-- The fields of a context key; one without settings has none of them set. -/
def layout : Layout :=
  .cons "id" .required .text <|
  .cons "label" .required .text <|
  .cons "identities_realm" .required .text <|
  .cons "customer_realm" .required .text <|
  .cons "config" (.defaulted .bare true) (Shaped.shape ContextKeyConfiguration) <|
  .nil

instance instShaped : Shaped ContextKey where
  shape := .record "RealmContextKey" layout
  pack k := (k.id, k.label, k.identitiesRealm, k.customerRealm, Shaped.pack k.config, ())
  unpack := fun (a, b, c, d, e, ()) => ⟨a, b, c, d, Shaped.unpack e⟩
  unpack_pack _ := rfl
  pack_unpack _ := rfl

end ContextKey

end RealmRegistry
