/-
The administrative configuration of a realm: its mode, the identity checks on offer and the
accreditations that a check earns.  Every field may be unset.
-/
import RealmRegistry.Schema.Stored

namespace RealmRegistry

open Schema

/-- What a passed identity check earns. -/
structure Accreditation where
  kind : Option String
  condition : Option String
  validity : Option String
deriving DecidableEq

namespace Accreditation

/-- The fields of a stored accreditation. -/
def layout : Layout :=
  .cons "type" .optional .text <|
  .cons "condition" .optional .text <|
  .cons "validity" .optional .text <|
  .nil

instance instShaped : Shaped Accreditation where
  shape := .record "RealmAdminAccreditation" layout
  pack a := (a.kind, a.condition, a.validity, ())
  unpack := fun (a, b, c, ()) => ⟨a, b, c⟩
  unpack_pack _ := rfl
  pack_unpack _ := rfl

end Accreditation

/-- The administrative configuration of a realm. -/
structure AdminConfiguration where
  mode : Option String
  availableChecks : Option (Dict Bool)
  accreditations : Option (List Accreditation)
  selfRegister : Option Bool
  showGlnEditing : Option Bool
  videoIdentificationVoucher : Option Bool
  videoIdentificationAccountCreation : Option Bool
  videoIdentificationPrefix : Option Bool
  auxiliaryVideoIdentification : Option Bool
  onboardingStatus : Option Bool
  consentRequiredSocial : Option Bool
  consentRequiredCorporate : Option Bool
deriving DecidableEq

namespace AdminConfiguration

/-- The fields of a stored administrative configuration. -/
def layout : Layout :=
  .cons "mode" .optional .text <|
  .cons "available_checks" .optional (.dict .flag) <|
  .cons "accreditations" .optional (Shaped.shape (List Accreditation)) <|
  .cons "self_register_enabled" .optional .flag <|
  .cons "show_gln_editing" .optional .flag <|
  .cons "video_identification_voucher_enabled" .optional .flag <|
  .cons "video_identification_account_creation_enabled" .optional .flag <|
  .cons "video_identification_prefix_enabled" .optional .flag <|
  .cons "auxiliary_video_identification_enabled" .optional .flag <|
  .cons "onboarding_status_enabled" .optional .flag <|
  .cons "consent_required_social" .optional .flag <|
  .cons "consent_required_corporate" .optional .flag <|
  .nil

instance instShaped : Shaped AdminConfiguration where
  shape := .record "RealmAdminConfiguration" layout
  pack c :=
    (c.mode, c.availableChecks, c.accreditations.map Shaped.pack, c.selfRegister,
      c.showGlnEditing, c.videoIdentificationVoucher, c.videoIdentificationAccountCreation,
      c.videoIdentificationPrefix, c.auxiliaryVideoIdentification, c.onboardingStatus,
      c.consentRequiredSocial, c.consentRequiredCorporate, ())
  unpack := fun (a, b, c, d, e, f, g, h, i, j, k, l, ()) =>
    ⟨a, b, c.map Shaped.unpack, d, e, f, g, h, i, j, k, l⟩
  unpack_pack c := by simp [Function.comp_def, Shaped.unpack_pack]
  pack_unpack := fun (a, b, c, d, e, f, g, h, i, j, k, l, ()) => by
    simp [Function.comp_def, Shaped.pack_unpack]
    rfl

end AdminConfiguration

end RealmRegistry
