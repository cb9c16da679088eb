/-
The standard catalog: the actions of the services in use.
-/
import RealmRegistry.Access.Catalog

namespace RealmRegistry.Access.Catalog

/-- The actions of one API, each with its reach. -/
def block (service : Service) (api : Api) (entries : List (String × Reach)) : List Action :=
  entries.map fun (name, reach) => ⟨service, api, name, reach⟩

/-- The actions of the bridge. -/
def bridgeActions : List Action :=
  block .bridge .communication
    [("COM_SendEmail", .realm), ("COM_SendSMS", .realm)] ++
  block .bridge .events
    [("EV_GetActions", .global), ("EV_GetEvents", .realm), ("EV_GetEventsSummary", .realm),
     ("EV_GetUserEvents", .group)] ++
  block .bridge .kyc
    [("KYC_GetActions", .global), ("KYC_GetUserInSocialRealm", .realm), ("KYC_GetUser", .group),
     ("KYC_GetUserByUsernameInSocialRealm", .realm), ("KYC_GetUserByUsername", .group),
     ("KYC_ValidateUserInSocialRealm", .realm), ("KYC_ValidateUser", .group),
     ("KYC_SendSmsConsentCodeInSocialRealm", .realm), ("KYC_SendSmsConsentCode", .group),
     ("KYC_SendSmsCodeInSocialRealm", .realm), ("KYC_SendSmsCode", .group),
     ("KYC_ValidateUserBasicID", .realm)] ++
  block .bridge .management
    [("MGMT_GetActions", .global), ("MGMT_GetRealms", .global), ("MGMT_GetRealm", .realm),
     ("MGMT_GetClient", .realm), ("MGMT_GetClients", .realm),
     ("MGMT_GetRequiredActions", .realm), ("MGMT_DeleteUser", .group), ("MGMT_GetUser", .group),
     ("MGMT_UpdateUser", .group), ("MGMT_LockUser", .group), ("MGMT_UnlockUser", .group),
     ("MGMT_GetUsers", .group), ("MGMT_CreateUser", .group),
     ("MGMT_CreateUserInSocialRealm", .realm), ("MGMT_GetUserChecks", .group),
     ("MGMT_GetUserAccountStatus", .group), ("MGMT_GetUserAccountStatusByEmail", .realm),
     ("MGMT_GetRolesOfUser", .group), ("MGMT_AddRoleToUser", .group),
     ("MGMT_DeleteRoleForUser", .group), ("MGMT_GetGroupsOfUser", .group),
     ("MGMT_SetGroupsToUser", .group), ("MGMT_AssignableGroupsToUser", .group),
     ("MGMT_GetAvailableTrustIDGroups", .realm), ("MGMT_GetTrustIDGroups", .group),
     ("MGMT_SetTrustIDGroups", .group), ("MGMT_GetClientRolesForUser", .group),
     ("MGMT_AddClientRolesToUser", .group), ("MGMT_DeleteClientRolesFromUser", .group),
     ("MGMT_ResetPassword", .group), ("MGMT_ExecuteActionsEmail", .group),
     ("ACCR_RevokeAccreditations", .group), ("MGMT_SendSmsCode", .group),
     ("MGMT_SendOnboardingEmail", .group), ("MGMT_SendOnboardingEmailInSocialRealm", .realm),
     ("MGMT_SendReminderEmail", .group), ("MGMT_ResetSmsCounter", .group),
     ("MGMT_CreateRecoveryCode", .group), ("MGMT_CreateActivationCode", .group),
     ("MGMT_GetCredentialsForUser", .group), ("MGMT_DeleteCredentialsForUser", .group),
     ("MGMT_ResetCredentialFailuresForUser", .group), ("MGMT_ClearUserLoginFailures", .group),
     ("MGMT_GetAttackDetectionStatus", .group), ("MGMT_GetRoles", .realm),
     ("MGMT_GetRole", .realm), ("MGMT_CreateRole", .realm), ("MGMT_UpdateRole", .realm),
     ("MGMT_DeleteRole", .realm), ("MGMT_GetGroups", .realm),
     ("MGMT_IncludedInGetGroups", .group), ("MGMT_CreateGroup", .realm),
     ("MGMT_DeleteGroup", .group), ("MGMT_GetAuthorizations", .group),
     ("MGMT_UpdateAuthorizations", .group), ("MGMT_AddAuthorization", .group),
     ("MGMT_GetAuthorization", .group), ("MGMT_DeleteAuthorization", .group),
     ("MGMT_GetClientRoles", .realm), ("MGMT_CreateClientRole", .realm),
     ("MGMT_DeleteClientRole", .realm), ("MGMT_GetRealmCustomConfiguration", .realm),
     ("MGMT_UpdateRealmCustomConfiguration", .realm),
     ("MGMT_GetRealmAdminConfiguration", .realm), ("MGMT_UpdateRealmAdminConfiguration", .realm),
     ("MGMT_GetRealmBackOfficeConfiguration", .group),
     ("MGMT_UpdateRealmBackOfficeConfiguration", .group),
     ("MGMT_GetUserRealmBackOfficeConfiguration", .realm),
     ("MGMT_GetFederatedIdentities", .group), ("MGMT_LinkShadowUser", .group),
     ("MGMT_GetIdentityProviders", .realm)] ++
  block .bridge .statistic
    [("ST_GetActions", .global), ("ST_GetStatistics", .realm),
     ("ST_GetStatisticsIdentifications", .realm), ("ST_GetStatisticsUsers", .realm),
     ("ST_GetStatisticsAuthenticators", .realm), ("ST_GetStatisticsAuthentications", .realm),
     ("ST_GetStatisticsAuthenticationsLog", .realm), ("ST_GetMigrationReport", .realm)] ++
  block .bridge .task
    [("TSK_DeleteDeniedToUUsers", .global)]

/-- The actions of online identification. -/
def idnowActions : List Action :=
  block .idnow .idnow
    [("IDN_GetActions", .global), ("IDN_Init", .group), ("IDN_AutoIdentInit", .group)]

/-- The actions of paper cards. -/
def paperCardActions : List Action :=
  block .paperCard .cards
    [("PC_GetActions", .global), ("PC_GetConfigurationRealm", .realm),
     ("PC_SetConfigurationRealm", .realm), ("PC_GetConfigurationSelf", .realm),
     ("PC_SetConfigurationSelf", .realm), ("PC_GetConfigurationBatch", .realm),
     ("PC_SetConfigurationBatch", .realm), ("PC_Preview", .realm), ("PC_CreateBatch", .realm),
     ("PC_GetBatches", .realm), ("PC_GetBatch", .realm), ("PC_DeleteBatch", .realm),
     ("PC_ActivateBatch", .realm), ("PC_BlockBatch", .realm), ("PC_DownloadBatch", .realm)]

/-- The actions of the scheduler. -/
def schedulerActions : List Action :=
  block .scheduler .scheduler
    [("SDLR_GetActions", .global), ("SDLR_GetTasks", .global), ("SDLR_AddTasks", .global),
     ("SDLR_DeleteTask", .global)]

/-- The actions of signatures. -/
def signatureActions : List Action :=
  block .signature .signature
    [("SIG_GetActions", .global), ("SIG_SignDocuments", .realm),
     ("SIG_SignDocuments_CH_QES", .realm), ("SIG_SignDocuments_EU_AES", .realm),
     ("SIG_SignDocuments_EU_QES", .realm)]

/-- The actions of vouchers. -/
def voucherActions : List Action :=
  block .voucher .management
    [("VOU_GetActions", .global), ("VOU_GetBatches", .realm), ("VOU_CreateBatch", .realm),
     ("VOU_GetBatch", .realm), ("VOU_RevokeBatch", .realm), ("VOU_DownloadBatch", .realm),
     ("VOU_GetVoucher", .realm), ("VOU_GetConfiguration", .realm),
     ("VOU_UpdateConfiguration", .realm), ("VOU_GetAbuseCounter", .group),
     ("VOU_ResetAbuseCounter", .group)]

/-- The actions of accreditations. -/
def accreditationActions : List Action :=
  block .accreditation .management
    [("ACCR_GetActions", .global), ("ACCR_GetAllAccreditations", .global),
     ("ACCR_GetEnabledAccreditations", .realm), ("ACCR_GetAccreditation", .realm),
     ("ACCR_EnableAccreditation", .realm), ("ACCR_DisableAccreditation", .realm),
     ("ACCR_ConfigureAccreditation", .realm), ("ACCR_GetAccreditationGroups", .group),
     ("ACCR_EnableAccreditationForGroup", .group), ("ACCR_DisableAccreditationForGroup", .group)]

/-- The catalog of all services. -/
def standard : Catalog :=
  .ofList <|
    bridgeActions ++ idnowActions ++ paperCardActions ++ schedulerActions ++
      signatureActions ++ voucherActions ++ accreditationActions

end RealmRegistry.Access.Catalog
