import Fms.Storage.Objects

/-! How tokens and users are written to JSON objects, and what a fresh object reads back. -/

namespace Fms

open FieldToJson

/-- `AclTemplate::to_json`. -/
def AclTemplate.toJson : AclTemplate → JsonObject := all [
  bool "Read" AclTemplate.read,
  bool "ReadWrite" AclTemplate.readWrite,
  bool "ReadWriteCreate" AclTemplate.readWriteCreate,
  bool "Delete" AclTemplate.delete,
  bool "PortalLogin" AclTemplate.portalLogin]

/-- `UserTypeToString`. -/
def UserRole.toString : UserRole → String
  | .root => "root"
  | .admin => "admin"
  | .subscriber => "subscriber"
  | .partner => "partner"
  | .csr => "csr"
  | .system => "system"
  | .installer => "installer"
  | .noc => "noc"
  | .accounting => "accounting"
  | .unknown => "unknown"

/-- The steps of `WebToken::to_json`, which sets the error code twice. -/
def WebToken.writers : List (FieldWriter WebToken) := [
  string "access_token" WebToken.accessToken,
  string "refresh_token" WebToken.refreshToken,
  string "token_type" WebToken.tokenType,
  uint64 "expires_in" WebToken.expiresIn,
  uint64 "idle_timeout" WebToken.idleTimeout,
  uint64 "created" WebToken.created,
  string "username" WebToken.username,
  bool "userMustChangePassword" WebToken.userMustChangePassword,
  uint64 "errorCode" WebToken.errorCode,
  object "aclTemplate" AclTemplate.toJson WebToken.aclTemplate,
  uint64 "errorCode" WebToken.errorCode,
  uint64 "lastRefresh" WebToken.lastRefresh]

/-- The steps whose members `WebToken::from_json` reads, in its order. -/
def WebToken.taken : List (FieldWriter WebToken) := [
  object "aclTemplate" AclTemplate.toJson WebToken.aclTemplate,
  string "access_token" WebToken.accessToken,
  string "refresh_token" WebToken.refreshToken,
  string "token_type" WebToken.tokenType,
  uint64 "expires_in" WebToken.expiresIn,
  uint64 "idle_timeout" WebToken.idleTimeout,
  uint64 "created" WebToken.created,
  string "username" WebToken.username,
  bool "userMustChangePassword" WebToken.userMustChangePassword,
  uint64 "lastRefresh" WebToken.lastRefresh]

/-- `WebToken::to_json`. -/
def WebToken.toJson : WebToken → JsonObject := all WebToken.writers

/-- `MobilePhoneNumber::to_json`. -/
def MobilePhoneNumber.toJson : MobilePhoneNumber → JsonObject := all [
  string "number" MobilePhoneNumber.number,
  bool "verified" MobilePhoneNumber.verified,
  bool "primary" MobilePhoneNumber.primary]

/-- `MfaAuthInfo::to_json`. -/
def MfaAuthInfo.toJson : MfaAuthInfo → JsonObject := all [
  bool "enabled" MfaAuthInfo.enabled,
  string "method" MfaAuthInfo.method]

/-- `UserLoginLoginExtensions::to_json`. -/
def UserLoginLoginExtensions.toJson : UserLoginLoginExtensions → JsonObject := all [
  vector "mobiles" MobilePhoneNumber.toJson UserLoginLoginExtensions.mobiles,
  object "mfa" MfaAuthInfo.toJson UserLoginLoginExtensions.mfa,
  string "authenticatorSecret" UserLoginLoginExtensions.authenticatorSecret]

/-- The steps of `UserInfo::to_json`. -/
def UserInfo.writers : List (FieldWriter UserInfo) := [
  string "id" UserInfo.id,
  string "name" UserInfo.name,
  string "description" UserInfo.description,
  string "avatar" UserInfo.avatar,
  string "email" UserInfo.email,
  bool "validated" UserInfo.validated,
  string "validationEmail" UserInfo.validationEmail,
  uint64 "validationDate" UserInfo.validationDate,
  uint64 "creationDate" UserInfo.creationDate,
  string "validationURI" UserInfo.validationURI,
  bool "changePassword" UserInfo.changePassword,
  uint64 "lastLogin" UserInfo.lastLogin,
  string "currentLoginURI" UserInfo.currentLoginURI,
  uint64 "lastPasswordChange" UserInfo.lastPasswordChange,
  uint64 "lastEmailCheck" UserInfo.lastEmailCheck,
  bool "waitingForEmailCheck" UserInfo.waitingForEmailCheck,
  string "locale" UserInfo.locale,
  vector "notes" NoteInfo.toJson UserInfo.notes,
  string "location" UserInfo.location,
  string "owner" UserInfo.owner,
  bool "suspended" UserInfo.suspended,
  bool "blackListed" UserInfo.blackListed,
  enumeration "userRole" UserRole.toString UserInfo.userRole,
  object "userTypeProprietaryInfo" UserLoginLoginExtensions.toJson UserInfo.userTypeProprietaryInfo,
  string "securityPolicy" UserInfo.securityPolicy,
  uint64 "securityPolicyChange" UserInfo.securityPolicyChange,
  string "currentPassword" UserInfo.currentPassword,
  stringVec "lastPasswords" UserInfo.lastPasswords,
  string "oauthType" UserInfo.oauthType,
  string "oauthUserInfo" UserInfo.oauthUserInfo,
  uint64 "modified" UserInfo.modified,
  string "signingUp" UserInfo.signingUp]

/-- The same steps in the order in which `UserInfo::from_json` reads their members. -/
def UserInfo.taken : List (FieldWriter UserInfo) := [
  string "id" UserInfo.id,
  string "name" UserInfo.name,
  string "description" UserInfo.description,
  string "avatar" UserInfo.avatar,
  string "email" UserInfo.email,
  string "validationEmail" UserInfo.validationEmail,
  string "validationURI" UserInfo.validationURI,
  string "currentLoginURI" UserInfo.currentLoginURI,
  string "locale" UserInfo.locale,
  vector "notes" NoteInfo.toJson UserInfo.notes,
  string "location" UserInfo.location,
  string "owner" UserInfo.owner,
  enumeration "userRole" UserRole.toString UserInfo.userRole,
  string "securityPolicy" UserInfo.securityPolicy,
  object "userTypeProprietaryInfo" UserLoginLoginExtensions.toJson UserInfo.userTypeProprietaryInfo,
  uint64 "validationDate" UserInfo.validationDate,
  uint64 "creationDate" UserInfo.creationDate,
  uint64 "lastLogin" UserInfo.lastLogin,
  uint64 "lastPasswordChange" UserInfo.lastPasswordChange,
  uint64 "lastEmailCheck" UserInfo.lastEmailCheck,
  uint64 "securityPolicyChange" UserInfo.securityPolicyChange,
  bool "validated" UserInfo.validated,
  bool "changePassword" UserInfo.changePassword,
  bool "waitingForEmailCheck" UserInfo.waitingForEmailCheck,
  bool "suspended" UserInfo.suspended,
  bool "blackListed" UserInfo.blackListed,
  string "currentPassword" UserInfo.currentPassword,
  stringVec "lastPasswords" UserInfo.lastPasswords,
  string "oauthType" UserInfo.oauthType,
  string "oauthUserInfo" UserInfo.oauthUserInfo,
  uint64 "modified" UserInfo.modified,
  string "signingUp" UserInfo.signingUp]

/-- `UserInfo::to_json`. -/
def UserInfo.toJson : UserInfo → JsonObject := all UserInfo.writers

/-- `UserInfoAndPolicy::to_json`. -/
def UserInfoAndPolicy.toJson : UserInfoAndPolicy → JsonObject := all [
  object "tokenInfo" WebToken.toJson UserInfoAndPolicy.webtoken,
  object "userInfo" UserInfo.toJson UserInfoAndPolicy.userinfo]

/-- A fresh object, with whatever the two members hold that have no initial value. -/
def UserInfoAndPolicy.fresh (userRole : UserRole) (modified : UInt64) : UserInfoAndPolicy :=
  { userinfo := { userRole, modified } }

/-- A value is read back into a fresh object from the document it is written to. -/
def UserInfoAndPolicy.RoundTrips (poco : Poco) (policy : UserInfoAndPolicy) : Prop :=
  ∀ userRole modified,
    (UserInfoAndPolicy.fromJson poco policy.toJson (UserInfoAndPolicy.fresh userRole modified)).2 = policy

/-- The name of every role is read as that role; that of the unknown role is no name, and read as it. -/
theorem UserRole.ofString_toString (role : UserRole) : UserRole.ofString role.toString = role := by
  cases role <;> decide

section

variable {poco : Poco} (converts : poco.Converts)

include converts

/-- The flags are read back from their object, whatever was there before. -/
theorem AclTemplate.fromJson_toJson (acl start : AclTemplate) :
    AclTemplate.fromJson poco acl.toJson start = (true, acl) := by
  apply restored_all (by decide)
  exact .cons (restores_bool converts) <| .cons (restores_bool converts) <| .cons (restores_bool converts) <|
    .cons (restores_bool converts) <| .cons (restores_bool converts) <| .nil _

/-- A phone number is read back from its object, whatever was there before. -/
theorem MobilePhoneNumber.fromJson_toJson (mobile start : MobilePhoneNumber) :
    MobilePhoneNumber.fromJson poco mobile.toJson start = (true, mobile) := by
  apply restored_all (by decide)
  exact .cons (restores_string converts) <| .cons (restores_bool converts) <|
    .cons (restores_bool converts) <| .nil _

/-- The second factor is read back from its object, whatever was there before. -/
theorem MfaAuthInfo.fromJson_toJson (mfa start : MfaAuthInfo) :
    MfaAuthInfo.fromJson poco mfa.toJson start = (true, mfa) := by
  apply restored_all (by decide)
  exact .cons (restores_bool converts) <| .cons (restores_string converts) <| .nil _

/-- The login extensions are read back from their object, the phone numbers behind those that were there before. -/
theorem UserLoginLoginExtensions.fromJson_toJson (extensions start : UserLoginLoginExtensions) :
    UserLoginLoginExtensions.fromJson poco extensions.toJson start =
      (true, { extensions with mobiles := start.mobiles ++ extensions.mobiles }) := by
  -- Only the vector looks at what was there before.
  apply restored_all (by decide)
  exact .cons (restores_vector fun mobile => MobilePhoneNumber.fromJson_toJson converts mobile {}) <|
    .cons (restores_object (MfaAuthInfo.fromJson_toJson converts _ _)) <|
    .cons (restores_string converts) <| .nil _

/-- A token is read back from its object, except for the two members that are not read. -/
theorem WebToken.fromJson_toJson (token start : WebToken) :
    WebToken.fromJson poco token.toJson start =
      (true, { token with idToken := start.idToken, errorCode := start.errorCode }) := by
  -- The error code is set twice, and the readers do not ask for it.
  refine @restored_of_once WebToken token WebToken.writers WebToken.taken _ start _ ?_ ?_ (by decide)
  · exact .cons (restores_object (AclTemplate.fromJson_toJson converts _ _)) <|
      .cons (restores_string converts) <| .cons (restores_string converts) <| .cons (restores_string converts) <|
      .cons (restores_uint64 converts) <| .cons (restores_uint64 converts) <| .cons (restores_uint64 converts) <|
      .cons (restores_string converts) <| .cons (restores_bool converts) <| .cons (restores_uint64 converts) <|
      .nil _
  · simp [WebToken.taken, WebToken.writers]

/-- A user is read back from its object, the lists of records behind those that were there before. -/
theorem UserInfo.fromJson_toJson (user start : UserInfo) :
    UserInfo.fromJson poco user.toJson start =
      (true, { user with
        notes := start.notes ++ user.notes
        userTypeProprietaryInfo := { user.userTypeProprietaryInfo with
          mobiles := start.userTypeProprietaryInfo.mobiles ++ user.userTypeProprietaryInfo.mobiles } }) := by
  -- The reader takes the members in another order than the writer.
  refine @restored_of_once UserInfo user UserInfo.writers UserInfo.taken _ start _ ?_ ?_ (by decide)
  · exact
      .cons (restores_string converts) <| .cons (restores_string converts) <|
      .cons (restores_string converts) <| .cons (restores_string converts) <|
      .cons (restores_string converts) <| .cons (restores_string converts) <|
      .cons (restores_string converts) <| .cons (restores_string converts) <|
      .cons (restores_string converts) <|
      .cons (restores_vector fun note => NoteInfo.fromJson_toJson converts note {}) <|
      .cons (restores_string converts) <| .cons (restores_string converts) <|
      .cons (restores_enumeration converts UserRole.ofString_toString) <| .cons (restores_string converts) <|
      .cons (restores_object (UserLoginLoginExtensions.fromJson_toJson converts _ _)) <|
      .cons (restores_uint64 converts) <| .cons (restores_uint64 converts) <|
      .cons (restores_uint64 converts) <| .cons (restores_uint64 converts) <|
      .cons (restores_uint64 converts) <| .cons (restores_uint64 converts) <| .cons (restores_bool converts) <|
      .cons (restores_bool converts) <| .cons (restores_bool converts) <| .cons (restores_bool converts) <|
      .cons (restores_bool converts) <| .cons (restores_string converts) <|
      .cons (restores_stringVec converts) <| .cons (restores_string converts) <|
      .cons (restores_string converts) <| .cons (restores_uint64 converts) <|
      .cons (restores_string converts) <| .nil _
  · simp [UserInfo.taken, UserInfo.writers]

/-- A validated token is read into any target, the lists of records behind those that were there before. -/
theorem UserInfoAndPolicy.fromJson_toJson (policy start : UserInfoAndPolicy) :
    UserInfoAndPolicy.fromJson poco policy.toJson start =
      (true, {
        webtoken := { policy.webtoken with
          idToken := start.webtoken.idToken
          errorCode := start.webtoken.errorCode }
        userinfo := { policy.userinfo with
          notes := start.userinfo.notes ++ policy.userinfo.notes
          userTypeProprietaryInfo := { policy.userinfo.userTypeProprietaryInfo with
            mobiles := start.userinfo.userTypeProprietaryInfo.mobiles ++
              policy.userinfo.userTypeProprietaryInfo.mobiles } } }) := by
  -- Both records are nested, and each is read as its own lemma says.
  apply restored_all (by decide)
  exact .cons (restores_object (WebToken.fromJson_toJson converts _ _)) <|
    .cons (restores_object (UserInfo.fromJson_toJson converts _ _)) <| .nil _

/--
Every member of a user and its token is read back into a fresh object, except for the identity token, which no
document holds, and for the error code.
-/
theorem UserInfoAndPolicy.fromJson_fresh (policy : UserInfoAndPolicy) (userRole : UserRole) (modified : UInt64) :
    ∃ errorCode,
      UserInfoAndPolicy.fromJson poco policy.toJson (UserInfoAndPolicy.fresh userRole modified) =
        (true, { policy with webtoken := { policy.webtoken with idToken := "", errorCode } }) :=
  -- The lists of records are empty in a fresh object, so that those of the document are all of them.
  ⟨0, UserInfoAndPolicy.fromJson_toJson converts policy (UserInfoAndPolicy.fresh userRole modified)⟩

end

/-- A partner with two telephone numbers and a note. -/
theorem UserInfoAndPolicy.fromJson_fresh_partner :
    ∃ errorCode,
      UserInfoAndPolicy.fromJson (Poco.onDocuments [])
          (UserInfoAndPolicy.toJson { userinfo := {
            name := "Ada", notes := [{ note := "new" }], userRole := .partner
            userTypeProprietaryInfo := {
              mobiles := [{ number := "1" }, { number := "2", verified := true }] } } })
          (UserInfoAndPolicy.fresh .unknown 7) =
        (true, { webtoken := { errorCode }, userinfo := {
            name := "Ada", notes := [{ note := "new" }], userRole := .partner
            userTypeProprietaryInfo := {
              mobiles := [{ number := "1" }, { number := "2", verified := true }] } } }) :=
  UserInfoAndPolicy.fromJson_fresh (Poco.converts_onDocuments []) _ .unknown 7

/-- Neither the identity token nor the error code of a token is read back. -/
theorem UserInfoAndPolicy.not_roundTrips :
    ¬ UserInfoAndPolicy.RoundTrips (Poco.onDocuments []) { webtoken := { idToken := "token" } } ∧
      ¬ UserInfoAndPolicy.RoundTrips (Poco.onDocuments []) { webtoken := { errorCode := 1 } } := by
  -- Comparing one member is enough to tell the two values apart.
  refine ⟨fun carried => ?_, fun carried => ?_⟩
  · have same := congrArg (fun policy => policy.webtoken.idToken) (carried .unknown 0)
    exact absurd same (by decide)
  · have same := congrArg (fun policy => policy.webtoken.errorCode) (carried .unknown 0)
    exact absurd same (by decide)

end Fms
