import Fms.Framework.Decoding
import Fms.Security.Objects

/-! The record type of a validated token, and a token that is validated again into the same target. -/

namespace Fms

/-- The fields of `AclTemplate`, as its `from_json` reads them. -/
def AclTemplate.fields (poco : Poco) : Fields AclTemplate :=
  .field "Read" { get := AclTemplate.read, set := fun v acl => { acl with read := v } } (.bool poco) <|
  .field "ReadWrite"
    { get := AclTemplate.readWrite, set := fun v acl => { acl with readWrite := v } } (.bool poco) <|
  .field "ReadWriteCreate"
    { get := AclTemplate.readWriteCreate, set := fun v acl => { acl with readWriteCreate := v } }
    (.bool poco) <|
  .field "Delete" { get := AclTemplate.delete, set := fun v acl => { acl with delete := v } } (.bool poco) <|
  .field "PortalLogin"
    { get := AclTemplate.portalLogin, set := fun v acl => { acl with portalLogin := v } } (.bool poco) <|
  .nil

/-- The fields of `WebToken`, as its `from_json` reads them. -/
def WebToken.fields (poco : Poco) : Fields WebToken :=
  .object "aclTemplate"
    { get := WebToken.aclTemplate, set := fun v token => { token with aclTemplate := v } }
    (AclTemplate.fields poco) <|
  .field "access_token"
    { get := WebToken.accessToken, set := fun v token => { token with accessToken := v } } (.string poco) <|
  .field "refresh_token"
    { get := WebToken.refreshToken, set := fun v token => { token with refreshToken := v } } (.string poco) <|
  .field "token_type"
    { get := WebToken.tokenType, set := fun v token => { token with tokenType := v } } (.string poco) <|
  .field "expires_in"
    { get := WebToken.expiresIn, set := fun v token => { token with expiresIn := v } } (.uint64 poco) <|
  .field "idle_timeout"
    { get := WebToken.idleTimeout, set := fun v token => { token with idleTimeout := v } } (.uint64 poco) <|
  .field "created"
    { get := WebToken.created, set := fun v token => { token with created := v } } (.uint64 poco) <|
  .field "username"
    { get := WebToken.username, set := fun v token => { token with username := v } } (.string poco) <|
  .field "userMustChangePassword"
    { get := WebToken.userMustChangePassword, set := fun v token => { token with userMustChangePassword := v } }
    (.bool poco) <|
  .field "lastRefresh"
    { get := WebToken.lastRefresh, set := fun v token => { token with lastRefresh := v } } (.uint64 poco) <|
  .nil

/-- The fields of `MfaAuthInfo`, as its `from_json` reads them. -/
def MfaAuthInfo.fields (poco : Poco) : Fields MfaAuthInfo :=
  .field "enabled" { get := MfaAuthInfo.enabled, set := fun v mfa => { mfa with enabled := v } } (.bool poco) <|
  .field "method" { get := MfaAuthInfo.method, set := fun v mfa => { mfa with method := v } } (.string poco) <|
  .nil

/-- The fields of `UserLoginLoginExtensions`, as its `from_json` reads them. -/
def UserLoginLoginExtensions.fields (poco : Poco) : Fields UserLoginLoginExtensions :=
  .field "mobiles"
    { get := UserLoginLoginExtensions.mobiles, set := fun v extensions => { extensions with mobiles := v } }
    (.vector {} (MobilePhoneNumber.fromJson poco)) <|
  .object "mfa"
    { get := UserLoginLoginExtensions.mfa, set := fun v extensions => { extensions with mfa := v } }
    (MfaAuthInfo.fields poco) <|
  .field "authenticatorSecret"
    { get := UserLoginLoginExtensions.authenticatorSecret
      set := fun v extensions => { extensions with authenticatorSecret := v } }
    (.string poco) <|
  .nil

/-- The fields of `UserInfo`, as its `from_json` reads them. -/
def UserInfo.fields (poco : Poco) : Fields UserInfo :=
  .field "id" { get := UserInfo.id, set := fun v user => { user with id := v } } (.string poco) <|
  .field "name" { get := UserInfo.name, set := fun v user => { user with name := v } } (.string poco) <|
  .field "description"
    { get := UserInfo.description, set := fun v user => { user with description := v } } (.string poco) <|
  .field "avatar" { get := UserInfo.avatar, set := fun v user => { user with avatar := v } } (.string poco) <|
  .field "email" { get := UserInfo.email, set := fun v user => { user with email := v } } (.string poco) <|
  .field "validationEmail"
    { get := UserInfo.validationEmail, set := fun v user => { user with validationEmail := v } }
    (.string poco) <|
  .field "validationURI"
    { get := UserInfo.validationURI, set := fun v user => { user with validationURI := v } } (.string poco) <|
  .field "currentLoginURI"
    { get := UserInfo.currentLoginURI, set := fun v user => { user with currentLoginURI := v } }
    (.string poco) <|
  .field "locale" { get := UserInfo.locale, set := fun v user => { user with locale := v } } (.string poco) <|
  .field "notes"
    { get := UserInfo.notes, set := fun v user => { user with notes := v } }
    (.vector {} (NoteInfo.fromJson poco)) <|
  .field "location"
    { get := UserInfo.location, set := fun v user => { user with location := v } } (.string poco) <|
  .field "owner" { get := UserInfo.owner, set := fun v user => { user with owner := v } } (.string poco) <|
  .field "userRole"
    { get := UserInfo.userRole, set := fun v user => { user with userRole := v } }
    (.enumeration poco UserRole.ofString) <|
  .field "securityPolicy"
    { get := UserInfo.securityPolicy, set := fun v user => { user with securityPolicy := v } } (.string poco) <|
  .object "userTypeProprietaryInfo"
    { get := UserInfo.userTypeProprietaryInfo, set := fun v user => { user with userTypeProprietaryInfo := v } }
    (UserLoginLoginExtensions.fields poco) <|
  .field "validationDate"
    { get := UserInfo.validationDate, set := fun v user => { user with validationDate := v } } (.uint64 poco) <|
  .field "creationDate"
    { get := UserInfo.creationDate, set := fun v user => { user with creationDate := v } } (.uint64 poco) <|
  .field "lastLogin"
    { get := UserInfo.lastLogin, set := fun v user => { user with lastLogin := v } } (.uint64 poco) <|
  .field "lastPasswordChange"
    { get := UserInfo.lastPasswordChange, set := fun v user => { user with lastPasswordChange := v } }
    (.uint64 poco) <|
  .field "lastEmailCheck"
    { get := UserInfo.lastEmailCheck, set := fun v user => { user with lastEmailCheck := v } } (.uint64 poco) <|
  .field "securityPolicyChange"
    { get := UserInfo.securityPolicyChange, set := fun v user => { user with securityPolicyChange := v } }
    (.uint64 poco) <|
  .field "validated"
    { get := UserInfo.validated, set := fun v user => { user with validated := v } } (.bool poco) <|
  .field "changePassword"
    { get := UserInfo.changePassword, set := fun v user => { user with changePassword := v } } (.bool poco) <|
  .field "waitingForEmailCheck"
    { get := UserInfo.waitingForEmailCheck, set := fun v user => { user with waitingForEmailCheck := v } }
    (.bool poco) <|
  .field "suspended"
    { get := UserInfo.suspended, set := fun v user => { user with suspended := v } } (.bool poco) <|
  .field "blackListed"
    { get := UserInfo.blackListed, set := fun v user => { user with blackListed := v } } (.bool poco) <|
  .field "currentPassword"
    { get := UserInfo.currentPassword, set := fun v user => { user with currentPassword := v } }
    (.string poco) <|
  .field "lastPasswords"
    { get := UserInfo.lastPasswords, set := fun v user => { user with lastPasswords := v } }
    (.stringVec poco) <|
  .field "oauthType"
    { get := UserInfo.oauthType, set := fun v user => { user with oauthType := v } } (.string poco) <|
  .field "oauthUserInfo"
    { get := UserInfo.oauthUserInfo, set := fun v user => { user with oauthUserInfo := v } } (.string poco) <|
  .field "modified"
    { get := UserInfo.modified, set := fun v user => { user with modified := v } } (.uint64 poco) <|
  .field "signingUp"
    { get := UserInfo.signingUp, set := fun v user => { user with signingUp := v } } (.string poco) <|
  .nil

/-- The fields of `UserInfoAndPolicy`, as its `from_json` reads them. -/
def UserInfoAndPolicy.fields (poco : Poco) : Fields UserInfoAndPolicy :=
  .object "tokenInfo"
    { get := UserInfoAndPolicy.webtoken, set := fun v policy => { policy with webtoken := v } }
    (WebToken.fields poco) <|
  .object "userInfo"
    { get := UserInfoAndPolicy.userinfo, set := fun v policy => { policy with userinfo := v } }
    (UserInfo.fields poco) <|
  .nil

/-- The fields of a validated token are members of their own. -/
theorem UserInfoAndPolicy.distinct_fields (poco : Poco) : (UserInfoAndPolicy.fields poco).Distinct := by
  simp only [UserInfoAndPolicy.fields, WebToken.fields, AclTemplate.fields, UserInfo.fields,
    UserLoginLoginExtensions.fields, MfaAuthInfo.fields, Fields.Distinct, Fields.Spares]
  -- Members of one record can be written in any order.
  repeat' first
    | exact True.intro
    | exact fun _ _ _ => rfl
    | exact .inl fun _ _ _ => rfl
    | apply And.intro

/-- The record type of a validated token. -/
def UserInfoAndPolicy.recordType (poco : Poco) : RecordType UserInfoAndPolicy where
  fresh := {}
  fields := UserInfoAndPolicy.fields poco
  distinct := UserInfoAndPolicy.distinct_fields poco

/-- The steps of the record type are those of the record. -/
theorem UserInfoAndPolicy.fromJson_recordType (poco : Poco) :
    (UserInfoAndPolicy.recordType poco).fromJson = UserInfoAndPolicy.fromJson poco :=
  rfl

/-- An answer with one note leaves two of them in a target that is validated again. -/
theorem UserInfoAndPolicy.not_decodesOnce_notes :
    ¬ DecodesOnce (UserInfoAndPolicy.recordType (Poco.onDocuments []))
      [("userInfo", .object [("notes", .array [.object [("note", .string "new")]])])] := by
  -- The second decoding puts the note behind the first one.
  intro ⟨twice, _⟩
  have same := congrArg (fun policy => policy.userinfo.notes.length) (twice {})
  exact absurd same (by decide)

end Fms
