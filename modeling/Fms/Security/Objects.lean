import Fms.Framework.FieldFromJson
import Fms.Storage.Records

/-! `SecurityObjects`: tokens, users and how the security service writes them. -/

namespace Fms

/-- `SecurityObjects::AclTemplate`. -/
structure AclTemplate where
  read : Bool := true
  readWrite : Bool := true
  readWriteCreate : Bool := true
  delete : Bool := true
  portalLogin : Bool := true
  deriving DecidableEq, Repr

/-- `SecurityObjects::WebToken`. -/
structure WebToken where
  accessToken : String := ""
  refreshToken : String := ""
  idToken : String := ""
  tokenType : String := ""
  username : String := ""
  userMustChangePassword : Bool := false
  errorCode : UInt64 := 0
  expiresIn : UInt64 := 0
  idleTimeout : UInt64 := 0
  aclTemplate : AclTemplate := {}
  created : UInt64 := 0
  lastRefresh : UInt64 := 0
  deriving DecidableEq, Repr

/-- `SecurityObjects::USER_ROLE`. -/
inductive UserRole where
  | unknown | root | admin | subscriber | csr | system | installer | noc | accounting | partner
  deriving DecidableEq, Repr

/-- `SecurityObjects::MobilePhoneNumber`. -/
structure MobilePhoneNumber where
  number : String := ""
  verified : Bool := false
  primary : Bool := false
  deriving DecidableEq, Repr

/-- `SecurityObjects::MfaAuthInfo`. -/
structure MfaAuthInfo where
  enabled : Bool := false
  method : String := ""
  deriving DecidableEq, Repr

/-- `SecurityObjects::UserLoginLoginExtensions`. -/
structure UserLoginLoginExtensions where
  mobiles : List MobilePhoneNumber := []
  mfa : MfaAuthInfo := {}
  authenticatorSecret : String := ""
  deriving DecidableEq, Repr

/-- `SecurityObjects::UserInfo`; the source gives `userRole` and `modified` no initial value. -/
structure UserInfo where
  id : String := ""
  name : String := ""
  description : String := ""
  avatar : String := ""
  email : String := ""
  validated : Bool := false
  validationEmail : String := ""
  validationDate : UInt64 := 0
  creationDate : UInt64 := 0
  validationURI : String := ""
  changePassword : Bool := false
  lastLogin : UInt64 := 0
  currentLoginURI : String := ""
  lastPasswordChange : UInt64 := 0
  lastEmailCheck : UInt64 := 0
  waitingForEmailCheck : Bool := false
  locale : String := ""
  notes : List NoteInfo := []
  location : String := ""
  owner : String := ""
  suspended : Bool := false
  blackListed : Bool := false
  userRole : UserRole := .unknown
  userTypeProprietaryInfo : UserLoginLoginExtensions := {}
  securityPolicy : String := ""
  securityPolicyChange : UInt64 := 0
  currentPassword : String := ""
  lastPasswords : List String := []
  oauthType : String := ""
  oauthUserInfo : String := ""
  modified : UInt64 := 0
  signingUp : String := ""
  deriving DecidableEq, Repr

/-- `SecurityObjects::UserInfoAndPolicy`. -/
structure UserInfoAndPolicy where
  webtoken : WebToken := {}
  userinfo : UserInfo := {}
  deriving DecidableEq, Repr

/-- `Poco::icompare` finds two ASCII texts equal. -/
def sameIgnoringCase (left right : String) : Bool :=
  left.toList.map Char.toLower = right.toList.map Char.toLower

/-- `UserTypeFromString`. -/
def UserRole.ofString (u : String) : UserRole :=
  if sameIgnoringCase u "root" then .root
  else if sameIgnoringCase u "admin" then .admin
  else if sameIgnoringCase u "subscriber" then .subscriber
  else if sameIgnoringCase u "partner" then .partner
  else if sameIgnoringCase u "csr" then .csr
  else if sameIgnoringCase u "system" then .system
  else if sameIgnoringCase u "installer" then .installer
  else if sameIgnoringCase u "noc" then .noc
  else if sameIgnoringCase u "accounting" then .accounting
  else .unknown

open FieldFromJson

/-- `AclTemplate::from_json`. -/
def AclTemplate.fromJson (poco : Poco) : FieldReader AclTemplate := all [
  bool poco "Read" fun v acl => { acl with read := v },
  bool poco "ReadWrite" fun v acl => { acl with readWrite := v },
  bool poco "ReadWriteCreate" fun v acl => { acl with readWriteCreate := v },
  bool poco "Delete" fun v acl => { acl with delete := v },
  bool poco "PortalLogin" fun v acl => { acl with portalLogin := v }]

/-- `WebToken::from_json`. -/
def WebToken.fromJson (poco : Poco) : FieldReader WebToken := all [
  object "aclTemplate" (AclTemplate.fromJson poco) WebToken.aclTemplate
    fun v token => { token with aclTemplate := v },
  string poco "access_token" fun v token => { token with accessToken := v },
  string poco "refresh_token" fun v token => { token with refreshToken := v },
  string poco "token_type" fun v token => { token with tokenType := v },
  uint64 poco "expires_in" fun v token => { token with expiresIn := v },
  uint64 poco "idle_timeout" fun v token => { token with idleTimeout := v },
  uint64 poco "created" fun v token => { token with created := v },
  string poco "username" fun v token => { token with username := v },
  bool poco "userMustChangePassword" fun v token => { token with userMustChangePassword := v },
  uint64 poco "lastRefresh" fun v token => { token with lastRefresh := v }]

/-- `MobilePhoneNumber::from_json`. -/
def MobilePhoneNumber.fromJson (poco : Poco) : FieldReader MobilePhoneNumber := all [
  string poco "number" fun v mobile => { mobile with number := v },
  bool poco "verified" fun v mobile => { mobile with verified := v },
  bool poco "primary" fun v mobile => { mobile with primary := v }]

/-- `MfaAuthInfo::from_json`. -/
def MfaAuthInfo.fromJson (poco : Poco) : FieldReader MfaAuthInfo := all [
  bool poco "enabled" fun v mfa => { mfa with enabled := v },
  string poco "method" fun v mfa => { mfa with method := v }]

/-- `UserLoginLoginExtensions::from_json`. -/
def UserLoginLoginExtensions.fromJson (poco : Poco) : FieldReader UserLoginLoginExtensions := all [
  vector "mobiles" {} (MobilePhoneNumber.fromJson poco) UserLoginLoginExtensions.mobiles
    fun v extensions => { extensions with mobiles := v },
  object "mfa" (MfaAuthInfo.fromJson poco) UserLoginLoginExtensions.mfa
    fun v extensions => { extensions with mfa := v },
  string poco "authenticatorSecret" fun v extensions => { extensions with authenticatorSecret := v }]

/-- `NoteInfo::from_json`. -/
def NoteInfo.fromJson (poco : Poco) : FieldReader NoteInfo := all [
  uint64 poco "created" fun v note => { note with created := v },
  string poco "createdBy" fun v note => { note with createdBy := v },
  string poco "note" fun v note => { note with note := v }]

/-- `UserInfo::from_json`. -/
def UserInfo.fromJson (poco : Poco) : FieldReader UserInfo := all [
  string poco "id" fun v user => { user with id := v },
  string poco "name" fun v user => { user with name := v },
  string poco "description" fun v user => { user with description := v },
  string poco "avatar" fun v user => { user with avatar := v },
  string poco "email" fun v user => { user with email := v },
  string poco "validationEmail" fun v user => { user with validationEmail := v },
  string poco "validationURI" fun v user => { user with validationURI := v },
  string poco "currentLoginURI" fun v user => { user with currentLoginURI := v },
  string poco "locale" fun v user => { user with locale := v },
  vector "notes" {} (NoteInfo.fromJson poco) UserInfo.notes fun v user => { user with notes := v },
  string poco "location" fun v user => { user with location := v },
  string poco "owner" fun v user => { user with owner := v },
  enumeration poco "userRole" UserRole.ofString fun v user => { user with userRole := v },
  string poco "securityPolicy" fun v user => { user with securityPolicy := v },
  object "userTypeProprietaryInfo" (UserLoginLoginExtensions.fromJson poco)
    UserInfo.userTypeProprietaryInfo fun v user => { user with userTypeProprietaryInfo := v },
  uint64 poco "validationDate" fun v user => { user with validationDate := v },
  uint64 poco "creationDate" fun v user => { user with creationDate := v },
  uint64 poco "lastLogin" fun v user => { user with lastLogin := v },
  uint64 poco "lastPasswordChange" fun v user => { user with lastPasswordChange := v },
  uint64 poco "lastEmailCheck" fun v user => { user with lastEmailCheck := v },
  uint64 poco "securityPolicyChange" fun v user => { user with securityPolicyChange := v },
  bool poco "validated" fun v user => { user with validated := v },
  bool poco "changePassword" fun v user => { user with changePassword := v },
  bool poco "waitingForEmailCheck" fun v user => { user with waitingForEmailCheck := v },
  bool poco "suspended" fun v user => { user with suspended := v },
  bool poco "blackListed" fun v user => { user with blackListed := v },
  string poco "currentPassword" fun v user => { user with currentPassword := v },
  stringVec poco "lastPasswords" fun v user => { user with lastPasswords := v },
  string poco "oauthType" fun v user => { user with oauthType := v },
  string poco "oauthUserInfo" fun v user => { user with oauthUserInfo := v },
  uint64 poco "modified" fun v user => { user with modified := v },
  string poco "signingUp" fun v user => { user with signingUp := v }]

/-- `UserInfoAndPolicy::from_json`. -/
def UserInfoAndPolicy.fromJson (poco : Poco) : FieldReader UserInfoAndPolicy := all [
  object "tokenInfo" (WebToken.fromJson poco) UserInfoAndPolicy.webtoken
    fun v policy => { policy with webtoken := v },
  object "userInfo" (UserInfo.fromJson poco) UserInfoAndPolicy.userinfo
    fun v policy => { policy with userinfo := v }]

end Fms
