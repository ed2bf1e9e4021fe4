import PlayScaffold.Json.Printer

/-!
# Security schemes

One way to be authenticated or authorized: an API key, HTTP authentication, OAuth 2 or OpenID
Connect.  OAuth schemes declare scopes, and a scheme can be narrowed to some of them.
-/

namespace PlayScaffold

/-- Where an API key is sent. -/
inductive KeyLocation where
  | query
  | header
  | cookie
deriving Repr, DecidableEq

def KeyLocation.all : List KeyLocation := [.query, .header, .cookie]

def KeyLocation.name : KeyLocation → String
  | .query => "query"
  | .header => "header"
  | .cookie => "cookie"

/-- What the mechanism of a scheme needs to know. -/
inductive Mechanism where
  | apiKey (keyParamName : String) (location : KeyLocation)
  | http (scheme : String) (bearerFormat : Option String)
  | oauth2 (flow authorizationUrl tokenUrl refreshUrl : Option String)
  | openIdConnect (url : String)
deriving Repr, DecidableEq

inductive MechanismKind where
  | apiKey
  | http
  | oauth2
  | openIdConnect
deriving Repr, DecidableEq

/-- Every kind of mechanism, in the order of their numbers. -/
def MechanismKind.all : List MechanismKind := [.apiKey, .http, .oauth2, .openIdConnect]

def MechanismKind.name : MechanismKind → String
  | .apiKey => "apiKey"
  | .http => "http"
  | .oauth2 => "oauth2"
  | .openIdConnect => "openIdConnect"

def Mechanism.kind : Mechanism → MechanismKind
  | .apiKey _ _ => .apiKey
  | .http _ _ => .http
  | .oauth2 _ _ _ _ => .oauth2
  | .openIdConnect _ => .openIdConnect

structure OAuthScope where
  name : String
  description : Option String := none
deriving Repr, DecidableEq

/-- A security scheme as the API description declares it. -/
structure SecurityScheme where
  name : String
  description : Option String := none
  mechanism : Mechanism
  scopes : List OAuthScope := []
  vendorExtensions : KeyMap Json := KeyMap.empty

namespace SecurityScheme

def isOAuth (s : SecurityScheme) : Bool := s.mechanism.kind = .oauth2

/-- The scheme with only the scopes of the given names, in the order of declaration. -/
def filterByScopes (s : SecurityScheme) (names : List String) : SecurityScheme :=
  { s with scopes := s.scopes.filter fun scope => names.contains scope.name }

/-- The scheme in a line of text. -/
def text (s : SecurityScheme) : String :=
  "name='" ++ s.name ++ "', type='" ++ s.mechanism.kind.name ++ "', scopes=["
    ++ ", ".intercalate (s.scopes.map (·.name)) ++ "]"

/-! ## Equality and digest -/

/-- Do two schemes agree, with the numbers in their extensions compared by value? -/
def sameValue (a b : SecurityScheme) : Bool :=
  a.name == b.name && a.description == b.description && a.mechanism == b.mechanism
    && a.scopes == b.scopes
    && Json.sameFields a.vendorExtensions.entries b.vendorExtensions.entries

instance : BEq SecurityScheme := ⟨sameValue⟩

/-- What a hash of a scheme is computed from; extensions count by their compact text. -/
structure Digest where
  name : String
  description : Option String
  mechanism : Mechanism
  scopes : List OAuthScope
  extensions : List (String × String)
deriving DecidableEq

def digest (s : SecurityScheme) : Digest where
  name := s.name
  description := s.description
  mechanism := s.mechanism
  scopes := s.scopes
  extensions := s.vendorExtensions.entries.map fun (k, v) => (k, v.compact)

end SecurityScheme

end PlayScaffold
