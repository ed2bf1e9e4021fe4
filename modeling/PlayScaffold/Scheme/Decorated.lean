import PlayScaffold.Scheme.Form
import PlayScaffold.Warning

/-!
# Decorated schemes

The security utilities of an application validate tokens at two endpoints, whose URLs stand in
vendor extensions of the schemes.  A decorated scheme is a scheme with its URLs.
-/

namespace PlayScaffold

/-- A scheme and its endpoints for token validation. -/
structure DecoratedScheme where
  base : SecurityScheme
  jwksUrl : Option String
  tokenIntrospectUrl : Option String

namespace DecoratedScheme

def jwksUrlExtension : String := "x-jwksUrl"

def tokenIntrospectUrlExtension : String := "x-tokenIntrospectUrl"

/-- The text of an extension.  One that holds something else is ignored with a warning. -/
def textExtension (s : SecurityScheme) (extension : String) : Logged (Option String) :=
  match s.vendorExtensions.get? extension with
  | none => return none
  | some (.str url) => return some url
  | some other => do
    Logged.warn (.ignoredExtension s.name extension other.compact)
    return none

/-- The scheme with the URLs of its extensions. -/
def decorate (s : SecurityScheme) : Logged DecoratedScheme := do
  let jwksUrl ← textExtension s jwksUrlExtension
  let tokenIntrospectUrl ← textExtension s tokenIntrospectUrlExtension
  return ⟨s, jwksUrl, tokenIntrospectUrl⟩

/-- The scheme with only the scopes of the given names; the URLs stay. -/
def filterByScopes (s : DecoratedScheme) (names : List String) : DecoratedScheme :=
  { s with base := s.base.filterByScopes names }

def text (s : DecoratedScheme) : String :=
  s.base.text ++ ", jwksUrl='" ++ s.jwksUrl.getD "null" ++ "', tokenIntrospectUrl='"
    ++ s.tokenIntrospectUrl.getD "null" ++ "'"

def sameValue (a b : DecoratedScheme) : Bool :=
  a.base.sameValue b.base && a.jwksUrl == b.jwksUrl && a.tokenIntrospectUrl == b.tokenIntrospectUrl

instance : BEq DecoratedScheme := ⟨sameValue⟩

def digest (s : DecoratedScheme) : SecurityScheme.Digest × Option String × Option String :=
  (s.base.digest, s.jwksUrl, s.tokenIntrospectUrl)

def encode (s : DecoratedScheme) : Encoding :=
  .record (s.base.encodeFields ++
    [("jwksUrl", .option s.jwksUrl), ("tokenIntrospectUrl", .option s.tokenIntrospectUrl)])

end DecoratedScheme

end PlayScaffold
