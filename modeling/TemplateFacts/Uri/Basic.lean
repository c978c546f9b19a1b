import TemplateFacts.Utf8

/-! References to resources: everything but the path may be absent. -/

namespace TemplateFacts

/-- Where a resource is kept: a host, who asks, and where the host listens. -/
structure Authority where
  user : Option String
  host : String
  port : Option String
deriving DecidableEq, Repr

/-- A reference to a resource. -/
structure Uri where
  scheme : Option String
  authority : Option Authority
  path : String
  query : Option String
  fragment : Option String
deriving DecidableEq, Repr, Inhabited

/-- The written form of an authority. -/
def Authority.text (authority : Authority) : String :=
  -- The host stands in the middle.
  authority.user.elim "" (· ++ "@") ++ authority.host ++ authority.port.elim "" (":" ++ ·)

namespace Uri

/-- The written form of a reference. -/
def text (uri : Uri) : String :=
  -- Each part has a mark of its own.
  uri.scheme.elim "" (· ++ ":") ++ uri.authority.elim "" ("//" ++ ·.text) ++ uri.path
    ++ uri.query.elim "" ("?" ++ ·) ++ uri.fragment.elim "" ("#" ++ ·)

/-- The reference to the whole resource. -/
def whole (uri : Uri) : Uri := { uri with fragment := none }

/-- Why a text is no reference. -/
inductive Flaw where
  | unexpected
  | badOctet
  | badAddress
deriving DecidableEq, Repr

/-- Where a text stops being a reference, counted in bytes, and why. -/
structure Fault where
  flaw : Flaw
  index : Nat
deriving DecidableEq, Repr

/-- The flaw in words. -/
def Flaw.message : Flaw → String
  | .unexpected => "unexpected character"
  | .badOctet => "invalid percent-encoded octet"
  | .badAddress => "invalid IP literal"

/-- The fault in words. -/
def Fault.message (fault : Fault) : String := s!"{fault.flaw.message} at index {fault.index}"

/-- Why a reference makes no sense beside another. -/
inductive Clash where
  /-- The base refers to a part of a resource. -/
  | baseFragment
  /-- The base has no hierarchy in which another path could stand. -/
  | baseRootless
deriving DecidableEq, Repr

/-- The clash in words. -/
def Clash.message : Clash → String
  | .baseFragment => "base URI/IRI with fragment"
  | .baseRootless =>
    "relative reference must be empty or start with '#' when resolved against "
      ++ "authority-less base with rootless path"

end Uri

end TemplateFacts
