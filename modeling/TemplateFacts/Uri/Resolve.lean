import TemplateFacts.Text.Case
import TemplateFacts.Uri.Reader

/-! References in their normal form, escapes included, and references that are read beside a base. -/

namespace TemplateFacts.Uri

/-- The bytes of a text with its escapes resolved. -/
def unescapedBytes : List Char → List UInt8
  -- A percent sign without two digits stands for itself.
  | [] => []
  | '%' :: a :: b :: rest =>
    match Text.hexByte? a b with
    | some byte => byte :: unescapedBytes rest
    | none => 0x25 :: unescapedBytes (a :: b :: rest)
  | c :: rest => String.utf8EncodeChar c ++ unescapedBytes rest

/-- The text with its escapes resolved, if it is one. -/
def unescape? (s : String) : Option String := (Utf8.decode (unescapedBytes s.toList)).toOption

/-- The characters with needless escapes resolved, and the digits of all others in capitals. -/
def plainForm : List Char → List Char
  -- Unreserved characters need no escape.
  | [] => []
  | '%' :: a :: b :: rest =>
    match Text.hexByte? a b with
    | some byte =>
      let c := Char.ofNat byte.toNat
      if isUnreserved c then c :: plainForm rest
      else '%' :: a.toUpper :: b.toUpper :: plainForm rest
    | none => '%' :: plainForm (a :: b :: rest)
  | c :: rest => c :: plainForm rest

/-- The text with needless escapes resolved, and the digits of all others in capitals. -/
def plain (s : String) : String := String.ofList (plainForm s.toList)

/-- The segments without those that stand for this place or the place above. -/
def withoutDots : (kept : List String) → List String → List String
  -- The place itself is kept as an empty last segment; the kept ones have the nearest first.
  | kept, [] => kept.reverse
  | kept, "." :: rest => withoutDots (if rest.isEmpty then "" :: kept else kept) rest
  | kept, ".." :: rest => withoutDots (if rest.isEmpty then "" :: kept.tail else kept.tail) rest
  | kept, segment :: rest => withoutDots (segment :: kept) rest

/-- A path that begins with a slash, without its dots. -/
def pathWithoutDots (path : String) : String :=
  -- Other paths are left alone.
  if Text.startsWith path "/" then
    "/" ++ Text.join "/" (withoutDots [] ((Text.split '/' path).drop 1))
  else path

/-- A path that cannot be taken for an authority. -/
def guarded (authority : Option Authority) (path : String) : String :=
  if authority.isNone && Text.startsWith path "//" then "/." ++ path else path

/-- The normal form of an authority. -/
def normalAuthority (authority : Authority) : Authority where
  -- An empty port says nothing.
  user := authority.user.map plain
  host :=
    if Text.startsWith authority.host "[" then Text.asciiLower authority.host
    else plain (Text.asciiLower (plain authority.host))
  port := authority.port.filter (· != "")

/-- The normal form of a reference. -/
def normalize (uri : Uri) : Uri :=
  -- Dots have a meaning only where the path is complete.
  let authority := uri.authority.map normalAuthority
  let path := plain uri.path
  { scheme := uri.scheme.map Text.asciiLower
    authority
    path := if uri.scheme.isSome then guarded authority (pathWithoutDots path) else path
    query := uri.query.map plain
    fragment := uri.fragment.map plain }

/-- The path of a reference that stands beside a base. -/
def mergedPath (base uri : Uri) : String :=
  -- The last segment of the base gives way.
  if base.authority.isSome && base.path == "" then "/" ++ uri.path
  else
    let segments := (Text.split '/' base.path).dropLast
    Text.join "/" (segments ++ [uri.path])

/-- What a reference means beside a base. -/
def resolve (base uri : Uri) : Except Clash Uri :=
  -- The parts that a reference leaves out are those of the base.
  if base.fragment.isSome then .error .baseFragment
  else if base.authority.isNone && !Text.startsWith base.path "/" && uri.scheme.isNone
      && (uri.whole.text != "") then .error .baseRootless
  else
    let found : Uri :=
      if uri.scheme.isSome then { uri with path := pathWithoutDots uri.path }
      else if uri.authority.isSome then
        { uri with scheme := base.scheme, path := pathWithoutDots uri.path }
      else if uri.path == "" then
        { base with query := uri.query <|> base.query, fragment := uri.fragment }
      else
        let path := if Text.startsWith uri.path "/" then uri.path else mergedPath base uri
        { base with path := pathWithoutDots path, query := uri.query, fragment := uri.fragment }
    .ok { found with path := guarded found.authority found.path }

end TemplateFacts.Uri
