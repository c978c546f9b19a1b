import TemplateFacts.Text.Lines
import TemplateFacts.Utf8

/-!
File paths: their components, and the lexical operations on them.

Slashes separate names, repeated slashes and inner dots do not count, and only a leading dot is a
component of its own. Names are texts; those that are bytes and no text are written with a character
for each byte.
-/

namespace TemplateFacts

/-- A path as it is written. -/
structure Path where
  text : String
deriving DecidableEq, Repr, Inhabited

/-- A part of a path. -/
inductive Component where
  | root
  | current
  | parent
  | name (s : String)
deriving DecidableEq, Repr

/-- A component as it is written. -/
def Component.text : Component → String
  -- Names are written as they are.
  | .root => "/"
  | .current => "."
  | .parent => ".."
  | .name s => s

namespace Path

/-- The path begins at the root. -/
def isAbsolute (path : Path) : Bool := path.text.toList.head? == some '/'

/-- The path begins with a dot that stands for the directory it starts from. -/
def startsAtDot (path : Path) : Bool :=
  -- A dot that begins a name does not count.
  match path.text.toList with
  | ['.'] => true
  | '.' :: '/' :: _ => true
  | _ => false

/-- The root or the leading dot of the path, as written. -/
def front (path : Path) : String :=
  -- Most relative paths have neither.
  if path.isAbsolute then "/" else if path.startsAtDot then "." else ""

/-- What is written between the slashes behind the front of the path. -/
def segments (path : Path) : List String :=
  -- Empty segments and dots are kept here.
  Text.split '/' (String.ofList (path.text.toList.drop path.front.length))

/-- A segment that names nothing. -/
def isIdle (segment : String) : Bool := segment == "" || segment == "."

/-- The component of a segment that is not idle. -/
def segmentComponent (segment : String) : Component :=
  -- Two dots climb.
  if segment == ".." then .parent else .name segment

/-- The components behind the front of the path. -/
def bodyComponents (path : Path) : List Component :=
  -- Idle segments are left out.
  (path.segments.filter fun s => !isIdle s).map segmentComponent

/-- The components of the path. -/
def components (path : Path) : List Component :=
  -- The front is a component when it is there.
  if path.isAbsolute then .root :: path.bodyComponents
  else if path.startsAtDot then .current :: path.bodyComponents
  else path.bodyComponents

/-- The last name of the path, unless it ends by climbing. -/
def fileName? (path : Path) : Option String :=
  -- Idle segments at the end are passed over.
  match path.components.getLast? with
  | some (.name s) => some s
  | _ => none

/-- The segments without the idle ones at the end. -/
def dropIdleEnd (segments : List String) : List String :=
  -- The end is reached by turning the list around.
  (segments.reverse.dropWhile isIdle).reverse

/-- The path without its last component. -/
def parent? (path : Path) : Option Path :=
  -- Idle segments before the last component go with it.
  match dropIdleEnd path.segments with
  | [] => if path.startsAtDot then some ⟨""⟩ else none
  | segments => some ⟨path.front ++ Text.join "/" (dropIdleEnd segments.dropLast)⟩

/-- The path that another leads to from this one. -/
def join (path other : Path) : Path :=
  -- An absolute path starts over, and one slash separates the two otherwise.
  if other.isAbsolute then other
  else if path.text == "" || path.text.toList.getLast? == some '/' then ⟨path.text ++ other.text⟩
  else ⟨path.text ++ "/" ++ other.text⟩

/-- The path with another last name, or with one more name when it ends in none. -/
def withFileName (path : Path) (name : String) : Path :=
  -- The last component is replaced only if it is a name.
  match path.fileName?, path.parent? with
  | some _, some parent => parent.join ⟨name⟩
  | _, _ => path.join ⟨name⟩

/-- The path of the given components. -/
def ofComponents (components : List Component) : Path :=
  -- Each component is joined to those before it.
  components.foldl (fun path component => path.join ⟨component.text⟩) ⟨""⟩

/-- One path begins with all the components of another. -/
def startsWith (path other : Path) : Bool :=
  -- A name is never cut.
  other.components.isPrefixOf path.components

/-- Resolves dots and climbing, given the components kept so far with the nearest first. -/
def resolveOnto (kept : List Component) : List Component → List Component
  -- Climbing removes a name, and nothing can be removed from the root.
  | [] => kept.reverse
  | .current :: rest => resolveOnto kept rest
  | .parent :: rest =>
    match kept with
    | .name _ :: below => resolveOnto below rest
    | kept => resolveOnto kept rest
  | component :: rest => resolveOnto (component :: kept) rest

/-- The absolute form of a path against a directory, without dots and climbing. -/
def absolutize (directory path : Path) : Path :=
  -- The tree is not consulted, so links are not followed.
  ofComponents (resolveOnto [] (directory.join path).components)

/-- The number of components that two lists have in common at the front. -/
def commonLength : List Component → List Component → Nat
  -- The first difference ends the count.
  | a :: as, b :: bs => if a = b then commonLength as bs + 1 else 0
  | _, _ => 0

/-- The target as seen from the base, climbing where needed. -/
def relativeTo (base target : Path) : Path :=
  -- Two absolute paths have at least the root in common.
  let start := base.components.filter (· ≠ .current)
  let goal := target.components.filter (· ≠ .current)
  let common := commonLength start goal
  if common == 0 && target.isAbsolute then ofComponents goal
  else ofComponents (List.replicate (start.length - common) .parent ++ goal.drop common)

/-- The components of the path with slashes between them. -/
def posixText (path : Path) : String :=
  -- The root is a component of its own here.
  Text.join "/" (path.components.map Component.text)

/-- The path that bytes write, with a character for each of them. -/
def ofBytes (bytes : List UInt8) : Path :=
  -- Slashes and dots are bytes by themselves, so that the components are those of the bytes.
  ⟨String.ofList (bytes.map fun b => Char.ofNat b.toNat)⟩

/-- The bytes of a text that has a character for each of them. -/
def bytesOf (s : String) : List UInt8 := s.toList.map fun c => UInt8.ofNat c.toNat

/-- The components of a path of bytes with slashes between them, what is no text being replaced. -/
def lossyText (path : Path) : String :=
  -- Each component is decoded by itself.
  Text.join "/" (path.components.map fun c => Utf8.decodeLossy (bytesOf c.text))

end Path

end TemplateFacts
