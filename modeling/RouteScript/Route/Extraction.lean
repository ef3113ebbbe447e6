import RouteScript.Files.Disk
import RouteScript.Java.CompilationUnit
import RouteScript.Log
import RouteScript.Route.Site
import RouteScript.Text.Lines
import RouteScript.Xml.Document

/-!
# Scripts in source files

A call of `csimple` on a constant string, anywhere in the first class of a Java source, is a site whose
owner is the class. It is a predicate when it follows an empty call of a method that takes a predicate,
or when it is an argument of such a method or of a method that joins predicates. In an XML document an
element named `csimple`, in any namespace, or with `csimple` as its language holds a script, all the text
inside it, and it is a predicate when the element around it takes a condition.

`extract` reads a source file and gives the sites in it. A file that cannot be read or that has a fault
gives a warning instead.
-/

namespace RouteScript

namespace JavaSites

def scriptMethod : Text := "csimple"

def predicateMethods : List Text :=
  ["completionPredicate", "continued", "filter", "handled", "loopDoWhile", "onWhen", "retryWhile",
    "validate", "when"]

def combinators : List Text := ["and", "not", "or"]

def expectsPredicate : Option Java.Tree → Bool
  | some (.call _ name _ []) => predicateMethods.contains name
  | _ => false

def usageKind (c : Java.Call) : UsageKind :=
  let takes (name : Text) : Bool := predicateMethods.contains name || combinators.contains name
  if expectsPredicate c.receiver || c.argumentOf.any takes then .predicate else .value

def script? (c : Java.Call) : Option Text := c.arguments.head?.bind Java.Tree.constantText

def callsIn (parts : List Java.Tree) : List Java.Call :=
  (Java.walk [⟨none, .other parts⟩]).filterMap Java.Visit.call?

/-- The calls of the method in the order in which its name stands in the source. A walk comes to the
last call of a chain first. -/
def scriptCalls (parts : List Java.Tree) : List Java.Call :=
  ((callsIn parts).filter (·.name = scriptMethod)).mergeSort fun a b => decide (a.offset ≤ b.offset)

def ownerOf (package : Option Text) (name : Text) : Text :=
  match package with
  | some p => p ++ "." ++ name
  | none => name

/-- The sites of a source file. Only a class holds routes, and only the first type counts. -/
def ofUnit (origin : Path) (u : Java.CompilationUnit) : List Site :=
  match u.types with
  | ⟨.classType, name, parts⟩ :: _ =>
    (scriptCalls parts).filterMap fun c =>
      (script? c).map fun script =>
        ⟨script, usageKind c, some (ownerOf u.package name), origin, .code⟩
  | _ => []

end JavaSites

namespace XmlSites

def language : Text := "csimple"

def conditionElements : List Text :=
  ["completionPredicate", "continued", "filter", "handled", "onWhen", "retryWhile", "validate", "when"]

def isScript (name : Xml.QName) (attributes : List (Xml.QName × Text)) : Bool :=
  name.name = language || Xml.attribute? attributes "language" = some language

/-- How an element uses the script directly in it. A loop takes a condition when it says so. -/
def usageIn (name : Xml.QName) (attributes : List (Xml.QName × Text)) : UsageKind :=
  let repeats := Text.asciiLower (Text.strip ((Xml.attribute? attributes "doWhile").getD []))
  if conditionElements.contains name.name || (name.name = "loop" && repeats = "true") then .predicate
  else .value

def siteOf (origin : Path) (kind : UsageKind) (name : Xml.QName)
    (attributes : List (Xml.QName × Text)) (content : Text) : List Site :=
  let script := Text.strip content
  if isScript name attributes && script ≠ [] then [⟨script, kind, none, origin, .document⟩] else []

def usageUnder (parent : Option Xml.Element) : UsageKind :=
  parent.elim .value fun e => usageIn e.name e.attributes

/-- The sites of a document. The elements with a script are gone through in order, and the one around
each is looked up. -/
def ofDocument (origin : Path) (root : Xml.Node) : List Site :=
  let elements := root.elements
  let parents := Xml.parentsOf elements
  (elements.filter fun (_, e) => isScript e.name e.attributes).flatMap fun (place, e) =>
    siteOf origin (usageUnder (parents.lookup place)) e.name e.attributes (Xml.contentOf e.children)

end XmlSites

/-- What was found in a file: its sites, or the warning that says why there are none. -/
structure Extraction where
  path : Path
  sites : List Site
  warning : Option Text
  deriving DecidableEq, Repr

def sitesOf (dialect : Dialect) (path : Path) (content : Bytes) : Except Text (List Site) :=
  match dialect with
  | .code =>
    match Java.CompilationUnit.read (decodeUtf8Lossy content) with
    | .ok u => .ok (JavaSites.ofUnit path u)
    | .error fault => .error fault.message
  | .document =>
    match Xml.readDocument content with
    | .ok root => .ok (XmlSites.ofDocument path root)
    | .error fault => .error fault.message

/-- The sites of a file with a script that is not blank. -/
def sitesIn (d : Disk) (cwd : List Text) (dialect : Dialect) (path : Path) :
    Except Text (List Site) := do
  let content ← (d.read cwd path).mapError FileFault.message
  let sites ← sitesOf dialect path content
  return sites.filter fun s => Text.strip s.script ≠ []

def Dialect.extractor : Dialect → Logger
  | .code => .codeExtractor
  | .document => .documentExtractor

def extract (d : Disk) (cwd : List Text) (dialect : Dialect) (path : Path) :
    List Record × Extraction :=
  match sitesIn d cwd dialect path with
  | .error reason =>
    let message : Text :=
      "Error parsing " ++ dialect.label ++ " file " ++ path.toText ++ " due " ++ reason
    ([⟨.warning, dialect.extractor, message⟩], ⟨path, [], some reason⟩)
  | .ok sites =>
    let message : Text :=
      "Found " ++ Text.ofNat sites.length ++ " csimple expressions in " ++ path.toText
    (if sites = [] then [] else [⟨.debug, dialect.extractor, message⟩], ⟨path, sites, none⟩)

end RouteScript
