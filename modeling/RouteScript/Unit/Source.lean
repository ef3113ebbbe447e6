import RouteScript.Log
import RouteScript.Route.Site
import RouteScript.Script.Predicate
import RouteScript.Script.Template
import RouteScript.Text.Identifier
import RouteScript.Unit.Configuration

/-!
# Generated classes

The class of the `n`-th site of an owner is named after the owner, with a marker and `n`. `compile`
turns a site into a unit, the Java class that evaluates its script. `compileAll` numbers sites and
compiles them in order up to the first fault.
-/

namespace RouteScript

def identityMarker : Text := "$$Csimple"

inductive IdentityFault where
  | sequenceTooSmall
  | invalidOwner (owner : Text)
  deriving DecidableEq, Repr

def IdentityFault.message : IdentityFault → Text
  | .sequenceTooSmall => "sequence numbers start at 1"
  | .invalidOwner owner => "Owner '" ++ owner ++ "' is not a valid qualified name"

/-- Identifiers with points between them, where `$` counts as an underscore. -/
def isQualifiedName (t : Text) : Bool :=
  (Text.parts (.char '.') t).all fun part =>
    Text.isIdentifier (Text.replaceEach (.char '$') (.char '_') part)

def identity (owner : Text) (sequence : Int) : Except IdentityFault Text :=
  if sequence < 1 then .error .sequenceTooSmall
  else
    let name := owner ++ identityMarker ++ Text.ofInt sequence
    if isQualifiedName name then .ok name else .error (.invalidOwner owner)

/-- The file of a class below the output directory: a directory for each name of its package. -/
def classFile (identity : Text) : Path :=
  ((Text.parts (.char '.') identity).foldl Path.child ⟨0, []⟩).withSuffix ".java"

def splitIdentity (identity : Text) : Text × Text :=
  (Text.cutLast? (.char '.') identity).getD ([], identity)

def generatedMessage : Text := "Generated by camel build tools - do NOT edit this file!"

structure GeneratedUnit where
  identity : Text
  source : Text
  kind : UsageKind
  site : Site
  deriving DecidableEq, Repr

def GeneratedUnit.file (u : GeneratedUnit) : Path := classFile u.identity

def GeneratedUnit.record (u : GeneratedUnit) : Record :=
  ⟨.debug, .compiler, "Generated source code for " ++ u.identity ++ ":\n\n" ++ u.source⟩

inductive FatalCause where
  | syntaxFault (fault : SyntaxFault)
  | identityFault (fault : IdentityFault)
  deriving DecidableEq, Repr

structure Fatal where
  site : Site
  cause : FatalCause
  deriving DecidableEq, Repr

/-- What ends a compilation: a fatal site, or an integer of too many digits. -/
inductive CompileFault where
  | fatal (f : Fatal)
  | oversizedInteger (digits : Nat)
  deriving DecidableEq, Repr

def Fatal.reason (f : Fatal) : Text :=
  match f.cause with
  | .syntaxFault fault => fault.message
  | .identityFault fault => fault.message

def Fatal.describe (f : Fatal) : Text :=
  "Cannot compile csimple script '" ++ f.site.script ++ "' from " ++ f.site.origin.toText ++ ": " ++
    f.reason

def scriptCode (kind : UsageKind) (script : Text) : Except ScriptFault Text :=
  match kind with
  | .predicate => Script.predicateCode script
  | .value => (Script.valueCode script).mapError .malformed

def sourceLine (t : Text) : Text := t ++ "\n"

def packageLines (package : Text) : Text :=
  if package = [] then [] else sourceLine ("package " ++ package ++ ";") ++ "\n"

def fixedImports : Text :=
  "import java.util.*;\n" ++
  "import java.util.concurrent.*;\n" ++
  "import java.util.stream.*;\n" ++
  "\n" ++
  "import org.apache.camel.*;\n" ++
  "import org.apache.camel.spi.*;\n" ++
  "import static org.apache.camel.language.csimple.CSimpleHelper.*;\n"

def importLines (imports : List Text) : Text :=
  if imports = [] then [] else "\n" ++ imports.flatMap sourceLine

def parameters : Text :=
  "(Map<String, Object> bodies, CamelContext context, Exchange exchange, Message message, " ++
  "Object body) throws Exception"

def evaluation (kind : UsageKind) (code : Text) : Text :=
  let signature : Text :=
    match kind with
    | .predicate => "boolean matches"
    | .value => "Object evaluate"
  "    @Override\n" ++
  sourceLine ("    public " ++ signature ++ parameters ++ " \x7b") ++
  sourceLine ("        return " ++ code ++ ";") ++
  "    \x7d\n"

def classSource (package className : Text) (imports : List Text) (kind : UsageKind)
    (script code : Text) : Text :=
  packageLines package ++
  fixedImports ++
  importLines imports ++
  "\n" ++
  "/**\n" ++
  sourceLine (" * " ++ generatedMessage) ++
  " */\n" ++
  sourceLine ("public class " ++ className ++
    " extends org.apache.camel.language.csimple.CSimpleSupport \x7b") ++
  "\n" ++
  sourceLine ("    public " ++ className ++ "() \x7b") ++
  "    \x7d\n" ++
  "\n" ++
  "    @Override\n" ++
  "    public boolean isPredicate() \x7b\n" ++
  sourceLine ("        return " ++ (if kind = .predicate then "true" else "false") ++ ";") ++
  "    \x7d\n" ++
  "\n" ++
  "    @Override\n" ++
  "    public String getText() \x7b\n" ++
  sourceLine ("        return " ++ Java.stringLiteral script ++ ";") ++
  "    \x7d\n" ++
  "\n" ++
  evaluation kind code ++
  "\x7d\n"

/-- Compiles the site that has the given number among those of its owner. -/
def compile (c : Configuration) (site : Site) (sequence : Int) :
    Except CompileFault GeneratedUnit :=
  let script := Alias.expand c.aliases site.script
  match scriptCode site.kind script with
  | .error (.malformed fault) => .error (.fatal ⟨site, .syntaxFault fault⟩)
  | .error (.oversizedInteger digits) => .error (.oversizedInteger digits)
  | .ok code =>
    -- A script without code is reported before an owner without a name.
    match identity site.effectiveOwner sequence with
    | .error fault => .error (.fatal ⟨site, .identityFault fault⟩)
    | .ok name =>
      let (package, className) := splitIdentity name
      .ok ⟨name, classSource package className c.imports site.kind script code, site.kind, site⟩

def compileNumbered (c : Configuration) :
    List (Site × Nat) → List GeneratedUnit × Option CompileFault
  | [] => ([], none)
  | (site, sequence) :: rest =>
    match compile c site sequence with
    | .error fault => ([], some fault)
    | .ok u =>
      let (units, fault) := compileNumbered c rest
      (u :: units, fault)

/-- Numbers the sites and compiles them in order, up to the first fault. -/
def compileAll (c : Configuration) (sites : List Site) :
    List GeneratedUnit × Option CompileFault :=
  compileNumbered c (numberSites sites)

end RouteScript
