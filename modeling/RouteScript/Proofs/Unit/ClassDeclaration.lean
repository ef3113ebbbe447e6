import RouteScript.Proofs.Files.DiskTree
import RouteScript.Proofs.Unit.Compilation
import RouteScript.Proofs.Unit.EmbeddedScript

/-!
# What a class file declares

A class file lies where the class that it declares belongs (`compile_declares`): there is a directory for each name
of the package and the file is named like the class, so that it lies below the output directory. The lines of a
class file are given by `rows_classSource`.
-/

namespace RouteScript

open Script (BreaksBeforePoint)

/-! ### Lines of a file -/

namespace Text

/-- The lines of a text, as far as a line feed ends them. -/
def rows (t : Text) : List Text := (parts (.char '\n') t).dropLast

theorem rows_feed (s t : Text) : rows (s ++ .char '\n' :: t) = parts (.char '\n') s ++ rows t := by
  rw [rows, parts_append_sep, List.dropLast_append_of_ne_nil (parts_ne_nil _ t), rows]

theorem rows_append {s : Text} (ended : s.getLast? = some (.char '\n')) (t : Text) :
    rows (s ++ t) = rows s ++ rows t := by
  obtain ⟨front, rfl⟩ := List.getLast?_eq_some_iff.mp ended
  rw [List.append_assoc, List.singleton_append, rows_feed, rows_feed]
  exact congrArg (· ++ rows t) (List.append_nil _).symm

end Text

theorem sourceLine_ended (t : Text) : (sourceLine t).getLast? = some (.char '\n') := List.getLast?_concat

theorem rows_sourceLine (t : Text) : Text.rows (sourceLine t) = Text.parts (.char '\n') t := by
  have divided : sourceLine t = t ++ .char '\n' :: [] := rfl
  rw [divided, Text.rows_feed]
  exact List.append_nil _

theorem rows_single {t : Text} (single : .char '\n' ∉ t) (rest : Text) :
    Text.rows (sourceLine t ++ rest) = t :: Text.rows rest := by
  rw [Text.rows_append (sourceLine_ended t), rows_sourceLine, Text.parts_of_not_mem single, List.singleton_append]

/-! ### The lines of a class -/

def packageClause (package : Text) : Text := "package " ++ package ++ ";"

def classHeader (className : Text) : Text :=
  "public class " ++ className ++ " extends org.apache.camel.language.csimple.CSimpleSupport \x7b"

def constructorHeader (className : Text) : Text := "    public " ++ className ++ "() \x7b"

def importRows (imports : List Text) : List Text := imports.flatMap (Text.parts (.char '\n'))

def classComment : Text := "\n" ++ "/**\n" ++ sourceLine (" * " ++ generatedMessage) ++ " */\n"

/-- The source of a class between the header of its constructor and the text of the script. -/
def beforeText (kind : UsageKind) : Text :=
  "    \x7d\n" ++ "\n" ++ "    @Override\n" ++ "    public boolean isPredicate() \x7b\n" ++
  sourceLine ("        return " ++ (if kind = .predicate then "true" else "false") ++ ";") ++
  "    \x7d\n" ++ "\n" ++ "    @Override\n" ++ "    public String getText() \x7b\n"

/-- The type and the name of the method that evaluates. -/
def methodName (kind : UsageKind) : Text := if kind = .predicate then "boolean matches" else "Object evaluate"

/-- The source of a class between the text of the script and the code. -/
def beforeCode (kind : UsageKind) : Text :=
  "    \x7d\n" ++ "\n" ++ "    @Override\n" ++
  sourceLine ("    public " ++ methodName kind ++ parameters ++ " \x7b")

def afterCode : Text := ("    \x7d\n" : Text) ++ "\x7d\n"

theorem evaluation_divided (kind : UsageKind) (code : Text) :
    evaluation kind code = ("    @Override\n" : Text) ++
      sourceLine ("    public " ++ methodName kind ++ parameters ++ " \x7b") ++ sourceLine (returnLine code) ++
      ("    \x7d\n" : Text) := by
  cases kind <;> rfl

theorem classSource_divided (package className : Text) (imports : List Text) (kind : UsageKind) (script code : Text) :
    classSource package className imports kind script code =
      packageLines package ++ (fixedImports ++ (importLines imports ++ (classComment ++
        (sourceLine (classHeader className) ++ (("\n" : Text) ++ (sourceLine (constructorHeader className) ++
          (beforeText kind ++ (sourceLine (returnLine (Java.stringLiteral script)) ++
            (beforeCode kind ++ (sourceLine (returnLine code) ++ afterCode)))))))))) := by
  unfold classSource
  rw [evaluation_divided]
  unfold classComment beforeText beforeCode afterCode classHeader constructorHeader returnLine sourceLine
  simp only [List.append_assoc]

theorem packageLines_rows {package : Text} (single : .char '\n' ∉ package) (rest : Text) :
    Text.rows (packageLines package ++ rest) =
      (if package = [] then [] else [packageClause package, []]) ++ Text.rows rest := by
  unfold packageLines
  split
  · rfl
  · have clause : .char '\n' ∉ packageClause package := by simp [packageClause, Text.ofString, single]
    change Text.rows (sourceLine (packageClause package) ++ ("\n" : Text) ++ rest) = _
    rw [List.append_assoc, rows_single clause, Text.rows_append rfl]
    rfl

theorem importLines_rows (imports : List Text) (rest : Text) :
    Text.rows (importLines imports ++ rest) =
      (if imports = [] then [] else [] :: importRows imports) ++ Text.rows rest := by
  have lines : ∀ imports : List Text,
      Text.rows (imports.flatMap sourceLine ++ rest) = importRows imports ++ Text.rows rest := by
    intro imports
    induction imports with
    | nil => rfl
    | cons statement imports ih =>
      rw [List.flatMap_cons, List.append_assoc, Text.rows_append (sourceLine_ended statement), ih, rows_sourceLine,
        ← List.append_assoc]
      rfl
  unfold importLines
  split
  · rfl
  · rw [List.append_assoc, Text.rows_append rfl, lines]
    rfl

/-- Ended lines, none of which begins with `p` as the lines that declare something do. -/
def IsPlain (part : Text) : Prop :=
  part.getLast? = some (.char '\n') ∧ ∀ line ∈ Text.rows part, line.head? ≠ some (.char 'p')

instance (part : Text) : Decidable (IsPlain part) := inferInstanceAs (Decidable (_ ∧ _))

theorem fixedImports_isPlain : IsPlain fixedImports := by decide +kernel

theorem fixedImports_first : (Text.rows fixedImports).head? = some ("import java.util.*;" : Text) := by decide +kernel

theorem classComment_isPlain : IsPlain classComment := by decide +kernel

theorem beforeText_isPlain (kind : UsageKind) : IsPlain (beforeText kind) := by cases kind <;> decide +kernel

theorem beforeCode_isPlain (kind : UsageKind) : IsPlain (beforeCode kind) := by cases kind <;> decide +kernel

theorem afterCode_isPlain : IsPlain afterCode := by decide +kernel

/-- The lines of a class above its header. -/
def classFront (package : Text) (imports : List Text) : List Text :=
  (if package = [] then [] else [packageClause package, []]) ++ (Text.rows fixedImports ++
    ((if imports = [] then [] else [] :: importRows imports) ++ Text.rows classComment))

/-- The lines of a class behind its header. -/
def classBody (className : Text) (kind : UsageKind) (script code : Text) : List Text :=
  [] :: constructorHeader className :: (Text.rows (beforeText kind) ++
    returnLine (Java.stringLiteral script) :: (Text.rows (beforeCode kind) ++
    (Text.parts (.char '\n') (returnLine code) ++ Text.rows afterCode)))

/-- The lines of a class. Only imports and code can hold line feeds. -/
theorem rows_classSource {package className : Text} (onePackage : .char '\n' ∉ package)
    (oneClass : .char '\n' ∉ className) (imports : List Text) (kind : UsageKind) (script code : Text) :
    Text.rows (classSource package className imports kind script code) =
      classFront package imports ++ classHeader className :: classBody className kind script code := by
  have header : .char '\n' ∉ classHeader className := by simp [classHeader, Text.ofString, oneClass]
  have constructorLine : .char '\n' ∉ constructorHeader className := by
    simp [constructorHeader, Text.ofString, oneClass]
  have literal : .char '\n' ∉ returnLine (Java.stringLiteral script) := by
    simp [returnLine, Text.ofString, (Java.stringLiteral_not_mem script).1]
  rw [classSource_divided, packageLines_rows onePackage, Text.rows_append fixedImports_isPlain.1, importLines_rows,
    Text.rows_append classComment_isPlain.1, rows_single header, Text.rows_append rfl, rows_single constructorLine,
    Text.rows_append (beforeText_isPlain kind).1, rows_single literal, Text.rows_append (beforeCode_isPlain kind).1,
    Text.rows_append (sourceLine_ended _), rows_sourceLine, classFront, classBody]
  simp only [List.append_assoc]
  rfl

/-! ### Declarations -/

/-- Every line of the code but the first begins with a point. -/
theorem returnLine_head {code : Text} (breaks : BreaksBeforePoint code) {line : Text}
    (member : line ∈ Text.parts (.char '\n') (returnLine code)) : line.head? ≠ some (.char 'p') := by
  have around : BreaksBeforePoint (returnLine code) :=
    ((BreaksBeforePoint.of_not_mem (by decide)).append breaks).append (.of_not_mem (by decide))
  cases line with
  | nil => simp
  | cons c line =>
    rcases Text.begins_of_mem_parts member with ⟨rest, begins⟩ | ⟨front, back, cut, ⟨rest, rfl⟩⟩
    · have first : some c = some (.char ' ') := congrArg List.head? begins
      simp [first]
    · have point : some c = some (.char '.') := around front _ cut
      simp [point]

theorem classBody_head (className : Text) (kind : UsageKind) (script : Text) {code : Text}
    (breaks : BreaksBeforePoint code) :
    ∀ line ∈ classBody className kind script code, line.head? ≠ some (.char 'p') := by
  simp only [classBody, List.forall_mem_cons, List.forall_mem_append]
  exact ⟨by simp, by simp [constructorHeader, Text.ofString], (beforeText_isPlain kind).2,
    by simp [returnLine, Text.ofString], (beforeCode_isPlain kind).2, fun line => returnLine_head breaks,
    afterCode_isPlain.2⟩

/-- The lines that begin with `head`. -/
def linesWith (head : Text) (lines : List Text) : List Text := lines.filter (Text.startsWith · head)

theorem linesWith_append (head : Text) (s t : List Text) :
    linesWith head (s ++ t) = linesWith head s ++ linesWith head t := List.filter_append ..

theorem linesWith_cons (head line : Text) (lines : List Text) :
    linesWith head (line :: lines) = linesWith head [line] ++ linesWith head lines := linesWith_append head [line] lines

theorem linesWith_eq_nil {lines : List Text} {head : Text} {c : CodePoint} (begins : head.head? = some c)
    (apart : ∀ line ∈ lines, line.head? ≠ some c) : linesWith head lines = [] := by
  refine List.filter_eq_nil_iff.mpr fun line member found => ?_
  obtain ⟨rest, rfl⟩ := Text.startsWith_iff.mp found
  exact apart _ member (by rw [List.head?_append, begins]; rfl)

/-- A line above the header that begins with `p` is the package clause or comes from an import. -/
theorem linesWith_classFront {head : Text} (begins : head.head? = some (.char 'p')) (package : Text)
    (imports : List Text) :
    linesWith head (classFront package imports) =
      (if package = [] then [] else linesWith head [packageClause package]) ++ linesWith head (importRows imports) := by
  have blank : linesWith head [[]] = [] := linesWith_eq_nil begins (by simp)
  have clauses : linesWith head (if package = [] then [] else [packageClause package, []]) =
      if package = [] then [] else linesWith head [packageClause package] := by
    split
    · rfl
    · rw [linesWith_cons, blank, List.append_nil]
  have imported : linesWith head (if imports = [] then [] else [] :: importRows imports) =
      linesWith head (importRows imports) := by
    split
    · rename_i none
      rw [none]
      rfl
    · rw [linesWith_cons, blank, List.nil_append]
  rw [classFront, linesWith_append, linesWith_append, linesWith_append, clauses, imported,
    linesWith_eq_nil begins fixedImports_isPlain.2, linesWith_eq_nil begins classComment_isPlain.2, List.nil_append,
    List.append_nil]

/-- The lines of a class declare a package and a public class with a constructor. A class without a package has no
package clause. Imports are put into a class as they are configured, so that their lines are counted apart. -/
structure Declares (lines imports packages : List Text) (name : Text) : Prop where
  /-- The package clause comes first. Where an import does, no clause can follow. -/
  first : lines.head? =
    some (if packages = [] then ("import java.util.*;" : Text) else packageClause (Text.joinWith "." packages))
  packages : linesWith "package " lines =
    (if packages = [] then [] else [packageClause (Text.joinWith "." packages)]) ++
      linesWith "package " (importRows imports)
  classes : linesWith "public class " lines = linesWith "public class " (importRows imports) ++ [classHeader name]
  /-- The class begins with the constructor. -/
  constructor : ∃ above below, lines = above ++ classHeader name :: [] :: constructorHeader name :: below

theorem declares_classSource {packages : List Text} {name : Text}
    (proper : ∀ part ∈ packages, part ≠ [] ∧ .char '\n' ∉ part) (single : .char '\n' ∉ name) (imports : List Text)
    (kind : UsageKind) (script : Text) {code : Text} (breaks : BreaksBeforePoint code) :
    Declares (Text.rows (classSource (Text.joinWith "." packages) name imports kind script code)) imports packages
      name := by
  have onePackage : .char '\n' ∉ Text.joinWith "." packages := by
    intro member
    rcases Text.mem_of_mem_joinWith member with between | ⟨part, present, inside⟩
    · exact absurd between (by decide)
    · exact (proper part present).2 inside
  have empty : Text.joinWith "." packages = [] ↔ packages = [] := by
    constructor
    · intro joined
      cases packages with
      | nil => rfl
      | cons part packages =>
        obtain ⟨rest, begins⟩ := Text.prefix_joinWith "." part packages
        rw [joined] at begins
        exact absurd (List.append_eq_nil_iff.mp begins).1 (proper part List.mem_cons_self).1
    · rintro rfl
      rfl
  have body := classBody_head name kind script breaks
  have lines := rows_classSource onePackage single imports kind script code
  -- Behind the lines above the header only the header itself begins with `p`.
  have found : ∀ head : Text, head.head? = some (.char 'p') →
      linesWith head (Text.rows (classSource (Text.joinWith "." packages) name imports kind script code)) =
        (if packages = [] then [] else linesWith head [packageClause (Text.joinWith "." packages)]) ++
          linesWith head (importRows imports) ++ linesWith head [classHeader name] := by
    intro head begins
    rw [lines, linesWith_append, linesWith_classFront begins, linesWith_cons head (classHeader name),
      linesWith_eq_nil begins body, List.append_nil]
    simp only [empty]
  refine ⟨?_, ?_, ?_, ⟨classFront _ imports, _, lines⟩⟩
  · rw [lines, classFront]
    by_cases none : packages = []
    · rw [if_pos (empty.mpr none), if_pos none, List.nil_append, List.append_assoc, List.head?_append,
        fixedImports_first]
      rfl
    · rw [if_neg (mt empty.mp none), if_neg none]
      rfl
  · have header : linesWith "package " [classHeader name] = [] := rfl
    rw [found _ rfl, header, List.append_nil]
    rfl
  · have clauses : (if packages = [] then [] else
        linesWith "public class " [packageClause (Text.joinWith "." packages)]) = [] := by
      split <;> rfl
    rw [found _ rfl, clauses]
    rfl

/-! ### Units -/

theorem splitIdentity_eq {name last : Text} {front : List Text}
    (cut : Text.parts (.char '.') name = front ++ [last]) :
    splitIdentity name = (Text.joinWith "." front, last) := by
  have noPoint : .char '.' ∉ last := (Text.of_mem_parts (cut ▸ List.mem_append_right _ List.mem_cons_self)).1
  have whole := Text.joinWith_parts (.char '.') name
  rw [cut] at whole
  cases front with
  | nil =>
    obtain rfl : last = name := whole
    rw [splitIdentity, Text.cutLast?_eq_none_iff.mpr noPoint]
    rfl
  | cons part front =>
    rw [Text.joinWith_append _ (by simp) (by simp), List.append_assoc] at whole
    rw [splitIdentity, ← whole, List.singleton_append, Text.joinWith, Text.cutLast?_eq_some_iff.mpr ⟨rfl, noPoint⟩]
    rfl

theorem compile_names {c : Configuration} {site : Site} {n : Int} {u : GeneratedUnit}
    (compiled : compile c site n = .ok u) :
    ∃ (packages : List Text) (name : Text), Text.parts (.char '.') u.identity = packages ++ [name] ∧
      u.file = ⟨0, packages ++ [name ++ ".java"]⟩ ∧ Declares (Text.rows u.source) c.imports packages name := by
  have qualified := (identity_eq_ok.mp (compile_ok compiled).1).2.2
  obtain ⟨packages, name, cut, file⟩ := classFile_eq qualified
  obtain ⟨code, coded, source⟩ := compile_classSource compiled
  have single : ∀ part ∈ packages ++ [name], part ≠ [] ∧ .char '\n' ∉ part := by
    intro part member
    have present : part ∈ Text.parts (.char '.') u.identity := cut ▸ member
    exact ⟨(part_isFileName qualified present).1, fun feed =>
      newline_not_mem qualified ((Text.of_mem_parts present).2 _ feed)⟩
  rw [List.forall_mem_append] at single
  refine ⟨packages, name, cut, file, ?_⟩
  rw [source, splitIdentity_eq cut]
  exact declares_classSource single.1 (single.2 name List.mem_cons_self).2 _ _ _ (Script.scriptCode_breaks coded)

/-- A name that stands for one directory or file where it is put into a path. -/
def IsFileName (name : Text) : Prop :=
  name ≠ [] ∧ name ≠ "." ∧ name ≠ ".." ∧ .char '/' ∉ name ∧ .char '\\' ∉ name

theorem isFileName_of_mem_parts {name part : Text} (qualified : isQualifiedName name)
    (member : part ∈ Text.parts (.char '.') name) : IsFileName part := by
  obtain ⟨filled, noSlash, noPoint⟩ := part_isFileName qualified member
  have identifier := List.all_eq_true.mp qualified part member
  refine ⟨filled, ?_, ?_, noSlash, not_mem_of_isIdentifier identifier (by decide) (by decide)⟩
  · rintro rfl
    exact noPoint (by decide)
  · rintro rfl
    exact noPoint (by decide)

theorem resolve_join (cwd : List Text) (directory : Path) {names : List Text} (plain : (".." : Text) ∉ names) :
    (directory.join ⟨0, names⟩).resolve cwd = .absolute ((directory.resolve cwd).names ++ names) := by
  have joined : directory.join ⟨0, names⟩ = { directory with names := directory.names ++ names } := rfl
  have divided : (if directory.isAbsolute then directory.names ++ names else cwd ++ (directory.names ++ names)) =
      (if directory.isAbsolute then directory.names else cwd ++ directory.names) ++ names := by
    split
    · rfl
    · rw [List.append_assoc]
  have down := Disk.landing_of_not_mem
    (Disk.landing [] (if directory.isAbsolute then directory.names else cwd ++ directory.names)) plain
  rw [← Disk.landing_append, ← divided, ← Disk.collapse_eq_landing, ← Disk.collapse_eq_landing] at down
  rw [joined]
  exact congrArg Path.absolute down

/-- The file of a unit is named by the package and the class that its source declares. -/
theorem compile_declares {c : Configuration} {site : Site} {n : Int} {u : GeneratedUnit}
    (compiled : compile c site n = .ok u) :
    ∃ (packages : List Text) (name : Text), Text.parts (.char '.') u.identity = packages ++ [name] ∧
      (∀ part ∈ packages ++ [name], IsFileName part) ∧
      u.file.toText = Text.joinWith "/" (packages ++ [name ++ ".java"]) ∧
      (∀ (cwd : List Text) (directory : Path), (directory.join u.file).resolve cwd =
        .absolute ((directory.resolve cwd).names ++ packages ++ [name ++ ".java"])) ∧
      Declares (Text.rows u.source) c.imports packages name := by
  have qualified := (identity_eq_ok.mp (compile_ok compiled).1).2.2
  obtain ⟨packages, name, cut, file, declares⟩ := compile_names compiled
  refine ⟨packages, name, cut, ?_, ?_, ?_, declares⟩
  · intro part member
    exact isFileName_of_mem_parts qualified (cut ▸ member)
  · rw [file, Path.toText, if_neg (by simp)]
    rfl
  · intro cwd directory
    obtain ⟨front, last, file', plain⟩ := classFile_names qualified
    rw [show u.file = _ from file'] at file
    injection file with _ names
    rw [show u.file = _ from file', names, resolve_join cwd directory (names ▸ plain), List.append_assoc]

/-- A site whose owner ends in a point, so that the class is named by the marker and its number alone. -/
def pointedSite : Site := ⟨"x", .value, some "a.b.", ⟨0, []⟩, .code⟩

theorem compile_declares_pointed :
    ∃ u, compile ⟨["package q;"], []⟩ pointedSite 7 = .ok u ∧ u.file.toText = "a/b/$$Csimple7.java" ∧
      Text.parts (.char '.') u.identity = (["a", "b"] : List Text) ++ [("$$Csimple7" : Text)] ∧
      Declares (Text.rows u.source) ["package q;"] ["a", "b"] "$$Csimple7" := by
  obtain ⟨u, made, named⟩ := Option.map_eq_some_iff.mp
    (show (compile ⟨["package q;"], []⟩ pointedSite 7).toOption.map (·.identity) = some "a.b.$$Csimple7" by
      decide +kernel)
  have compiled : compile ⟨["package q;"], []⟩ pointedSite 7 = .ok u := Fallible.ok_of_toOption made
  obtain ⟨packages, name, cut, _, file, _, declares⟩ := compile_declares compiled
  have parts : Text.parts (.char '.') u.identity = (["a", "b"] : List Text) ++ [("$$Csimple7" : Text)] := by
    rw [named]
    decide
  obtain ⟨rfl, last⟩ := List.append_inj' (cut.symm.trans parts) rfl
  obtain rfl := List.cons.inj last |>.1
  exact ⟨u, compiled, file.trans (by decide), parts, declares⟩

end RouteScript
