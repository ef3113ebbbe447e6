import Mathlib.Data.List.Infix
import RouteScript.Proofs.Java.LiteralText
import RouteScript.Proofs.Script.CodeLines
import RouteScript.Proofs.Text.Parts
import RouteScript.Proofs.Unit.Compilation

/-!
# The script in its class

The class of a script returns the text of the script from one of its methods. `textLiteral?` finds the literal
in the source of a class, and its value is the script with its aliases expanded (`stringLiteral_read_back`).
-/

namespace RouteScript

open Script (BreaksBeforePoint)

/-- The first line of the method that returns the script. -/
def textMethod : Text := "    public String getText() \x7b"

/-- The line behind the last one that is `head`. -/
def lineBehindLast (head : Text) : List Text → Option Text
  | [] => none
  | line :: rest => lineBehindLast head rest <|> if line = head then rest.head? else none

/-- The literal that a class returns as the text of its script: it stands between `return` and `;` on the line
behind the last line that begins the method. -/
def textLiteral? (source : Text) : Option Text := do
  let line ← lineBehindLast textMethod (Text.parts (.char '\n') source)
  let value ← Text.after? "        return " line
  if value.getLast? = some (.char ';') then some value.dropLast else none

theorem lineBehindLast_eq_none {head : Text} {lines : List Text} (absent : head ∉ lines) :
    lineBehindLast head lines = none := by
  induction lines with
  | nil => rfl
  | cons line lines ih =>
    rw [List.mem_cons, not_or] at absent
    rw [lineBehindLast, ih absent.2, if_neg (Ne.symm absent.1)]
    rfl

theorem lineBehindLast_append {head next : Text} (front : List Text) {back : List Text}
    (last : head ∉ next :: back) : lineBehindLast head (front ++ head :: next :: back) = some next := by
  induction front with
  | nil =>
    rw [List.nil_append, lineBehindLast, lineBehindLast_eq_none last, if_pos rfl]
    rfl
  | cons line front ih =>
    rw [List.cons_append, lineBehindLast, ih]
    rfl

/-! ### The source of a class -/

def returnLine (value : Text) : Text := "        return " ++ value ++ ";"

/-- The source of a class behind the literal. -/
def sourceEnd (kind : UsageKind) (code : Text) : Text :=
  "    \x7d\n" ++ "\n" ++ evaluation kind code ++ "\x7d\n"

theorem textMethod_not_prefix_returnLine (value : Text) : ¬textMethod <+: returnLine value := by
  rintro ⟨rest, same⟩
  have five : ("    p" : Text) = "     " := congrArg (List.take 5) same
  exact absurd five (by decide)

theorem classSource_text (package className : Text) (imports : List Text) (kind : UsageKind) (script code : Text) :
    ∃ front, classSource package className imports kind script code = front ++ .char '\n' ::
      (textMethod ++ .char '\n' :: (returnLine (Java.stringLiteral script) ++ .char '\n' :: sourceEnd kind code)) := by
  have divided : ∃ before, classSource package className imports kind script code =
      before ++ "    @Override\n" ++ "    public String getText() \x7b\n" ++
        sourceLine (returnLine (Java.stringLiteral script)) ++
        "    \x7d\n" ++ "\n" ++ evaluation kind code ++ "\x7d\n" := ⟨_, rfl⟩
  obtain ⟨before, whole⟩ := divided
  have override : ("    @Override\n" : Text) = ("    @Override" : Text) ++ [CodePoint.char '\n'] := by decide
  have method : ("    public String getText() \x7b\n" : Text) = textMethod ++ [.char '\n'] := by decide
  have feed : ("\n" : Text) = [.char '\n'] := rfl
  refine ⟨before ++ "    @Override", ?_⟩
  rw [whole, override, method]
  simp only [sourceLine, sourceEnd, feed, List.append_assoc, List.cons_append, List.nil_append]

/-- Behind the literal stands the line that returns the code, among lines that are the same in every class. -/
theorem sourceEnd_code (kind : UsageKind) (code : Text) :
    ∃ before after : Text, sourceEnd kind code = before ++ .char '\n' :: (returnLine code ++ .char '\n' :: after) ∧
      textMethod ∉ Text.parts (.char '\n') before ∧ textMethod ∉ Text.parts (.char '\n') after := by
  have feed : ("\n" : Text) = [.char '\n'] := rfl
  cases kind with
  | predicate =>
    refine ⟨"    \x7d\n" ++ "\n" ++ "    @Override\n" ++ ("    public " ++ "boolean matches" ++ parameters ++ " \x7b"),
      "    \x7d\n" ++ "\x7d\n", ?_, by decide +kernel, by decide +kernel⟩
    simp only [sourceEnd, evaluation, returnLine, sourceLine, feed, List.append_assoc, List.cons_append,
      List.nil_append]
  | value =>
    refine ⟨"    \x7d\n" ++ "\n" ++ "    @Override\n" ++ ("    public " ++ "Object evaluate" ++ parameters ++ " \x7b"),
      "    \x7d\n" ++ "\x7d\n", ?_, by decide +kernel, by decide +kernel⟩
    simp only [sourceEnd, evaluation, returnLine, sourceLine, feed, List.append_assoc, List.cons_append,
      List.nil_append]

/-- No line behind the literal begins the method again: those of the code begin with `return` or a point. -/
theorem textMethod_not_mem_sourceEnd (kind : UsageKind) {code : Text} (breaks : BreaksBeforePoint code) :
    textMethod ∉ Text.parts (.char '\n') (sourceEnd kind code) := by
  obtain ⟨before, after, divided, above, below⟩ := sourceEnd_code kind code
  rw [divided, Text.parts_append_sep, Text.parts_append_sep]
  simp only [List.mem_append, not_or]
  refine ⟨above, ?_, below⟩
  intro member
  rcases Text.begins_of_mem_parts member with begins | ⟨front, back, cut, ⟨rest, rfl⟩⟩
  · exact textMethod_not_prefix_returnLine code begins
  · have around : BreaksBeforePoint (returnLine code) :=
      ((BreaksBeforePoint.of_not_mem (by decide)).append breaks).append (.of_not_mem (by decide))
    have point : some (CodePoint.char ' ') = some (.char '.') := around front _ cut
    exact absurd point (by decide)

theorem textLiteral?_classSource (package className : Text) (imports : List Text) (kind : UsageKind) (script : Text)
    {code : Text} (breaks : BreaksBeforePoint code) :
    textLiteral? (classSource package className imports kind script code) = some (Java.stringLiteral script) := by
  obtain ⟨front, whole⟩ := classSource_text package className imports kind script code
  have single : .char '\n' ∉ returnLine (Java.stringLiteral script) := by
    have literal := (Java.stringLiteral_not_mem script).1
    simp [returnLine, Text.ofString, literal]
  have last : textMethod ∉ returnLine (Java.stringLiteral script) :: Text.parts (.char '\n') (sourceEnd kind code) := by
    rw [List.mem_cons, not_or]
    refine ⟨?_, textMethod_not_mem_sourceEnd kind breaks⟩
    intro same
    exact textMethod_not_prefix_returnLine _ ⟨[], by rw [List.append_nil, same]⟩
  have lines : Text.parts (.char '\n') (classSource package className imports kind script code) =
      Text.parts (.char '\n') front ++
        textMethod :: returnLine (Java.stringLiteral script) :: Text.parts (.char '\n') (sourceEnd kind code) := by
    rw [whole, Text.parts_append_sep, Text.parts_append_cons (by decide), Text.parts_append_cons single]
  have value : Text.after? "        return " (returnLine (Java.stringLiteral script)) =
      some (Java.stringLiteral script ++ [.char ';']) := by
    rw [Text.after?, List.isPrefixOf?_eq_some_iff_append_eq, returnLine, List.append_assoc]
    rfl
  rw [textLiteral?, lines, lineBehindLast_append _ last, Option.bind_eq_bind, Option.bind_some, value,
    Option.bind_some, List.getLast?_concat, if_pos rfl, List.dropLast_concat]

/-! ### Units -/

theorem compile_source {c : Configuration} {site : Site} {n : Int} {u : GeneratedUnit}
    (compiled : compile c site n = .ok u) :
    ∃ package className code, scriptCode site.kind (Alias.expand c.aliases site.script) = .ok code ∧
      u.source = classSource package className c.imports site.kind (Alias.expand c.aliases site.script) code := by
  obtain ⟨code, coded, source⟩ := compile_classSource compiled
  exact ⟨_, _, code, coded, source⟩

/-- The literal in the class of a script has the expanded script as its value. -/
theorem stringLiteral_read_back :
    (∀ t : Text, Java.literalValue (Java.stringLiteral t) = t ∧ Java.IsOrdinary (Java.stringLiteral t) ∧
      Text.startsWith (Java.stringLiteral t) "\"\"\"" = false ∧
      .char '\n' ∉ Java.stringLiteral t ∧ .char '\r' ∉ Java.stringLiteral t) ∧
    ∀ (c : Configuration) (site : Site) (n : Int) (u : GeneratedUnit), compile c site n = .ok u →
      ∃ literal, textLiteral? u.source = some literal ∧
        Java.literalValue literal = Alias.expand c.aliases site.script := by
  constructor
  · intro t
    exact ⟨Java.literalValue_stringLiteral t, Java.stringLiteral_isOrdinary t, Java.stringLiteral_not_textBlock t,
      Java.stringLiteral_not_mem t⟩
  · intro c site n u compiled
    obtain ⟨package, className, code, coded, source⟩ := compile_source compiled
    refine ⟨Java.stringLiteral (Alias.expand c.aliases site.script), ?_, Java.literalValue_stringLiteral _⟩
    rw [source]
    exact textLiteral?_classSource _ _ _ _ _ (Script.scriptCode_breaks coded)

/-- A speech with quotes, escapes spelled out, a line end and a lone surrogate. -/
def hostileSpeech : Text := (" says \"\\u0041\\101\"\n" : Text) ++ [CodePoint.surrogate 0]

def hostileSite : Site := ⟨("who" : Text) ++ hostileSpeech, .value, none, ⟨0, []⟩, .document⟩

/-- One of the imports looks like the method that returns the script. -/
def hostileConfiguration : Configuration :=
  ⟨["import a;\n    public String getText() \x7b\n        return \"b\";"], [("who", "$\x7bbody\x7d")]⟩

theorem stringLiteral_read_back_hostile :
    ∃ u literal, compile hostileConfiguration hostileSite 1 = .ok u ∧ textLiteral? u.source = some literal ∧
      Java.literalValue literal = ("$\x7bbody\x7d" : Text) ++ hostileSpeech := by
  obtain ⟨u, made⟩ := Option.isSome_iff_exists.mp
    (show (compile hostileConfiguration hostileSite 1).toOption.isSome by decide +kernel)
  have compiled : compile hostileConfiguration hostileSite 1 = .ok u := Fallible.ok_of_toOption made
  obtain ⟨literal, found, value⟩ := stringLiteral_read_back.2 _ _ _ _ compiled
  have expanded : Alias.expand hostileConfiguration.aliases hostileSite.script =
      ("$\x7bbody\x7d" : Text) ++ hostileSpeech := by decide +kernel
  exact ⟨u, literal, compiled, found, value.trans expanded⟩

end RouteScript
