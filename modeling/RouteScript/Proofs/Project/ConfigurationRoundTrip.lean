import Mathlib.Data.List.Nodup
import RouteScript.Proofs.Project.ConfigurationLines
import RouteScript.Proofs.Text.Encoding
import RouteScript.Proofs.Text.Lines
import RouteScript.Proofs.Text.Order
import RouteScript.Proofs.Text.Parts

/-!
# Writing and reading a configuration

A configuration file is written row by row: a row for each import and each alias, in any order, with comments and
blank rows between them, imports repeated, and rows that a later row for the same key overrides. `load_written` says
that reading the file gives back the configuration that it was written for.
-/

namespace RouteScript.Configuration

/-! ### Rows -/

/-- Can stand on one line, and has no blanks at its edges. -/
def IsEntry (t : Text) : Prop := Text.strip t = t ∧ ∀ c ∈ t, ¬c.isLineBreak

instance (t : Text) : Decidable (IsEntry t) :=
  inferInstanceAs (Decidable (Text.strip t = t ∧ ∀ c ∈ t, ¬c.isLineBreak))

/-- An alias as it is written. Blanks may stand on both sides of the equals sign, only that what stands before it
must not look like an import. -/
structure WrittenAlias where
  key : Text
  beforeEquals : Text := []
  afterEquals : Text := []
  value : Text
  keyEntry : IsEntry key := by decide
  valueEntry : IsEntry value := by decide
  keyFilled : key ≠ [] := by decide
  valueFilled : value ≠ [] := by decide
  beforeGap : Text.IsGap beforeEquals := by decide
  afterGap : Text.IsGap afterEquals := by decide
  noEquals : .char '=' ∉ key := by decide
  noComment : ¬Text.startsWith key "#" := by decide
  noImport : ¬Text.startsWith (key ++ beforeEquals) "import " := by decide

def WrittenAlias.text (a : WrittenAlias) : Text :=
  a.key ++ a.beforeEquals ++ .char '=' :: (a.afterEquals ++ a.value)

/-- What a row is written for. -/
inductive Item where
  | importing (statement : Text) (entry : IsEntry statement := by decide)
      (marked : Text.startsWith statement "import " := by decide)
  | aliasing (a : WrittenAlias)
  | comment (t : Text) (one : ∀ c ∈ t, ¬c.isLineBreak := by decide)
  | blank

def Item.text : Item → Text
  | .importing statement _ _ => statement
  | .aliasing a => a.text
  | .comment t _ => .char '#' :: t
  | .blank => []

def Item.line : Item → Line
  | .importing statement _ _ => .importing statement
  | .aliasing a => .aliasing a.key a.value
  | .comment _ _ | .blank => .nothing

/-- An item with blanks around it. -/
structure Row where
  before : Text := []
  item : Item
  after : Text := []
  beforeGap : Text.IsGap before := by decide
  afterGap : Text.IsGap after := by decide

def Row.content (r : Row) : Text := r.before ++ r.item.text ++ r.after

/-- The text of rows that each have an end, and of a last one that has none. -/
def written (rows : List (Row × { e : Text // Text.IsLineEnd e })) (last : Row) : Text :=
  rows.flatMap (fun x => x.1.content ++ x.2.1) ++ last.content

theorem Item.text_one (i : Item) : ∀ c ∈ i.text, ¬c.isLineBreak := by
  cases i with
  | importing statement entry marked => exact entry.2
  | aliasing a =>
    simp only [Item.text, WrittenAlias.text, List.mem_append, List.mem_cons]
    rintro c ((member | member) | rfl | member | member)
    · exact a.keyEntry.2 c member
    · exact (a.beforeGap c member).2
    · decide
    · exact (a.afterGap c member).2
    · exact a.valueEntry.2 c member
  | comment t one =>
    simp only [Item.text, List.mem_cons]
    rintro c (rfl | member)
    · decide
    · exact one c member
  | blank => simp [Item.text]

theorem Row.content_one (r : Row) : ∀ c ∈ r.content, ¬c.isLineBreak := by
  simp only [Row.content, List.mem_append]
  rintro c ((member | member) | member)
  · exact (r.beforeGap c member).2
  · exact r.item.text_one c member
  · exact (r.afterGap c member).2

theorem filledLines_written (rows : List (Row × { e : Text // Text.IsLineEnd e })) (last : Row) :
    Text.filledLines (written rows last) = ((rows.map (·.1) ++ [last]).map Row.content).filter (· ≠ []) := by
  have alone : ∀ r : Row, Text.filledLines r.content = [r.content].filter (· ≠ []) := by
    intro r
    rw [Text.filledLines_of_one r.content_one]
    split <;> simp_all
  induction rows with
  | nil => exact alone last
  | cons x rows ih =>
    have step := Text.filledLines_append x.1.content_one x.2.2 (written rows last)
    have cut : written (x :: rows) last = x.1.content ++ x.2.1 ++ written rows last := by
      simp [written]
    rw [cut, step, ih, alone x.1, ← List.filter_append]
    rfl

/-! ### Reading a row -/

/-- An alias is not taken for an import, since the mark of an import does not reach beyond the equals sign. -/
theorem WrittenAlias.not_marked (a : WrittenAlias) : ¬Text.startsWith a.text "import " := by
  have noSign : .char '=' ∉ ("import " : Text) := by decide
  rw [Text.startsWith_iff]
  intro marked
  have sign : a.key ++ a.beforeEquals ++ [.char '='] <+: a.text := by simp [WrittenAlias.text]
  rcases List.prefix_or_prefix_of_prefix marked sign with shorter | longer
  · rcases List.prefix_concat_iff.mp shorter with same | before
    · exact noSign (by rw [same]; simp)
    · exact a.noImport (Text.startsWith_iff.mpr before)
  · exact noSign (longer.subset (by simp))

theorem WrittenAlias.not_comment (a : WrittenAlias) : ¬Text.startsWith a.text "#" := by
  rw [Text.startsWith_iff]
  intro comment
  have key : a.key <+: a.text := by simp [WrittenAlias.text]
  have short : ("#" : Text).length ≤ a.key.length := List.length_pos_iff.mpr a.keyFilled
  exact a.noComment (Text.startsWith_iff.mpr (List.prefix_of_prefix_length_le comment key short))

theorem Line.ofText_alias (a : WrittenAlias) {before after : Text} (gap : Text.IsGap before) (gap' : Text.IsGap after) :
    Line.ofText (before ++ a.text ++ after) = .aliasing a.key a.value := by
  obtain ⟨⟨c, rest, first, visible⟩, _⟩ := Text.edges_of_strip a.keyEntry.1 a.keyFilled
  obtain ⟨_, front, x, last, visible'⟩ := Text.edges_of_strip a.valueEntry.1 a.valueFilled
  have stripped : Text.strip (before ++ a.text ++ after) = a.text := by
    have begins : a.text = c :: (rest ++ a.beforeEquals ++ .char '=' :: (a.afterEquals ++ a.value)) := by
      simp [WrittenAlias.text, first]
    have ends : a.text = a.key ++ a.beforeEquals ++ .char '=' :: (a.afterEquals ++ front) ++ [x] := by
      simp [WrittenAlias.text, last]
    exact Text.strip_of_edges gap.blanks gap'.blanks begins visible ends visible'
  have noSign : .char '=' ∉ a.key ++ a.beforeEquals := by
    rw [List.mem_append]
    rintro (member | member)
    · exact a.noEquals member
    · exact absurd (a.beforeGap _ member).1 (by decide)
  have cut : Text.cutFirst? (.char '=') a.text = some (a.key ++ a.beforeEquals, a.afterEquals ++ a.value) :=
    Text.cutFirst?_append noSign _
  have key : Text.strip (a.key ++ a.beforeEquals) = a.key := by
    simpa using Text.strip_between (s := []) (by simp) a.keyEntry.1 a.beforeGap.blanks
  have value : Text.strip (a.afterEquals ++ a.value) = a.value := by
    simpa using Text.strip_between (u := []) a.afterGap.blanks a.valueEntry.1 (by simp)
  rw [Line.ofText, stripped]
  dsimp only
  rw [if_neg a.not_comment, if_neg a.not_marked, cut]
  simp only [key, value, a.keyFilled, a.valueFilled, or_self, if_false]

theorem Line.ofText_content (r : Row) : Line.ofText r.content = r.item.line := by
  obtain ⟨before, item, after, gap, gap'⟩ := r
  cases item with
  | importing statement entry marked =>
    have stripped := Text.strip_between gap.blanks entry.1 gap'.blanks
    have noComment : ¬Text.startsWith statement "#" := by
      intro comment
      have mark := List.prefix_of_prefix_length_le (Text.startsWith_iff.mp comment) (Text.startsWith_iff.mp marked)
        (by decide)
      exact absurd mark (by decide)
    rw [Row.content, Item.text, Line.ofText, stripped]
    dsimp only
    rw [if_neg noComment, if_pos marked]
    rfl
  | aliasing a => exact Line.ofText_alias a gap gap'
  | comment t one =>
    have stripped : Text.strip (before ++ .char '#' :: t ++ after) = .char '#' :: Text.stripRight (t ++ after) := by
      rw [Text.strip, List.append_assoc, Text.stripLeft_append gap.blanks, List.cons_append,
        Text.stripLeft_cons (by decide), Text.stripRight_cons (by decide)]
    rw [Row.content, Item.text, Line.ofText, stripped]
    rfl
  | blank =>
    have stripped := Text.strip_between gap.blanks (t := []) rfl gap'.blanks
    rw [Row.content, Item.text, Line.ofText, stripped]
    rfl

/-! ### The whole file -/

/-- Where no key repeats, an alias is listed exactly when it is found. -/
theorem mem_iff_lookup {aliases : List Alias} (distinct : (aliases.map (·.1)).Nodup) {key value : Text} :
    (key, value) ∈ aliases ↔ aliases.lookup key = some value := by
  induction aliases with
  | nil => simp
  | cons a aliases ih =>
    obtain ⟨k, v⟩ := a
    obtain ⟨fresh, distinct⟩ := List.nodup_cons.mp distinct
    rw [List.lookup_cons]
    by_cases here : key = k
    · subst here
      have later : (key, value) ∉ aliases := fun member => fresh (List.mem_map.mpr ⟨_, member, rfl⟩)
      simp [later, eq_comm]
    · have passed : (key == k) = false := beq_false_of_ne here
      simp [here, passed, ih distinct]

theorem perm_of_lookup {aliases aliases' : List Alias} (distinct : (aliases.map (·.1)).Nodup)
    (distinct' : (aliases'.map (·.1)).Nodup) (same : ∀ key, aliases.lookup key = aliases'.lookup key) :
    aliases.Perm aliases' := by
  refine (List.perm_ext_iff_of_nodup (List.Nodup.of_map _ distinct) (List.Nodup.of_map _ distinct')).mpr ?_
  rintro ⟨key, value⟩
  rw [mem_iff_lookup distinct, mem_iff_lookup distinct', same key]

/-- Reading a file gives back the configuration that it was written for. -/
theorem load_written (c : Configuration) (ordered : c.imports.Pairwise Text.Before)
    (distinct : (c.aliases.map (·.1)).Nodup) (rows : List (Row × { e : Text // Text.IsLineEnd e })) (last : Row)
    (imports : ∀ statement, statement ∈ (rows.map (·.1) ++ [last]).filterMap (·.item.line.statement?) ↔
      statement ∈ c.imports)
    (aliases : ∀ key, ((rows.map (·.1) ++ [last]).filterMap (·.item.line.valueFor? key)).getLast? =
      c.aliases.lookup key)
    {d : Disk} {cwd : List Text} {path : Path} {bytes : Bytes} (encoded : (written rows last).toUtf8 = .ok bytes)
    (read : d.read cwd path = .ok bytes) :
    ∃ found, load d cwd path = .ok ⟨c.imports, found⟩ ∧ found.Perm c.aliases := by
  let lines := (rows.map (·.1) ++ [last]).map (·.item.line)
  have folded : ((Text.lines (Text.unifyNewlines (written rows last))).map Line.ofText).foldl addLine ⟨[], []⟩ =
      lines.foldl addLine ⟨[], []⟩ := by
    have filled := filledLines_written rows last
    rw [← foldl_filter, ← Text.filledLines, filled, foldl_filter, List.map_map]
    congr 1
    exact List.map_congr_left fun r _ => Line.ofText_content r
  have statements : Text.sortDistinct (lines.foldl addLine ⟨[], []⟩).imports = c.imports := by
    refine Text.sortDistinct_eq ordered fun statement => ?_
    rw [imports_foldl, List.nil_append, List.filterMap_map]
    exact imports statement
  refine ⟨(lines.foldl addLine ⟨[], []⟩).aliases, ?_, ?_⟩
  · rw [load_of_read read (decodeUtf8_toUtf8 encoded), ofText, folded]
    exact congrArg (fun x => Except.ok (Configuration.mk x _)) statements
  · refine perm_of_lookup (keys_foldl _ lines (by simp)) distinct fun key => ?_
    rw [lookup_foldl, List.filterMap_map]
    exact Option.or_none.trans (aliases key)

/-- A file with line ends of every kind, a comment, a blank row, a repeated import, a value that a later row overrides,
a key that is the word `import`, and a value that holds an equals sign. -/
def mixedRows : List (Row × { e : Text // Text.IsLineEnd e }) :=
  [({ item := .comment " import c.D;" }, ⟨"\n", Or.inr ⟨.char '\n', by decide, rfl⟩⟩),
    ({ before := "  ", item := .importing "import a.B;", after := "\t" }, ⟨"\r\n", Or.inl rfl⟩),
    ({ item := .aliasing { key := "k", value := "old" } }, ⟨"\u2028", Or.inr ⟨.char '\u2028', by decide, rfl⟩⟩),
    ({ item := .importing "import a.B;" }, ⟨"\r", Or.inr ⟨.char '\r', by decide, rfl⟩⟩),
    ({ item := .blank }, ⟨"\n", Or.inr ⟨.char '\n', by decide, rfl⟩⟩),
    ({ item := .aliasing { key := "import", value := "x" } }, ⟨"\x0c", Or.inr ⟨.char '\x0c', by decide, rfl⟩⟩)]

def mixedLast : Row := { item := .aliasing { key := "k", beforeEquals := " ", value := "new=1" } }

theorem load_written_mixed :
    written mixedRows mixedLast =
        "# import c.D;\n  import a.B;\t\r\nk=old\u2028import a.B;\r\nimport=x\x0ck =new=1" ∧
      ∃ bytes found, (written mixedRows mixedLast).toUtf8 = .ok bytes ∧
        load ⟨[(["c"], .file bytes)]⟩ [] (.absolute ["c"]) = .ok ⟨["import a.B;"], found⟩ ∧
        found.Perm [("import", "x"), ("k", "new=1")] := by
  have same : written mixedRows mixedLast =
      "# import c.D;\n  import a.B;\t\r\nk=old\u2028import a.B;\r\nimport=x\x0ck =new=1" := by decide +kernel
  obtain ⟨bytes, made⟩ := Option.isSome_iff_exists.mp
    (show (written mixedRows mixedLast).toUtf8.toOption.isSome by decide +kernel)
  have encoded : (written mixedRows mixedLast).toUtf8 = .ok bytes := Fallible.ok_of_toOption made
  have read : Disk.read ⟨[(["c"], .file bytes)]⟩ [] (.absolute ["c"]) = .ok bytes := rfl
  have aliases : ∀ key, ((mixedRows.map (·.1) ++ [mixedLast]).filterMap (·.item.line.valueFor? key)).getLast? =
      List.lookup key [(("import" : Text), ("x" : Text)), ("k", "new=1")] := by
    intro key
    by_cases first : ("k" : Text) = key
    · subst first
      rfl
    · by_cases second : ("import" : Text) = key
      · subst second
        rfl
      · have missing : List.lookup key [(("import" : Text), ("x" : Text)), ("k", "new=1")] = none := by
          refine List.lookup_eq_none_iff.mpr ?_
          simp [Ne.symm first, Ne.symm second]
        simp [mixedRows, mixedLast, Item.line, Line.valueFor?, first, second, missing]
  obtain ⟨found, loaded, perm⟩ := load_written ⟨["import a.B;"], [("import", "x"), ("k", "new=1")]⟩ (by simp)
    (by decide) mixedRows mixedLast (by simp [mixedRows, mixedLast, Item.line, Line.statement?]) aliases encoded read
  exact ⟨same, bytes, found, encoded, loaded, perm⟩

end RouteScript.Configuration
