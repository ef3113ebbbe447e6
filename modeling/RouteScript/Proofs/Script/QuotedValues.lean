import RouteScript.Proofs.Script.Layout

/-!
# What quoted literals can say

Only a backslash before the quote escapes, and nothing escapes a backslash. A literal can say every text that does
not end in a backslash, written with a backslash before each quote (`quotes_escapeQuote`), and no literal says a text
that does (`Quotes.not_endsInBackslash`): a last backslash would escape the closing quote.
-/

namespace RouteScript.Script

def EndsInBackslash (t : Text) : Prop := t.getLast? = some (.char '\\')

instance (t : Text) : Decidable (EndsInBackslash t) := inferInstanceAs (Decidable (t.getLast? = _))

def escapeQuote (quote : CodePoint) (value : Text) : Text :=
  value.flatMap fun c => if c = quote then [.char '\\', quote] else [c]

def quotedLiteral (quote : CodePoint) (value : Text) : Text := quote :: (escapeQuote quote value ++ [quote])

theorem endsInBackslash_cons_iff {c : CodePoint} {t : Text} :
    EndsInBackslash (c :: t) ↔ t = [] ∧ c = .char '\\' ∨ EndsInBackslash t := by
  cases t with
  | nil => simp [EndsInBackslash]
  | cons d t => simp [EndsInBackslash, List.getLast?_cons_cons]

theorem mark_ne_backslash {quote : CodePoint} (mark : quote = .char '\'' ∨ quote = .char '"') : quote ≠ .char '\\' := by
  rcases mark with rfl | rfl <;> decide

section Escapes

variable {quote : CodePoint}

theorem escapeQuote_ne_nil {value : Text} (filled : value ≠ []) : escapeQuote quote value ≠ [] := by
  obtain ⟨c, value, rfl⟩ := List.exists_cons_of_ne_nil filled
  rw [escapeQuote, List.flatMap_cons]
  split <;> simp

theorem quotes_escapeQuote (quote : CodePoint) {value : Text} (ends : ¬EndsInBackslash value) :
    Quotes quote value (escapeQuote quote value) := by
  induction value with
  | nil => exact .nil
  | cons c value ih =>
    rw [endsInBackslash_cons_iff, not_or] at ends
    have later : Quotes quote value (escapeQuote quote value) := ih ends.2
    rw [escapeQuote, List.flatMap_cons]
    split
    · rename_i same
      rw [same]
      exact .escaped later
    · rename_i other
      -- A backslash is not the last code point, so more of the value is written behind it.
      exact .plain other (fun backslash => escapeQuote_ne_nil fun last => ends.1 ⟨last, backslash⟩) later

theorem Quotes.eq_nil {body : Text} (quotes : Quotes quote [] body) : body = [] := by
  cases quotes
  rfl

theorem Quotes.not_endsInBackslash (mark : quote ≠ .char '\\') {value body : Text} (quotes : Quotes quote value body) :
    ¬EndsInBackslash value := by
  induction quotes with
  | nil => decide
  | escaped _ ih =>
    rw [endsInBackslash_cons_iff]
    rintro (⟨_, backslash⟩ | ends)
    · exact mark backslash
    · exact ih ends
  | plain _ continued quotes ih =>
    rw [endsInBackslash_cons_iff]
    rintro (⟨rfl, backslash⟩ | ends)
    · exact continued backslash quotes.eq_nil
    · exact ih ends

theorem readQuoted_not_endsInBackslash (mark : quote ≠ .char '\\') {t value : Text} {width : Nat}
    (read : readQuoted quote t = some (value, width)) : ¬EndsInBackslash value := by
  obtain ⟨_, _, _, quotes, _⟩ := quotes_of_readQuoted read
  exact quotes.not_endsInBackslash mark

end Escapes

/-! ### Tokens -/

theorem ofWord_ne_quoted (w value : Text) : Token.ofWord w ≠ .quoted value := by
  unfold Token.ofWord
  repeat' split
  all_goals intro same; cases same

theorem Lexed.not_endsInBackslash {piece rest value : Text} (lexed : Lexed piece rest (.quoted value)) :
    ¬EndsInBackslash value := by
  generalize same : Token.quoted value = token at lexed
  cases lexed with
  | quoted mark quotes =>
    cases same
    exact quotes.not_endsInBackslash (mark_ne_backslash mark)
  | word => exact absurd same.symm (ofWord_ne_quoted _ _)
  | _ => cases same

theorem IsRead.lexed {back : Text} {ls : List Lexeme} (read : IsRead back ls) {l : Lexeme} (member : l ∈ ls) :
    ∃ rest, Lexed l.piece rest l.token := by
  induction read with
  | nil => cases member
  | cons lexed _ _ ih =>
    rcases List.mem_cons.mp member with rfl | later
    · exact ⟨_, lexed⟩
    · exact ih later

theorem tokens_not_endsInBackslash {script value : Text} {ts : List PlacedToken} (read : tokens script = .ok ts)
    {p : PlacedToken} (member : p ∈ ts) (quoted : p.token = .quoted value) : ¬EndsInBackslash value := by
  obtain ⟨first, ls, back, _, _, isRead, outcome⟩ := tokensFrom_layout 0 script
  rcases outcome with ⟨_, done⟩ | ⟨fault, failed, _⟩
  · cases read.symm.trans done
    have listed : Token.quoted value ∈ ls.map (·.token) := by
      rw [← map_token_placed (0 + first.length), ← quoted]
      exact List.mem_map_of_mem member
    obtain ⟨l, inside, same⟩ := List.mem_map.mp listed
    obtain ⟨rest, lexed⟩ := isRead.lexed inside
    rw [same] at lexed
    exact lexed.not_endsInBackslash
  · cases read.symm.trans failed

/-! ### A literal in a script -/

theorem drop_quotedLiteral (quote : CodePoint) (value before after : Text) :
    (before ++ quotedLiteral quote value ++ after).drop (before.length + 1) = escapeQuote quote value ++ quote :: after := by
  rw [List.append_assoc, List.drop_length_add_append, quotedLiteral]
  simp

/-- Literals say the texts that do not end in a backslash, and no others. -/
theorem quotedLiteral_values {quote : CodePoint} (mark : quote = .char '\'' ∨ quote = .char '"') (value : Text) :
    (¬EndsInBackslash value → ∀ before after : Text,
      let behind := (before ++ quotedLiteral quote value ++ after).drop (before.length + 1)
      (∃ width, readQuoted quote behind = some (value, width) ∧
        before.length + 1 + width = (before ++ quotedLiteral quote value).length) ∧
      nextToken before.length quote behind = .ok (.quoted value, (quotedLiteral quote value).length)) ∧
    (∀ t width, readQuoted quote t = some (value, width) → ¬EndsInBackslash value) ∧
    ∀ script ts, tokens script = .ok ts → (∃ p ∈ ts, p.token = .quoted value) → ¬EndsInBackslash value := by
  have noBackslash := mark_ne_backslash mark
  refine ⟨?_, fun t width read => readQuoted_not_endsInBackslash noBackslash read, ?_⟩
  · intro ends before after
    have quotes := quotes_escapeQuote quote ends
    have lexed : Lexed (quotedLiteral quote value) after (.quoted value) := .quoted mark quotes
    rw [drop_quotedLiteral]
    refine ⟨⟨(escapeQuote quote value).length + 1, readQuoted_of_quotes noBackslash quotes after, ?_⟩, ?_⟩
    · simp only [quotedLiteral, List.length_append, List.length_cons, List.length_nil]
      omega
    · exact lexed.nextToken_eq before.length (by simp [quotedLiteral])
  · rintro script ts read ⟨p, member, quoted⟩
    exact tokens_not_endsInBackslash read member quoted

/-- Backslashes of the value in front of a quote are kept apart from the one that escapes it. -/
theorem quotedLiteral_values_backslashes :
    let script : Text := "x == 'a\\\\\\'' y'"
    let value : Text := "a\\\\'"
    ((∃ width, readQuoted (.char '\'') (script.drop 6) = some (value, width) ∧ 6 + width = 12) ∧
      nextToken 5 (.char '\'') (script.drop 6) = .ok (.quoted value, 7)) ∧
    tokens "'a\\\\\\''" = .ok [⟨.quoted value, 0, 7⟩] ∧ ¬EndsInBackslash value := by
  obtain ⟨written, _, listed⟩ := @quotedLiteral_values (.char '\'') (Or.inl rfl) "a\\\\'"
  have read : tokens "'a\\\\\\''" = .ok [⟨.quoted "a\\\\'", 0, 7⟩] := Fallible.ok_of_toOption (by decide +kernel)
  have ends := listed _ _ read ⟨_, List.mem_singleton_self _, rfl⟩
  exact ⟨written ends "x == " " y'", read, ends⟩

end RouteScript.Script
