import Mathlib.Tactic.SplitIfs
import Preferences.Toml.Lexeme
import Preferences.Toml.Printer

/-!
# TOML strings are read back

A string is written in one of five forms, and in each of them it is read back, whatever follows it
that is no quote and no apostrophe.
-/

namespace Preferences.Toml

/-! ### Single characters -/

theorem isPrintable_of_isControl {c : Char} (h : isControl c = false) :
    isPrintable c = true ∨ c = '\n' := by
  unfold isControl at h
  simp only [Bool.or_eq_false_iff, Bool.and_eq_false_iff, decide_eq_false_iff_not, bne_eq_false_iff_eq,
    beq_eq_false_iff_ne] at h
  obtain ⟨⟨hlow | rfl⟩ | rfl, hdelete⟩ := h
  · refine .inl ?_
    unfold isPrintable
    rw [decide_eq_true (Nat.not_lt.1 hlow), bne_iff_ne.2 hdelete, Bool.and_self, Bool.or_true]
  · exact .inl rfl
  · exact .inr rfl

theorem toNat_le_of_isControl {c : Char} (h : isControl c = true) : c.toNat ≤ 127 := by
  unfold isControl at h
  simp only [Bool.or_eq_true, Bool.and_eq_true, decide_eq_true_eq, beq_iff_eq] at h
  omega

theorem ne_return_of_isControl {c : Char} (h : isControl c = false) : c ≠ '\r' := by
  rintro rfl
  cases h

theorem hexScalar?_control : ∀ n < 128,
    hexScalar? ['0', '0', upperHexChar (n / 16), upperHexChar (n % 16)] = some (Char.ofNat n) := by
  decide

/-- What the readers of quoted strings have in common. -/
structure ReadsEscapes (read : Scan (List Char)) : Prop where
  unescape : ∀ {c x : Char}, unescape? c = some x → ∀ rest,
    read ('\\' :: c :: rest) = prepend x (read rest)
  scalar : ∀ {a b c d x : Char}, hexScalar? [a, b, c, d] = some x → ∀ rest,
    read ('\\' :: 'u' :: a :: b :: c :: d :: rest) = prepend x (read rest)
  plain : ∀ {c : Char}, c ≠ '"' → c ≠ '\\' → isControl c = false → c ≠ '\n' → ∀ rest,
    read (c :: rest) = prepend c (read rest)

theorem ReadsEscapes.escapeControl {read : Scan (List Char)} (h : ReadsEscapes read) {c : Char}
    (hc : isControl c = true ∨ c = '\t' ∨ c = '\n') (rest : List Char) :
    read (escapeControl c ++ rest) = prepend c (read rest) := by
  unfold Toml.escapeControl
  split_ifs
  any_goals
    subst_vars
    exact h.unescape rfl rest
  rename_i htab hline _ _
  have hcontrol : isControl c = true := by
    rcases hc with hc | rfl | rfl
    · exact hc
    · exact absurd rfl htab
    · exact absurd rfl hline
  have hscalar := hexScalar?_control c.toNat (Nat.lt_succ_of_le (toNat_le_of_isControl hcontrol))
  rw [Char.ofNat_toNat] at hscalar
  exact h.scalar hscalar rest

theorem ReadsEscapes.escape {read : Scan (List Char)} (h : ReadsEscapes read) (c : Char)
    (rest : List Char) : read (escape c ++ rest) = prepend c (read rest) := by
  unfold Toml.escape
  split_ifs with hquote hslash hcontrol
  · subst hquote
    exact h.unescape rfl rest
  · subst hslash
    exact h.unescape rfl rest
  · exact h.escapeControl hcontrol rest
  · obtain ⟨hcontrol, -, hline⟩ := not_or.1 hcontrol |>.imp_right not_or.1
    exact h.plain hquote hslash (Bool.eq_false_iff.2 hcontrol) hline rest

theorem ne_hex_of_unescape? {c x : Char} (h : unescape? c = some x) : c ≠ 'u' ∧ c ≠ 'U' := by
  constructor
  · rintro rfl
    cases h
  · rintro rfl
    cases h

theorem readsEscapes_quotedBody : ReadsEscapes quotedBody where
  unescape := by
    intro c x h rest
    obtain ⟨hsmall, hlarge⟩ := ne_hex_of_unescape? h
    rw [quotedBody.eq_5, h]
    · exact fun _ _ _ _ _ hc => absurd hc hsmall
    · exact fun _ _ _ _ _ _ _ _ _ hc => absurd hc hlarge
  scalar := by
    intro a b c d x h rest
    rw [quotedBody, h]
  plain := by
    intro c hquote hslash hcontrol hline rest
    rw [quotedBody.eq_6, if_pos ((isPrintable_of_isControl hcontrol).resolve_right hline)]
    · exact hquote
    · exact fun _ _ _ _ _ hc => absurd hc hslash
    · exact fun _ _ _ _ _ _ _ _ _ hc => absurd hc hslash
    · exact fun _ _ hc => absurd hc hslash

theorem quotedLinesBody_cons {c : Char} {rest : List Char} (hslash : c ≠ '\\')
    (hcontrol : isControl c = false) (hquotes : c = '"' → ∀ more, rest ≠ '"' :: '"' :: more) :
    quotedLinesBody false (c :: rest) = prepend c (quotedLinesBody false rest) := by
  rw [quotedLinesBody.eq_10, if_neg (by rintro ⟨⟨⟩, -⟩), if_pos (isPrintable_of_isControl hcontrol)]
  · exact fun _ hc => hquotes hc _
  · exact fun _ hc => hquotes hc _
  · exact fun _ hc => hquotes hc _
  · exact fun _ hc => hquotes hc _
  · exact fun _ _ _ _ _ hc => absurd hc hslash
  · exact fun _ _ _ _ _ _ _ _ _ hc => absurd hc hslash
  · exact fun _ _ hc => absurd hc hslash
  · exact fun _ hc => absurd hc (ne_return_of_isControl hcontrol)

theorem readsEscapes_quotedLinesBody : ReadsEscapes (quotedLinesBody false) where
  unescape := by
    intro c x h rest
    obtain ⟨hsmall, hlarge⟩ := ne_hex_of_unescape? h
    rw [quotedLinesBody.eq_8, h]
    · exact fun _ _ _ _ _ hc => absurd hc hsmall
    · exact fun _ _ _ _ _ _ _ _ _ hc => absurd hc hlarge
  scalar := by
    intro a b c d x h rest
    rw [quotedLinesBody, h]
  plain := fun hquote hslash hcontrol _ _ =>
    quotedLinesBody_cons hslash hcontrol fun hc => absurd hc hquote

/-! ### Between single delimiters -/

theorem quotedBody_flatMap (cs rest : List Char) :
    quotedBody (cs.flatMap escape ++ '"' :: rest) = some (cs, rest) := by
  induction cs with
  | nil => rfl
  | cons c cs ih =>
    rw [List.flatMap_cons, List.append_assoc, readsEscapes_quotedBody.escape, ih]
    rfl

def IsLiteral (cs : List Char) : Prop := ∀ c ∈ cs, isPrintable c = true ∧ c ≠ '\''

theorem isLiteral_of_isControl {cs : List Char}
    (hcontrol : ∀ c ∈ cs, isControl c = false ∧ c ≠ '\n') (happostrophe : '\'' ∉ cs) :
    IsLiteral cs := by
  refine fun c hc => ⟨?_, fun heq => happostrophe (heq ▸ hc)⟩
  exact (isPrintable_of_isControl (hcontrol c hc).1).resolve_right (hcontrol c hc).2

theorem literalBody_append {cs : List Char} (h : IsLiteral cs) (rest : List Char) :
    literalBody (cs ++ '\'' :: rest) = some (cs, rest) := by
  induction cs with
  | nil => rfl
  | cons c cs ih =>
    obtain ⟨hprintable, hquote⟩ := h c List.mem_cons_self
    rw [List.cons_append, literalBody, if_pos hprintable, ih fun c hc => h c (.tail _ hc)]
    · rfl
    · exact hquote

/-! ### Between three delimiters -/

/-- What is written for a character begins neither with a quote nor with a line break. -/
theorem escape_eq_cons (c : Char) :
    ∃ d ds, escape c = d :: ds ∧ d ≠ '"' ∧ isControl d = false ∧ d ≠ '\n' := by
  have hslash : ∀ more, ∃ d ds, '\\' :: more = d :: ds ∧ d ≠ '"' ∧ isControl d = false ∧ d ≠ '\n' :=
    fun more => ⟨'\\', more, rfl, by decide, by decide, by decide⟩
  unfold escape escapeControl
  split_ifs with hquote _ hcontrol
  any_goals exact hslash _
  obtain ⟨hcontrol, hblank⟩ := not_or.1 hcontrol
  exact ⟨c, [], rfl, hquote, Bool.eq_false_iff.2 hcontrol, (not_or.1 hblank).2⟩

theorem escape_ne_quote (c : Char) (rest more : List Char) : escape c ++ rest ≠ '"' :: more := by
  obtain ⟨d, ds, hescape, hquote, -, -⟩ := escape_eq_cons c
  rw [hescape]
  rintro ⟨⟩
  exact hquote rfl

theorem escapeLines_eq_quote {run : Nat} {cs rest more : List Char} {c : Char}
    (h : escapeLines run (c :: cs) ++ rest = '"' :: more) :
    c = '"' ∧ run ≠ 2 ∧ more = escapeLines (run + 1) cs ++ rest := by
  unfold escapeLines at h
  split_ifs at h with hquote hrun hline
  · cases h
  · cases h
    exact ⟨hquote, hrun, rfl⟩
  · cases h
  · rw [List.append_assoc] at h
    exact absurd h (escape_ne_quote c _ _)

/-- After one quote or two, two more come first only at the end. -/
theorem cases_of_escapeLines {run : Nat} {cs rest more : List Char} (hpos : 0 < run) (hrun : run ≤ 2)
    (h : escapeLines run cs ++ rest = '"' :: '"' :: more) :
    cs = [] ∨ cs = ['"'] ∧ run = 1 := by
  cases cs with
  | nil => exact .inl rfl
  | cons c cs =>
    obtain ⟨rfl, hfirst, hmore⟩ := escapeLines_eq_quote h
    have hone : run = 1 := by omega
    subst hone
    cases cs with
    | nil => exact .inr ⟨rfl, rfl⟩
    | cons d cs => exact absurd rfl (escapeLines_eq_quote hmore.symm).2.1

/-- The closing quotes, after as many quotes of the string as may precede them. -/
theorem quotedLinesBody_closing {rest : List Char} (hrest : ∀ more, rest ≠ '"' :: more) :
    quotedLinesBody false ('"' :: '"' :: '"' :: rest) = some ([], rest) ∧
    quotedLinesBody false ('"' :: '"' :: '"' :: '"' :: rest) = some (['"'], rest) ∧
    quotedLinesBody false ('"' :: '"' :: '"' :: '"' :: '"' :: rest) = some (['"', '"'], rest) := by
  refine ⟨?_, ?_, ?_⟩
  · rw [quotedLinesBody.eq_5]
    · exact fun _ h => hrest _ h
    · exact fun _ h => hrest _ h
    · exact fun _ h => hrest _ h
  · rw [quotedLinesBody.eq_4]
    · exact fun _ h => hrest _ h
    · exact fun _ h => hrest _ h
  · rw [quotedLinesBody.eq_3]
    exact fun _ h => hrest _ h

theorem quotedLinesBody_escapeLines {rest : List Char} (hrest : ∀ more, rest ≠ '"' :: more)
    {run : Nat} (hrun : run ≤ 2) (cs : List Char) :
    quotedLinesBody false (escapeLines run cs ++ '"' :: '"' :: '"' :: rest) = some (cs, rest) := by
  induction cs generalizing run with
  | nil => exact (quotedLinesBody_closing hrest).1
  | cons c cs ih =>
    unfold escapeLines
    split_ifs with hquote htwo hline
    · subst hquote
      rw [List.cons_append, List.cons_append, readsEscapes_quotedLinesBody.unescape rfl,
        ih (by decide)]
      rfl
    · subst hquote
      have hnext : run + 1 ≤ 2 := by omega
      -- Two more quotes that follow belong to the closing ones.
      by_cases hclosing : ∃ more, escapeLines (run + 1) cs ++ '"' :: '"' :: '"' :: rest =
        '"' :: '"' :: more
      · obtain ⟨more, hmore⟩ := hclosing
        rcases cases_of_escapeLines (Nat.succ_pos run) hnext hmore with rfl | ⟨rfl, hone⟩
        · exact (quotedLinesBody_closing hrest).2.1
        · cases hone
          exact (quotedLinesBody_closing hrest).2.2
      · rw [List.cons_append, quotedLinesBody_cons (by decide) (by decide)
          fun _ more hmore => hclosing ⟨more, hmore⟩, ih hnext]
        rfl
    · subst hline
      rw [List.cons_append, quotedLinesBody_cons (by decide) (by decide) fun hc => absurd hc hquote,
        ih (by decide)]
      rfl
    · rw [List.append_assoc, readsEscapes_quotedLinesBody.escape, ih (by decide)]
      rfl

theorem hasTriple_cons {c d : Char} {cs : List Char} (h : hasTriple c (d :: cs) = false) :
    hasTriple c cs = false := by
  match cs with
  | [] => rfl
  | [_] => rfl
  | a :: b :: rest =>
    unfold hasTriple at h
    exact (Bool.or_eq_false_iff.1 h).2

theorem literalLinesBody_cons {c : Char} {rest : List Char} (hcontrol : isControl c = false)
    (hquotes : c = '\'' → ∀ more, rest ≠ '\'' :: '\'' :: more) :
    literalLinesBody (c :: rest) = prepend c (literalLinesBody rest) := by
  rw [literalLinesBody.eq_7, if_pos (isPrintable_of_isControl hcontrol)]
  · exact fun _ hc => hquotes hc _
  · exact fun _ hc => hquotes hc _
  · exact fun _ hc => hquotes hc _
  · exact fun _ hc => hquotes hc _
  · exact fun _ hc => absurd hc (ne_return_of_isControl hcontrol)

/-- The closing apostrophes, after as many apostrophes of the string as may precede them. -/
theorem literalLinesBody_closing {rest : List Char} (hrest : ∀ more, rest ≠ '\'' :: more) :
    literalLinesBody ('\'' :: '\'' :: '\'' :: rest) = some ([], rest) ∧
    literalLinesBody ('\'' :: '\'' :: '\'' :: '\'' :: rest) = some (['\''], rest) ∧
    literalLinesBody ('\'' :: '\'' :: '\'' :: '\'' :: '\'' :: rest) = some (['\'', '\''], rest) := by
  refine ⟨?_, ?_, ?_⟩
  · rw [literalLinesBody.eq_5]
    · exact fun _ h => hrest _ h
    · exact fun _ h => hrest _ h
    · exact fun _ h => hrest _ h
  · rw [literalLinesBody.eq_4]
    · exact fun _ h => hrest _ h
    · exact fun _ h => hrest _ h
  · rw [literalLinesBody.eq_3]
    exact fun _ h => hrest _ h

theorem literalLinesBody_append {cs rest : List Char} (hcontrol : ∀ c ∈ cs, isControl c = false)
    (htriple : hasTriple '\'' cs = false) (hrest : ∀ more, rest ≠ '\'' :: more) :
    literalLinesBody (cs ++ '\'' :: '\'' :: '\'' :: rest) = some (cs, rest) := by
  induction cs with
  | nil => exact (literalLinesBody_closing hrest).1
  | cons c cs ih =>
    have hread := ih (fun c hc => hcontrol c (.tail _ hc)) (hasTriple_cons htriple)
    -- An apostrophe before two others is one of the closing ones or of the last two of the string.
    by_cases hclosing : c = '\'' ∧ ∃ more, cs ++ '\'' :: '\'' :: '\'' :: rest = '\'' :: '\'' :: more
    · obtain ⟨rfl, more, hmore⟩ := hclosing
      match cs with
      | [] => exact (literalLinesBody_closing hrest).2.1
      | [d] =>
        cases hmore
        exact (literalLinesBody_closing hrest).2.2
      | d :: e :: _ =>
        cases hmore
        cases htriple
    · rw [List.cons_append, literalLinesBody_cons (hcontrol c List.mem_cons_self)
        fun hc more hmore => hclosing ⟨hc, more, hmore⟩, hread]
      rfl

/-! ### The five forms -/

def Closed (rest : List Char) : Prop := ∀ c ∈ rest.head?, c ≠ '"' ∧ c ≠ '\''

theorem Closed.ne_quote {rest : List Char} (h : Closed rest) (more : List Char) :
    rest ≠ '"' :: more := by
  rintro rfl
  exact (h '"' rfl).1 rfl

theorem Closed.ne_apostrophe {rest : List Char} (h : Closed rest) (more : List Char) :
    rest ≠ '\'' :: more := by
  rintro rfl
  exact (h '\'' rfl).2 rfl

theorem string_quoted {rest : List Char} (h : Closed rest) (cs : List Char) :
    string (quoted cs ++ rest) = some (cs, rest) := by
  have hchars : quoted cs ++ rest = '"' :: (cs.flatMap escape ++ '"' :: rest) := by
    unfold quoted
    rw [List.append_assoc]
    rfl
  rw [hchars, string.eq_2, quotedBody_flatMap]
  intro more hmore
  cases cs with
  | nil => exact h.ne_quote _ (List.cons.inj hmore).2
  | cons c cs =>
    rw [List.flatMap_cons, List.append_assoc] at hmore
    exact escape_ne_quote c _ _ hmore

theorem string_literal {cs rest : List Char} (h : Closed rest) (hcs : IsLiteral cs) :
    string (literal cs ++ rest) = some (cs, rest) := by
  have hchars : literal cs ++ rest = '\'' :: (cs ++ '\'' :: rest) := by
    unfold literal
    rw [List.append_assoc]
    rfl
  rw [hchars, string.eq_4, literalBody_append hcs]
  intro more hmore
  cases cs with
  | nil => exact h.ne_apostrophe _ (List.cons.inj hmore).2
  | cons c cs => exact (hcs c List.mem_cons_self).2 (List.cons.inj hmore).1

theorem newline?_cons {c : Char} (hcontrol : isControl c = false) (hline : c ≠ '\n')
    (rest : List Char) : newline? (c :: rest) = none := by
  unfold newline?
  split
  · rename_i heq
    exact absurd (List.cons.inj heq).1 hline
  · rename_i heq
    exact absurd (List.cons.inj heq).1 (ne_return_of_isControl hcontrol)
  · rfl

/-- The line break of the opening delimiter is passed over, and none of the string. -/
theorem skipFirstNewline_lead {cs body : List Char} (h : '\n' ∉ cs → newline? body = none) :
    skipFirstNewline (lead cs ++ body) = body := by
  unfold lead
  split_ifs with hline
  · rfl
  · have hbody := h fun hmem => hline (List.contains_iff_mem.2 hmem)
    unfold skipFirstNewline
    rw [List.nil_append, hbody]
    rfl

theorem string_quotedLines {rest : List Char} (h : Closed rest) (cs : List Char) :
    string (quotedLines cs ++ rest) = some (cs, rest) := by
  have hchars : quotedLines cs ++ rest =
      '"' :: '"' :: '"' :: (lead cs ++ (escapeLines 0 cs ++ '"' :: '"' :: '"' :: rest)) := by
    unfold quotedLines
    simp only [List.append_assoc, List.cons_append, List.nil_append]
  rw [hchars, string, skipFirstNewline_lead,
    quotedLinesBody_escapeLines h.ne_quote (by decide)]
  intro hline
  cases cs with
  | nil => rfl
  | cons c cs =>
    unfold escapeLines
    split_ifs with hquote hrun hbreak
    · cases hrun
    · exact newline?_cons (by decide) (by decide) _
    · exact absurd (hbreak ▸ List.mem_cons_self) hline
    · obtain ⟨d, ds, hescape, -, hcontrol, hd⟩ := escape_eq_cons c
      rw [hescape]
      exact newline?_cons hcontrol hd _

theorem string_literalLines {cs rest : List Char} (h : Closed rest)
    (hcontrol : ∀ c ∈ cs, isControl c = false) (htriple : hasTriple '\'' cs = false) :
    string (literalLines cs ++ rest) = some (cs, rest) := by
  have hchars : literalLines cs ++ rest =
      '\'' :: '\'' :: '\'' :: (lead cs ++ (cs ++ '\'' :: '\'' :: '\'' :: rest)) := by
    unfold literalLines
    simp only [List.append_assoc, List.cons_append, List.nil_append]
  rw [hchars, string, skipFirstNewline_lead,
    literalLinesBody_append hcontrol htriple h.ne_apostrophe]
  intro hline
  cases cs with
  | nil => rfl
  | cons c cs =>
    refine newline?_cons (hcontrol c List.mem_cons_self) ?_ _
    rintro rfl
    exact hline List.mem_cons_self

theorem string_stringChars {rest : List Char} (h : Closed rest) (cs : List Char) :
    string (stringChars cs ++ rest) = some (cs, rest) := by
  unfold stringChars
  dsimp only
  split_ifs with hplain hliteral hquoted hlines
  · exact string_quoted h cs
  · simp only [Bool.and_eq_true, Bool.not_eq_true', List.any_eq_false, List.contains_eq_mem,
      decide_eq_false_iff_not, Bool.not_eq_true] at hliteral
    obtain ⟨⟨hcontrol, happostrophe⟩, hline⟩ := hliteral
    have hcs : ∀ c ∈ cs, isControl c = false ∧ c ≠ '\n' :=
      fun c hc => ⟨hcontrol c hc, fun heq => hline (heq ▸ hc)⟩
    exact string_literal h (isLiteral_of_isControl hcs happostrophe)
  · exact string_quotedLines h cs
  · simp only [Bool.and_eq_true, Bool.not_eq_true', List.any_eq_false, Bool.not_eq_true] at hlines
    exact string_literalLines h hlines.1 hlines.2
  · exact string_quotedLines h cs
  · exact string_quoted h cs

/-! ### Keys -/

theorem simpleKey_bare {cs rest : List Char} (hne : cs ≠ []) (hbare : ∀ c ∈ cs, isBareChar c = true)
    (hrest : ∀ c ∈ rest.head?, isBareChar c = false) :
    simpleKey (cs ++ rest) = some (String.ofList cs, rest) := by
  have hstop : rest.takeWhile isBareChar = [] ∧ rest.dropWhile isBareChar = rest := by
    cases rest with
    | nil => exact ⟨rfl, rfl⟩
    | cons c more =>
      have hc := hrest c rfl
      simp [hc]
  have hrun : Scan.run isBareChar (cs ++ rest) = (cs, rest) := by
    unfold Scan.run
    rw [List.takeWhile_append_of_pos hbare, List.dropWhile_append_of_pos hbare, hstop.1, hstop.2,
      List.append_nil]
  obtain ⟨c, more, rfl⟩ := List.exists_cons_of_ne_nil hne
  have hc : isBareChar c = true := hbare c List.mem_cons_self
  rw [simpleKey.eq_3, hrun]
  · rfl
  · rintro _ ⟨⟩
    cases hc
  · rintro _ ⟨⟩
    cases hc

theorem simpleKey_quoted (cs rest : List Char) :
    simpleKey (quoted cs ++ rest) = some (String.ofList cs, rest) := by
  unfold quoted
  rw [List.append_assoc, List.cons_append, simpleKey, List.singleton_append, quotedBody_flatMap]
  rfl

theorem simpleKey_literal {cs : List Char} (h : IsLiteral cs) (rest : List Char) :
    simpleKey (literal cs ++ rest) = some (String.ofList cs, rest) := by
  unfold literal
  rw [List.append_assoc, List.cons_append, simpleKey, List.singleton_append, literalBody_append h]
  rfl

/-- Every key is read back, whatever follows it that could not be part of a bare key. -/
theorem simpleKey_keyChars {rest : List Char} (hrest : ∀ c ∈ rest.head?, isBareChar c = false)
    (cs : List Char) : simpleKey (keyChars cs ++ rest) = some (String.ofList cs, rest) := by
  unfold keyChars
  dsimp only
  split_ifs with hbare hplain hliteral
  · simp only [Bool.and_eq_true, Bool.not_eq_true', List.all_eq_true, List.isEmpty_eq_false_iff]
      at hbare
    exact simpleKey_bare hbare.1 hbare.2 hrest
  · exact simpleKey_quoted cs rest
  · simp only [Bool.and_eq_true, Bool.not_eq_true', List.any_eq_false, List.contains_eq_mem,
      decide_eq_false_iff_not, Bool.or_eq_true, beq_iff_eq, not_or, Bool.not_eq_true] at hliteral
    exact simpleKey_literal (isLiteral_of_isControl hliteral.1 hliteral.2) rest
  · exact simpleKey_quoted cs rest

end Preferences.Toml
