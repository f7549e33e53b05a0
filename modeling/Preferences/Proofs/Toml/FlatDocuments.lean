import Preferences.Proofs.Json.Numerals
import Preferences.Proofs.Toml.Strings
import Preferences.Toml.Reader

/-!
# Flat TOML documents are read back

A document of strings, integers and truth values, with no key given twice, is read back from its text.
-/

namespace Preferences.Toml

/-! ### Integers -/

theorem isDigit_of_isDigit {c : Char} (h : c.isDigit = true) : Decimal.isDigit c = true := by
  unfold Char.isDigit at h
  simpa [Decimal.isDigit, Char.le_def] using h

theorem moreDigits_append {ds rest : List Char} (hds : ∀ c ∈ ds, c.isDigit = true) :
    moreDigits 10 (ds ++ '\n' :: rest) = (ds, '\n' :: rest) := by
  induction ds with
  | nil => rfl
  | cons d ds ih =>
    have hd := Decimal.isSome_digitValue?_of_isDigit (hds d List.mem_cons_self)
    rw [List.cons_append, moreDigits, if_pos hd, ih fun c hc => hds c (.tail _ hc)]
    rintro _ _ rfl
    cases hd

/-- After a number of digits on a line of digits, there is another digit or the end of the line. -/
theorem skip?_of_exactly {count : Nat} {ds rest front after : List Char} {c : Char}
    (hds : ∀ d ∈ ds, Decimal.isDigit d = true)
    (h : Scan.exactly count Decimal.isDigit (ds ++ '\n' :: rest) = some (front, after))
    (hdigit : Decimal.isDigit c = false) (hline : c ≠ '\n') : Scan.skip? [c] after = none := by
  unfold Scan.exactly at h
  dsimp only at h
  split at h
  · rename_i hfront
    obtain ⟨-, hall⟩ := hfront
    cases h
    -- The end of the line is no digit, and so what was read ends before it.
    have hcount : count ≤ ds.length := by
      refine Nat.le_of_not_lt fun hlong => ?_
      obtain ⟨k, hk⟩ : ∃ k, count - ds.length = k + 1 := ⟨count - ds.length - 1, by omega⟩
      rw [List.take_append, hk, List.take_succ_cons, List.all_append, List.all_cons] at hall
      simp [Decimal.isDigit] at hall
    rw [List.drop_append_of_le_length hcount]
    cases hdrop : ds.drop count with
    | nil => exact if_neg (Ne.symm hline)
    | cons d more =>
      have hd : Decimal.isDigit d = true := hds d (List.mem_of_mem_drop (hdrop ▸ List.mem_cons_self))
      refine if_neg ?_
      rintro rfl
      rw [hd] at hdigit
      cases hdigit
  · cases h

theorem skip?_of_bounded {width low high n : Nat} {ds rest after : List Char} {c : Char}
    (hds : ∀ d ∈ ds, Decimal.isDigit d = true)
    (h : bounded width low high (ds ++ '\n' :: rest) = some (n, after))
    (hdigit : Decimal.isDigit c = false) (hline : c ≠ '\n') : Scan.skip? [c] after = none := by
  obtain ⟨⟨front, later⟩, hexactly, h⟩ := Option.bind_eq_some_iff.1 h
  dsimp only at h
  split at h
  · cases h
    exact skip?_of_exactly hds hexactly hdigit hline
  · cases h

/-- A line of digits is no date and no time. -/
theorem datetime_digits {ds : List Char} (hds : ∀ d ∈ ds, Decimal.isDigit d = true)
    (rest : List Char) : datetime (ds ++ '\n' :: rest) = none := by
  have hdate : fullDate (ds ++ '\n' :: rest) = none := by
    refine Option.bind_eq_none_iff.2 ?_
    rintro ⟨year, after⟩ hyear
    have hskip : Scan.skip? ['-'] after = none := skip?_of_bounded hds hyear (by decide) (by decide)
    dsimp only
    rw [hskip]
    rfl
  have htime : partialTime (ds ++ '\n' :: rest) = none := by
    refine Option.bind_eq_none_iff.2 ?_
    rintro ⟨hour, after⟩ hhour
    have hskip : Scan.skip? [':'] after = none := skip?_of_bounded hds hhour (by decide) (by decide)
    dsimp only
    rw [hskip]
    rfl
  unfold datetime
  rw [hdate, htime]
  rfl

theorem bounded_cons {c : Char} (h : Decimal.isDigit c = false) (width low high : Nat)
    (cs : List Char) : bounded (width + 1) low high (c :: cs) = none := by
  have hexactly : Scan.exactly (width + 1) Decimal.isDigit (c :: cs) = none := by
    unfold Scan.exactly
    simp [h]
  unfold bounded
  rw [hexactly]
  rfl

theorem datetime_minus (cs : List Char) : datetime ('-' :: cs) = none := by
  have hminus : Decimal.isDigit '-' = false := by decide
  unfold datetime fullDate partialTime
  rw [bounded_cons hminus, bounded_cons hminus]
  rfl

theorem whole_digits {ds : List Char} (hds : ∀ c ∈ ds, c.isDigit = true)
    (hleading : ds = ['0'] ∨ ∃ c cs, ds = c :: cs ∧ c ≠ '0') (rest : List Char) :
    whole (ds ++ '\n' :: rest) = some (ds, '\n' :: rest) := by
  rcases hleading with rfl | ⟨c, cs, rfl, hc⟩
  · rfl
  · have hdigit := Decimal.isSome_digitValue?_of_isDigit (hds c List.mem_cons_self)
    rw [List.cons_append, whole.eq_2, groupedDigits, if_pos hdigit,
      moreDigits_append fun d hd => hds d (.tail _ hd)]
    rintro _ ⟨⟩
    exact hc rfl

theorem exists_digit_cons {ds : List Char} (hds : ∀ c ∈ ds, c.isDigit = true)
    (hleading : ds = ['0'] ∨ ∃ c cs, ds = c :: cs ∧ c ≠ '0') :
    ∃ d more, ds = d :: more ∧ d.isDigit = true := by
  rcases hleading with rfl | ⟨d, more, rfl, -⟩
  · exact ⟨_, _, rfl, rfl⟩
  · exact ⟨d, more, rfl, hds d List.mem_cons_self⟩

/-- Digits up to the end of the line are an integer, with the sign that was read. -/
theorem signed_digits {cs ds rest : List Char} {negative : Bool}
    (hsign : sign cs = (negative, ds ++ '\n' :: rest)) (hds : ∀ c ∈ ds, c.isDigit = true)
    (hleading : ds = ['0'] ∨ ∃ c cs, ds = c :: cs ∧ c ≠ '0') :
    signed cs = (numberOf? negative ds none none).map fun v => (v, '\n' :: rest) := by
  obtain ⟨d, more, rfl, hd⟩ := exists_digit_cons hds hleading
  have hwhole := whole_digits hds hleading rest
  unfold signed
  rw [hsign]
  dsimp only
  split
  · rename_i heq
    rw [(List.cons.inj heq).1] at hd
    cases hd
  · rename_i heq
    rw [(List.cons.inj heq).1] at hd
    cases hd
  · rw [hwhole]
    cases h : numberOf? negative (d :: more) none none <;> simp [fraction, exponent, h]

theorem numberOf?_whole (negative : Bool) (ds : List Char) : numberOf? negative ds none none =
    integerOf? (if negative then -(Nat.ofDigitChars 10 ds 0 : Int) else Nat.ofDigitChars 10 ds 0) :=
  rfl

theorem numberOf?_digitChars (n : Int64) :
    numberOf? (decide (n.toInt < 0)) (Decimal.digitChars n.toInt.natAbs) none none =
      some (.integer n) := by
  have hlow := Int64.minValue_le_toInt n
  have hhigh := Int64.toInt_le n
  have hdigits : Nat.ofDigitChars 10 (Decimal.digitChars n.toInt.natAbs) 0 = n.toInt.natAbs :=
    Nat.ofDigitChars_ten_toDigits
  have hsame : (if decide (n.toInt < 0) = true then -(n.toInt.natAbs : Int)
      else n.toInt.natAbs) = n.toInt := by
    simp only [decide_eq_true_eq]
    split <;> omega
  rw [numberOf?_whole, hdigits, hsame, integerOf?, if_pos ⟨hlow, hhigh⟩, Int64.ofInt_toInt]

theorem toList_toString (n : Int) : (toString n).toList =
    if n < 0 then '-' :: Decimal.digitChars n.natAbs else Decimal.digitChars n.natAbs := by
  rw [← Json.Numeral.chars_ofInt]
  unfold Json.Numeral.chars Json.Numeral.unsignedChars Json.Numeral.ofInt
  simp [Json.Numeral.fractionChars, Json.Numeral.exponentChars]

theorem number_of_datetime {cs : List Char} (hdatetime : datetime cs = none)
    (h : ∀ c more, cs = '0' :: c :: more → c ≠ 'x' ∧ c ≠ 'o' ∧ c ≠ 'b') : number cs = signed cs := by
  rw [number, hdatetime]
  · exact fun more heq => (h 'x' more heq).1 rfl
  · exact fun more heq => (h 'o' more heq).2.1 rfl
  · exact fun more heq => (h 'b' more heq).2.2 rfl

theorem number_integer (n : Int64) (rest : List Char) :
    number ((toString n.toInt).toList ++ '\n' :: rest) = some (.integer n, '\n' :: rest) := by
  have hds : ∀ c ∈ Decimal.digitChars n.toInt.natAbs, c.isDigit = true :=
    fun _ => Decimal.isDigit_of_mem_digitChars
  have hleading := Decimal.digitChars_leading n.toInt.natAbs
  have hvalue := numberOf?_digitChars n
  rw [toList_toString]
  split
  · rename_i hneg
    rw [decide_eq_true hneg] at hvalue
    rw [List.cons_append, number_of_datetime (datetime_minus _) (by rintro _ _ ⟨⟩),
      signed_digits rfl hds hleading, hvalue]
    rfl
  · rename_i hneg
    rw [decide_eq_false hneg] at hvalue
    generalize Decimal.digitChars n.toInt.natAbs = ds at hds hleading hvalue ⊢
    have hprefix : ∀ c more, ds ++ '\n' :: rest = '0' :: c :: more → c ≠ 'x' ∧ c ≠ 'o' ∧ c ≠ 'b' := by
      intro c more heq
      rcases hleading with rfl | ⟨d, ds, rfl, hd⟩
      · cases heq
        decide
      · exact absurd (List.cons.inj heq).1 hd
    have hsign : sign (ds ++ '\n' :: rest) = (false, ds ++ '\n' :: rest) := by
      obtain ⟨d, more, rfl, hd⟩ := exists_digit_cons hds hleading
      rw [sign.eq_3]
      · rintro _ heq
        rw [(List.cons.inj heq).1] at hd
        cases hd
      · rintro _ heq
        rw [(List.cons.inj heq).1] at hd
        cases hd
    rw [number_of_datetime (datetime_digits (fun c hc => isDigit_of_isDigit (hds c hc)) rest) hprefix,
      signed_digits hsign hds hleading, hvalue]
    rfl

/-! ### Values -/

/-- A value that stands on a line and holds no others. -/
inductive Simple : Value → Prop
  | string (s : String) : Simple (.string s)
  | integer (n : Int64) : Simple (.integer n)
  | bool (b : Bool) : Simple (.bool b)

theorem stringChars_cons (cs : List Char) :
    ∃ c more, stringChars cs = c :: more ∧ (c = '"' ∨ c = '\'') := by
  unfold stringChars quoted literal quotedLines literalLines
  dsimp only
  split_ifs <;> first | exact ⟨'"', _, rfl, .inl rfl⟩ | exact ⟨'\'', _, rfl, .inr rfl⟩

theorem toString_cons (n : Int) :
    ∃ c more, (toString n).toList = c :: more ∧ (c = '-' ∨ c.isDigit = true) := by
  rw [toList_toString]
  split
  · exact ⟨'-', _, rfl, .inl rfl⟩
  · obtain ⟨d, more, hds, hd⟩ := exists_digit_cons (fun _ => Decimal.isDigit_of_mem_digitChars)
      (Decimal.digitChars_leading n.natAbs)
    exact ⟨d, more, hds, .inr hd⟩

theorem value_string (depth : Nat) (s : String) (rest : List Char) :
    value depth (stringChars s.toList ++ '\n' :: rest) = some (.string s, '\n' :: rest) := by
  have hclosed : Closed ('\n' :: rest) := by
    rintro c ⟨⟩
    decide
  have hread := string_stringChars hclosed s.toList
  obtain ⟨c, more, hchars, hc⟩ := stringChars_cons s.toList
  rw [hchars, List.cons_append] at hread ⊢
  rw [value.eq_8, if_pos hc, hread, Option.map_some]
  · dsimp only
    rw [String.ofList_toList]
  all_goals
    rintro rfl
    revert hc
    decide

theorem value_integer (depth : Nat) (n : Int64) (rest : List Char) :
    value depth ((toString n.toInt).toList ++ '\n' :: rest) = some (.integer n, '\n' :: rest) := by
  have hread := number_integer n rest
  obtain ⟨c, more, hchars, hc⟩ := toString_cons n.toInt
  rw [hchars, List.cons_append] at hread ⊢
  have hquote : ¬ (c = '"' ∨ c = '\'') := by
    rintro (rfl | rfl) <;> revert hc <;> decide
  rw [value.eq_8, if_neg hquote, hread]
  all_goals
    rintro rfl
    revert hc
    decide

theorem value_render {v : Value} (h : Simple v) (depth : Nat) (rest : List Char) :
    value depth (render v ++ '\n' :: rest) = some (v, '\n' :: rest) := by
  cases h with
  | string s => exact value_string depth s rest
  | integer n => exact value_integer depth n rest
  | bool b =>
    cases b
    · exact value.eq_7 depth _
    · exact value.eq_6 depth _

theorem Simple.isTable_eq {v : Value} (h : Simple v) : isTable v = false := by
  cases h <;> rfl

/-! ### Lines -/

theorem skipBlank_cons {c : Char} (h : isBlank c = false) (cs : List Char) :
    skipBlank (c :: cs) = c :: cs := by
  unfold skipBlank
  rw [List.dropWhile_cons_of_neg (by rw [h]; decide)]

def beginsKey (c : Char) : Bool := isBareChar c || c == '"' || c == '\''

theorem keyChars_cons (cs : List Char) : ∃ c more, keyChars cs = c :: more ∧ beginsKey c = true := by
  unfold keyChars quoted literal
  dsimp only
  split_ifs with hbare
  · obtain ⟨hne, hall⟩ := Bool.and_eq_true_iff.1 hbare
    cases cs with
    | nil => cases hne
    | cons c cs =>
      have hc : isBareChar c = true := List.all_eq_true.1 hall c List.mem_cons_self
      refine ⟨c, cs, rfl, ?_⟩
      unfold beginsKey
      rw [hc, Bool.true_or, Bool.true_or]
  · exact ⟨'"', _, rfl, rfl⟩
  · exact ⟨'\'', _, rfl, rfl⟩
  · exact ⟨'"', _, rfl, rfl⟩

theorem ne_of_beginsKey {c d : Char} (hc : beginsKey c = true) (hd : beginsKey d = false) :
    c ≠ d := by
  rintro rfl
  rw [hc] at hd
  cases hd

theorem isBlank_of_beginsKey {c : Char} (h : beginsKey c = true) : isBlank c = false := by
  unfold isBlank
  rw [beq_false_of_ne (ne_of_beginsKey h (by decide)),
    beq_false_of_ne (ne_of_beginsKey h (by decide))]
  rfl

theorem render_cons {v : Value} (h : Simple v) :
    ∃ c more, render v = c :: more ∧ isBlank c = false := by
  cases h with
  | string s =>
    obtain ⟨c, more, hchars, hc⟩ := stringChars_cons s.toList
    refine ⟨c, more, hchars, ?_⟩
    rcases hc with rfl | rfl <;> rfl
  | integer n =>
    obtain ⟨c, more, hchars, hc⟩ := toString_cons n.toInt
    refine ⟨c, more, hchars, ?_⟩
    have hspace : c ≠ ' ' ∧ c ≠ '\t' := by
      constructor <;> rintro rfl <;> revert hc <;> decide
    unfold isBlank
    rw [beq_false_of_ne hspace.1, beq_false_of_ne hspace.2]
    rfl
  | bool b => cases b <;> exact ⟨_, _, rfl, rfl⟩

/-- One key is read where no point follows it. -/
theorem key_keyChars (name : String) (rest : List Char) :
    key (keyChars name.toList ++ ' ' :: '=' :: rest) = some ([name], '=' :: rest) := by
  have hbare : ∀ c ∈ (' ' :: '=' :: rest).head?, isBareChar c = false := by
    rintro c ⟨⟩
    decide
  have hread := simpleKey_keyChars hbare name.toList
  obtain ⟨c, more, hchars, hc⟩ := keyChars_cons name.toList
  have hskip : skipBlank (' ' :: '=' :: rest) = '=' :: rest := rfl
  unfold key maxDepth dottedKey
  rw [hchars, List.cons_append, skipBlank_cons (isBlank_of_beginsKey hc)]
  rw [hchars, List.cons_append] at hread
  rw [hread, String.ofList_toList]
  dsimp only [Option.bind_eq_bind, Option.bind_some]
  rw [hskip]
  rfl

theorem alter_fresh {name : String} {f : Option Item → Option Item} {item : Item}
    (hf : f none = some item) {entries : Entries} (h : name ∉ entries.map Prod.fst) :
    Entries.alter name f entries = some (entries ++ [(name, item)]) := by
  induction entries with
  | nil =>
    rw [Entries.alter, hf]
    rfl
  | cons entry rest ih =>
    obtain ⟨other, old⟩ := entry
    obtain ⟨hother, hrest⟩ : name ≠ other ∧ name ∉ rest.map Prod.fst :=
      not_or.1 fun hmem => h (List.mem_cons.2 hmem)
    rw [Entries.alter, if_neg (Ne.symm hother), ih hrest]
    rfl

theorem entry_entryLine {entries : Entries} {name : String} {v : Value} (hv : Simple v)
    (hname : name ∉ entries.map Prod.fst) (rest : List Char) :
    entry ⟨entries, []⟩ (entryLine (name, v) ++ rest) =
      some (⟨entries ++ [(name, .value v)], []⟩, '\n' :: rest) := by
  have hchars : entryLine (name, v) ++ rest =
      keyChars name.toList ++ ' ' :: '=' :: ' ' :: (render v ++ '\n' :: rest) := by
    unfold entryLine
    simp only [List.append_assoc, List.singleton_append]
    rfl
  obtain ⟨c, more, hrender, hblank⟩ := render_cons hv
  have hskip : skipBlank (' ' :: (render v ++ '\n' :: rest)) = render v ++ '\n' :: rest := by
    rw [hrender, List.cons_append]
    exact skipBlank_cons hblank _
  have hassign : Entries.assign v [name] true entries = some (entries ++ [(name, .value v)]) :=
    alter_fresh rfl hname
  have hequals : Scan.skip? ['='] ('=' :: ' ' :: (render v ++ '\n' :: rest)) =
    some (' ' :: (render v ++ '\n' :: rest)) := rfl
  unfold entry
  rw [hchars, key_keyChars]
  dsimp only [Option.bind_eq_bind, Option.bind_some]
  rw [hequals]
  dsimp only [Option.bind_some]
  rw [hskip, value_render hv]
  dsimp only [Option.bind_some, Entries.within]
  rw [hassign]
  rfl

theorem entryLine_cons (entry : String × Value) :
    ∃ c more, entryLine entry = c :: more ∧ beginsKey c = true := by
  obtain ⟨c, more, hchars, hc⟩ := keyChars_cons entry.1.toList
  unfold entryLine
  rw [hchars]
  exact ⟨c, _, rfl, hc⟩

theorem lines_entryLine {entries : Entries} {name : String} {v : Value} (hv : Simple v)
    (hname : name ∉ entries.map Prod.fst) (bound : Nat) (rest : List Char) :
    lines (bound + 1) ⟨entries, []⟩ (entryLine (name, v) ++ rest) =
      lines bound ⟨entries ++ [(name, .value v)], []⟩ rest := by
  have hentry := entry_entryLine hv hname rest
  have hend : lineEnd? ('\n' :: rest) = some rest := rfl
  obtain ⟨c, more, hline, hc⟩ := entryLine_cons (name, v)
  have hother : ¬ (c = '#' ∨ c = '\n' ∨ c = '\r') := by
    rintro (rfl | rfl | rfl) <;> cases hc
  have hbracket : c ≠ '[' := by
    rintro rfl
    cases hc
  rw [hline, List.cons_append] at hentry ⊢
  rw [lines, skipBlank_cons (isBlank_of_beginsKey hc)]
  dsimp only
  rw [if_neg hbracket, if_neg hother, hentry]
  dsimp only [Option.bind_eq_bind, Option.bind_some]
  rw [hend]
  rfl

/-! ### Documents -/

/-- No key is given twice, and every value stands on its line. -/
structure Flat (document : List (String × Value)) : Prop where
  keys : (document.map Prod.fst).Nodup
  simple : ∀ entry ∈ document, Simple entry.2

theorem lines_flatMap {document : List (String × Value)} (h : Flat document) {entries : Entries}
    (hentries : ∀ name ∈ document.map Prod.fst, name ∉ entries.map Prod.fst) {bound : Nat}
    (hbound : document.length < bound) :
    lines bound ⟨entries, []⟩ (document.flatMap entryLine) =
      some ⟨entries ++ document.map fun entry => (entry.1, .value entry.2), []⟩ := by
  -- What was read so far has none of the keys that are still to come.
  induction document generalizing entries bound with
  | nil =>
    obtain ⟨bound, rfl⟩ := Nat.exists_eq_succ_of_ne_zero (Nat.ne_of_gt hbound)
    rw [List.map_nil, List.append_nil]
    rfl
  | cons first rest ih =>
    obtain ⟨name, v⟩ := first
    obtain ⟨hname, hkeys⟩ := List.nodup_cons.1 h.keys
    have hrest : Flat rest := ⟨hkeys, fun entry hentry => h.simple entry (.tail _ hentry)⟩
    have hfresh : ∀ other ∈ rest.map Prod.fst,
        other ∉ (entries ++ [(name, Item.value v)]).map Prod.fst := by
      intro other hother hmem
      rw [List.map_append, List.mem_append] at hmem
      rcases hmem with hold | hnew
      · exact hentries other (.tail _ hother) hold
      · cases List.mem_singleton.1 hnew
        exact hname hother
    obtain ⟨bound, rfl⟩ := Nat.exists_eq_succ_of_ne_zero (Nat.ne_zero_of_lt hbound)
    rw [List.flatMap_cons, lines_entryLine (h.simple _ List.mem_cons_self)
      (hentries name List.mem_cons_self), ih hrest hfresh (Nat.lt_of_succ_lt_succ hbound),
      List.append_assoc]
    rfl

theorem toValues_map (document : List (String × Value)) :
    Entries.toValues (document.map fun entry => (entry.1, .value entry.2)) = document := by
  induction document with
  | nil => rfl
  | cons first rest ih =>
    rw [List.map_cons, Entries.toValues, ih]
    rfl

theorem Flat.toList_print {document : List (String × Value)} (h : Flat document) :
    (print document).toList = document.flatMap entryLine := by
  have hplain : ∀ entry ∈ document, isTable entry.2 = false := by
    exact fun entry hentry => (h.simple entry hentry).isTable_eq
  have hkept : document.filter (fun entry => !isTable entry.2) = document :=
    List.filter_eq_self.2 fun entry hentry => by rw [hplain entry hentry]; rfl
  have hnone : document.filter (fun entry => isTable entry.2) = [] :=
    List.filter_eq_nil_iff.2 fun entry hentry => by rw [hplain entry hentry]; decide
  unfold print
  dsimp only
  rw [hkept, hnone, String.toList_ofList]
  cases document with
  | nil => rfl
  | cons first rest => exact List.append_nil _

theorem length_le_flatMap (document : List (String × Value)) :
    document.length ≤ (document.flatMap entryLine).length := by
  induction document with
  | nil => exact Nat.le_refl _
  | cons first rest ih =>
    have hline : 0 < (entryLine first).length := by
      unfold entryLine
      rw [List.length_append]
      exact Nat.succ_pos _
    rw [List.flatMap_cons, List.length_append, List.length_cons]
    omega

/-- A text of lines begins with a key, and not with a byte order mark. -/
theorem flatMap_entryLine_ne (document : List (String × Value)) (more : List Char) :
    document.flatMap entryLine ≠ '\ufeff' :: more := by
  cases document with
  | nil => exact nofun
  | cons first rest =>
    obtain ⟨c, after, hline, hc⟩ := entryLine_cons first
    rw [List.flatMap_cons, hline]
    rintro ⟨⟩
    cases hc

theorem Flat.parse?_print {document : List (String × Value)} (h : Flat document) :
    parse? (print document) = some (Dict.ofList document) := by
  have hlines : lines ((document.flatMap entryLine).length + 1) ⟨[], []⟩
      (document.flatMap entryLine) = _ :=
    lines_flatMap h (fun _ _ => List.not_mem_nil)
      (Nat.lt_succ_of_le (length_le_flatMap document))
  unfold parse?
  rw [h.toList_print]
  dsimp only
  split
  · rename_i more heq
    exact absurd heq (flatMap_entryLine_ne document more)
  · rw [hlines]
    dsimp only [Option.bind_eq_bind, Option.bind_some]
    rw [List.nil_append, toValues_map]

end Preferences.Toml
