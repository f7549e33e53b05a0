import Mathlib.Tactic.SplitIfs
import Preferences.Proofs.Json.Numerals

/-!
# JSON documents are read back

The text of a value is read as the value, up to three things (`reread?`). A floating-point number is
read as what its numeral spells, which need not be that number. What is no finite number is read as
nothing. And where arrays and objects are nested too deep, or a number is too large, nothing is read
at all.
-/

namespace Preferences.Json

/-! ### Strings -/

theorem hex4?_control :
    ∀ n < 32, hex4? '0' '0' (hexChar (n / 16)) (hexChar (n % 16)) = some n := by
  decide

theorem stringBody_control {c : Char} (h : c.toNat < 32) (rest : List Char) :
    stringBody ('\\' :: 'u' :: '0' :: '0' :: hexChar (c.toNat / 16) ::
      hexChar (c.toNat % 16) :: rest) = prepend c (stringBody rest) := by
  have hhigh : isHighSurrogate c.toNat = false := by
    unfold isHighSurrogate
    rw [decide_eq_false (by omega), Bool.false_and]
  have hlow : isLowSurrogate c.toNat = false := by
    unfold isLowSurrogate
    rw [decide_eq_false (by omega), Bool.false_and]
  rw [stringBody, hex4?_control _ h]
  simp only [hhigh, hlow, Bool.false_eq_true, if_false, Char.ofNat_toNat]

theorem stringBody_unescape {c x : Char} (h : unescape? c = some x) (rest : List Char) :
    stringBody ('\\' :: c :: rest) = prepend x (stringBody rest) := by
  have hhex : c ≠ 'u' := by
    rintro rfl
    cases h
  rw [stringBody, h]
  exact fun _ _ _ _ _ hc => absurd hc hhex

theorem stringBody_plain {c : Char} (hquote : c ≠ '"') (hslash : c ≠ '\\')
    (hcontrol : ¬ c.toNat < 32) (rest : List Char) :
    stringBody (c :: rest) = prepend c (stringBody rest) := by
  rw [stringBody, if_neg hcontrol]
  · exact hquote
  · exact fun _ _ _ _ _ hc => absurd hc hslash
  · exact fun _ _ hc => absurd hc hslash

/-- Every character is read back from what is written for it. -/
theorem stringBody_escape (c : Char) (rest : List Char) :
    stringBody (escape c ++ rest) = prepend c (stringBody rest) := by
  unfold escape
  split_ifs with hquote hslash _ _ _ _ _ hcontrol
  any_goals
    subst_vars
    exact stringBody_unescape rfl rest
  · exact stringBody_control hcontrol rest
  · exact stringBody_plain hquote hslash hcontrol rest

theorem stringBody_flatMap (cs rest : List Char) :
    stringBody (cs.flatMap escape ++ '"' :: rest) = some (cs, rest) := by
  induction cs with
  | nil => rfl
  | cons c cs ih =>
    rw [List.flatMap_cons, List.append_assoc, stringBody_escape, ih]
    rfl

/-! ### What is read -/

/-- What the text of a floating-point number is read as. -/
def rereadFloat? (x : Binary64) : Option Value :=
  if x.isFinite then (number (numbers.render x).toList).map Prod.fst else some .null

mutual

/-- What is read where a value was written, with at most `depth` levels of arrays and objects. -/
def reread? (depth : Nat) : Value → Option Value
  | .float x => rereadFloat? x
  | .array items =>
    match depth with
    | 0 => none
    | depth + 1 => (rereadItems? depth items).map .array
  | .object members =>
    match depth with
    | 0 => none
    | depth + 1 => (rereadMembers? depth members).map .object
  | value => some value

def rereadItems? (depth : Nat) : List Value → Option (List Value)
  | [] => some []
  | item :: rest => do
    let first ← reread? depth item
    let more ← rereadItems? depth rest
    some (first :: more)

def rereadMembers? (depth : Nat) : List (String × Value) → Option (List (String × Value))
  | [] => some []
  | (name, value) :: rest => do
    let first ← reread? depth value
    let more ← rereadMembers? depth rest
    some ((name, first) :: more)

end

theorem rereadItems?_eq_mapM (depth : Nat) (items : List Value) :
    rereadItems? depth items = items.mapM (reread? depth) := by
  induction items with
  | nil => rfl
  | cons item rest ih =>
    unfold rereadItems?
    rw [ih, List.mapM_cons]
    rfl

theorem rereadMembers?_eq_mapM (depth : Nat) (members : List (String × Value)) :
    rereadMembers? depth members =
      members.mapM fun m => (reread? depth m.2).map fun value => (m.1, value) := by
  induction members with
  | nil => rfl
  | cons member rest ih =>
    obtain ⟨name, value⟩ := member
    unfold rereadMembers?
    rw [ih, List.mapM_cons]
    dsimp only
    cases reread? depth value <;> rfl

/-! ### Blanks -/

theorem skipBlank_cons {c : Char} (h : isBlank c = false) (cs : List Char) :
    skipBlank (c :: cs) = c :: cs := by
  unfold skipBlank
  rw [List.dropWhile_cons_of_neg (by rw [h]; decide)]

theorem skipBlank_skipBlank (cs : List Char) : skipBlank (skipBlank cs) = skipBlank cs := by
  unfold skipBlank
  induction cs with
  | nil => rfl
  | cons c cs ih =>
    cases h : isBlank c with
    | true =>
      rw [List.dropWhile_cons_of_pos h]
      exact ih
    | false =>
      have hstay : List.dropWhile isBlank (c :: cs) = c :: cs :=
        List.dropWhile_cons_of_neg (by rw [h]; decide)
      rw [hstay, hstay]

theorem skipBlank_newLine (level : Nat) (cs : List Char) :
    skipBlank (newLine level ++ cs) = skipBlank cs := by
  have hblank : ∀ c ∈ newLine level, isBlank c = true := by
    intro c hc
    rcases List.mem_cons.1 hc with rfl | hspace
    · rfl
    · rw [(List.mem_replicate.1 hspace).2]
      rfl
  exact List.dropWhile_append_of_pos hblank

/-! ### Lists between brackets -/

/-- The texts of some things, each of which a scanner reads, whatever ends it. Blanks before a text
make no difference to the scanner. -/
structure Scans {α β : Type} (item : Scan α) (close : Char) (text : β → List Char)
    (read? : β → Option α) (bs : List β) : Prop where
  blank : ∀ cs, item (skipBlank cs) = item cs
  start : ∀ b ∈ bs, ∃ c cs, text b = c :: cs ∧ isBlank c = false ∧ c ≠ close
  read : ∀ b ∈ bs, ∀ rest, Ends rest → item (text b ++ rest) = (read? b).map fun a => (a, rest)

section

variable {α β : Type} {item : Scan α} {close : Char} {text : β → List Char} {read? : β → Option α}

theorem ends_of_blank {c : Char} (h : continues c = false) (cs : List Char) : Ends (c :: cs) := by
  rintro _ ⟨⟩
  exact h

/-- A comma, a line break and a text, for each of the things. -/
def separated (level : Nat) (text : β → List Char) (bs : List β) : List Char :=
  bs.flatMap fun b => ',' :: (newLine level ++ text b)

theorem length_le_separated (level : Nat) (bs : List β) :
    bs.length ≤ (separated level text bs).length := by
  unfold separated
  induction bs with
  | nil => exact Nat.le_refl 0
  | cons b bs ih =>
    rw [List.flatMap_cons, List.length_append, List.length_cons, List.length_cons]
    omega

theorem ends_separated (level level' : Nat) (bs : List β) (rest : List Char) :
    Ends (separated level text bs ++ (newLine level' ++ rest)) := by
  cases bs with
  | nil => exact ends_of_blank rfl _
  | cons b bs => exact ends_of_blank rfl _

theorem Scans.head {b : β} {bs : List β} (h : Scans item close text read? (b :: bs))
    {cs rest : List Char} (hcs : skipBlank cs = text b ++ rest) (hrest : Ends rest) :
    item cs = (read? b).map fun a => (a, rest) := by
  rw [← h.blank, hcs]
  exact h.read b List.mem_cons_self rest hrest

theorem Scans.tail {b : β} {bs : List β} (h : Scans item close text read? (b :: bs)) :
    Scans item close text read? bs :=
  ⟨h.blank, fun b hb => h.start b (List.mem_cons_of_mem _ hb),
    fun b hb => h.read b (List.mem_cons_of_mem _ hb)⟩

theorem Scans.skip {b : β} {bs : List β} (h : Scans item close text read? (b :: bs))
    (level : Nat) (rest : List Char) :
    skipBlank (newLine level ++ (text b ++ rest)) = text b ++ rest := by
  obtain ⟨c, cs, htext, hblank, -⟩ := h.start b List.mem_cons_self
  rw [skipBlank_newLine, htext, List.cons_append, skipBlank_cons hblank]

theorem items_separated (hclose : close ≠ ',' ∧ isBlank close = false) (level level' : Nat)
    {b : β} {bs : List β} (h : Scans item close text read? (b :: bs)) {bound : Nat}
    (hbound : bs.length < bound) {cs rest : List Char}
    (hcs : skipBlank cs =
      text b ++ (separated level text bs ++ (newLine level' ++ close :: rest))) :
    items item close bound cs = ((b :: bs).mapM read?).map fun as => (as, rest) := by
  -- On the texts that follow the first. The bound stays above their number.
  induction bs generalizing b bound cs with
  | nil =>
    obtain ⟨bound, rfl⟩ : ∃ n, bound = n + 1 := ⟨bound - 1, by omega⟩
    rw [List.mapM_cons, items, h.head hcs (ends_separated level level' [] _)]
    cases read? b with
    | none => rfl
    | some a =>
      have hend : skipBlank (separated level text [] ++ (newLine level' ++ close :: rest)) =
          close :: rest := by
        show skipBlank (newLine level' ++ close :: rest) = _
        rw [skipBlank_newLine, skipBlank_cons hclose.2]
      simp only [Option.map_some, Option.bind_eq_bind, Option.bind_some, hend, if_true]
      rfl
  | cons next others ih =>
    rw [List.length_cons] at hbound
    obtain ⟨bound, rfl⟩ : ∃ n, bound = n + 1 := ⟨bound - 1, by omega⟩
    have hroom : others.length < bound := by omega
    have hothers := ih h.tail hroom (h.tail.skip level _)
    rw [List.mapM_cons, items, h.head hcs (ends_separated level level' (next :: others) _)]
    cases read? b with
    | none => rfl
    | some a =>
      have hcomma : skipBlank (separated level text (next :: others) ++
          (newLine level' ++ close :: rest)) = ',' :: (newLine level ++
            (text next ++ (separated level text others ++ (newLine level' ++ close :: rest)))) := by
        unfold separated
        rw [List.flatMap_cons, List.cons_append, List.cons_append, skipBlank_cons rfl]
        simp only [List.append_assoc]
      simp only [Option.map_some, Option.bind_eq_bind, Option.bind_some, hcomma,
        if_neg hclose.1.symm, if_true, hothers]
      cases List.mapM read? (next :: others) <;> rfl

/-- A list over several lines, up to the closing character, is read as what its items are read
as. -/
theorem sequence_separated (hclose : close ≠ ',' ∧ isBlank close = false) (level level' : Nat)
    {b : β} {bs : List β} (h : Scans item close text read? (b :: bs)) (rest : List Char) :
    sequence item close (newLine level ++
        (text b ++ (separated level text bs ++ (newLine level' ++ close :: rest)))) =
      ((b :: bs).mapM read?).map fun as => (as, rest) := by
  obtain ⟨c, cs, htext, hblank, hopen⟩ := h.start b List.mem_cons_self
  have hskip := h.skip level (separated level text bs ++ (newLine level' ++ close :: rest))
  rw [htext, List.cons_append] at hskip
  unfold sequence
  rw [htext, List.cons_append, hskip]
  dsimp only
  rw [if_neg hopen]
  refine items_separated hclose level level' h ?_ ?_
  · have hlength : bs.length ≤ (separated level text bs).length := length_le_separated level bs
    simp only [List.length_append, List.length_cons]
    omega
  · rw [skipBlank_cons hblank, htext, List.cons_append]

end

/-! ### Values -/

def memberText (level : Nat) (m : String × Value) : List Char :=
  quote m.1 ++ ([':', ' '] ++ render level m.2)

theorem renderItems_eq (level : Nat) (items : List Value) :
    renderItems level items = separated level (render level) items := by
  unfold separated
  induction items with
  | nil => rfl
  | cons item rest ih =>
    unfold renderItems
    rw [ih, List.flatMap_cons]
    simp only [List.cons_append, List.append_assoc]

theorem renderMembers_eq (level : Nat) (members : List (String × Value)) :
    renderMembers level members = separated level (memberText level) members := by
  unfold separated
  induction members with
  | nil => rfl
  | cons member rest ih =>
    obtain ⟨name, value⟩ := member
    unfold renderMembers memberText
    rw [ih, List.flatMap_cons]
    simp only [List.cons_append, List.nil_append, List.append_assoc]
    rfl

/-- A numeral begins with a character that begins and closes nothing else. -/
theorem Numeral.chars_cons (t : Numeral) : ∃ c cs, t.chars = c :: cs ∧ isBlank c = false ∧
    c ∉ [']', '\x7d', '"', '[', '\x7b', 'n', 't', 'f'] := by
  obtain ⟨c, cs, hcons, hc⟩ := t.whole_cons
  unfold chars
  cases t.negative with
  | true =>
    rw [if_pos rfl]
    exact ⟨'-', t.unsignedChars, rfl, by decide, by decide⟩
  | false =>
    rw [if_neg Bool.false_ne_true]
    refine ⟨c, cs ++ (fractionChars t.fraction? ++ exponentChars t.exponent?), ?_, ?_, ?_⟩
    · unfold unsignedChars
      rw [hcons, List.append_assoc, List.cons_append]
    · cases hblank : isBlank c with
      | false => rfl
      | true =>
        unfold isBlank at hblank
        simp only [Bool.or_eq_true, beq_iff_eq] at hblank
        rcases hblank with ((rfl | rfl) | rfl) | rfl <;> cases hc
    · intro hmem
      simp only [List.mem_cons, List.not_mem_nil, or_false] at hmem
      rcases hmem with rfl | rfl | rfl | rfl | rfl | rfl | rfl | rfl <;> cases hc

theorem render_integer (level : Nat) (n : Int64) :
    render level (.integer n) = (Numeral.ofInt n.toInt).chars := by
  unfold render
  rw [Numeral.chars_ofInt]

theorem render_float (level : Nat) (x : Binary64) :
    (x.isFinite = true ∧ ∃ t : Numeral, t.IsFloat ∧ render level (.float x) = t.chars ∧
      t.chars = (numbers.render x).toList) ∨
    x.isFinite = false ∧ render level (.float x) = "null".toList := by
  unfold render
  cases h : x.isFinite with
  | true =>
    obtain ⟨t, hfloat, ht⟩ := exists_numeral h
    exact .inl ⟨rfl, t, hfloat, ht.symm, ht⟩
  | false => exact .inr ⟨rfl, rfl⟩

/-- The text of a value begins with a character that is no blank and closes nothing. -/
theorem render_cons (level : Nat) (v : Value) : ∃ c cs, render level v = c :: cs ∧
    isBlank c = false ∧ c ≠ ']' ∧ c ≠ '\x7d' := by
  have numeral : ∀ t : Numeral, ∃ c cs, t.chars = c :: cs ∧ isBlank c = false ∧
      c ≠ ']' ∧ c ≠ '\x7d' := by
    intro t
    obtain ⟨c, cs, hchars, hblank, hother⟩ := t.chars_cons
    exact ⟨c, cs, hchars, hblank, fun h => hother (by simp [h]), fun h => hother (by simp [h])⟩
  cases v with
  | null => exact ⟨_, _, rfl, rfl, by decide, by decide⟩
  | bool value => cases value <;> exact ⟨_, _, rfl, rfl, by decide, by decide⟩
  | integer n =>
    rw [render_integer]
    exact numeral _
  | float x =>
    rcases render_float level x with ⟨-, t, -, ht, -⟩ | ⟨-, hnull⟩
    · rw [ht]
      exact numeral t
    · exact ⟨_, _, hnull, rfl, by decide, by decide⟩
  | string s => exact ⟨_, _, rfl, rfl, by decide, by decide⟩
  | array items => cases items <;> exact ⟨_, _, rfl, rfl, by decide, by decide⟩
  | object members => cases members <;> exact ⟨_, _, rfl, rfl, by decide, by decide⟩

theorem value_skipBlank (depth : Nat) (cs : List Char) :
    value depth (skipBlank cs) = value depth cs := by
  unfold value
  rw [skipBlank_skipBlank]

theorem member_skipBlank (read : Scan Value) (cs : List Char) :
    member read (skipBlank cs) = member read cs := by
  unfold member
  rw [skipBlank_skipBlank]

theorem value_numeral (depth : Nat) (t : Numeral) (rest : List Char) :
    value depth (t.chars ++ rest) = number (t.chars ++ rest) := by
  obtain ⟨c, cs, hchars, hblank, hother⟩ := t.chars_cons
  rw [hchars, List.cons_append]
  unfold value
  rw [skipBlank_cons hblank]
  split
  case h_7 => rfl
  all_goals
    rename_i heq
    cases heq
    exact absurd (by decide) hother

theorem number_chars (t : Numeral) : (number t.chars).map Prod.fst = t.value? := by
  have hread : number (t.chars ++ []) = t.value?.map fun v => (v, []) :=
    number_append t (fun _ h => (nomatch h))
  rw [List.append_nil] at hread
  rw [hread]
  cases t.value? <;> rfl

theorem rereadFloat?_of_isFinite {x : Binary64} (hfinite : x.isFinite = true) {v : Value}
    (h : rereadFloat? x = some v) : ∃ y, v = .float y := by
  obtain ⟨t, hfloat, hchars⟩ := exists_numeral hfinite
  unfold rereadFloat? at h
  rw [if_pos hfinite, ← hchars, number_chars] at h
  exact hfloat.value? h

theorem rereadFloat?_of_not_isFinite {x : Binary64} (hfinite : x.isFinite = false) :
    rereadFloat? x = some .null := by
  unfold rereadFloat?
  rw [hfinite, if_neg Bool.false_ne_true]

theorem rereadFloat?_cases {x : Binary64} {v : Value} (h : rereadFloat? x = some v) :
    (∃ y, v = .float y) ∨ v = .null := by
  cases hfinite : x.isFinite with
  | true => exact .inl (rereadFloat?_of_isFinite hfinite h)
  | false =>
    rw [rereadFloat?_of_not_isFinite hfinite] at h
    cases h
    exact .inr rfl

theorem value_float (depth level : Nat) (x : Binary64) {rest : List Char} (hrest : Ends rest) :
    value depth (render level (.float x) ++ rest) = (rereadFloat? x).map fun v => (v, rest) := by
  unfold rereadFloat?
  rcases render_float level x with ⟨hfinite, t, -, ht, hchars⟩ | ⟨hfinite, hnull⟩
  · rw [if_pos hfinite, ht, value_numeral, number_append t hrest, ← hchars, number_chars]
  · rw [hfinite, if_neg Bool.false_ne_true, hnull]
    unfold value
    rfl

/-- What holds of scalars, and of arrays and objects if it holds of all in them, holds of every
value. -/
theorem Value.forall_of_parts {P : Value → Prop} (null : P .null) (bool : ∀ b, P (.bool b))
    (integer : ∀ n, P (.integer n)) (float : ∀ x, P (.float x)) (string : ∀ s, P (.string s))
    (array : ∀ items, (∀ v ∈ items, P v) → P (.array items))
    (object : ∀ members, (∀ m ∈ members, P m.2) → P (.object members)) (v : Value) : P v := by
  refine @Value.rec P (fun items => ∀ v ∈ items, P v) (fun members => ∀ m ∈ members, P m.2)
    (fun m => P m.2) null bool integer float string array object ?_ ?_ ?_ ?_ (fun _ _ h => h) v
  · exact fun _ h => (nomatch h)
  · exact fun v vs hv hvs => List.forall_mem_cons.2 ⟨hv, hvs⟩
  · exact fun _ h => (nomatch h)
  · exact fun m ms hm hms => List.forall_mem_cons.2 ⟨hm, hms⟩

theorem quote_append (s : String) (rest : List Char) :
    quote s ++ rest = '"' :: (s.toList.flatMap escape ++ '"' :: rest) := by
  unfold quote
  rw [List.cons_append, List.append_assoc, List.singleton_append]

theorem value_quote (depth : Nat) (s : String) (rest : List Char) :
    value depth (quote s ++ rest) = some (.string s, rest) := by
  have hread : value depth (quote s ++ rest) =
      (stringBody (s.toList.flatMap escape ++ '"' :: rest)).map fun read =>
        (.string (String.ofList read.1), read.2) := by
    rw [quote_append]
    unfold value
    rfl
  rw [hread, stringBody_flatMap, Option.map_some, String.ofList_toList]

theorem value_bracket (depth : Nat) (rest : List Char) :
    value depth ('[' :: rest) =
      match depth with
      | 0 => none
      | depth + 1 =>
        (sequence (value depth) ']' rest).map fun read => (.array read.1, read.2) := by
  unfold value
  cases depth <;> rfl

theorem value_brace (depth : Nat) (rest : List Char) :
    value depth ('\x7b' :: rest) =
      match depth with
      | 0 => none
      | depth + 1 =>
        (sequence (member (value depth)) '\x7d' rest).map fun read => (.object read.1, read.2) := by
  unfold value
  cases depth <;> rfl

theorem member_memberText {depth level : Nat} {m : String × Value} {rest : List Char}
    (h : value depth (render level m.2 ++ rest) =
      (reread? depth m.2).map fun w => (w, rest)) :
    member (value depth) (memberText level m ++ rest) =
      ((reread? depth m.2).map fun w => (m.1, w)).map fun w => (w, rest) := by
  have hspace : value depth (' ' :: (render level m.2 ++ rest)) =
      value depth (render level m.2 ++ rest) := by
    rw [← value_skipBlank depth (' ' :: _), ← value_skipBlank depth (render level m.2 ++ rest)]
    rfl
  unfold member memberText
  rw [List.append_assoc, quote_append, skipBlank_cons rfl]
  show (stringBody (m.1.toList.flatMap escape ++
    '"' :: (':' :: ' ' :: (render level m.2 ++ rest)))).bind _ = _
  rw [stringBody_flatMap, Option.bind_some]
  show (value depth (' ' :: (render level m.2 ++ rest))).map _ = _
  rw [hspace, h, String.ofList_toList]
  cases reread? depth m.2 <;> rfl

theorem value_array (depth level : Nat) (items : List Value) (rest : List Char)
    (h : ∀ v ∈ items, ∀ (depth level : Nat) (rest : List Char), Ends rest →
      value depth (render level v ++ rest) = (reread? depth v).map fun w => (w, rest)) :
    value depth (render level (.array items) ++ rest) =
      (reread? depth (.array items)).map fun w => (w, rest) := by
  cases items with
  | nil =>
    show value depth ('[' :: ']' :: rest) = _
    rw [value_bracket]
    cases depth <;> rfl
  | cons item others =>
    have htext : render level (.array (item :: others)) ++ rest =
        '[' :: (newLine (level + 1) ++ (render (level + 1) item ++
          (separated (level + 1) (render (level + 1)) others ++
            (newLine level ++ ']' :: rest)))) := by
      rw [render, renderItems_eq]
      simp only [List.cons_append, List.append_assoc, List.nil_append]
    rw [htext, value_bracket]
    cases depth with
    | zero => rfl
    | succ depth =>
      have hscans : Scans (value depth) ']' (render (level + 1)) (reread? depth)
          (item :: others) := by
        refine ⟨value_skipBlank depth, ?_, fun v hv => h v hv depth (level + 1)⟩
        intro v _
        obtain ⟨c, cs, hcons, hblank, hclose, -⟩ := render_cons (level + 1) v
        exact ⟨c, cs, hcons, hblank, hclose⟩
      dsimp only
      rw [sequence_separated ⟨by decide, rfl⟩ _ _ hscans, reread?, rereadItems?_eq_mapM]
      cases List.mapM (reread? depth) (item :: others) <;> rfl

theorem value_object (depth level : Nat) (members : List (String × Value)) (rest : List Char)
    (h : ∀ m ∈ members, ∀ (depth level : Nat) (rest : List Char), Ends rest →
      value depth (render level m.2 ++ rest) = (reread? depth m.2).map fun w => (w, rest)) :
    value depth (render level (.object members) ++ rest) =
      (reread? depth (.object members)).map fun w => (w, rest) := by
  cases members with
  | nil =>
    show value depth ('\x7b' :: '\x7d' :: rest) = _
    rw [value_brace]
    cases depth <;> rfl
  | cons m others =>
    have htext : render level (.object (m :: others)) ++ rest =
        '\x7b' :: (newLine (level + 1) ++ (memberText (level + 1) m ++
          (separated (level + 1) (memberText (level + 1)) others ++
            (newLine level ++ '\x7d' :: rest)))) := by
      obtain ⟨name, v⟩ := m
      rw [render, renderMembers_eq, memberText]
      simp only [List.cons_append, List.append_assoc, List.nil_append]
    rw [htext, value_brace]
    cases depth with
    | zero => rfl
    | succ depth =>
      have hscans : Scans (member (value depth)) '\x7d' (memberText (level + 1))
          (fun m => (reread? depth m.2).map fun w => (m.1, w)) (m :: others) := by
        refine ⟨member_skipBlank _, fun m _ => ⟨'"', _, rfl, rfl, by decide⟩, ?_⟩
        intro m hm rest hrest
        exact member_memberText (h m hm depth (level + 1) rest hrest)
      dsimp only
      rw [sequence_separated ⟨by decide, rfl⟩ _ _ hscans, reread?, rereadMembers?_eq_mapM]
      cases List.mapM (fun m => (reread? depth m.2).map fun w => (m.1, w)) (m :: others) <;> rfl

/-- The text of a value is read as `reread?` says, and what follows is left. -/
theorem value_render (v : Value) : ∀ (depth level : Nat) (rest : List Char), Ends rest →
    value depth (render level v ++ rest) = (reread? depth v).map fun w => (w, rest) := by
  induction v using Value.forall_of_parts with
  | null =>
    intro depth level rest _
    unfold value
    rfl
  | bool b =>
    intro depth level rest _
    unfold value
    cases b <;> rfl
  | integer n =>
    intro depth level rest hrest
    rw [render_integer, value_numeral, number_append _ hrest, Numeral.value?_ofInt]
    rfl
  | float x => exact fun depth level rest hrest => value_float depth level x hrest
  | string s => exact fun depth level rest _ => value_quote depth s rest
  | array items ih => exact fun depth level rest _ => value_array depth level items rest ih
  | object members ih => exact fun depth level rest _ => value_object depth level members rest ih

/-- What a printed document is read as. -/
theorem parse?_print (v : Value) : parse? (print v) = reread? maxDepth v := by
  have hread := value_render v maxDepth 0 [] (fun _ h => (nomatch h))
  rw [List.append_nil] at hread
  unfold parse? print
  rw [String.toList_ofList, hread]
  cases reread? maxDepth v <;> rfl

end Preferences.Json
