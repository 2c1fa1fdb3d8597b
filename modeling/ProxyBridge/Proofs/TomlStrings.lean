import Mathlib.Data.List.Basic
import ProxyBridge.Toml.Writer

/-!
# Strings survive

A string is written in the first form that can hold it. Two of the forms have escapes, so they hold
every string; the other two are taken only for strings that need none. Reading goes in two steps,
and so does the argument: the text between the quotes is cut out where it was put in, and decoding
it undoes the escapes.

A text can be cut out if it does not have too many quotes in a row: none on one line, two at most on
several. `Form.Holds` counts them, and passes over what a backslash protects.

## Results

* `decode_encode` — decoding undoes the escapes.
* `cutLine_holds`, `cutLines_holds` — a text that a form holds is cut out whole.
* `string_write` — every string that is written is read again.
-/

namespace ProxyBridge.Toml

variable {f : Form} {c x : Char} {cs rest : List Char}

/-! ## Decoding -/

/-- A visible character stands for itself, except a backslash where there are escapes. -/
theorem decode_visible (hc : isVisible c = true) (hPlain : f.escapes = true → c ≠ '\\') :
    decode? f false (c :: cs) = (decode? f false cs).map (c :: ·) := by
  rw [decode?.eq_def]
  split
  · next h => cases h
  · next h =>
    cases h
    exact absurd hc (by decide)
  · next h =>
    cases h
    exact absurd hc (by decide)
  · next h =>
    cases h
    have hRaw : f.escapes = false := Bool.eq_false_iff.mpr fun hEscapes => hPlain hEscapes rfl
    rw [hRaw]
    rfl
  · next h =>
    cases h
    simp [hc]

/-- A line break stands for itself in a string on several lines. -/
theorem decode_break (hf : f.isMulti = true) :
    decode? f false ('\n' :: cs) = (decode? f false cs).map ('\n' :: ·) := by
  simp [decode?, hf]

theorem decode_escape (hf : f.escapes = true) (hx : escape? c = some x) :
    decode? f false ('\\' :: c :: cs) = (decode? f false cs).map (x :: ·) := by
  -- the letters for code points are not among the others
  have hu : c ≠ 'u' := by
    rintro rfl
    cases hx
  have hU : c ≠ 'U' := by
    rintro rfl
    cases hx
  rw [decode?.eq_def]
  simp [hf, hx, hu, hU]

/-- A character that is not visible has a code point of two digits. -/
theorem toNat_lt_of_not_visible (hc : isVisible c = false) : c.toNat < 128 := by
  simp only [isVisible, Bool.or_eq_false_iff, Bool.and_eq_false_iff, decide_eq_false_iff_not,
    bne_eq_false_iff_eq] at hc
  omega

theorem length_fourDigits {n : Nat} (hn : n < 128) : (fourDigits n).length = 4 := by
  decide +revert

theorem codePoint_fourDigits {n : Nat} (hn : n < 128) :
    codePoint? (fourDigits n) = some (Char.ofNat n) := by
  decide +revert

theorem decode_unicode (hf : f.escapes = true) (hc : isVisible c = false) :
    decode? f false ('\\' :: 'u' :: (fourDigits c.toNat ++ cs)) =
      (decode? f false cs).map (c :: ·) := by
  have hLow := toNat_lt_of_not_visible hc
  have hPoint := codePoint_fourDigits hLow
  rw [Char.ofNat_toNat] at hPoint
  obtain ⟨a, b, d, e, hDigits⟩ := List.length_eq_four.mp (length_fourDigits hLow)
  rw [hDigits] at hPoint ⊢
  show decode? f false ('\\' :: 'u' :: a :: b :: d :: e :: cs) = _
  rw [decode?.eq_5, hf, hPoint]
  rfl

/-- What is written for a character is read as the character. -/
theorem decode_encodeChar (hf : f.escapes = true) (hc : c ≠ '"') :
    decode? f false (f.encodeChar c ++ cs) = (decode? f false cs).map (c :: ·) := by
  unfold Form.encodeChar
  split
  · exact decode_escape hf rfl
  · exact decode_escape hf rfl
  · split
    · next hMulti => exact decode_break hMulti
    · exact decode_escape hf rfl
  · exact decode_escape hf rfl
  · exact decode_escape hf rfl
  · exact decode_escape hf rfl
  · next hBackslash =>
    split
    · next hVisible => exact decode_visible hVisible fun _ => hBackslash
    · next hHidden => exact decode_unicode hf (Bool.not_eq_true _ ▸ hHidden)

/-- Decoding undoes the escapes. -/
theorem decode_encode (hf : f.escapes = true) (n : Nat) (cs : List Char) :
    decode? f false (f.encode n cs) = some cs := by
  -- how many quotes came before only decides whether a quote has a backslash
  induction cs generalizing n with
  | nil => rfl
  | cons c cs ih =>
    by_cases hQuote : c = '"'
    · subst hQuote
      rw [Form.encode]
      split
      · rw [decode_visible (by decide) fun _ => by decide, ih]
        rfl
      · rw [decode_escape hf rfl, ih]
        rfl
    · have hStep : f.encode n (c :: cs) = f.encodeChar c ++ f.encode 0 cs := by
        rw [Form.encode]
        exact hQuote
      rw [hStep, decode_encodeChar hf hQuote, ih]
      rfl

/-- Without escapes every string of visible characters stands for itself, and line breaks where
there may be any. -/
theorem decode_raw (hf : f.escapes = false)
    (hcs : ∀ c ∈ cs, isVisible c = true ∨ f.isMulti = true ∧ c = '\n') :
    decode? f false cs = some cs := by
  induction cs with
  | nil => rfl
  | cons c cs ih =>
    have hRest := ih fun d hd => hcs d (List.mem_cons_of_mem _ hd)
    rcases hcs c (List.mem_cons_self ..) with hVisible | ⟨hMulti, rfl⟩
    · rw [decode_visible hVisible (by simp [hf]), hRest]
      rfl
    · rw [decode_break hMulti, hRest]
      rfl

/-! ## Cutting out -/

/-- How many quotes in a row a string may have without a backslash. -/
def Form.allowed (f : Form) : Nat := if f.isMulti then 2 else 0

/-- The text can stand between the quotes of the form, after a number of quotes in a row. A
backslash protects the next character. -/
inductive Form.Holds (f : Form) : Nat → List Char → Prop
  | nil {n : Nat} : Holds f n []
  | quote {n : Nat} {cs : List Char} (hn : n < f.allowed) (h : Holds f (n + 1) cs) :
    Holds f n (f.quote :: cs)
  | pair {n : Nat} {c : Char} {cs : List Char} (hf : f.escapes = true) (h : Holds f 0 cs) :
    Holds f n ('\\' :: c :: cs)
  | plain {n : Nat} {c : Char} {cs : List Char} (hQuote : c ≠ f.quote)
    (hPlain : f.escapes = true → c ≠ '\\') (h : Holds f 0 cs) : Holds f n (c :: cs)

theorem Form.quote_ne_backslash (f : Form) : f.quote ≠ '\\' := by
  cases f <;> decide

/-- On one line, a text is cut out if it has no quotes that nothing protects. -/
theorem cutLine_holds (hf : f.isMulti = false) {n : Nat} (h : f.Holds n cs) :
    cutLine? f (cs ++ f.quote :: rest) = some (cs, rest) := by
  induction h with
  | nil =>
    rw [List.nil_append, cutLine?.eq_def]
    exact if_pos rfl
  | quote hn =>
    rw [Form.allowed, hf] at hn
    exact absurd hn (Nat.not_lt_zero _)
  | pair hEscapes _ ih => simp [cutLine?, f.quote_ne_backslash.symm, hEscapes, ih]
  | @plain _ c cs hQuote hPlain _ ih =>
    have hNot : ¬(f.escapes = true ∧ c = '\\') := fun h => hPlain h.1 h.2
    rw [List.cons_append, cutLine?.eq_def]
    simp [hQuote, hNot, ih]

/-- The quotes that a text begins with. -/
def Form.run (f : Form) (cs : List Char) : Nat := (cs.takeWhile (· == f.quote)).length

/-- A text that a form holds begins with few quotes. -/
theorem Form.Holds.run_le {n : Nat} (h : f.Holds n cs) (hn : n ≤ f.allowed) :
    f.run cs + n ≤ f.allowed := by
  induction h with
  | nil => simpa [run] using hn
  | quote hLess _ ih =>
    have hRest := ih hLess
    simp only [run, List.takeWhile_cons, beq_self_eq_true, if_true, List.length_cons] at hRest ⊢
    omega
  | pair => simpa [run, f.quote_ne_backslash.symm] using hn
  | plain hQuote => simpa [run, hQuote] using hn

theorem Form.run_append (f : Form) (cs rest : List Char) :
    f.run (cs ++ rest) = if f.run cs = cs.length then cs.length + f.run rest else f.run cs := by
  unfold run
  rw [List.takeWhile_append]
  split
  · exact List.length_append
  · rfl

theorem Form.run_replicate (f : Form) (k : Nat) : f.run (List.replicate k f.quote) = k := by
  simp [run]

theorem Form.run_of_head (hRest : rest.head? ≠ some f.quote) : f.run rest = 0 := by
  cases rest with
  | nil => rfl
  | cons c rest =>
    have hc : c ≠ f.quote := fun h => hRest (congrArg some h)
    simp [run, hc]

/-- On several lines, fewer than three quotes in a row belong to the string. -/
theorem cutLines_step (hRun : f.run (c :: cs) < 3) (hPlain : f.escapes = true → c ≠ '\\') :
    cutLines? f (c :: cs) = (cutLines? f cs).map fun p => (c :: p.1, p.2) := by
  have hNot : ¬(f.escapes = true ∧ c = '\\') := fun h => hPlain h.1 h.2
  unfold Form.run at hRun
  rw [cutLines?.eq_def]
  dsimp only
  rw [if_neg (Nat.not_le.mpr hRun)]
  simp [hNot]

theorem cutLines_pair (hf : f.escapes = true) :
    cutLines? f ('\\' :: c :: cs) = (cutLines? f cs).map fun p => ('\\' :: c :: p.1, p.2) := by
  simp [cutLines?, hf, f.quote_ne_backslash.symm]

/-- Up to two quotes before the closing ones belong to the string. -/
theorem cutLines_end {k : Nat} (hk : k ≤ 2) (hRest : rest.head? ≠ some f.quote) :
    cutLines? f (List.replicate k f.quote ++ (List.replicate 3 f.quote ++ rest)) =
      some (List.replicate k f.quote, rest) := by
  have hText : List.replicate k f.quote ++ (List.replicate 3 f.quote ++ rest) =
      f.quote :: (List.replicate (k + 2) f.quote ++ rest) := by
    rw [← List.append_assoc, List.replicate_append_replicate, ← List.cons_append,
      ← List.replicate_succ]
  -- at most five quotes in a row, of which the last three close the string
  have hRun : f.run (f.quote :: (List.replicate (k + 2) f.quote ++ rest)) = k + 3 := by
    rw [← List.cons_append, ← List.replicate_succ, f.run_append, f.run_replicate,
      List.length_replicate, if_pos rfl, Form.run_of_head hRest]
  unfold Form.run at hRun
  rw [hText, cutLines?.eq_def]
  dsimp only
  have hTaken : min (k + 3) 5 = k + 3 := by omega
  rw [hRun, if_pos (by omega), hTaken, Nat.add_sub_cancel, ← List.cons_append,
    ← List.replicate_succ]
  rw [List.drop_left' List.length_replicate]

/-- On several lines, a text is cut out if it has at most two quotes in a row that nothing
protects. -/
theorem cutLines_holds (hf : f.isMulti = true) {n : Nat} (h : f.Holds n cs) (hn : n ≤ 2)
    (hRest : rest.head? ≠ some f.quote) :
    cutLines? f (cs ++ (List.replicate 3 f.quote ++ rest)) = some (cs, rest) := by
  have hAllowed : f.allowed = 2 := by rw [Form.allowed, hf]; rfl
  induction h with
  | nil => exact cutLines_end (k := 0) (by omega) hRest
  | @quote n cs hLess hTail ih =>
    have hRun := (Form.Holds.quote hLess hTail).run_le (by omega)
    by_cases hAll : f.run (f.quote :: cs) = (f.quote :: cs).length
    · -- nothing but quotes up to the closing ones
      have hQuotes : f.quote :: cs = List.replicate (f.quote :: cs).length f.quote := by
        refine List.eq_replicate_iff.mpr ⟨rfl, fun c hc => ?_⟩
        have hSame := (List.takeWhile_prefix (· == f.quote)).eq_of_length hAll
        have hEach := List.all_takeWhile (p := (· == f.quote)) (l := f.quote :: cs)
        rw [hSame, List.all_eq_true] at hEach
        exact eq_of_beq (hEach c hc)
      rw [hQuotes]
      exact cutLines_end (by omega) hRest
    · -- the run ends within the text, so the closing quotes do not add to it
      have hFew : f.run (f.quote :: (cs ++ (List.replicate 3 f.quote ++ rest))) < 3 := by
        rw [← List.cons_append, f.run_append, if_neg hAll]
        omega
      rw [List.cons_append, cutLines_step hFew fun _ => f.quote_ne_backslash, ih (by omega)]
      rfl
  | pair hEscapes _ ih =>
    rw [List.cons_append, List.cons_append, cutLines_pair hEscapes, ih (by omega)]
    rfl
  | @plain _ c cs hQuote hPlain _ ih =>
    have hNone : f.run (c :: (cs ++ (List.replicate 3 f.quote ++ rest))) < 3 := by
      simp [Form.run, hQuote]
    rw [List.cons_append, cutLines_step hNone hPlain, ih (by omega)]
    rfl

/-! ## What the forms hold -/

theorem Form.quote_of_escapes (hf : f.escapes = true) : f.quote = '"' := by
  rw [quote, hf]
  rfl

theorem Form.Holds.append {text : List Char} (h : f.Holds 0 text)
    (hcs : ∀ c ∈ cs, c ≠ f.quote ∧ c ≠ '\\') : f.Holds 0 (cs ++ text) := by
  induction cs with
  | nil => exact h
  | cons c cs ih =>
    obtain ⟨hQuote, hPlain⟩ := hcs c (List.mem_cons_self ..)
    exact .plain hQuote (fun _ => hPlain) (ih fun d hd => hcs d (List.mem_cons_of_mem _ hd))

/-- Nothing in a code point has a meaning of its own in a string. -/
theorem fourDigits_plain {n : Nat} (hn : n < 128) :
    '"' ∉ fourDigits n ∧ '\\' ∉ fourDigits n ∧ '\n' ∉ fourDigits n := by
  decide +revert

theorem holds_encodeChar (hf : f.escapes = true) (hc : c ≠ '"') {n : Nat} (h : f.Holds 0 cs) :
    f.Holds n (f.encodeChar c ++ cs) := by
  have hQuote := Form.quote_of_escapes hf
  unfold Form.encodeChar
  split
  · exact .pair hf h
  · exact .pair hf h
  · split
    · exact .plain (by rw [hQuote]; decide) (fun _ => by decide) h
    · exact .pair hf h
  · exact .pair hf h
  · exact .pair hf h
  · exact .pair hf h
  · next hBackslash =>
    split
    · exact .plain (by rwa [hQuote]) (fun _ => hBackslash) h
    · next hHidden =>
      obtain ⟨hNoQuote, hNoBackslash, -⟩ :=
        fourDigits_plain (toNat_lt_of_not_visible (Bool.not_eq_true _ ▸ hHidden))
      refine .pair hf (h.append fun d hd => ?_)
      rw [hQuote]
      exact ⟨ne_of_mem_of_not_mem hd hNoQuote, ne_of_mem_of_not_mem hd hNoBackslash⟩

/-- With escapes, every string can stand between the quotes. -/
theorem holds_encode (hf : f.escapes = true) (n : Nat) (cs : List Char) :
    f.Holds n (f.encode n cs) := by
  induction cs generalizing n with
  | nil => exact .nil
  | cons c cs ih =>
    by_cases hQuote : c = '"'
    · subst hQuote
      rw [Form.encode]
      -- a quote is protected if there were too many in a row already
      split
      · next hFew =>
        rw [Bool.and_eq_true, decide_eq_true_eq] at hFew
        have hLess : n < f.allowed := by
          rw [Form.allowed, hFew.1]
          exact hFew.2
        have hRest := Form.Holds.quote hLess (ih (n + 1))
        rwa [Form.quote_of_escapes hf] at hRest
      · exact .pair hf (ih 0)
    · have hStep : f.encode n (c :: cs) = f.encodeChar c ++ f.encode 0 cs := by
        rw [Form.encode]
        exact hQuote
      rw [hStep]
      exact holds_encodeChar hf hQuote (ih 0)

/-- The longest run so far, and the run at the end. -/
def runs (x : Char) (start : Nat × Nat) (cs : List Char) : Nat × Nat :=
  cs.foldl (fun p c => if c = x then (max p.1 (p.2 + 1), p.2 + 1) else (p.1, 0)) start

theorem runs_cons (x : Char) (start : Nat × Nat) (c : Char) (cs : List Char) :
    runs x start (c :: cs) =
      runs x (if c = x then (max start.1 (start.2 + 1), start.2 + 1) else (start.1, 0)) cs := rfl

theorem le_runs (x : Char) (start : Nat × Nat) (cs : List Char) :
    start.1 ≤ (runs x start cs).1 := by
  induction cs generalizing start with
  | nil => exact Nat.le_refl _
  | cons c cs ih =>
    rw [runs_cons]
    split
    · exact Nat.le_trans (Nat.le_max_left _ (start.2 + 1)) (ih (_, _))
    · exact ih (start.1, 0)

/-- Without escapes, a string can stand between the quotes if it has no long run of them. -/
theorem holds_raw (hf : f.escapes = false) (start : Nat × Nat) (cs : List Char)
    (hRuns : (runs f.quote start cs).1 ≤ f.allowed) : f.Holds start.2 cs := by
  -- the second number counts the quotes in a row before the text that is left
  induction cs generalizing start with
  | nil => exact .nil
  | cons c cs ih =>
    rw [runs_cons] at hRuns
    by_cases hc : c = f.quote
    · rw [if_pos hc] at hRuns
      have hLonger := Nat.le_trans (le_runs _ _ cs) hRuns
      subst hc
      exact .quote (by have := Nat.le_max_right start.1 (start.2 + 1); omega) (ih _ hRuns)
    · rw [if_neg hc] at hRuns
      exact .plain hc (by simp [hf]) (ih _ hRuns)

/-! ## Whole strings -/

/-- The string can stand between the quotes of a form without escapes. -/
structure Form.Fits (f : Form) (cs : List Char) : Prop where
  visible : ∀ c ∈ cs, isVisible c = true ∨ f.isMulti = true ∧ c = '\n'
  runs : longestRun f.quote cs ≤ f.allowed

theorem visible_of_not_control (hControl : cs.any isControl = false) (hc : c ∈ cs) :
    isVisible c = true ∨ c = '\n' := by
  have hNot := List.any_eq_false.mp hControl c hc
  simp only [isControl, Bool.and_eq_true, bne_iff_ne, Bool.not_eq_true', not_and,
    Bool.not_eq_false] at hNot
  by_cases hBreak : c = '\n'
  · exact Or.inr hBreak
  · exact Or.inl (hNot hBreak)

/-- The form of a string has escapes, or the string fits it. -/
theorem forText_fits (cs : List Char) :
    (Form.forText cs).escapes = true ∨ (Form.forText cs).Fits cs := by
  unfold Form.forText
  dsimp only
  -- a form without escapes is taken only after its conditions were checked
  split
  · exact Or.inl rfl
  · split
    · next hLiteral =>
      simp only [Bool.and_eq_true, Bool.not_eq_true', beq_iff_eq] at hLiteral
      obtain ⟨⟨hControl, hLines⟩, hRun⟩ := hLiteral
      refine Or.inr ⟨fun c hc => ?_, Nat.le_of_eq hRun⟩
      rcases visible_of_not_control hControl hc with hVisible | rfl
      · exact Or.inl hVisible
      · simp [hc] at hLines
    · split
      · exact Or.inl rfl
      · split
        · next hMulti =>
          simp only [Bool.and_eq_true, Bool.not_eq_true', decide_eq_true_eq] at hMulti
          obtain ⟨hControl, hRun⟩ := hMulti
          refine Or.inr ⟨fun c hc => ?_, hRun⟩
          exact (visible_of_not_control hControl hc).imp_right fun hBreak => ⟨rfl, hBreak⟩
        · split
          · exact Or.inl rfl
          · exact Or.inl rfl

/-- The text of a string between the quotes. -/
def Form.body (f : Form) (cs : List Char) : List Char := if f.escapes then f.encode 0 cs else cs

/-- The text of a string can be cut out, and stands for the string. -/
theorem body_spec (hf : f.escapes = true ∨ f.Fits cs) :
    f.Holds 0 (f.body cs) ∧ decode? f false (f.body cs) = some cs := by
  cases hEscapes : f.escapes with
  | true =>
    rw [Form.body, if_pos hEscapes]
    exact ⟨holds_encode hEscapes 0 cs, decode_encode hEscapes 0 cs⟩
  | false =>
    have hFits := hf.resolve_left (by simp [hEscapes])
    rw [Form.body, hEscapes]
    exact ⟨holds_raw hEscapes (0, 0) cs hFits.runs, decode_raw hEscapes hFits.visible⟩

theorem line_body (hLine : f.isMulti = false) (hf : f.escapes = true ∨ f.Fits cs) :
    line? f (f.body cs ++ f.quote :: rest) = some (String.ofList cs, rest) := by
  obtain ⟨hHolds, hDecode⟩ := body_spec hf
  rw [line?, cutLine_holds hLine hHolds]
  show (decode? f false (f.body cs) >>= fun s => _) = _
  rw [hDecode]
  rfl

theorem break_notMem_encode (n : Nat) (h : '\n' ∉ cs) : '\n' ∉ f.encode n cs := by
  induction cs generalizing n with
  | nil => exact h
  | cons c cs ih =>
    obtain ⟨hc, hRest⟩ := not_or.mp (List.mem_cons.not.mp h)
    by_cases hQuote : c = '"'
    · subst hQuote
      rw [Form.encode]
      split
      · simpa using ih (n + 1) hRest
      · simpa using ih 0 hRest
    · have hStep : f.encode n (c :: cs) = f.encodeChar c ++ f.encode 0 cs := by
        rw [Form.encode]
        exact hQuote
      rw [hStep, List.mem_append, not_or]
      refine ⟨?_, ih 0 hRest⟩
      unfold Form.encodeChar
      split
      · decide
      · decide
      · -- only a line break is written as one
        exact absurd rfl hc
      · decide
      · decide
      · decide
      · split
        · simpa using hc
        · next hHidden =>
          obtain ⟨-, -, hNoBreak⟩ :=
            fourDigits_plain (toNat_lt_of_not_visible (Bool.not_eq_true _ ▸ hHidden))
          simpa using hNoBreak

theorem break_notMem_body (h : '\n' ∉ cs) : '\n' ∉ f.body cs := by
  unfold Form.body
  split
  · exact break_notMem_encode 0 h
  · exact h

/-- A text without line breaks does not begin with one. -/
theorem skipBreak_of_notMem (h : '\n' ∉ cs) (f : Form) :
    skipBreak (cs ++ f.quote :: rest) = cs ++ f.quote :: rest := by
  have hQuote : f.quote ≠ '\n' ∧ f.quote ≠ '\r' := by cases f <;> decide
  have hNone : afterBreak? (cs ++ f.quote :: rest) = none := by
    unfold afterBreak?
    split
    · next hText =>
      cases cs with
      | nil => exact absurd (List.cons.inj hText).1 hQuote.1
      | cons c cs => exact absurd (List.cons.inj hText).1.symm (by simp at h; exact h.1)
    · next hText =>
      cases cs with
      | nil => exact absurd (List.cons.inj hText).1 hQuote.2
      | cons c cs =>
        have hTail := (List.cons.inj hText).2
        cases cs with
        | nil => exact absurd (List.cons.inj hTail).1 hQuote.1
        | cons d cs => exact absurd (List.cons.inj hTail).1.symm (by simp at h; exact h.2.1)
    · rfl
  rw [skipBreak, hNone]
  rfl

/-- The line break before a text with line breaks is not read with it. -/
theorem skipBreak_body (f : Form) (cs rest : List Char) :
    skipBreak ((if cs.contains '\n' then ['\n'] else []) ++ (f.body cs ++ f.quote :: rest)) =
      f.body cs ++ f.quote :: rest := by
  split
  · rfl
  · next h => exact skipBreak_of_notMem (break_notMem_body (by simpa using h)) f

theorem lines_body (hLines : f.isMulti = true) (hf : f.escapes = true ∨ f.Fits cs)
    (hRest : rest.head? ≠ some f.quote) :
    lines? f ((if cs.contains '\n' then ['\n'] else []) ++
      (f.body cs ++ (List.replicate 3 f.quote ++ rest))) = some (String.ofList cs, rest) := by
  obtain ⟨hHolds, hDecode⟩ := body_spec hf
  have hCut := cutLines_holds hLines hHolds (Nat.zero_le _) hRest
  have hSkip := skipBreak_body f cs (List.replicate 2 f.quote ++ rest)
  rw [← List.cons_append, ← List.replicate_succ] at hSkip
  rw [lines?, hSkip, hCut]
  show (decode? f false (f.body cs) >>= fun s => _) = _
  rw [hDecode]
  rfl

/-- A string on one line does not begin with three quotes. -/
theorem string_line (hLine : f.isMulti = false) {text : List Char}
    (hText : ∀ text', text ≠ f.quote :: f.quote :: text') :
    string? (f.quote :: text) = line? f text := by
  cases f with
  | multiBasic | multiLiteral => cases hLine
  | basic => exact string?.eq_2 text hText
  | literal => exact string?.eq_4 text hText

/-- **Strings survive.** What is written for a string is read as the string, with nothing of what
follows it. -/
theorem string_write (s : String) (hRest : rest.head? ≠ some '"' ∧ rest.head? ≠ some '\x27') :
    string? ((Form.forText s.toList).write s.toList ++ rest) = some (s, rest) := by
  have hFits := forText_fits s.toList
  generalize Form.forText s.toList = f at hFits
  have hHead : rest.head? ≠ some f.quote := by
    cases f with
    | basic | multiBasic => exact hRest.1
    | literal | multiLiteral => exact hRest.2
  cases hLines : f.isMulti with
  | true =>
    have hText : f.write s.toList ++ rest = List.replicate 3 f.quote ++
        ((if s.toList.contains '\n' then ['\n'] else []) ++
          (f.body s.toList ++ (List.replicate 3 f.quote ++ rest))) := by
      simp [Form.write, Form.delimiter, Form.body, hLines]
    have hRead := lines_body hLines hFits hHead
    rw [String.ofList_toList] at hRead
    rw [hText, ← hRead]
    cases f with
    | basic | literal => cases hLines
    | multiBasic | multiLiteral => rfl
  | false =>
    have hText : f.write s.toList ++ rest =
        f.quote :: (f.body s.toList ++ f.quote :: rest) := by
      simp [Form.write, Form.delimiter, Form.body, hLines]
    have hRead : line? f (f.body s.toList ++ f.quote :: rest) = some (s, rest) := by
      rw [line_body hLines hFits, String.ofList_toList]
    rw [hText, ← hRead]
    refine string_line hLines fun text' hTwo => ?_
    -- the text has no quote in front, so the second one would have to come after the closing one
    have hRun : f.run (f.body s.toList) + 0 ≤ f.allowed :=
      (body_spec hFits).1.run_le (Nat.zero_le _)
    rw [Form.allowed, hLines] at hRun
    cases hBody : f.body s.toList with
    | nil =>
      rw [hBody] at hTwo
      exact hHead (congrArg List.head? (List.cons.inj hTwo).2)
    | cons c cs =>
      rw [hBody] at hTwo hRun
      rw [(List.cons.inj hTwo).1] at hRun
      simp [Form.run] at hRun

end ProxyBridge.Toml
