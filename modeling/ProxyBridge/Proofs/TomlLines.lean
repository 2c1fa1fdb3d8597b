import ProxyBridge.Proofs.TomlStrings
import ProxyBridge.Toml.Writer

/-!
# Lines survive

What is written for a number, an item, a setting or a header is read again, and reading stops where
writing did. A document is read line by line, so the document of a text is put together from its
lines, whichever they are and in which order they stand.

## Results

* `number_digits` — numbers.
* `value_render` — items.
* `Reads.header`, `Reads.setting`, `Reads.gap` — one more line in front of a text.
-/

namespace ProxyBridge.Toml

/-! ## Numbers -/

section Digits

variable {n : Nat} {c d : Char} {l tail : List Char}

theorem digit_spec {k : Nat} (hk : k < 10) :
    Digits.isDigit 10 k.digitChar = true ∧ Digits.value? k.digitChar = some k ∧
      (k.digitChar = '0' → k = 0) := by
  decide +revert

/-- The decimal digits of a number: they are digits, they stand for the number, and the first one is
a zero for zero only. -/
theorem digits_spec (n : Nat) :
    (∀ c ∈ Nat.toDigits 10 n, Digits.isDigit 10 c = true) ∧
      Digits.toNat 10 (Nat.toDigits 10 n) = n ∧
      ((Nat.toDigits 10 n).head? = some '0' → n = 0) := by
  -- the last digit comes behind the digits of a tenth of the number
  induction n using Nat.strongRecOn with
  | _ n ih =>
    rw [Nat.toDigits_eq_if (by decide)]
    split
    · next hSmall =>
      obtain ⟨hDigit, hValue, hZero⟩ := digit_spec hSmall
      refine ⟨fun c hc => ?_, ?_, fun hHead => hZero (Option.some.inj hHead)⟩
      · rw [List.mem_singleton.mp hc]
        exact hDigit
      · simp [Digits.toNat, hValue]
    · next hLarge =>
      obtain ⟨hDigits, hNumber, hLead⟩ := ih (n / 10) (by omega)
      obtain ⟨hDigit, hValue, -⟩ := digit_spec (Nat.mod_lt n (by decide : 0 < 10))
      refine ⟨fun c hc => ?_, ?_, fun hHead => ?_⟩
      · rcases List.mem_append.mp hc with hFront | hLast
        · exact hDigits c hFront
        · rw [List.mem_singleton.mp hLast]
          exact hDigit
      · unfold Digits.toNat at hNumber ⊢
        rw [List.foldl_append, hNumber, List.foldl_cons, List.foldl_nil, hValue, Option.getD_some]
        omega
      · -- the front is not empty, so the first digit is there
        rw [List.head?_append_of_ne_nil _ Nat.toDigits_ne_nil] at hHead
        have := hLead hHead
        omega

/-- What may come after a number: the end of a line, a bracket or a comma. -/
def Ends (c : Char) : Prop := c = '\n' ∨ c = ']' ∨ c = ','

instance : Decidable (Ends c) := inferInstanceAs (Decidable (_ ∨ _ ∨ _))

theorem Ends.notDigit (hc : Ends c) : Digits.isDigit 10 c = false ∧ c ≠ '_' := by
  rcases hc with rfl | rfl | rfl <;> decide

theorem moreDigits_append (hl : ∀ d ∈ l, Digits.isDigit 10 d = true) (hc : Ends c) :
    moreDigits? (Digits.isDigit 10) (l ++ c :: tail) = some (l, c :: tail) := by
  obtain ⟨hNot, hUnder⟩ := hc.notDigit
  induction l with
  | nil =>
    rw [List.nil_append, moreDigits?.eq_4 _ _ _ hUnder]
    simp [hNot]
  | cons d l ih =>
    have hDigit := hl d (List.mem_cons_self ..)
    -- digits may be set apart by underscores, but none was written
    have hPlain : d ≠ '_' := by
      rintro rfl
      exact absurd hDigit (by decide)
    rw [List.cons_append, moreDigits?.eq_4 _ _ _ hPlain, if_pos hDigit,
      ih fun e he => hl e (List.mem_cons_of_mem _ he)]
    rfl

theorem digits_append (hl : ∀ d ∈ l, Digits.isDigit 10 d = true) (hNonempty : l ≠ [])
    (hc : Ends c) : digits? (Digits.isDigit 10) (l ++ c :: tail) = some (l, c :: tail) := by
  cases l with
  | nil => exact absurd rfl hNonempty
  | cons d l =>
    rw [List.cons_append, digits?, if_pos (hl d (List.mem_cons_self ..)),
      moreDigits_append (fun e he => hl e (List.mem_cons_of_mem _ he)) hc]
    rfl

/-- No number has a zero in front. -/
theorem whole_digits (n : Nat) (hc : Ends c) :
    whole? (Nat.toDigits 10 n ++ c :: tail) = some (Nat.toDigits 10 n, c :: tail) := by
  obtain ⟨hDigits, -, hLead⟩ := digits_spec n
  by_cases hn : n = 0
  · subst hn
    rfl
  · rw [whole?.eq_2, digits_append hDigits Nat.toDigits_ne_nil hc]
    -- a zero in front would be read alone
    intro cs hText
    have hFront : (Nat.toDigits 10 n ++ c :: tail).head? = (Nat.toDigits 10 n).head? :=
      List.head?_append_of_ne_nil _ Nat.toDigits_ne_nil
    refine hn (hLead ?_)
    rw [← hFront, hText]
    rfl

/-- A number begins with a digit, and has one digit only if that is a zero. -/
theorem digits_cons (n : Nat) : ∃ d l, Nat.toDigits 10 n = d :: l ∧ Digits.isDigit 10 d = true ∧
    (d = '0' → l = []) := by
  obtain ⟨hDigits, -, hLead⟩ := digits_spec n
  cases hText : Nat.toDigits 10 n with
  | nil => exact absurd hText Nat.toDigits_ne_nil
  | cons d l =>
    rw [hText] at hDigits hLead
    refine ⟨d, l, rfl, hDigits d (List.mem_cons_self ..), ?_⟩
    rintro rfl
    cases hLead rfl
    exact (List.cons.inj hText).2.symm

theorem decimal_digits {n : Nat} (hn : n ≤ maxInteger) (hc : Ends c) :
    decimal? false (Nat.toDigits 10 n ++ c :: tail) = some (.integer n, c :: tail) := by
  have hMark : marksFloat (c :: tail) = false := by
    rcases hc with rfl | rfl | rfl <;> rfl
  have hNumber : Digits.toNat 10 (Nat.toDigits 10 n) = n := (digits_spec n).2.1
  unfold decimal?
  rw [whole_digits n hc]
  show (if marksFloat (c :: tail) = true then _ else _) = _
  rw [hMark]
  show (if Digits.toNat 10 (Nat.toDigits 10 n) ≤ maxInteger then
    some (Value.integer (Digits.toNat 10 (Nat.toDigits 10 n) : Nat), c :: tail) else none) = _
  rw [hNumber, if_pos hn]

theorem number_digits {n : Nat} (hn : n ≤ maxInteger) (hc : Ends c) :
    number? (Nat.toDigits 10 n ++ c :: tail) = some (.integer n, c :: tail) := by
  have hDecimal : decimal? false (Nat.toDigits 10 n ++ c :: tail) =
      some (.integer n, c :: tail) := decimal_digits hn hc
  obtain ⟨d, l, hText, hDigit, hZero⟩ := digits_cons n
  rw [hText] at hDecimal ⊢
  -- neither a sign nor a mark
  have hNot (e : Char) (he : Digits.isDigit 10 e = false) : d ≠ e := by
    rintro rfl
    rw [hDigit] at he
    cases he
  have hMarks (e : Char) (he : ¬ Ends e) (cs : List Char) :
      d :: l ++ c :: tail ≠ '0' :: e :: cs := by
    intro h
    obtain ⟨rfl, hTail⟩ := List.cons.inj h
    rw [hZero rfl] at hTail
    exact he ((List.cons.inj hTail).1 ▸ hc)
  have hSigns (e : Char) (he : Digits.isDigit 10 e = false) (cs : List Char) :
      d :: l ++ c :: tail ≠ e :: cs := fun h => hNot e he (List.cons.inj h).1
  rw [number?.eq_6 _ (hMarks 'x' (by decide)) (hMarks 'o' (by decide)) (hMarks 'b' (by decide))
    (hSigns '+' (by decide)) (hSigns '-' (by decide)), signed?.eq_3 _ _
    (fun _ => hSigns 'i' (by decide) _) (fun _ => hSigns 'n' (by decide) _), hDecimal]

/-- Digits end at one place only. -/
theorem stop_unique {l' tail' : List Char} {c' : Char}
    (hl : ∀ d ∈ l, Digits.isDigit 10 d = true) (hl' : ∀ d ∈ l', Digits.isDigit 10 d = true)
    (hc : Digits.isDigit 10 c = false) (hc' : Digits.isDigit 10 c' = false)
    (hText : l ++ c :: tail = l' ++ c' :: tail') : c = c' := by
  have hDrop := congrArg (List.dropWhile (Digits.isDigit 10)) hText
  rw [List.dropWhile_append_of_pos hl, List.dropWhile_append_of_pos hl',
    List.dropWhile_cons_of_neg (by simp [hc]), List.dropWhile_cons_of_neg (by simp [hc'])] at hDrop
  exact (List.cons.inj hDrop).1

theorem two_eq_some {low high : Nat} {cs rest : List Char} (h : two? low high cs = some (n, rest)) :
    ∃ a b, cs = a :: b :: rest ∧ Digits.isDigit 10 a = true ∧ Digits.isDigit 10 b = true := by
  unfold two? at h
  split at h
  · next a b cs =>
    dsimp only at h
    split at h
    · next hTwo =>
      cases h
      rw [Bool.and_eq_true, Bool.and_eq_true] at hTwo
      exact ⟨a, b, rfl, hTwo.1.1, hTwo.1.2⟩
    · cases h
  · cases h

theorem after_eq_some {e : Char} {cs rest : List Char} (h : after? e cs = some rest) :
    cs = e :: rest := by
  unfold after? at h
  split at h
  · split at h
    · next hEq =>
      cases h
      rw [hEq]
    · cases h
  · cases h

/-- Nothing in a number separates days or hours. -/
theorem afterDate_digits (n : Nat) (hc : Ends c) :
    afterDate? (Nat.toDigits 10 n ++ c :: tail) = none := by
  obtain ⟨hDigits, -, -⟩ := digits_spec n
  have hStop := hc.notDigit.1
  have hDay : afterDay? (Nat.toDigits 10 n ++ c :: tail) = none := by
    unfold afterDay?
    cases hCentury : two? 0 99 (Nat.toDigits 10 n ++ c :: tail) with
    | none => rfl
    | some p =>
      obtain ⟨a, b, hText, ha, hb⟩ := two_eq_some hCentury
      show (two? 0 99 p.2 >>= _) = _
      cases hYear : two? 0 99 p.2 with
      | none => rfl
      | some q =>
        obtain ⟨d, e, hText', hd, he⟩ := two_eq_some hYear
        show (after? '-' q.2 >>= _) = _
        cases hMark : after? '-' q.2 with
        | none => rfl
        | some rest =>
          -- the digits would end at the mark, and nothing that may come after them is one
          rw [hText', after_eq_some hMark] at hText
          have hFour : ∀ x ∈ [a, b, d, e], Digits.isDigit 10 x = true := by simp [ha, hb, hd, he]
          have hSame := stop_unique hDigits hFour hStop
            (show Digits.isDigit 10 '-' = false by decide) hText
          exact absurd hc (hSame ▸ (by decide : ¬ Ends '-'))
  have hClock : afterClock? (Nat.toDigits 10 n ++ c :: tail) = none := by
    unfold afterClock?
    cases hHour : two? 0 23 (Nat.toDigits 10 n ++ c :: tail) with
    | none => rfl
    | some p =>
      obtain ⟨a, b, hText, ha, hb⟩ := two_eq_some hHour
      show (after? ':' p.2 >>= _) = _
      cases hMark : after? ':' p.2 with
      | none => rfl
      | some rest =>
        rw [after_eq_some hMark] at hText
        have hTwo : ∀ x ∈ [a, b], Digits.isDigit 10 x = true := by simp [ha, hb]
        have hSame := stop_unique hDigits hTwo hStop
          (show Digits.isDigit 10 ':' = false by decide) hText
        exact absurd hc (hSame ▸ (by decide : ¬ Ends ':'))
  rw [afterDate?, hDay, hClock]

theorem value_digits (depth : Nat) {n : Nat} (hn : n ≤ maxInteger) (hc : Ends c) :
    value? depth (Nat.toDigits 10 n ++ c :: tail) = some (.integer n, c :: tail) := by
  have hNumber : number? (Nat.toDigits 10 n ++ c :: tail) = some (.integer n, c :: tail) :=
    number_digits hn hc
  have hDate : afterDate? (Nat.toDigits 10 n ++ c :: tail) = none := afterDate_digits n hc
  obtain ⟨d, l, hText, hDigit, -⟩ := digits_cons n
  rw [hText] at hNumber hDate ⊢
  have hFirst (e : Char) (he : Digits.isDigit 10 e = false) (cs : List Char) :
      d :: l ++ c :: tail ≠ e :: cs := by
    intro h
    rw [(List.cons.inj h).1, he] at hDigit
    cases hDigit
  have hScalar : scalar? (d :: l ++ c :: tail) = some (.integer n, c :: tail) := by
    rw [scalar?.eq_5 _ (fun _ => hFirst 't' (by decide) _) (fun _ => hFirst 'f' (by decide) _)
      (hFirst '"' (by decide)) (hFirst '\x27' (by decide)), hDate, hNumber]
  cases depth with
  | zero => exact hScalar
  | succ depth =>
    rw [value?.eq_4 _ _ (hFirst '[' (by decide)) (hFirst '\x7b' (by decide)), hScalar]

end Digits

/-! ## Items -/

section Items

variable {cs cs' rest rest' : List Char} {item? : List Char → Option (Value × List Char)}
  {fuel depth n : Nat} {v : Value} {vs : List Value}

theorem items_end (hFill : skipFill? false cs = some (']' :: rest)) :
    items? item? (fuel + 1) cs = some ([], rest) := by
  rw [items?, hFill]
  rfl

theorem items_last (hFill : skipFill? false cs = some cs') (hMore : ∀ rest, cs' ≠ ']' :: rest)
    (hItem : item? cs' = some (v, ']' :: rest)) :
    items? item? (fuel + 1) cs = some ([v], rest) := by
  rw [items?, hFill, Option.bind_eq_bind, Option.bind_some]
  split
  · exact absurd rfl (hMore _)
  · rw [hItem]
    rfl

theorem items_more (hFill : skipFill? false cs = some cs') (hMore : ∀ rest, cs' ≠ ']' :: rest)
    (hItem : item? cs' = some (v, ',' :: rest))
    (hRest : items? item? fuel rest = some (vs, rest')) :
    items? item? (fuel + 1) cs = some (v :: vs, rest') := by
  rw [items?, hFill, Option.bind_eq_bind, Option.bind_some]
  split
  · exact absurd rfl (hMore _)
  · rw [hItem]
    show (items? item? fuel rest >>= _) = _
    rw [hRest]
    rfl

/-- Blanks and line breaks end where a number begins. -/
theorem skipFill_digits (n : Nat) (rest : List Char) :
    skipFill? false (Nat.toDigits 10 n ++ rest) = some (Nat.toDigits 10 n ++ rest) ∧
      ∀ rest', Nat.toDigits 10 n ++ rest ≠ ']' :: rest' := by
  obtain ⟨d, l, hText, hDigit, -⟩ := digits_cons n
  have hNot (e : Char) (he : Digits.isDigit 10 e = false) : d ≠ e := by
    rintro rfl
    rw [hDigit] at he
    cases he
  rw [hText, List.cons_append]
  refine ⟨?_, fun rest' h => hNot ']' (by decide) (List.cons.inj h).1⟩
  have hBlank : isBlank d = false := by
    simp [isBlank, hNot ' ' (by decide), hNot '\t' (by decide)]
  rw [skipFill?.eq_4 _ _ _ (hNot '\n' (by decide)) fun _ h => absurd h (hNot '\r' (by decide))]
  simp [hBlank, hNot '#' (by decide)]

/-- Numbers on lines of their own, up to the bracket. -/
theorem items_renderLines (ns : List Nat) (hns : ∀ n ∈ ns, n ≤ maxInteger)
    (hFuel : ns.length < fuel) :
    items? (value? depth) fuel ('\n' :: (Item.renderLines ns ++ ']' :: rest)) =
      some (ns.map fun n => .integer (Int.ofNat n), rest) := by
  obtain ⟨fuel, rfl⟩ : ∃ m, fuel = m + 1 := ⟨fuel - 1, by omega⟩
  -- each number uses fuel up, and the bracket at the end as well
  induction ns generalizing fuel with
  | nil =>
    have hFill : skipFill? false ('\n' :: ']' :: rest) = some (']' :: rest) := by
      simp [skipFill?, isBlank]
    exact items_end hFill
  | cons n ns ih =>
    rw [List.length_cons] at hFuel
    obtain ⟨fuel, rfl⟩ : ∃ m, fuel = m + 1 := ⟨fuel - 1, by omega⟩
    have hText : '\n' :: (Item.renderLines (n :: ns) ++ ']' :: rest) =
        '\n' :: ' ' :: ' ' :: ' ' :: ' ' ::
          (Nat.toDigits 10 n ++ ',' :: '\n' :: (Item.renderLines ns ++ ']' :: rest)) := by
      simp [Item.renderLines]
    obtain ⟨hFill, hMore⟩ :=
      skipFill_digits n (',' :: '\n' :: (Item.renderLines ns ++ ']' :: rest))
    rw [hText]
    refine items_more ?_ hMore (value_digits depth (hns n (List.mem_cons_self ..)) (by decide))
      (ih (fun m hm => hns m (List.mem_cons_of_mem _ hm)) fuel (by omega))
    rw [← hFill]
    simp [skipFill?, isBlank]

theorem length_renderLines (ns : List Nat) : ns.length ≤ (Item.renderLines ns).length := by
  induction ns with
  | nil => exact Nat.le_refl _
  | cons n ns ih =>
    unfold Item.renderLines at ih ⊢
    rw [List.flatMap_cons, List.length_append, List.length_cons]
    simp only [List.length_append, List.length_cons]
    omega

theorem value_string (s : String) :
    value? (depth + 1) ((Form.forText s.toList).write s.toList ++ '\n' :: rest) =
      some (.string s, '\n' :: rest) := by
  have hRead : string? ((Form.forText s.toList).write s.toList ++ '\n' :: rest) =
      some (s, '\n' :: rest) := string_write s (by simp)
  obtain ⟨f, text, hText⟩ :
      ∃ f text, (Form.forText s.toList).write s.toList = Form.quote f :: text := by
    generalize Form.forText s.toList = f
    cases f <;> exact ⟨_, _, rfl⟩
  rw [hText, List.cons_append] at hRead ⊢
  have hQuoted : value? (depth + 1) (f.quote :: (text ++ '\n' :: rest)) =
      (string? (f.quote :: (text ++ '\n' :: rest))).map fun p => (.string p.1, p.2) := by
    cases f <;> rfl
  rw [hQuoted, hRead]
  rfl

theorem value_bracket (h : items? (value? depth) (cs.length + 1) cs = some (vs, rest)) :
    value? (depth + 1) ('[' :: cs) = some (.array vs, rest) := by
  rw [value?, h]
  rfl

theorem value_numbers (ns : List Nat) (hns : ∀ n ∈ ns, n ≤ maxInteger) :
    value? (depth + 1) ((Item.numbers ns).render ++ '\n' :: rest) =
      some ((Item.numbers ns).value, '\n' :: rest) := by
  -- two numbers or more stand on lines of their own
  match ns with
  | [] =>
    have hFill : skipFill? false (']' :: '\n' :: rest) = some (']' :: '\n' :: rest) := by
      simp [skipFill?, isBlank]
    exact value_bracket (items_end hFill)
  | [n] =>
    obtain ⟨hFill, hMore⟩ := skipFill_digits n (']' :: '\n' :: rest)
    have hText : (Item.numbers [n]).render ++ '\n' :: rest =
        '[' :: (Nat.toDigits 10 n ++ ']' :: '\n' :: rest) := by
      simp [Item.render]
    rw [hText]
    exact value_bracket (items_last hFill hMore (value_digits depth (hns n (.head _)) (by decide)))
  | n :: m :: ns =>
    have hText : (Item.numbers (n :: m :: ns)).render ++ '\n' :: rest =
        '[' :: '\n' :: (Item.renderLines (n :: m :: ns) ++ ']' :: '\n' :: rest) := by
      simp [Item.render]
    have hLong := length_renderLines (n :: m :: ns)
    rw [hText]
    refine value_bracket (items_renderLines (n :: m :: ns) hns ?_)
    simp only [List.length_cons, List.length_append] at hLong ⊢
    omega

/-- **Items survive.** What is written for an item is read as its value, up to the end of the
line. -/
theorem value_render {item : Item} (hItem : item.Fits) :
    value? (depth + 1) (item.render ++ '\n' :: rest) = some (item.value, '\n' :: rest) := by
  cases item with
  | string s => exact value_string s
  | number n => exact value_digits (depth + 1) hItem (by decide)
  | boolean b => cases b <;> rfl
  | numbers ns => exact value_numbers ns hItem

end Items

/-! ## Keys -/

section Keys

variable {name : String} {limit : Nat} {text rest : List Char} {c x : Char}

/-- A name begins with a character that begins nothing else. -/
theorem Bare.cons (h : Bare name) :
    ∃ c cs, name.toList = c :: cs ∧ ∀ d, isBare d = false → c ≠ d := by
  cases hText : name.toList with
  | nil => exact absurd hText h.nonempty
  | cons c cs =>
    refine ⟨c, cs, rfl, ?_⟩
    rintro _ hd rfl
    have hc := h.bare c (by simp [hText])
    rw [hd] at hc
    cases hc

theorem Bare.skip (h : Bare name) (text : List Char) :
    skipBlanks (name.toList ++ text) = name.toList ++ text := by
  obtain ⟨c, cs, hText, hNot⟩ := h.cons
  have hBlank : isBlank c = false := by
    simp [isBlank, hNot ' ' (by decide), hNot '\t' (by decide)]
  rw [hText, List.cons_append, skipBlanks, List.dropWhile_cons_of_neg (by simp [hBlank])]

/-- A name is read up to the next character that can not be part of it. -/
theorem Bare.read (h : Bare name) (hx : isBare x = false) :
    name? (name.toList ++ x :: text) = some (name, x :: text) := by
  have hTake : (name.toList ++ x :: text).takeWhile isBare = name.toList := by
    rw [List.takeWhile_append_of_pos h.bare, List.takeWhile_cons_of_neg (by simp [hx]),
      List.append_nil]
  have hDrop : (name.toList ++ x :: text).dropWhile isBare = x :: text := by
    rw [List.dropWhile_append_of_pos h.bare, List.dropWhile_cons_of_neg (by simp [hx])]
  obtain ⟨c, cs, hText, hNot⟩ := h.cons
  have hFirst (e : Char) (he : isBare e = false) (cs' : List Char) :
      name.toList ++ x :: text ≠ e :: cs' := by
    rw [hText]
    exact fun hEq => hNot e he (List.cons.inj hEq).1
  rw [name?.eq_3 _ (hFirst '"' (by decide)) (hFirst '\x27' (by decide)), hTake, hDrop]
  split
  · next hNil => exact absurd hNil h.nonempty
  · rw [String.ofList_toList]

/-- A key of one name. -/
theorem Bare.key (h : Bare name) (hx : isBare x = false)
    (hText : skipBlanks (x :: text) = c :: rest) (hc : c ≠ '.') :
    key? (limit + 1) (name.toList ++ x :: text) = some ([name], c :: rest) := by
  rw [key?, h.skip, h.read hx, Option.bind_eq_bind, Option.bind_some]
  dsimp only
  rw [hText]
  split
  · next hDot => exact absurd (List.cons.inj hDot).1 hc
  · rfl

end Keys

/-! ## Lines -/

section Lines

variable {name : String} {item : Item} {text rest : List Char} {v : Value} {d : Document}

theorem header_render (h : Bare name) :
    header? false (name.toList ++ ']' :: '\n' :: rest) = some ([name], rest) := by
  have hKey : key? (78 + 1) (name.toList ++ ']' :: '\n' :: rest) =
      some ([name], ']' :: '\n' :: rest) := h.key (by decide) rfl (by decide)
  unfold header?
  rw [show depthLimit = 78 + 1 from rfl, hKey]
  rfl

/-- No item begins with a blank. -/
theorem skipBlanks_render (item : Item) (rest : List Char) :
    skipBlanks (item.render ++ rest) = item.render ++ rest := by
  obtain ⟨c, cs, hText, hc⟩ : ∃ c cs, item.render = c :: cs ∧ isBlank c = false := by
    cases item with
    | string s =>
      unfold Item.render
      dsimp only
      generalize Form.forText s.toList = f
      cases f <;> exact ⟨_, _, rfl, by decide⟩
    | number n =>
      obtain ⟨d, l, hText, hDigit, -⟩ := digits_cons n
      refine ⟨d, l, hText, ?_⟩
      rw [isBlank, Bool.or_eq_false_iff, beq_eq_false_iff_ne, beq_eq_false_iff_ne]
      constructor
      · rintro rfl
        exact absurd hDigit (by decide)
      · rintro rfl
        exact absurd hDigit (by decide)
    | boolean b => cases b <;> exact ⟨_, _, rfl, by decide⟩
    | numbers ns =>
      match ns with
      | [] => exact ⟨_, _, rfl, by decide⟩
      | [n] => exact ⟨_, _, rfl, by decide⟩
      | n :: m :: ns => exact ⟨_, _, rfl, by decide⟩
  rw [hText, List.cons_append, skipBlanks, List.dropWhile_cons_of_neg (by simp [hc])]

/-- The text is read as the value, up to the end of the line. -/
structure IsValue (text : List Char) (v : Value) : Prop where
  skip : ∀ rest, skipBlanks (text ++ '\n' :: rest) = text ++ '\n' :: rest
  read : ∀ rest, value? depthLimit (text ++ '\n' :: rest) = some (v, '\n' :: rest)

/-- What is written for an item is read as its value. -/
theorem isValue_render (hItem : item.Fits) : IsValue item.render item.value where
  skip rest := skipBlanks_render item ('\n' :: rest)
  read _ := value_render hItem

theorem IsValue.assignment (hValue : IsValue text v) (h : Bare name) :
    assignment? (value? depthLimit) (name.toList ++ ' ' :: '=' :: ' ' :: (text ++ '\n' :: rest)) =
      some ({ path := [name], value := v }, '\n' :: rest) := by
  have hKey : key? (78 + 1) (name.toList ++ ' ' :: '=' :: ' ' :: (text ++ '\n' :: rest)) =
      some ([name], '=' :: ' ' :: (text ++ '\n' :: rest)) :=
    h.key (by decide) rfl (by decide)
  have hBlank : skipBlanks (' ' :: (text ++ '\n' :: rest)) = text ++ '\n' :: rest :=
    hValue.skip rest
  have hRead : value? (78 + 1) (text ++ '\n' :: rest) = some (v, '\n' :: rest) := hValue.read rest
  unfold assignment?
  rw [show depthLimit = 78 + 1 from rfl, hKey]
  show (value? (78 + 1) (skipBlanks (' ' :: (text ++ '\n' :: rest))) >>= _) = _
  rw [hBlank, hRead]
  rfl

/-- The text is read as a document, whatever allowance there is, if it is enough. -/
def Reads (cs : List Char) (d : Document) : Prop :=
  ∀ fuel, cs.length < fuel → Document.ofLines? fuel cs = some d

theorem Reads.nil : Reads [] { preamble := [], sections := [] } := by
  intro fuel hFuel
  obtain ⟨fuel, rfl⟩ : ∃ m, fuel = m + 1 := ⟨fuel - 1, by omega⟩
  rfl

theorem Reads.gap (h : Reads rest d) : Reads ('\n' :: rest) d := by
  intro fuel hFuel
  rw [List.length_cons] at hFuel
  obtain ⟨fuel, rfl⟩ : ∃ m, fuel = m + 1 := ⟨fuel - 1, by omega⟩
  exact h fuel (by omega)

theorem Reads.header (h : Reads rest d) (hName : Bare name) :
    Reads ('[' :: name.toList ++ [']', '\n'] ++ rest) (d.consHeader .table [name]) := by
  intro fuel hFuel
  simp only [List.cons_append, List.append_assoc, List.nil_append, List.length_cons,
    List.length_append] at hFuel ⊢
  obtain ⟨fuel, rfl⟩ : ∃ m, fuel = m + 1 := ⟨fuel - 1, by omega⟩
  have hHeader : header? false (name.toList ++ ']' :: '\n' :: rest) = some ([name], rest) :=
    header_render hName
  have hRest := h fuel (by omega)
  obtain ⟨c, cs, hText, hNot⟩ := hName.cons
  have hBlank : skipBlanks ('[' :: (name.toList ++ ']' :: '\n' :: rest)) =
      '[' :: (name.toList ++ ']' :: '\n' :: rest) := rfl
  rw [Document.ofLines?, hBlank]
  split
  · next hEq => cases hEq
  · next hEq =>
    -- a name does not begin with a bracket
    have hTwo := (List.cons.inj hEq).2
    rw [hText] at hTwo
    exact absurd (List.cons.inj hTwo).1 (hNot '[' (by decide))
  · next hEq =>
    rw [← (List.cons.inj hEq).2, hHeader]
    show (Document.ofLines? fuel rest >>= _) = _
    rw [hRest]
    rfl
  · next hNone => exact absurd rfl (hNone _)

theorem Reads.setting (h : Reads rest d) (hName : Bare name) (hValue : IsValue text v) :
    Reads (name.toList ++ [' ', '=', ' '] ++ text ++ ['\n'] ++ rest)
      (d.consAssignment { path := [name], value := v }) := by
  intro fuel hFuel
  have hText : name.toList ++ [' ', '=', ' '] ++ text ++ ['\n'] ++ rest =
      name.toList ++ ' ' :: '=' :: ' ' :: (text ++ '\n' :: rest) := by
    simp
  rw [hText] at hFuel ⊢
  simp only [List.length_cons, List.length_append] at hFuel
  obtain ⟨fuel, rfl⟩ : ∃ m, fuel = m + 1 := ⟨fuel - 1, by omega⟩
  have hAssignment : assignment? (value? depthLimit)
        (name.toList ++ ' ' :: '=' :: ' ' :: (text ++ '\n' :: rest)) =
      some ({ path := [name], value := v }, '\n' :: rest) := hValue.assignment hName
  have hRest := h fuel (by omega)
  obtain ⟨c, cs, hFirst, hNot⟩ := hName.cons
  have hEmpty : isEmptyLine (c :: cs ++ ' ' :: '=' :: ' ' :: (text ++ '\n' :: rest)) =
      false := by
    unfold isEmptyLine
    split
    · next hEq => exact absurd (List.cons.inj hEq).1 (hNot '#' (by decide))
    · next hEq => exact absurd (List.cons.inj hEq).1 (hNot '\n' (by decide))
    · next hEq => exact absurd (List.cons.inj hEq).1 (hNot '\r' (by decide))
    · rfl
  rw [Document.ofLines?, hName.skip]
  rw [hFirst] at hAssignment ⊢
  split
  · next hEq => cases hEq
  · next hEq => exact absurd (List.cons.inj hEq).1 (hNot '[' (by decide))
  · next hEq => exact absurd (List.cons.inj hEq).1 (hNot '[' (by decide))
  · rw [hEmpty, hAssignment]
    show (Document.ofLines? fuel rest >>= _) = _
    rw [hRest]
    rfl

/-- No text that is read begins with a byte order mark, so the text is read as it stands. -/
theorem Reads.ofText {cs : List Char} (h : Reads cs d) :
    Document.ofText? (String.ofList cs) = some d := by
  have hMark : Document.skipMark cs = cs := by
    unfold Document.skipMark
    split
    · next rest =>
      -- the mark begins no name, so the first line would not be read
      have hNone : Document.ofLines? (('\ufeff' :: rest).length + 1) ('\ufeff' :: rest) = none :=
        rfl
      rw [h _ (Nat.lt_succ_self _)] at hNone
      cases hNone
    · rfl
  unfold Document.ofText?
  rw [String.toList_ofList, hMark]
  exact h _ (Nat.lt_succ_self _)

end Lines

end ProxyBridge.Toml
