import Mathlib
import NetNode.Json.Schema.Text
import NetNode.Json.Write
import NetNode.Proofs.Address.RoundTrip

/-!
# Reading written values back

What the JSON writer produces, the typed readers read back. `Reads r t v` says that the reader
`r` gives `v` from the text `t` whatever blanks stand before it and whatever may follow a value
stands after it; `Decodes r v x` says the same of both layouts of a value `v`, the compact one
and the indented one at every level.

The main statements:

* `readString_quoted`: a quoted string, with every character escaped as the writer escapes it,
  is read back whole.
* `readNumber_decimal`: the decimal digits of a number of at most 64 bits are read back.
* `decodes_record`: a record written as an object whose members each decode in their field,
  with every required field present, decodes to its members' changes applied in order.
* `readRecord_keeps`: conversely, whatever a record reader gives keeps any property that its
  defaults have and that each field's change keeps; `readUnsigned_le` and `readAddress_fits`
  bound what the scalar readers give.
-/

namespace NetNode.Json

open Cursor

/-! ## Blanks and strings -/

theorem utf8Size_of_isBlank {ch : Char} (h : isBlank ch = true) : ch.utf8Size = 1 := by
  simp only [isBlank, Bool.or_eq_true, decide_eq_true_eq] at h
  rcases h with ((rfl | rfl) | rfl) | rfl <;> rfl

theorem skipChars_blanks {ws : List Char} (hws : ∀ ch ∈ ws, isBlank ch = true) (t : List Char)
    (i : Nat) : skipChars (ws ++ t) i = skipChars t (i + ws.length) := by
  induction ws generalizing i with
  | nil => rfl
  | cons ch ws ih =>
    have hch := hws ch (by simp)
    rw [List.cons_append, skipChars, if_pos hch, utf8Size_of_isBlank hch,
      ih (fun x hx => hws x (by simp [hx]))]
    simp only [List.length_cons]
    congr 1
    omega

theorem skipChars_of_not_blank {ch : Char} (h : isBlank ch = false) (t : List Char) (i : Nat) :
    skipChars (ch :: t) i = ⟨ch :: t, i⟩ := by
  simp [skipChars, h]

theorem readStringBody_plain (acc : List Char) {ch : Char} (hq : ch ≠ '"') (hb : ch ≠ '\\')
    (hc : ¬ ch.toNat < 0x20) (more : List Char) (i : Nat) :
    readStringBody acc ⟨ch :: more, i⟩ = readStringBody (ch :: acc) ⟨more, i + ch.utf8Size⟩ := by
  rw [readStringBody]
  simp [hq, hb, hc]

/-- A backslash and an escape that stands for `ch` add `ch` to the string. -/
theorem readStringBody_backslash (acc : List Char) {rest : List Char} {i : Nat} {ch : Char}
    {c2 : Cursor} (he : readEscape ⟨rest, i + 1⟩ = .ok (ch, c2))
    (hlen : c2.rest.length ≤ rest.length) :
    readStringBody acc ⟨'\\' :: rest, i⟩ = readStringBody (ch :: acc) c2 := by
  have hsize : '\\'.utf8Size = 1 := rfl
  rw [readStringBody]
  simp only [Char.reduceEq, if_false, if_true, hsize, he]
  rw [dif_pos (by simp; omega)]

theorem hexVal?_controlEscape : ∀ n, n < 32 →
    hexVal? (Char.ofNat (48 + n / 16)) = some (n / 16) ∧
      hexVal? (if n % 16 < 10 then Char.ofNat (48 + n % 16) else Char.ofNat (87 + n % 16)) =
        some (n % 16) := by
  decide

/-- A `\u` escape below the surrogates stands for the character of its number. -/
theorem readUnicode_of_lt {c c' : Cursor} {n : Nat} (h : readHex4 c = .ok (n, c'))
    (hn : n < 0xD800) : readUnicode c = .ok (Char.ofNat n, c') := by
  simp only [readUnicode, h, bind, Except.bind]
  rw [if_neg (by omega)]
  simp only [pure, Except.pure]
  rw [if_pos (by omega)]

/-- The escape written for a control character stands for that character. -/
theorem readEscape_controlEscape {ch : Char} (hc : ch.toNat < 0x20) (more : List Char)
    (k : Nat) : ∃ c2 : Cursor, c2.rest = more ∧
      readEscape ⟨(controlEscape ch.toNat).tail ++ more, k⟩ = .ok (ch, c2) := by
  obtain ⟨hhi, hlo⟩ := hexVal?_controlEscape ch.toNat hc
  have h0 : hexVal? '0' = some 0 := by decide
  have hhex : readHex4 ⟨(controlEscape ch.toNat).tail.tail ++ more, k + 1⟩ =
      .ok (ch.toNat, ⟨more, k + 1 + 4⟩) := by
    simp only [controlEscape, List.tail_cons, List.cons_append, List.nil_append, readHex4, h0,
      hhi, hlo]
    congr 2
    omega
  refine ⟨⟨more, k + 1 + 4⟩, rfl, ?_⟩
  have hu := readUnicode_of_lt hhex (by omega)
  rw [Char.ofNat_toNat] at hu
  have hsize : 'u'.utf8Size = 1 := rfl
  simpa [controlEscape, readEscape, hsize] using hu

/-- The escaped form of one character adds that character to the string read. -/
theorem readStringBody_escapeChar (acc : List Char) (ch : Char) (more : List Char) (i : Nat) :
    ∃ j, readStringBody acc ⟨escapeChar ch ++ more, i⟩ = readStringBody (ch :: acc) ⟨more, j⟩ := by
  -- a short escape: a backslash and one letter
  have short : ∀ e : Char, readEscape ⟨e :: more, i + 1⟩ = .ok (ch, ⟨more, i + 1 + e.utf8Size⟩) →
      ∃ j, readStringBody acc ⟨['\\', e] ++ more, i⟩ = readStringBody (ch :: acc) ⟨more, j⟩ :=
    fun e he => ⟨_, readStringBody_backslash acc he (by simp)⟩
  unfold escapeChar
  split_ifs with h1 h2 h3 h4 h5 h6 h7 h8
  · subst h1; exact short '"' rfl
  · subst h2; exact short '\\' rfl
  · subst h3; exact short 'b' rfl
  · subst h4; exact short 'f' rfl
  · subst h5; exact short 'n' rfl
  · subst h6; exact short 'r' rfl
  · subst h7; exact short 't' rfl
  · obtain ⟨c2, hrest, he⟩ := readEscape_controlEscape h8 more (i + 1)
    refine ⟨c2.index, ?_⟩
    have hstep := readStringBody_backslash acc he (by rw [hrest]; simp)
    rw [show c2 = ⟨more, c2.index⟩ by rw [← hrest]] at hstep
    simpa [controlEscape] using hstep
  · exact ⟨_, readStringBody_plain acc h1 h2 h8 more i⟩

/-- Escaped characters up to a closing quote are read back. -/
theorem readStringBody_escaped (acc cs rest : List Char) (i : Nat) :
    ∃ j, readStringBody acc ⟨cs.flatMap escapeChar ++ '"' :: rest, i⟩ =
      .ok (String.ofList (acc.reverse ++ cs), ⟨rest, j⟩) := by
  induction cs generalizing acc i with
  | nil =>
    refine ⟨i + 1, ?_⟩
    rw [readStringBody]
    simp
    rfl
  | cons ch cs ih =>
    obtain ⟨j, hj⟩ := readStringBody_escapeChar acc ch (cs.flatMap escapeChar ++ '"' :: rest) i
    obtain ⟨k, hk⟩ := ih (ch :: acc) j
    refine ⟨k, ?_⟩
    rw [List.flatMap_cons, List.append_assoc, hj, hk]
    simp

@[simp] theorem toList_quoted (s : String) :
    (quoted s).toList = '"' :: (s.toList.flatMap escapeChar ++ ['"']) := by
  simp [quoted]

/-- A quoted string is read back, whatever follows it. -/
theorem readString_quoted (s : String) (rest : List Char) (i : Nat) :
    ∃ j, readString ⟨s.toList.flatMap escapeChar ++ '"' :: rest, i⟩ = .ok (s, ⟨rest, j⟩) := by
  obtain ⟨j, hj⟩ := readStringBody_escaped [] s.toList rest i
  exact ⟨j, by simpa [readString] using hj⟩

/-! ## Numbers -/

theorem isDigit_digitChar : ∀ d, d < 10 → isDigit (Nat.digitChar d) = true := by decide

theorem digitVal_digitChar : ∀ d, d < 10 → digitVal (Nat.digitChar d) = d := by decide

theorem isBlank_digitChar : ∀ d, d < 10 → isBlank (Nat.digitChar d) = false := by decide

theorem digitChar_ne_minus : ∀ d, d < 10 → Nat.digitChar d ≠ '-' := by decide

theorem digitVal_lt {ch : Char} (h : isDigit ch = true) : digitVal ch < 10 := by
  simp only [isDigit, Bool.and_eq_true, decide_eq_true_eq] at h
  obtain ⟨h1, h2⟩ := h
  have h1' : 48 ≤ ch.toNat := h1
  have h2' : ch.toNat ≤ 57 := h2
  simp only [digitVal]
  omega

theorem overflows_eq_false {acc d limit : Nat} (hd : d < 10) (h : acc * 10 + d ≤ limit) :
    overflows acc d limit = false := by
  simp only [overflows, Bool.and_eq_false_iff, Bool.or_eq_false_iff, decide_eq_false_iff_not]
  omega

/-- The digits read so far never exceed the number they end in. -/
theorem le_foldl_digits (ds : List Char) (acc : Nat) :
    acc ≤ ds.foldl (fun a ch => a * 10 + digitVal ch) acc := by
  induction ds generalizing acc with
  | nil => simp
  | cons d ds ih =>
    calc acc ≤ acc * 10 + digitVal d := by omega
      _ ≤ _ := ih _

/-- Digits that fold to at most `u64Max`, followed by no digit, are scanned whole. -/
theorem scanSignificand_digits {ds rest : List Char} (hds : ∀ ch ∈ ds, isDigit ch = true)
    (hrest : ∀ ch ∈ rest.head?, isDigit ch = false) (i acc : Nat)
    (hle : ds.foldl (fun a ch => a * 10 + digitVal ch) acc ≤ u64Max) :
    scanSignificand (ds ++ rest) i acc =
      (ds.foldl (fun a ch => a * 10 + digitVal ch) acc, false, ⟨rest, i + ds.length⟩) := by
  induction ds generalizing i acc with
  | nil =>
    cases rest with
    | nil => rfl
    | cons ch tl => simp [scanSignificand, hrest ch rfl]
  | cons d ds ih =>
    have hd := hds d (by simp)
    have hstep := le_foldl_digits ds (acc * 10 + digitVal d)
    rw [List.foldl_cons] at hle
    rw [List.cons_append, scanSignificand, if_pos hd,
      if_neg (by rw [overflows_eq_false (digitVal_lt hd) (by omega)]; simp),
      ih (fun ch h => hds ch (by simp [h])) _ _ hle]
    simp only [List.foldl_cons, List.length_cons]
    congr 3
    omega

/-- The end of an integer: nothing, or a character that is no digit, point or exponent. -/
theorem finishNumber_nat {n : Nat} {c : Cursor}
    (h : ∀ ch ∈ c.peek?, ch ≠ '.' ∧ ch ≠ 'e' ∧ ch ≠ 'E') :
    finishNumber false n c = .ok (.nat n, c) := by
  unfold finishNumber
  split
  · rename_i hp; exact absurd rfl (h '.' hp).1
  · rename_i hp; exact absurd rfl (h 'e' hp).2.1
  · rename_i hp; exact absurd rfl (h 'E' hp).2.2
  · rfl

/-- The decimal digits of a number of at most 64 bits, followed by no digit, point or exponent,
are read back as that number. -/
theorem readNumber_decimal {n : Nat} (hn : n ≤ u64Max) {rest : List Char}
    (hrest : ∀ ch ∈ rest.head?, isDigit ch = false ∧ ch ≠ '.' ∧ ch ≠ 'e' ∧ ch ≠ 'E')
    (i : Nat) : ∃ j, readNumber false ⟨Nat.toDigits 10 n ++ rest, i⟩ = .ok (.nat n, ⟨rest, j⟩) := by
  have hdigits : ∀ ch ∈ Nat.toDigits 10 n, isDigit ch = true := by
    intro ch hch
    obtain ⟨d, hd, rfl⟩ := Address.mem_toDigits (by decide : 1 < 10) hch
    exact isDigit_digitChar d hd
  have hfold : (Nat.toDigits 10 n).foldl (fun a ch => a * 10 + digitVal ch) 0 = n :=
    Address.foldl_toDigits digitVal (by decide : 1 < 10) digitVal_digitChar n
  have hend : ∀ c : Cursor, c.rest = rest → finishNumber false n c = .ok (.nat n, c) := by
    intro c hc
    refine finishNumber_nat fun ch hch => ?_
    rw [Cursor.peek?, hc] at hch
    exact (hrest ch hch).2
  cases hds : Nat.toDigits 10 n with
  | nil => exact absurd hds Nat.toDigits_ne_nil
  | cons ch tl =>
    rw [hds] at hdigits hfold
    by_cases h0 : ch = '0'
    · -- only zero starts with `0`, and it has no other digit
      have hn0 : n = 0 := Address.head_toDigits (by decide : 1 < 10) (by rw [hds, h0]; rfl)
      subst hn0 h0
      have htl : tl = [] := by simpa [Nat.toDigits_zero] using hds.symm
      subst htl
      refine ⟨i + 1, ?_⟩
      have hsize : '0'.utf8Size = 1 := rfl
      unfold readNumber
      simp only [List.cons_append, List.nil_append, if_true, hsize]
      split
      · rename_i d hd
        have hnd : isDigit d = false := (hrest d (by simpa [Cursor.peek?] using hd)).1
        rw [if_neg (by simp [hnd])]
        exact hend _ rfl
      · exact hend _ rfl
    · -- a nonzero number: its first digit, then the others scanned into the significand
      have hdig := hdigits ch (by simp)
      have hval : tl.foldl (fun a ch => a * 10 + digitVal ch) (digitVal ch) = n := by
        simpa using hfold
      have hscan : scanSignificand (tl ++ rest) (i + ch.utf8Size) (digitVal ch) =
          (n, false, ⟨rest, i + ch.utf8Size + tl.length⟩) := by
        rw [← hval]
        exact scanSignificand_digits (fun c h => hdigits c (by simp [h]))
          (fun c h => (hrest c h).1) (i + ch.utf8Size) (digitVal ch) (by rw [hval]; exact hn)
      refine ⟨i + ch.utf8Size + tl.length, ?_⟩
      unfold readNumber
      simp only [List.cons_append, h0, if_false, hdig, if_true, hscan]
      exact hend _ rfl

/-! ## Reading a value back -/

variable {α σ : Type}

/-- What may follow a value: nothing, a comma, a closing bracket, or a blank. -/
def Ends (rest : List Char) : Prop :=
  ∀ ch ∈ rest.head?, ch = ',' ∨ ch = '}' ∨ ch = ']' ∨ isBlank ch = true

/-- `r` reads the text `t` back as `v`: after any blanks, up to whatever may follow a value. -/
def Reads (r : TextReader α) (t : List Char) (v : α) : Prop :=
  ∀ ws rest i, (∀ ch ∈ ws, isBlank ch = true) → Ends rest →
    ∃ j, r ⟨ws ++ (t ++ rest), i⟩ = .ok (v, ⟨rest, j⟩)

theorem Ends.number {rest : List Char} (h : Ends rest) :
    ∀ ch ∈ rest.head?, isDigit ch = false ∧ ch ≠ '.' ∧ ch ≠ 'e' ∧ ch ≠ 'E' := by
  intro ch hch
  rcases h ch hch with rfl | rfl | rfl | hb
  · decide
  · decide
  · decide
  · simp only [isBlank, Bool.or_eq_true, decide_eq_true_eq] at hb
    rcases hb with ((rfl | rfl) | rfl) | rfl <;> decide

/-- Blanks before a text that starts with no blank are skipped. -/
theorem skipBlank_blanks {ws t : List Char} (hws : ∀ ch ∈ ws, isBlank ch = true)
    (ht : ∀ ch ∈ t.head?, isBlank ch = false) (i : Nat) :
    skipBlank ⟨ws ++ t, i⟩ = ⟨t, i + ws.length⟩ := by
  simp only [skipBlank]
  rw [skipChars_blanks hws]
  cases t with
  | nil => rfl
  | cons ch t => exact skipChars_of_not_blank (ht ch rfl) t _

theorem Reads.map {r : TextReader α} {t : List Char} {v : α} (h : Reads r t v) (f : α → σ) :
    Reads (fun c => (r c).map fun p => (f p.1, p.2)) t (f v) := by
  intro ws rest i hws hrest
  obtain ⟨j, hj⟩ := h ws rest i hws hrest
  exact ⟨j, by simp only [hj, Except.map]⟩

/-- A count within its limit is read back from its decimal digits. -/
theorem reads_unsigned {expected : String} {limit n : Nat} (hn : n ≤ limit)
    (hlimit : limit ≤ u64Max) : Reads (readUnsigned expected limit) (Nat.toDigits 10 n) n := by
  intro ws rest i hws hrest
  obtain ⟨j, hj⟩ := readNumber_decimal (le_trans hn hlimit) hrest.number (i + ws.length)
  refine ⟨j, ?_⟩
  cases hds : Nat.toDigits 10 n with
  | nil => exact absurd hds Nat.toDigits_ne_nil
  | cons ch tl =>
    obtain ⟨d, hd, hch⟩ := Address.mem_toDigits (by decide : 1 < 10) (hds ▸ List.mem_cons_self)
    have hdig : isDigit ch = true := hch ▸ isDigit_digitChar d hd
    have hblank : isBlank ch = false := hch ▸ isBlank_digitChar d hd
    rw [hds] at hj
    have hskip : skipBlank ⟨ws ++ (ch :: tl ++ rest), i⟩ = ⟨ch :: tl ++ rest, i + ws.length⟩ :=
      skipBlank_blanks hws (by simp [hblank]) i
    unfold readUnsigned
    rw [hskip]
    simp only [List.cons_append] at hj ⊢
    split
    · rename_i h; cases h
    · rename_i tail h
      exact absurd (List.cons.inj h).1 (hch ▸ digitChar_ne_minus d hd)
    · rename_i ch' tail _ h
      obtain ⟨rfl, -⟩ := List.cons.inj h
      rw [if_pos hdig]
      simp only [hj, bind, Except.bind, hn, if_true]

/-- A quoted string is read back. -/
theorem reads_text (expected s : String) :
    Reads (readText expected) (quoted s).toList s := by
  intro ws rest i hws hrest
  have hskip : skipBlank ⟨ws ++ ((quoted s).toList ++ rest), i⟩ =
      ⟨(quoted s).toList ++ rest, i + ws.length⟩ :=
    skipBlank_blanks hws (by simp; decide) i
  obtain ⟨j, hj⟩ := readString_quoted s rest (i + ws.length + 1)
  refine ⟨j, ?_⟩
  unfold readText
  rw [hskip]
  simp only [toList_quoted, List.cons_append, List.append_assoc] at hj ⊢
  exact hj

/-- The letters of a keyword are consumed. -/
theorem expectWord_append (w rest : List Char) (i : Nat) :
    ∃ j, expectWord ⟨w ++ rest, i⟩ w = .ok ⟨rest, j⟩ := by
  induction w generalizing i with
  | nil => exact ⟨i, rfl⟩
  | cons ch w ih =>
    obtain ⟨j, hj⟩ := ih (i + ch.utf8Size)
    exact ⟨j, by simp [expectWord, hj]⟩

/-- `true` and `false` are read back. -/
theorem reads_boolean (b : Bool) :
    Reads readBoolean (if b then "true" else "false").toList b := by
  intro ws rest i hws hrest
  cases b with
  | true =>
    obtain ⟨j, hj⟩ := expectWord_append ['r', 'u', 'e'] rest (i + ws.length + 't'.utf8Size)
    refine ⟨j, ?_⟩
    have hskip : skipBlank ⟨ws ++ ("true".toList ++ rest), i⟩ =
        ⟨"true".toList ++ rest, i + ws.length⟩ := skipBlank_blanks hws (by simp; decide) i
    unfold readBoolean
    rw [if_pos rfl, hskip]
    simp only [List.cons_append, List.nil_append] at hj
    simp [Cursor.bump, Except.map, hj]
  | false =>
    obtain ⟨j, hj⟩ := expectWord_append ['a', 'l', 's', 'e'] rest (i + ws.length + 'f'.utf8Size)
    refine ⟨j, ?_⟩
    have hskip : skipBlank ⟨ws ++ ("false".toList ++ rest), i⟩ =
        ⟨"false".toList ++ rest, i + ws.length⟩ := skipBlank_blanks hws (by simp; decide) i
    unfold readBoolean
    rw [if_neg Bool.false_ne_true, hskip]
    simp only [List.cons_append, List.nil_append] at hj
    simp [Cursor.bump, Except.map, hj]

/-- `null` is read back as nothing. -/
theorem reads_null (inner : TextReader α) : Reads (readOptional inner) "null".toList none := by
  intro ws rest i hws hrest
  obtain ⟨j, hj⟩ := expectWord_append ['u', 'l', 'l'] rest (i + ws.length + 'n'.utf8Size)
  refine ⟨j, ?_⟩
  have hskip : skipBlank ⟨ws ++ ("null".toList ++ rest), i⟩ =
      ⟨"null".toList ++ rest, i + ws.length⟩ := skipBlank_blanks hws (by simp; decide) i
  unfold readOptional
  rw [hskip]
  simp only [List.cons_append, List.nil_append] at hj
  simp [Cursor.bump, Except.map, hj]

/-- A value that does not start with `n` is read back by the inner reader. -/
theorem Reads.optional {inner : TextReader α} {ch : Char} {tl : List Char} {v : α}
    (h : Reads inner (ch :: tl) v) (hn : ch ≠ 'n') (hb : isBlank ch = false) :
    Reads (readOptional inner) (ch :: tl) (some v) := by
  intro ws rest i hws hrest
  obtain ⟨j, hj⟩ := h [] rest (i + ws.length) (by simp) hrest
  refine ⟨j, ?_⟩
  have hskip : skipBlank ⟨ws ++ (ch :: tl ++ rest), i⟩ = ⟨ch :: tl ++ rest, i + ws.length⟩ :=
    skipBlank_blanks hws (by simp [hb]) i
  unfold readOptional
  rw [hskip]
  simp only [List.nil_append, List.cons_append] at hj
  dsimp only
  split
  · rename_i tail heq
    exact absurd (List.cons.inj heq).1 hn
  · simp [hj, Except.map]

/-- The text of an address that fits is read back as that address. -/
theorem reads_address {a : Address.SocketAddress} (h : a.Fits) :
    Reads readAddress (quoted a.text).toList a := by
  intro ws rest i hws hrest
  obtain ⟨j, hj⟩ := reads_text "socket address" a.text ws rest i hws hrest
  refine ⟨j, ?_⟩
  simp only [readAddress, bind, Except.bind]
  rw [hj]
  simp [Address.SocketAddress.parse?_text h, pure, Except.pure]

/-! ## Records -/

/-- The members of an object as a writer lays them out: the blanks `lead` before each key, the
blanks `gap` after each colon, and a comma before every member but the first. -/
def membersText (lead gap : List Char) : Bool → List (String × List Char) → List Char
  | _, [] => []
  | first, (k, t) :: ms =>
    (if first then [] else [',']) ++ lead ++ (quoted k).toList ++ ':' :: gap ++ t ++
      membersText lead gap false ms

/-- After the last member come blanks and the closing brace; otherwise a comma. -/
theorem ends_membersText {lead gap close : List Char} (hclose : ∀ ch ∈ close, isBlank ch = true)
    (ms : List (String × List Char)) (rest : List Char) :
    Ends (membersText lead gap false ms ++ close ++ '}' :: rest) := by
  intro ch hch
  cases ms with
  | cons m ms => simp [membersText] at hch; exact Or.inl hch.symm
  | nil =>
    cases close with
    | nil => simp at hch; exact Or.inr (Or.inl hch.symm)
    | cons b bs =>
      simp at hch
      subst hch
      exact Or.inr (Or.inr (Or.inr (hclose b (by simp))))

/-- The next key of an object is found after the blanks before it, and after its comma when it
is not the first. -/
theorem nextKey_key (first : Bool) {lead : List Char} (hlead : ∀ ch ∈ lead, isBlank ch = true)
    (key : List Char) (i : Nat) : ∃ j,
    nextKey first ⟨(if first then [] else [',']) ++ lead ++ '"' :: key, i⟩ =
      .ok (some ⟨'"' :: key, j⟩) := by
  have hq : ∀ ch ∈ ('"' :: key).head?, isBlank ch = false := by simp; decide
  cases first with
  | true =>
    refine ⟨i + lead.length, ?_⟩
    unfold nextKey
    simp only [if_true, List.nil_append]
    rw [skipBlank_blanks hlead hq]
    rfl
  | false =>
    refine ⟨i + ','.utf8Size + lead.length, ?_⟩
    have hc : skipBlank ⟨',' :: (lead ++ '"' :: key), i⟩ = ⟨',' :: (lead ++ '"' :: key), i⟩ :=
      skipChars_of_not_blank (by decide) _ _
    unfold nextKey
    simp only [Bool.false_eq_true, if_false, List.cons_append, List.nil_append]
    rw [hc]
    simp only [Cursor.peek?, List.head?_cons, Cursor.bump]
    rw [skipBlank_blanks hlead hq]
    rfl

/-- One member: its key is found after the blanks and comma before it, names a field not yet
given, and the field reads the value after the colon and the blanks after it. -/
theorem readMembers_member {fields : List (TextField σ)} {lead gap : List Char}
    (hlead : ∀ ch ∈ lead, isBlank ch = true) (hgap : ∀ ch ∈ gap, isBlank ch = true)
    {f : TextField σ} {t : List Char} {δ : σ → σ}
    (hfield : fields.find? (fun g => decide (g.name = f.name)) = some f)
    (hreads : Reads f.read t δ) (first : Bool) {seen : List String} (hseen : f.name ∉ seen)
    (acc : σ) {more : List Char} (hmore : Ends more) (i : Nat) : ∃ j,
    readMembers fields first seen acc
      ⟨(if first then [] else [',']) ++ lead ++ '"' ::
        (f.name.toList.flatMap escapeChar ++ '"' :: ':' :: (gap ++ (t ++ more))), i⟩ =
      readMembers fields false (f.name :: seen) (δ acc) ⟨more, j⟩ := by
  set key := f.name.toList.flatMap escapeChar ++ '"' :: ':' :: (gap ++ (t ++ more)) with hkeydef
  obtain ⟨j1, hkey⟩ := nextKey_key first hlead key i
  obtain ⟨j2, hstr⟩ : ∃ j2, readString ⟨key, j1 + '"'.utf8Size⟩ =
      .ok (f.name, ⟨':' :: (gap ++ (t ++ more)), j2⟩) :=
    readString_quoted f.name (':' :: (gap ++ (t ++ more))) (j1 + '"'.utf8Size)
  have hfresh : seen.contains f.name = false := by simpa using hseen
  have hcolon : objectColon ⟨':' :: (gap ++ (t ++ more)), j2⟩ =
      .ok ⟨gap ++ (t ++ more), j2 + ':'.utf8Size⟩ := by
    unfold objectColon
    rw [show skipBlank ⟨':' :: (gap ++ (t ++ more)), j2⟩ = ⟨':' :: (gap ++ (t ++ more)), j2⟩ from
      skipChars_of_not_blank (by decide) _ _]
    rfl
  obtain ⟨j3, hvalue⟩ := hreads gap more (j2 + ':'.utf8Size) hgap hmore
  -- the recursive call is on a strictly shorter text
  have hshorter : more.length <
      ((if first = true then [] else [',']) ++ lead ++ '"' :: key).length := by
    simp [hkeydef]
    omega
  refine ⟨j3, ?_⟩
  rw [readMembers, hkey]
  simp only [Cursor.bump, hstr, hfield, hfresh, hcolon, bind, Except.bind]
  rw [if_neg Bool.false_ne_true, hvalue]
  simp only
  rw [dif_pos hshorter]

/-- Members written in a layout of blanks are read back one by one, each by the field its key
names, until the closing brace. -/
theorem readMembers_membersText {fields : List (TextField σ)} {lead gap close : List Char}
    (hlead : ∀ ch ∈ lead, isBlank ch = true) (hgap : ∀ ch ∈ gap, isBlank ch = true)
    (hclose : ∀ ch ∈ close, isBlank ch = true) (rest : List Char)
    (ms : List (TextField σ × List Char × (σ → σ)))
    (hfind : ∀ m ∈ ms, fields.find? (fun f => decide (f.name = m.1.name)) = some m.1)
    (hreads : ∀ m ∈ ms, Reads m.1.read m.2.1 m.2.2) (hnodup : (ms.map (·.1.name)).Nodup)
    (first : Bool) (seen : List String) (hseen : ∀ m ∈ ms, m.1.name ∉ seen) (acc : σ)
    (i : Nat) : ∃ j, readMembers fields first seen acc
      ⟨membersText lead gap first (ms.map fun m => (m.1.name, m.2.1)) ++ close ++ '}' :: rest, i⟩ =
        .ok (ms.foldl (fun a m => m.2.2 a) acc, (ms.map (·.1.name)).reverse ++ seen,
          ⟨'}' :: rest, j⟩) := by
  induction ms generalizing first seen acc i with
  | nil =>
    have hskip : skipBlank ⟨close ++ '}' :: rest, i⟩ = ⟨'}' :: rest, i + close.length⟩ :=
      skipBlank_blanks hclose (by simp; decide) i
    have hend : nextKey first ⟨close ++ '}' :: rest, i⟩ = .ok none := by
      unfold nextKey
      rw [hskip]
      rfl
    refine ⟨i + close.length, ?_⟩
    rw [readMembers]
    simp only [List.map_nil, membersText, List.nil_append, hend]
    rw [hskip]
    simp
  | cons m ms ih =>
    obtain ⟨f, t, δ⟩ := m
    set more := membersText lead gap false (ms.map fun m => (m.1.name, m.2.1)) ++ close ++
      '}' :: rest with hmore
    have htext : membersText lead gap first
        ((f, t, δ) :: ms |>.map fun m => (m.1.name, m.2.1)) ++ close ++ '}' :: rest =
          (if first then [] else [',']) ++ lead ++ '"' ::
            (f.name.toList.flatMap escapeChar ++ '"' :: ':' :: (gap ++ (t ++ more))) := by
      simp [membersText, hmore, List.append_assoc]
    obtain ⟨j1, hstep⟩ := readMembers_member hlead hgap (hfind (f, t, δ) (by simp))
      (hreads (f, t, δ) (by simp)) first (hseen (f, t, δ) (by simp)) acc
      (ends_membersText hclose _ rest) i
    -- the members after it: none is named like it, so none has been seen
    obtain ⟨j, hj⟩ := ih (fun m hm => hfind m (by simp [hm]))
      (fun m hm => hreads m (by simp [hm])) (List.nodup_cons.mp hnodup).2 false (f.name :: seen)
      (fun m hm => by
        have hne : m.1.name ≠ f.name := fun h =>
          (List.nodup_cons.mp hnodup).1 (List.mem_map.mpr ⟨m, hm, h⟩)
        simpa [hne] using hseen m (by simp [hm]))
      (δ acc) j1
    refine ⟨j, ?_⟩
    rw [htext, hstep, hj]
    simp

/-- A record written as an object whose members each read back, with every required field
among them, is read back as the changes of its members applied in order. -/
theorem readRecord_object (name : String) (fields : List (TextField σ)) (init : σ)
    {lead gap close : List Char} (hlead : ∀ ch ∈ lead, isBlank ch = true)
    (hgap : ∀ ch ∈ gap, isBlank ch = true) (hclose : ∀ ch ∈ close, isBlank ch = true)
    (ms : List (TextField σ × List Char × (σ → σ)))
    (hfind : ∀ m ∈ ms, fields.find? (fun f => decide (f.name = m.1.name)) = some m.1)
    (hreads : ∀ m ∈ ms, Reads m.1.read m.2.1 m.2.2) (hnodup : (ms.map (·.1.name)).Nodup)
    (hrequired : ∀ f ∈ fields, f.required = true → f.name ∈ ms.map (·.1.name)) :
    Reads (readRecord name fields init)
      ('{' :: (membersText lead gap true (ms.map fun m => (m.1.name, m.2.1)) ++ close ++ ['}']))
      (ms.foldl (fun a m => m.2.2 a) init) := by
  intro ws rest i hws hrest
  obtain ⟨j, hj⟩ := readMembers_membersText hlead hgap hclose rest ms hfind hreads hnodup true []
    (by simp) init (i + ws.length + '{'.utf8Size)
  have hskip : skipBlank ⟨ws ++ ('{' :: (membersText lead gap true
      (ms.map fun m => (m.1.name, m.2.1)) ++ close ++ ['}']) ++ rest), i⟩ =
        ⟨'{' :: (membersText lead gap true (ms.map fun m => (m.1.name, m.2.1)) ++ close ++ ['}'])
          ++ rest, i + ws.length⟩ :=
    skipBlank_blanks hws (by simp; decide) i
  have hmissing : fields.find? (fun f : TextField σ => f.required &&
      !((ms.map fun m : TextField σ × List Char × (σ → σ) => m.1.name).reverse ++
        []).contains f.name) = none := by
    rw [List.find?_eq_none]
    intro f hf
    simpa using hrequired f hf
  have hend : closeObject ⟨'}' :: rest, j⟩ = (⟨rest, j + '}'.utf8Size⟩, none) := by
    unfold closeObject
    rw [show skipBlank ⟨'}' :: rest, j⟩ = ⟨'}' :: rest, j⟩ from
      skipChars_of_not_blank (by decide) _ _]
    rfl
  refine ⟨j + '}'.utf8Size, ?_⟩
  unfold readRecord
  rw [hskip]
  simp only [List.cons_append, List.append_assoc, List.nil_append] at hj ⊢
  simp only [Cursor.bump]
  rw [hj]
  simp only [Except.bind, hmissing, hend]

/-! ## Layouts of written objects -/

/-- The compact writer puts no blank between the members of an object. -/
theorem toList_compactFields (fs : List (String × Value)) :
    (compactFields fs).toList = membersText [] [] true (fs.map fun p => (p.1, p.2.compact.toList)) := by
  induction fs with
  | nil => simp [compactFields, membersText]
  | cons p fs ih =>
    obtain ⟨k, v⟩ := p
    cases fs with
    | nil => simp [compactFields, membersText]
    | cons q qs =>
      rw [compactFields]
      · simp only [String.toList_append]
        rw [ih]
        simp [membersText]
      · exact List.cons_ne_nil q qs

/-- The indented writer puts each member on a line of its own, after a newline and the
indentation of its level, with a blank after the colon. -/
theorem toList_prettyFields (level : Nat) (fs : List (String × Value)) (hne : fs ≠ []) :
    '\n' :: (prettyFields level fs).toList =
      membersText ('\n' :: (indent level).toList) [' '] true
        (fs.map fun p => (p.1, (p.2.prettyAt level).toList)) := by
  induction fs with
  | nil => exact absurd rfl hne
  | cons p fs ih =>
    obtain ⟨k, v⟩ := p
    cases fs with
    | nil => simp [prettyFields, membersText]
    | cons q qs =>
      rw [prettyFields]
      · simp only [String.toList_append, List.append_assoc]
        have hsep : ",\n".toList ++ (prettyFields level (q :: qs)).toList =
            ',' :: '\n' :: (prettyFields level (q :: qs)).toList := rfl
        rw [hsep, ih (List.cons_ne_nil q qs)]
        simp [membersText]
      · exact List.cons_ne_nil q qs

/-! ## Reading a written value back -/

/-- `r` reads the value `v` back as `x`, from its compact text and from its indented text at
every level. -/
def Decodes (r : TextReader α) (v : Value) (x : α) : Prop :=
  Reads r v.compact.toList x ∧ ∀ level, Reads r (v.prettyAt level).toList x

/-- A value that is no array and no object is written the same in both layouts. -/
theorem prettyAt_scalar {v : Value} (harr : ∀ items, v ≠ .arr items)
    (hobj : ∀ fields, v ≠ .obj fields) (level : Nat) : v.prettyAt level = v.compact := by
  cases v with
  | arr items => exact absurd rfl (harr items)
  | obj fields => exact absurd rfl (hobj fields)
  | _ => simp [Value.prettyAt]

theorem prettyAt_obj (level : Nat) (fs : List (String × Value)) (hne : fs ≠ []) :
    (Value.obj fs).prettyAt level =
      "\x7b\n" ++ prettyFields (level + 1) fs ++ "\n" ++ indent level ++ "\x7d" := by
  cases fs with
  | nil => exact absurd rfl hne
  | cons p fs => simp [Value.prettyAt]

theorem Decodes.of_scalar {r : TextReader α} {v : Value} {x : α} (harr : ∀ items, v ≠ .arr items)
    (hobj : ∀ fields, v ≠ .obj fields) (h : Reads r v.compact.toList x) : Decodes r v x :=
  ⟨h, fun level => by rw [prettyAt_scalar harr hobj]; exact h⟩

theorem Decodes.map {r : TextReader α} {v : Value} {x : α} (h : Decodes r v x) (f : α → σ) :
    Decodes (fun c => (r c).map fun p => (f p.1, p.2)) v (f x) :=
  ⟨h.1.map f, fun level => (h.2 level).map f⟩

/-- A count within its limit is read back. -/
theorem decodes_unsigned {expected : String} {limit n : Nat} (hn : n ≤ limit)
    (hlimit : limit ≤ u64Max) : Decodes (readUnsigned expected limit) (.nat n) n :=
  .of_scalar (by simp [Value.nat]) (by simp [Value.nat])
    (by simpa [Value.nat, Value.compact, Number.text] using reads_unsigned hn hlimit)

/-- A string is read back. -/
theorem decodes_text (expected s : String) : Decodes (readText expected) (.str s) s :=
  .of_scalar (by simp) (by simp) (by simpa [Value.compact] using reads_text expected s)

/-- A boolean is read back. -/
theorem decodes_boolean (b : Bool) : Decodes readBoolean (.bool b) b :=
  .of_scalar (by simp) (by simp) (by simpa [Value.compact] using reads_boolean b)

/-- An address that fits is read back from its text. -/
theorem decodes_address {a : Address.SocketAddress} (h : a.Fits) :
    Decodes readAddress (.str a.text) a :=
  .of_scalar (by simp) (by simp) (by simpa [Value.compact] using reads_address h)

/-- `null` is read back as nothing. -/
theorem decodes_null (inner : TextReader α) : Decodes (readOptional inner) .null none :=
  .of_scalar (by simp) (by simp) (by simpa [Value.compact] using reads_null inner)

theorem toList_compact_obj (fs : List (String × Value)) :
    (Value.obj fs).compact.toList =
      '{' :: (membersText [] [] true (fs.map fun p => (p.1, p.2.compact.toList)) ++ [] ++ ['}']) := by
  simp [Value.compact, toList_compactFields]

theorem toList_prettyAt_obj (level : Nat) (fs : List (String × Value)) (hne : fs ≠ []) :
    ((Value.obj fs).prettyAt level).toList =
      '{' :: (membersText ('\n' :: (indent (level + 1)).toList) [' '] true
        (fs.map fun p => (p.1, (p.2.prettyAt (level + 1)).toList)) ++
          '\n' :: (indent level).toList ++ ['}']) := by
  rw [prettyAt_obj level fs hne, ← toList_prettyFields (level + 1) fs hne]
  simp

/-- An object is read back by the inner reader of an optional field. -/
theorem Decodes.optional {inner : TextReader α} {fs : List (String × Value)} {v : α}
    (h : Decodes inner (.obj fs) v) (hne : fs ≠ []) :
    Decodes (readOptional inner) (.obj fs) (some v) := by
  constructor
  · have h1 := h.1
    rw [toList_compact_obj] at h1 ⊢
    exact h1.optional (by decide) (by decide)
  · intro level
    have h2 := h.2 level
    rw [toList_prettyAt_obj level fs hne] at h2 ⊢
    exact h2.optional (by decide) (by decide)

theorem isBlank_indent (level : Nat) : ∀ ch ∈ (indent level).toList, isBlank ch = true := by
  intro ch hch
  simp only [indent, String.toList_ofList, List.mem_replicate] at hch
  rw [hch.2]
  rfl

/-- A record is read back from an object whose members each read back in its field, with
every required field among them, in either layout. -/
theorem decodes_record (name : String) (fields : List (TextField σ)) (init : σ)
    (ms : List (TextField σ × Value × (σ → σ))) (hne : ms ≠ [])
    (hfind : ∀ m ∈ ms, fields.find? (fun f => decide (f.name = m.1.name)) = some m.1)
    (hdecodes : ∀ m ∈ ms, Decodes m.1.read m.2.1 m.2.2) (hnodup : (ms.map (·.1.name)).Nodup)
    (hrequired : ∀ f ∈ fields, f.required = true → f.name ∈ ms.map (·.1.name)) :
    Decodes (readRecord name fields init) (.obj (ms.map fun m => (m.1.name, m.2.1)))
      (ms.foldl (fun a m => m.2.2 a) init) := by
  -- the same members, each with the text one layout writes for its value
  have hwritten : ∀ text : Value → List Char,
      let ws := ms.map fun m => (m.1, text m.2.1, m.2.2)
      (∀ m ∈ ws, fields.find? (fun f => decide (f.name = m.1.name)) = some m.1) ∧
        (ws.map (·.1.name)).Nodup ∧
        (∀ f ∈ fields, f.required = true → f.name ∈ ws.map (·.1.name)) ∧
        ws.map (fun m => (m.1.name, m.2.1)) =
          (ms.map fun m => (m.1.name, m.2.1)).map (fun p => (p.1, text p.2)) ∧
        ws.foldl (fun a (m : TextField σ × List Char × (σ → σ)) => m.2.2 a) init =
          ms.foldl (fun a m => m.2.2 a) init := by
    intro text
    refine ⟨?_, ?_, ?_, by simp, by simp [List.foldl_map]⟩
    · intro m hm
      obtain ⟨m', hm', rfl⟩ := List.mem_map.mp hm
      exact hfind m' hm'
    · rw [List.map_map]
      exact hnodup
    · rw [List.map_map]
      exact hrequired
  constructor
  · -- compact: no blanks anywhere
    obtain ⟨hf, hn, hr, htext, hfold⟩ := hwritten fun v => v.compact.toList
    have h := readRecord_object name fields init (by simp : ∀ ch ∈ ([] : List Char), isBlank ch)
      (by simp : ∀ ch ∈ ([] : List Char), isBlank ch)
      (by simp : ∀ ch ∈ ([] : List Char), isBlank ch) _ hf
      (fun m hm => by
        obtain ⟨m', hm', rfl⟩ := List.mem_map.mp hm
        exact (hdecodes m' hm').1) hn hr
    rw [htext, hfold] at h
    rw [toList_compact_obj]
    exact h
  · -- indented: a newline and the indentation before each key, a blank after each colon
    intro level
    obtain ⟨hf, hn, hr, htext, hfold⟩ := hwritten fun v => (v.prettyAt (level + 1)).toList
    have hlead : ∀ ch ∈ '\n' :: (indent (level + 1)).toList, isBlank ch = true :=
      List.forall_mem_cons.mpr ⟨rfl, isBlank_indent (level + 1)⟩
    have hgap : ∀ ch ∈ [' '], isBlank ch = true := by
      intro ch hch
      rw [List.mem_singleton.mp hch]
      rfl
    have hclose : ∀ ch ∈ '\n' :: (indent level).toList, isBlank ch = true :=
      List.forall_mem_cons.mpr ⟨rfl, isBlank_indent level⟩
    have h := readRecord_object name fields init hlead hgap hclose _ hf
      (fun m hm => by
        obtain ⟨m', hm', rfl⟩ := List.mem_map.mp hm
        exact (hdecodes m' hm').2 (level + 1)) hn hr
    rw [htext, hfold] at h
    rw [toList_prettyAt_obj level _ (by simpa using hne)]
    exact h

/-- In fields of distinct names, looking a field up by its name finds it. -/
theorem find?_name_of_nodup {fields : List (TextField σ)} (hnodup : (fields.map (·.name)).Nodup)
    {f : TextField σ} (hf : f ∈ fields) :
    fields.find? (fun g => decide (g.name = f.name)) = some f := by
  induction fields with
  | nil => cases hf
  | cons g gs ih =>
    rw [List.map_cons, List.nodup_cons] at hnodup
    rcases List.mem_cons.mp hf with rfl | hf
    · simp
    · have hne : g.name ≠ f.name := fun h => hnodup.1 (h ▸ List.mem_map_of_mem hf)
      simp [hne, ih hnodup.2 hf]

/-- A record of fields with distinct names, written as an object with every field in order and
each value decoding in its field, decodes to the changes of all its fields applied in order. -/
theorem decodes_fields (name : String) (fields : List (TextField σ)) (init : σ)
    (ms : List (Value × (σ → σ))) (hne : fields ≠ []) (hlen : fields.length = ms.length)
    (hnodup : (fields.map (·.name)).Nodup)
    (hdecodes : ∀ m ∈ fields.zip ms, Decodes m.1.read m.2.1 m.2.2) :
    Decodes (readRecord name fields init) (.obj ((fields.zip ms).map fun m => (m.1.name, m.2.1)))
      ((fields.zip ms).foldl (fun a m => m.2.2 a) init) := by
  have hnames : (fields.zip ms).map (·.1.name) = fields.map (·.name) := by
    have h := congrArg (List.map (·.name)) (List.map_fst_zip (le_of_eq hlen))
    rw [List.map_map] at h
    exact h
  have hzip : fields.zip ms ≠ [] := by
    intro h
    have := congrArg List.length h
    simp only [List.length_zip, List.length_nil, ← hlen, Nat.min_self] at this
    exact hne (List.eq_nil_of_length_eq_zero this)
  refine decodes_record name fields init (fields.zip ms) hzip ?_ hdecodes (hnames ▸ hnodup) ?_
  · intro m hm
    exact find?_name_of_nodup hnodup (List.of_mem_zip hm).1
  · intro f hf _
    rw [hnames]
    exact List.mem_map_of_mem hf

/-! ## What a record reader can give -/

/-- An `ok` result of a bind comes from `ok` results of both steps. -/
theorem bind_ok {ε β γ : Type} {x : Except ε β} {f : β → Except ε γ} {r : γ}
    (h : x >>= f = .ok r) : ∃ a, x = .ok a ∧ f a = .ok r := by
  cases x with
  | error e => cases h
  | ok a => exact ⟨a, rfl, h⟩

/-- An `ok` result of a map comes from an `ok` result. -/
theorem map_ok {ε β γ : Type} {x : Except ε β} {f : β → γ} {r : γ}
    (h : x.map f = .ok r) : ∃ a, x = .ok a ∧ f a = r := by
  cases x with
  | error e => cases h
  | ok a => exact ⟨a, rfl, by cases h; rfl⟩

/-- Every change the field reads keeps `P`. -/
def TextField.Keeps (f : TextField σ) (P : σ → Prop) : Prop :=
  ∀ c δ c', f.read c = .ok (δ, c') → ∀ x, P x → P (δ x)

section Invariant

variable (P : σ → Prop) {fields : List (TextField σ)}

/-- Members read into a record keep any property that every field's change keeps. -/
theorem readMembers_keeps
    (hfields : ∀ f ∈ fields, f.Keeps P)
    (first : Bool) (seen : List String) (acc : σ) (c : Cursor)
    {r : σ × List String × Cursor} (hacc : P acc)
    (h : readMembers fields first seen acc c = .ok r) : P r.1 := by
  induction first, seen, acc, c using readMembers.induct fields with
  | case2 first seen acc c hkey =>
    rw [readMembers, hkey] at h
    cases h
    exact hacc
  | case6 first seen acc c k hkey key c2 hstr field hfind hfresh change c3 hread hlt ih =>
    obtain ⟨c2', -, hfield⟩ := bind_ok hread
    have hchange := hfields field (List.mem_of_find?_eq_some hfind) c2' change c3 hfield acc hacc
    rw [readMembers, hkey] at h
    simp only [hstr, hfind, hfresh, hread, if_false, Bool.false_eq_true, dif_pos hlt] at h
    exact ih hchange h
  | case9 first seen acc c k hkey key c2 hstr hfind c3 hskip hlt ih =>
    rw [readMembers, hkey] at h
    simp only [hstr, hfind, hskip, dif_pos hlt] at h
    exact ih hacc h
  | _ =>
    -- every other branch ends in a failure
    rw [readMembers] at h
    simp only [*, ↓reduceIte, ↓reduceDIte, reduceCtorEq] at h

/-- Fields read from an array keep any property that every field's change keeps. -/
theorem readElements_keeps (what : String) (count : Nat) (fs : List (TextField σ))
    (hfs : ∀ f ∈ fs, f.Keeps P)
    (i : Nat) (first : Bool) (acc : σ) (c : Cursor) {r : σ × Cursor} (hacc : P acc)
    (h : readElements what count fs i first acc c = .ok r) : P r.1 := by
  induction fs generalizing i first acc c with
  | nil =>
    cases h
    exact hacc
  | cons field fs ih =>
    have hrest : ∀ f ∈ fs, f.Keeps P :=
      fun f hf => hfs f (by simp [hf])
    rw [readElements] at h
    split at h
    · cases h
    · split at h
      · cases h
      · exact ih hrest (i + 1) first acc c hacc h
    · split at h
      · cases h
      · rename_i e _ _ change c' hread
        exact ih hrest (i + 1) false (change acc) c'
          (hfs field (by simp) e change c' hread acc hacc) h

/-- A record read from text keeps any property that its defaults have and that every field's
change keeps. -/
theorem readRecord_keeps (name : String) (init : σ)
    (hfields : ∀ f ∈ fields, f.Keeps P)
    (hinit : P init) {c c' : Cursor} {v : σ} (h : readRecord name fields init c = .ok (v, c')) :
    P v := by
  unfold readRecord at h
  dsimp only at h
  split at h
  · cases h
  · split at h
    · cases h
    · cases h
    · rename_i v1 c1 hbody
      split at h
      · cases h
        obtain ⟨⟨v2, seen, c2⟩, hmembers, hfinish⟩ := bind_ok hbody
        have hv : P v2 := readMembers_keeps P hfields true [] init _ hinit hmembers
        split at hfinish
        · cases hfinish
        · cases hfinish
          exact hv
      · cases h
  · split at h
    · cases h
    · cases h
    · rename_i v1 c1 helements
      split at h
      · cases h
        exact readElements_keeps P _ _ fields hfields 0 true init _ hinit helements
      · cases h
  · cases h

end Invariant

/-- A count read from text is within its limit. -/
theorem readUnsigned_le {expected : String} {limit : Nat} {c c' : Cursor} {n : Nat}
    (h : readUnsigned expected limit c = .ok (n, c')) : n ≤ limit := by
  unfold readUnsigned at h
  extract_lets c0 check at h
  -- both the negative and the plain branch end in the same check of the number read
  have hcheck : ∀ x, check x = .ok (n, c') → n ≤ limit := by
    rintro ⟨m, c1⟩ hm
    simp only [check] at hm
    split at hm
    · split at hm
      · cases hm
        assumption
      · cases hm
    · cases hm
    · cases hm
  split at h
  · cases h
  · obtain ⟨x, -, hx⟩ := bind_ok h
    exact hcheck x hx
  · split at h
    · obtain ⟨x, -, hx⟩ := bind_ok h
      exact hcheck x hx
    · cases h

/-- An address read from text fits. -/
theorem readAddress_fits {c c' : Cursor} {a : Address.SocketAddress}
    (h : readAddress c = .ok (a, c')) : a.Fits := by
  obtain ⟨⟨s, c1⟩, -, hparse⟩ := bind_ok h
  dsimp only at hparse
  split at hparse
  · rename_i a' hs
    cases hparse
    exact Address.SocketAddress.fits_of_parse? hs
  · cases hparse

/-- An optional reader gives a value only when its inner reader does. -/
theorem readOptional_some {inner : TextReader α} {c c' : Cursor} {v : α}
    (h : readOptional inner c = .ok (some v, c')) : ∃ c0 c1, inner c0 = .ok (v, c1) := by
  unfold readOptional at h
  dsimp only at h
  split at h
  · obtain ⟨c1, -, hc⟩ := map_ok h
    cases hc
  · obtain ⟨⟨v', c1⟩, hinner, hc⟩ := map_ok h
    cases hc
    exact ⟨_, c1, hinner⟩

end NetNode.Json
