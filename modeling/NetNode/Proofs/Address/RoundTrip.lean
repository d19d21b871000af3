import Mathlib
import NetNode.Address.Parse

/-!
# Socket-address text reads back

`SocketAddress.parse?_text`: the text of a socket address is read back as that address
whenever its numbers fit the program's types (`SocketAddress.Fits`); and
`SocketAddress.fits_of_parse?`: every address the reader accepts fits them.

A number is read back from its digits when what follows is no digit. Version 4 is four such
numbers between points. Version 6 rests on three facts: groups written with colons are read
back one by one (`readGroups_groupChars`); a group of hexadecimal digits is never taken for
the first octet of a dotted tail (`readV4_hexText`); and the run of groups that the writer
replaces by `::` holds zeros only (`longestZeroRun_zeroRun`), so the reader's zeros put back
exactly what was left out.
-/

namespace NetNode.Address

/-! ## Digits -/

/-- Every character of a number's digits in base `b` is the digit of a value below `b`. -/
theorem mem_toDigits {b n : Nat} {ch : Char} (hb : 1 < b) (h : ch ∈ Nat.toDigits b n) :
    ∃ d < b, ch = Nat.digitChar d := by
  induction n using Nat.strong_induction_on with
  | _ n ih =>
    rw [Nat.toDigits_eq_if hb] at h
    split at h
    · exact ⟨n, by assumption, List.mem_singleton.mp h⟩
    · rcases List.mem_append.mp h with h | h
      · exact ih (n / b) (Nat.div_lt_self (by omega) hb) h
      · exact ⟨n % b, Nat.mod_lt n (by omega), List.mem_singleton.mp h⟩

/-- Folding the digits of `n` back, each read by `val`, gives `n`. -/
theorem foldl_toDigits {b : Nat} (val : Char → Nat) (hb : 1 < b)
    (hval : ∀ d < b, val (Nat.digitChar d) = d) (n : Nat) :
    (Nat.toDigits b n).foldl (fun acc ch => acc * b + val ch) 0 = n := by
  induction n using Nat.strong_induction_on with
  | _ n ih =>
    rw [Nat.toDigits_eq_if hb]
    split
    · simp [hval n (by assumption)]
    · rw [List.foldl_append, ih (n / b) (Nat.div_lt_self (by omega) hb)]
      simp [hval (n % b) (Nat.mod_lt n (by omega)), Nat.div_add_mod']

/-- Only zero is written with a leading zero. -/
theorem head_toDigits {b n : Nat} (hb : 1 < b) (h : (Nat.toDigits b n).head? = some '0') :
    n = 0 := by
  induction n using Nat.strong_induction_on with
  | _ n ih =>
    rw [Nat.toDigits_eq_if hb] at h
    split at h
    · simpa using h
    · rename_i hn
      have : n / b = 0 := ih (n / b) (Nat.div_lt_self (by omega) hb) (by
        rw [List.head?_append_of_ne_nil _ Nat.toDigits_ne_nil] at h; exact h)
      have := (Nat.div_eq_zero_iff_lt (by omega)).mp this
      omega

theorem digitIn_digitChar_of_lt_ten : ∀ d, d < 10 → digitIn 10 (Nat.digitChar d) = some d := by
  decide

theorem digitIn_digitChar_of_lt_hex : ∀ d, d < 16 → digitIn 16 (Nat.digitChar d) = some d := by
  decide

/-- A character that is no hexadecimal digit is no decimal digit either. -/
theorem digitIn_ten_of_hex {ch : Char} (h : digitIn 16 ch = none) : digitIn 10 ch = none := by
  unfold digitIn at *
  split_ifs at * <;> simp_all <;> omega

theorem digitChar_ne_dot : ∀ d, d < 16 → Nat.digitChar d ≠ '.' := by decide

/-! ## Numbers -/

/-- The digits of a number, followed by anything that does not start with a digit, are read
back as that number when it is within the limit and has no more digits than allowed. -/
theorem readNumber_toDigits {radix n limit : Nat} {maxDigits : Option Nat} {zeroPrefix : Bool}
    {rest : List Char} (hr : 1 < radix)
    (hdig : ∀ d < radix, digitIn radix (Nat.digitChar d) = some d)
    (hrest : ∀ ch ∈ rest.head?, digitIn radix ch = none)
    (hlen : ∀ m ∈ maxDigits, (Nat.toDigits radix n).length ≤ m) (hn : n ≤ limit) :
    readNumber radix maxDigits zeroPrefix limit (Nat.toDigits radix n ++ rest) =
      some (n, rest) := by
  have hall : ∀ ch ∈ Nat.toDigits radix n, (digitIn radix ch).isSome := by
    intro ch h
    obtain ⟨d, hd, rfl⟩ := mem_toDigits hr h
    simp [hdig d hd]
  have hstop : ∀ ch ∈ rest.head?, (digitIn radix ch).isSome = false := by
    intro ch h; simp [hrest ch h]
  have htake : (Nat.toDigits radix n ++ rest).takeWhile (fun ch => (digitIn radix ch).isSome) =
      Nat.toDigits radix n := by
    rw [List.takeWhile_append_of_pos hall]
    cases rest with
    | nil => simp
    | cons ch tl => simp [List.takeWhile_cons_of_neg, hstop ch rfl]
  have hdrop : (Nat.toDigits radix n ++ rest).dropWhile (fun ch => (digitIn radix ch).isSome) =
      rest := by
    rw [List.dropWhile_append_of_pos hall]
    cases rest with
    | nil => simp
    | cons ch tl => simp [List.dropWhile_cons_of_neg, hstop ch rfl]
  have hval := foldl_toDigits (fun ch => (digitIn radix ch).getD 0) hr
    (fun d hd => by simp [hdig d hd]) n
  have hzero : (Nat.toDigits radix n).head? = some '0' → (Nat.toDigits radix n).length = 1 := by
    intro h
    rw [head_toDigits hr h, Nat.toDigits_zero]
    rfl
  have hmax : (maxDigits.any fun m => decide (m < (Nat.toDigits radix n).length)) = false := by
    cases maxDigits with
    | none => rfl
    | some m => simpa using hlen m rfl
  have hlead : (!zeroPrefix && decide ((Nat.toDigits radix n).head? = some '0') &&
      decide (1 < (Nat.toDigits radix n).length)) = false := by
    by_cases h : (Nat.toDigits radix n).head? = some '0' <;> simp [h, hzero]
  unfold readNumber
  simp only [htake, hdrop, hval]
  rw [if_neg (by simp), if_neg (by simp [hmax]), if_neg (by simp [hlead]), if_neg (by omega)]

theorem readNumber_cons_of_not_digit {radix limit : Nat} {maxDigits : Option Nat}
    {zeroPrefix : Bool} {ch : Char} {cs : List Char} (h : digitIn radix ch = none) :
    readNumber radix maxDigits zeroPrefix limit (ch :: cs) = none := by
  simp [readNumber, List.takeWhile_cons_of_neg, h]

theorem readNumber_nil {radix limit : Nat} {maxDigits : Option Nat} {zeroPrefix : Bool} :
    readNumber radix maxDigits zeroPrefix limit [] = none := by
  simp [readNumber]

/-- What is left after a number is everything from the first character that is no digit. -/
theorem readNumber_rest {radix limit v : Nat} {maxDigits : Option Nat} {zeroPrefix : Bool}
    {cs r : List Char} (h : readNumber radix maxDigits zeroPrefix limit cs = some (v, r)) :
    r = cs.dropWhile (fun ch => (digitIn radix ch).isSome) := by
  unfold readNumber at h
  dsimp only at h
  split_ifs at h
  cases h
  rfl

/-- An octet of at most 255 is read back from its decimal digits. -/
theorem readNumber_octet {n : Nat} {rest : List Char} (hn : n < 256)
    (hrest : ∀ ch ∈ rest.head?, digitIn 10 ch = none) :
    readNumber 10 (some 3) false 255 (Nat.toDigits 10 n ++ rest) = some (n, rest) := by
  refine readNumber_toDigits (by decide) digitIn_digitChar_of_lt_ten hrest ?_ (by omega)
  intro m hm
  cases hm
  exact (Nat.length_toDigits_le_iff (by decide) (by decide)).mpr (by omega)

/-- A group of at most four hexadecimal digits, followed by a colon or the end of the address,
is read back. -/
theorem readNumber_hexText {g : Nat} {more : List Char} (hg : g < 65536)
    (hm : ∀ ch ∈ more.head?, ch = ':' ∨ ch = ']' ∨ ch = '%') :
    readNumber 16 (some 4) true 65535 ((hexText g).toList ++ more) = some (g, more) := by
  simp only [hexText, String.toList_ofList]
  refine readNumber_toDigits (by decide) digitIn_digitChar_of_lt_hex ?_ ?_ (by omega)
  · intro ch hch
    rcases hm ch hch with rfl | rfl | rfl <;> decide
  · intro m hm
    cases hm
    exact (Nat.length_toDigits_le_iff (by decide) (by decide)).mpr (by omega)

/-- A decimal number within the limit, at the end of the text, is read back. -/
theorem readNumber_decimal_end {n limit : Nat} (hn : n ≤ limit) :
    readNumber 10 none true limit (Nat.toDigits 10 n) = some (n, []) := by
  have h : readNumber 10 none true limit (Nat.toDigits 10 n ++ []) = some (n, []) :=
    readNumber_toDigits (by decide) digitIn_digitChar_of_lt_ten (by simp) (by simp) hn
  simpa using h

/-- A sixteen-bit port after its colon, at the end of the text, is read back. -/
theorem readPort_text {port : Nat} (h : port < 65536) :
    readPort (':' :: Nat.toDigits 10 port) = some (port, []) := by
  simp [readPort, expectChar, readNumber_decimal_end (show port ≤ 65535 by omega)]

/-! ## Version 4 -/

/-- A dotted address of four octets is read back, up to anything that is no digit. -/
theorem readV4_text {a b c d : Nat} {rest : List Char} (ha : a < 256) (hb : b < 256)
    (hc : c < 256) (hd : d < 256) (hrest : ∀ ch ∈ rest.head?, digitIn 10 ch = none) :
    readV4 ((Ip.v4 a b c d).text.toList ++ rest) = some ((a, b, c, d), rest) := by
  have hdot : ∀ t : List Char, ∀ ch ∈ ('.' :: t).head?, digitIn 10 ch = none := by
    simp only [List.head?_cons, Option.mem_def, Option.some.injEq]
    rintro _ _ rfl
    decide
  simp [Ip.text, toString, readV4, readNumber_octet ha (hdot _), readNumber_octet hb (hdot _),
    readNumber_octet hc (hdot _), readNumber_octet hd hrest, expectChar]

/-- A group of hexadecimal digits is never the first octet of a dotted address: its decimal
digits end at a letter or at what follows the group, never at a point. -/
theorem readV4_hexText (g : Nat) {more : List Char}
    (hm : ∀ ch ∈ more.head?, ch = ':' ∨ ch = ']' ∨ ch = '%') :
    readV4 ((hexText g).toList ++ more) = none := by
  have hdot : (((hexText g).toList ++ more).dropWhile
      (fun ch => (digitIn 10 ch).isSome)).head? ≠ some '.' := by
    rw [List.dropWhile_append]
    split
    · cases more with
      | nil => simp
      | cons m ms =>
        have hstop : (digitIn 10 m).isSome = false := by
          rcases hm m rfl with rfl | rfl | rfl <;> decide
        rw [List.dropWhile_cons_of_neg (by simp [hstop])]
        rcases hm m rfl with rfl | rfl | rfl <;> simp
    · rename_i hne
      rw [List.head?_append_of_ne_nil _ (by simpa using hne)]
      intro h
      have hmem : '.' ∈ (hexText g).toList :=
        (List.dropWhile_sublist _).subset (List.mem_of_mem_head? h)
      simp only [hexText, String.toList_ofList] at hmem
      obtain ⟨d, hd, hdc⟩ := mem_toDigits (by decide) hmem
      exact digitChar_ne_dot d hd hdc.symm
  cases hn : readNumber 10 (some 3) false 255 ((hexText g).toList ++ more) with
  | none => simp [readV4, hn]
  | some p =>
    obtain ⟨v, r⟩ := p
    have hexp : expectChar '.' r = none := by
      rw [readNumber_rest hn]
      revert hdot
      cases ((hexText g).toList ++ more).dropWhile (fun ch => (digitIn 10 ch).isSome) with
      | nil => simp [expectChar]
      | cons ch tl => simp [expectChar]
    simp [readV4, hn, hexp]

/-! ## Groups -/

/-- The characters of colon-separated groups; `first` says whether they start the address,
so that no colon stands before the first group. -/
def groupChars : Bool → List Nat → List Char
  | _, [] => []
  | first, g :: gs => (if first then [] else [':']) ++ (hexText g).toList ++ groupChars false gs

/-- The writer joins groups as `groupChars` does. -/
theorem toList_groupsText (gs : List Nat) : (groupsText gs).toList = groupChars true gs := by
  induction gs with
  | nil => rfl
  | cons g gs ih =>
    cases gs with
    | nil => simp [groupsText, groupChars]
    | cons h hs =>
      simp only [groupsText, List.map_cons, String.intercalate_cons_cons,
        String.toList_append] at ih ⊢
      rw [ih]
      simp [groupChars]

/-- Groups written one after another are read back, up to what follows them: the `::` of a
run of zero groups, or the end of the address. -/
theorem readGroups_groupChars {hs : List Nat} (hfit : ∀ g ∈ hs, g < 65536) {n : Nat}
    (hlen : hs.length ≤ n) (first : Bool) {rest : List Char}
    (hrest : (∃ t, rest = ':' :: ':' :: t) ∨ ∀ ch ∈ rest.head?, ch = ']' ∨ ch = '%') :
    readGroups n first (groupChars first hs ++ rest) = (hs, false, rest) := by
  induction hs generalizing n first with
  | nil =>
    cases n with
    | zero => rfl
    | succ m =>
      -- after the optional colon there is no digit to start a group or an octet
      have hnone : ∀ cs, (∀ ch ∈ cs.head?, digitIn 16 ch = none) →
          readV4 cs = none ∧ readNumber 16 (some 4) true 65535 cs = none := by
        intro cs hcs
        cases cs with
        | nil => simp [readV4, readNumber_nil]
        | cons ch tl =>
          have h16 := hcs ch rfl
          simp [readV4, readNumber_cons_of_not_digit h16,
            readNumber_cons_of_not_digit (digitIn_ten_of_hex h16)]
      rw [readGroups]
      rcases hrest with ⟨t, rfl⟩ | h
      · have h1 := hnone (':' :: ':' :: t) (by simp; decide)
        have h2 := hnone (':' :: t) (by simp; decide)
        cases first <;> simp [groupChars, expectChar, h1, h2]
      · cases first with
        | false =>
          have hsep : expectChar ':' rest = none := by
            cases rest with
            | nil => rfl
            | cons ch tl => rcases h ch rfl with rfl | rfl <;> rfl
          simp [groupChars, hsep]
        | true =>
          have h1 := hnone rest (fun ch hch => by rcases h ch hch with rfl | rfl <;> decide)
          simp [groupChars, h1]
  | cons g hs ih =>
    obtain ⟨m, rfl⟩ : ∃ m, n = m + 1 := ⟨n - 1, by simp at hlen; omega⟩
    have hmore : ∀ ch ∈ (groupChars false hs ++ rest).head?,
        ch = ':' ∨ ch = ']' ∨ ch = '%' := by
      cases hs with
      | cons h hs => simp [groupChars]
      | nil =>
        rcases hrest with ⟨t, rfl⟩ | h
        · simp [groupChars]
        · intro ch hch
          exact Or.inr (h ch (by simpa [groupChars] using hch))
    have hsep : (if first then some (groupChars first (g :: hs) ++ rest)
        else expectChar ':' (groupChars first (g :: hs) ++ rest)) =
          some ((hexText g).toList ++ (groupChars false hs ++ rest)) := by
      cases first <;> simp [groupChars, expectChar]
    have hg := hfit g (by simp)
    rw [readGroups]
    simp only [hsep, Option.bind_some, readV4_hexText g hmore, readNumber_hexText hg hmore,
      ite_self]
    rw [ih (fun g' h' => hfit g' (by simp [h'])) (by simp at hlen; omega) false]

/-! ## The run of zero groups -/

/-- `(start, len)` marks `len` zero groups of `l` from `start` on. -/
def ZeroRun (l : List Nat) (run : Nat × Nat) : Prop :=
  run.1 + run.2 ≤ l.length ∧ (l.drop run.1).take run.2 = List.replicate run.2 0

theorem ZeroRun.append {l : List Nat} {run : Nat × Nat} (h : ZeroRun l run) (l' : List Nat) :
    ZeroRun (l ++ l') run := by
  obtain ⟨hlen, hzero⟩ := h
  refine ⟨by simp; omega, ?_⟩
  rw [List.drop_append_of_le_length (by omega), List.take_append_of_le_length (by simp; omega)]
  exact hzero

/-- A zero run splits its list into the groups before it, its zeros, and the groups after. -/
theorem ZeroRun.split {gs : List Nat} {run : Nat × Nat} (h : ZeroRun gs run) :
    gs.take run.1 ++ List.replicate run.2 0 ++ gs.drop (run.1 + run.2) = gs := by
  obtain ⟨-, hzero⟩ := h
  calc gs.take run.1 ++ List.replicate run.2 0 ++ gs.drop (run.1 + run.2)
      = gs.take run.1 ++ ((gs.drop run.1).take run.2 ++ (gs.drop run.1).drop run.2) := by
        rw [hzero, List.drop_drop, List.append_assoc]
    _ = gs := by rw [List.take_append_drop, List.take_append_drop]

/-- A zero group extends the current run, or starts one. -/
theorem ZeroRun.extend {l : List Nat} {run : Nat × Nat} (h : ZeroRun l run)
    (hend : run.2 = 0 ∨ run.1 + run.2 = l.length) :
    ZeroRun (l ++ [0]) (if run.2 = 0 then (l.length, 1) else (run.1, run.2 + 1)) := by
  by_cases hlen : run.2 = 0
  · simp [ZeroRun, hlen]
  · have hend : run.1 + run.2 = l.length := by omega
    obtain ⟨-, hzero⟩ := h
    have hdrop : l.drop run.1 = List.replicate run.2 0 := by
      rw [← hzero, List.take_of_length_le (by simp; omega)]
    simp only [hlen, if_false, ZeroRun, List.length_append, List.length_singleton]
    refine ⟨by omega, ?_⟩
    rw [List.drop_append_of_le_length (by omega), hdrop, List.take_of_length_le (by simp),
      List.replicate_succ']

/-- What the search knows after the groups `l`: the longest run and the current run are runs
of zeros, the current one ends at the last group, and the index counts the groups. -/
structure ZeroRunSearch (l : List Nat) (s : (Nat × Nat) × (Nat × Nat) × Nat) : Prop where
  best : ZeroRun l s.1
  current : ZeroRun l s.2.1
  ends : s.2.1.2 = 0 ∨ s.2.1.1 + s.2.1.2 = l.length
  index : s.2.2 = l.length

/-- One group keeps what the search knows. -/
theorem zeroRunStep_search {l : List Nat} {s : (Nat × Nat) × (Nat × Nat) × Nat}
    (h : ZeroRunSearch l s) (g : Nat) : ZeroRunSearch (l ++ [g]) (zeroRunStep s g) := by
  obtain ⟨best, ⟨start, len⟩, i⟩ := s
  obtain ⟨hbest, hcur, hend, hindex⟩ := h
  simp only at hindex
  subst hindex
  by_cases hg : g = 0
  · subst hg
    have hnew := hcur.extend hend
    have hends : (if len = 0 then (l.length, 1) else (start, len + 1)).1 +
        (if len = 0 then (l.length, 1) else (start, len + 1)).2 = (l ++ [0]).length := by
      by_cases hlen : len = 0
      · simp [hlen]
      · simp only [hlen, if_false, List.length_append, List.length_singleton]
        simp at hend
        omega
    simp only at hnew
    simp only [zeroRunStep, if_true]
    generalize (if len = 0 then (l.length, 1) else (start, len + 1)) = cur at hnew hends ⊢
    refine ⟨?_, hnew, Or.inr hends, by simp⟩
    split
    · exact hnew
    · exact hbest.append [0]
  · refine ⟨?_, ?_, ?_, ?_⟩ <;> simp only [zeroRunStep, hg, if_false]
    · exact hbest.append [g]
    · simp [ZeroRun]
    · simp
    · simp

/-- The search keeps what it knows over any further groups. -/
theorem foldl_zeroRunStep_search {l : List Nat} {s : (Nat × Nat) × (Nat × Nat) × Nat}
    (h : ZeroRunSearch l s) (rest : List Nat) :
    ZeroRunSearch (l ++ rest) (rest.foldl zeroRunStep s) := by
  induction rest generalizing l s with
  | nil => simpa using h
  | cons g rest ih =>
    rw [List.foldl_cons, ← List.singleton_append, ← List.append_assoc]
    exact ih (zeroRunStep_search h g)

/-- The run that the text of an address writes as `::` is a run of zero groups. -/
theorem longestZeroRun_zeroRun (gs : List Nat) : ZeroRun gs (longestZeroRun gs) := by
  have hinit : ZeroRunSearch [] ((0, 0), (0, 0), 0) :=
    ⟨by simp [ZeroRun], by simp [ZeroRun], by simp, rfl⟩
  exact (foldl_zeroRunStep_search hinit gs).best

/-! ## Version 6 -/

theorem toList_hexText_ffff : (hexText 0xffff).toList = ['f', 'f', 'f', 'f'] := by decide

/-- The text of eight groups is read back, up to the end of the address. -/
theorem readV6_v6Text {gs : List Nat} (hlen : gs.length = 8) (hfit : ∀ g ∈ gs, g < 65536)
    {tail : List Char} (htail : ∀ ch ∈ tail.head?, ch = ']' ∨ ch = '%') :
    readV6 ((v6Text gs).toList ++ tail) = some (gs, tail) := by
  unfold v6Text
  split
  · rename_i ab cd
    have hab : ab < 65536 := hfit ab (by simp)
    have hcd : cd < 65536 := hfit cd (by simp)
    have hv4 : readV4 ((Ip.v4 (ab / 256) (ab % 256) (cd / 256) (cd % 256)).text.toList ++ tail) =
        some ((ab / 256, ab % 256, cd / 256, cd % 256), tail) :=
      readV4_text (by omega) (by omega) (by omega) (by omega)
        (fun ch h => by rcases htail ch h with rfl | rfl <;> decide)
    have htext : (s!"::ffff:{ab / 256}.{ab % 256}.{cd / 256}.{cd % 256}").toList ++ tail =
        groupChars true [] ++ ':' :: ':' :: ((hexText 0xffff).toList ++
          ':' :: ((Ip.v4 (ab / 256) (ab % 256) (cd / 256) (cd % 256)).text.toList ++ tail)) := by
      simp [Ip.text, toString, toList_hexText_ffff, groupChars]
    set v4 := (Ip.v4 (ab / 256) (ab % 256) (cd / 256) (cd % 256)).text.toList
    -- before the mapped version 4 address: no group, then `::`, then the group `ffff`
    have hafter : ∀ ch ∈ (':' :: (v4 ++ tail)).head?, ch = ':' ∨ ch = ']' ∨ ch = '%' := by simp
    have hhead : readGroups 8 true (groupChars true [] ++
        ':' :: ':' :: ((hexText 0xffff).toList ++ ':' :: (v4 ++ tail))) =
          ([], false, ':' :: ':' :: ((hexText 0xffff).toList ++ ':' :: (v4 ++ tail))) :=
      readGroups_groupChars (by simp) (by simp) true (Or.inl ⟨_, rfl⟩)
    have hmap : readGroups 7 true ((hexText 0xffff).toList ++ ':' :: (v4 ++ tail)) =
        ([0xffff, ab / 256 * 256 + ab % 256, cd / 256 * 256 + cd % 256], true, tail) := by
      rw [readGroups]
      simp only [if_true, Option.bind_some, readV4_hexText 0xffff hafter,
        readNumber_hexText (by decide : 0xffff < 65536) hafter]
      simp [readGroups, expectChar, hv4]
    rw [htext]
    unfold readV6
    rw [hhead]
    simp [hmap, Nat.div_add_mod']
  · rcases hrun : longestZeroRun gs with ⟨start, len⟩
    have hz : ZeroRun gs (start, len) := hrun ▸ longestZeroRun_zeroRun gs
    simp only
    split
    · -- a run of two or more zero groups is written `::`
      rename_i hlong
      have hsplit := hz.split
      obtain ⟨hle, -⟩ := hz
      simp only [hlen] at hle
      have htext : (groupsText (gs.take start) ++ "::" ++
          groupsText (gs.drop (start + len))).toList ++ tail =
            groupChars true (gs.take start) ++
              ':' :: ':' :: (groupChars true (gs.drop (start + len)) ++ tail) := by
        simp [toList_groupsText]
      have hhead : readGroups 8 true (groupChars true (gs.take start) ++
          ':' :: ':' :: (groupChars true (gs.drop (start + len)) ++ tail)) =
            (gs.take start, false,
              ':' :: ':' :: (groupChars true (gs.drop (start + len)) ++ tail)) :=
        readGroups_groupChars (fun g hg => hfit g (List.mem_of_mem_take hg)) (by simp; omega)
          true (Or.inl ⟨_, rfl⟩)
      have htl : readGroups (8 - (start + 1)) true
          (groupChars true (gs.drop (start + len)) ++ tail) =
            (gs.drop (start + len), false, tail) :=
        readGroups_groupChars (fun g hg => hfit g (List.mem_of_mem_drop hg))
          (by simp [hlen]; omega) true (Or.inr htail)
      rw [htext]
      unfold readV6
      rw [hhead]
      have hstart : min start gs.length = start := by omega
      simp only [List.length_take, hstart, show start ≠ 8 by omega, if_false, Bool.false_eq_true]
      rw [htl]
      simp only [List.length_drop, hlen]
      rw [show 8 - start - (8 - (start + len)) = len by omega]
      simp [hsplit]
    · -- otherwise all eight groups are written
      have h8 : readGroups 8 true (groupChars true gs ++ tail) = (gs, false, tail) :=
        readGroups_groupChars hfit (by omega) true (Or.inr htail)
      rw [toList_groupsText]
      unfold readV6
      rw [h8]
      simp [hlen]

/-! ## Socket addresses -/

/-- The numbers of an IP address fit their widths: octets of eight bits, or eight groups of
sixteen. -/
def Ip.Fits : Ip → Prop
  | .v4 a b c d => a < 256 ∧ b < 256 ∧ c < 256 ∧ d < 256
  | .v6 gs => gs.length = 8 ∧ ∀ g ∈ gs, g < 65536

instance : DecidablePred Ip.Fits
  | .v4 .. => inferInstanceAs (Decidable (_ ∧ _ ∧ _ ∧ _))
  | .v6 _ => inferInstanceAs (Decidable (_ ∧ ∀ g ∈ _, _))

/-- The scopes an address can carry: none for version 4, 32 bits for version 6. -/
def Ip.scopeBound : Ip → Nat
  | .v4 .. => 1
  | .v6 _ => 4294967296

/-- A socket address the program's types can hold: its IP address fits, its port has sixteen
bits, and its scope is within the bound of its kind. -/
structure SocketAddress.Fits (s : SocketAddress) : Prop where
  ip : s.ip.Fits
  port : s.port < 65536
  scope : s.scope < s.ip.scopeBound

instance : DecidablePred SocketAddress.Fits := fun s =>
  decidable_of_iff (s.ip.Fits ∧ s.port < 65536 ∧ s.scope < s.ip.scopeBound)
    ⟨fun ⟨hi, hp, hs⟩ => ⟨hi, hp, hs⟩, fun ⟨hi, hp, hs⟩ => ⟨hi, hp, hs⟩⟩

/-- The text of a socket address whose numbers fit is read back as that address. -/
theorem SocketAddress.parse?_text {s : SocketAddress} (h : s.Fits) :
    SocketAddress.parse? s.text = some s := by
  obtain ⟨ip, port, scope⟩ := s
  obtain ⟨hip, hport, hscope⟩ := h
  have hp := readPort_text hport
  cases ip with
  | v4 a b c d =>
    obtain ⟨ha, hb, hc, hd⟩ := hip
    simp only [Ip.scopeBound] at hscope
    have hv4 : readV4 ((Ip.v4 a b c d).text.toList ++ ':' :: Nat.toDigits 10 port) =
        some ((a, b, c, d), ':' :: Nat.toDigits 10 port) :=
      readV4_text ha hb hc hd (by simp; decide)
    have htext : (SocketAddress.text ⟨.v4 a b c d, port, scope⟩).toList =
        (Ip.v4 a b c d).text.toList ++ ':' :: Nat.toDigits 10 port := by
      simp [SocketAddress.text, toString]
    simp [SocketAddress.parse?, htext, readSocketV4, hv4, hp]
    omega
  | v6 gs =>
    obtain ⟨hlen, hfit⟩ := hip
    simp only [Ip.scopeBound] at hscope
    -- a bracket is no digit, so the address is not read as version 4
    have hnot4 : ∀ cs, readSocketV4 ('[' :: cs) = none := by
      intro cs
      have hb : digitIn 10 '[' = none := by decide
      simp [readSocketV4, readV4, readNumber_cons_of_not_digit hb]
    by_cases hs0 : scope = 0
    · subst hs0
      have hv6 : readV6 ((v6Text gs).toList ++ ']' :: ':' :: Nat.toDigits 10 port) =
          some (gs, ']' :: ':' :: Nat.toDigits 10 port) :=
        readV6_v6Text hlen hfit (by simp)
      have htext : (SocketAddress.text ⟨.v6 gs, port, 0⟩).toList =
          '[' :: ((v6Text gs).toList ++ ']' :: ':' :: Nat.toDigits 10 port) := by
        simp [SocketAddress.text, Ip.text, toString]
      simp [SocketAddress.parse?, htext, hnot4, readSocketV6, expectChar, hv6, hp]
    · have hv6 : readV6 ((v6Text gs).toList ++ '%' :: (Nat.toDigits 10 scope ++
          ']' :: ':' :: Nat.toDigits 10 port)) =
            some (gs, '%' :: (Nat.toDigits 10 scope ++ ']' :: ':' :: Nat.toDigits 10 port)) :=
        readV6_v6Text hlen hfit (by simp)
      have hscope' : readNumber 10 none true 4294967295
          (Nat.toDigits 10 scope ++ ']' :: ':' :: Nat.toDigits 10 port) =
            some (scope, ']' :: ':' :: Nat.toDigits 10 port) :=
        readNumber_toDigits (by decide) digitIn_digitChar_of_lt_ten (by simp; decide) (by simp)
          (by omega)
      have htext : (SocketAddress.text ⟨.v6 gs, port, scope⟩).toList =
          '[' :: ((v6Text gs).toList ++ '%' :: (Nat.toDigits 10 scope ++
            ']' :: ':' :: Nat.toDigits 10 port)) := by
        simp [SocketAddress.text, Ip.text, toString, hs0]
      simp [SocketAddress.parse?, htext, hnot4, readSocketV6, expectChar, hv6, hscope', hp]

example : SocketAddress.parse? "[::ffff:10.0.0.1%3]:80" =
    some ⟨.v6 [0, 0, 0, 0, 0, 0xffff, 0x0a00, 0x0001], 80, 3⟩ := by
  cbv

/-! ## What the reader gives -/

/-- A number read is within the limit. -/
theorem readNumber_le {radix limit v : Nat} {maxDigits : Option Nat} {zeroPrefix : Bool}
    {cs r : List Char} (h : readNumber radix maxDigits zeroPrefix limit cs = some (v, r)) :
    v ≤ limit := by
  unfold readNumber at h
  dsimp only at h
  split_ifs at h
  cases h
  omega

/-- The octets of a dotted address have eight bits. -/
theorem readV4_le {cs r : List Char} {a b c d : Nat}
    (h : readV4 cs = some ((a, b, c, d), r)) : a ≤ 255 ∧ b ≤ 255 ∧ c ≤ 255 ∧ d ≤ 255 := by
  simp only [readV4, Option.bind_eq_bind, Option.bind_eq_some_iff, Option.pure_def,
    Option.some.injEq, Prod.mk.injEq] at h
  obtain ⟨⟨a', r1⟩, h1, t1, -, ⟨b', r2⟩, h2, t2, -, ⟨c', r3⟩, h3, t3, -, ⟨d', r4⟩, h4,
    ⟨rfl, rfl, rfl, rfl⟩, rfl⟩ := h
  exact ⟨readNumber_le h1, readNumber_le h2, readNumber_le h3, readNumber_le h4⟩

/-- The groups read are at most as many as there was room for, each of sixteen bits; a dotted
tail gives two groups. -/
theorem readGroups_fits (n : Nat) (first : Bool) (cs : List Char) :
    (readGroups n first cs).1.length ≤ n ∧ ∀ g ∈ (readGroups n first cs).1, g < 65536 := by
  induction n generalizing first cs with
  | zero => simp [readGroups]
  | succ m ih =>
    rw [readGroups]
    split
    · rename_i a b c d rest hdot
      split at hdot
      · obtain ⟨_, -, h⟩ := Option.bind_eq_some_iff.mp hdot
        have := readV4_le h
        simp
        omega
      · cases hdot
    · split
      · rename_i g rest hg
        obtain ⟨_, -, h⟩ := Option.bind_eq_some_iff.mp hg
        have hg' := readNumber_le h
        obtain ⟨hl, hfit⟩ := ih false rest
        simp only [List.length_cons, List.mem_cons, forall_eq_or_imp]
        exact ⟨by omega, by omega, hfit⟩
      · simp

/-- A version 6 address is read as exactly eight groups of sixteen bits. -/
theorem readV6_fits {cs r : List Char} {gs : List Nat} (h : readV6 cs = some (gs, r)) :
    gs.length = 8 ∧ ∀ g ∈ gs, g < 65536 := by
  unfold readV6 at h
  obtain ⟨hl, hfit⟩ := readGroups_fits 8 true cs
  rcases hr : readGroups 8 true cs with ⟨head, dotted, cs1⟩
  rw [hr] at h hl hfit
  simp only at h hl hfit
  split_ifs at h with h8
  · cases h
    exact ⟨h8, hfit⟩
  · split at h
    · rename_i cs2
      obtain ⟨hl', hfit'⟩ := readGroups_fits (8 - (head.length + 1)) true cs2
      rcases ht : readGroups (8 - (head.length + 1)) true cs2 with ⟨tail, d2, cs3⟩
      rw [ht] at h hl' hfit'
      simp only at hl' hfit'
      simp only [Option.some.injEq, Prod.mk.injEq] at h
      obtain ⟨rfl, -⟩ := h
      refine ⟨by simp; omega, ?_⟩
      intro g hg
      simp only [List.mem_append, List.mem_replicate] at hg
      rcases hg with (hg | ⟨-, rfl⟩) | hg
      · exact hfit g hg
      · omega
      · exact hfit' g hg
    · cases h

theorem readPort_le {cs r : List Char} {port : Nat} (h : readPort cs = some (port, r)) :
    port ≤ 65535 := by
  obtain ⟨_, -, h⟩ := Option.bind_eq_some_iff.mp h
  exact readNumber_le h

theorem readSocketV4_fits {cs r : List Char} {s : SocketAddress}
    (h : readSocketV4 cs = some (s, r)) : s.Fits := by
  simp only [readSocketV4, Option.bind_eq_bind, Option.bind_eq_some_iff, Option.pure_def,
    Option.some.injEq, Prod.mk.injEq] at h
  obtain ⟨⟨⟨a, b, c, d⟩, cs1⟩, h4, ⟨port, cs2⟩, hp, rfl, -⟩ := h
  have := readV4_le h4
  have := readPort_le hp
  exact ⟨by simp only [Ip.Fits]; omega, by simp only; omega, by simp [Ip.scopeBound]⟩

theorem readSocketV6_fits {cs r : List Char} {s : SocketAddress}
    (h : readSocketV6 cs = some (s, r)) : s.Fits := by
  simp only [readSocketV6, Option.bind_eq_bind, Option.bind_eq_some_iff, Option.pure_def,
    Option.some.injEq, Prod.mk.injEq] at h
  obtain ⟨cs1, -, ⟨gs, cs2⟩, h6, cs3, -, ⟨port, cs4⟩, hp, rfl, -⟩ := h
  have hscope : (((expectChar '%' cs2).bind (readNumber 10 none true 4294967295)).getD
      (0, cs2)).1 ≤ 4294967295 := by
    cases hs : (expectChar '%' cs2).bind (readNumber 10 none true 4294967295) with
    | none => simp
    | some p =>
      obtain ⟨_, -, h⟩ := Option.bind_eq_some_iff.mp hs
      exact readNumber_le h
  exact ⟨readV6_fits h6, by simp only; have := readPort_le hp; omega,
    by simp only [Ip.scopeBound]; omega⟩

/-- Every address the reader accepts fits the program's types. -/
theorem SocketAddress.fits_of_parse? {text : String} {s : SocketAddress}
    (h : SocketAddress.parse? text = some s) : s.Fits := by
  unfold SocketAddress.parse? at h
  dsimp only at h
  split at h
  · rename_i s' hs
    cases h
    cases h4 : readSocketV4 text.toList with
    | some p =>
      rw [h4] at hs
      cases hs
      exact readSocketV4_fits h4
    | none =>
      rw [h4] at hs
      exact readSocketV6_fits hs
  · cases h

end NetNode.Address
