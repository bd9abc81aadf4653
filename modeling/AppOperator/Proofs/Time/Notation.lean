import AppOperator.Time.Instant

/-!
# Written seconds are read back

A second is written in one fixed form, and the reader of times accepts that
form among others. This module follows the reader along the written text,
part by part: digits are read up to the mark that ends them, and the marks
are where they are expected. The main statement is `Timestamp.parse?_render`:
nothing of a `Timestamp` is lost on its way through a text.

The reader accepts many forms that are never written: other marks between date and
time, fractions of a second, other zones. None of this matters here. It is the way
from a time to its text and back that is shown to lose nothing, and the reader's other
forms are covered only in so far as they do not get in the way.
-/

namespace AppOperator

/-! ## Digits

A number is written with leading zeros up to some width, and read as far as digits go.
So the reader finds the end of the number by itself if no digit follows, and it counts
what was written, the zeros making no difference. -/

theorem isDigit_of_mem_padded {width n : Nat} {c : Char} (h : c ∈ Timestamp.padded width n) :
    c.isDigit := by
  simp only [Timestamp.padded, List.mem_append, List.mem_replicate] at h
  rcases h with ⟨-, rfl⟩ | h
  · decide
  · exact Nat.isDigit_of_mem_toDigits (by omega) (by omega) h

theorem length_padded {width n : Nat} (h : (Nat.toDigits 10 n).length ≤ width) :
    (Timestamp.padded width n).length = width := by
  simp only [Timestamp.padded, List.length_append, List.length_replicate]
  omega

/-- The digits that pad a number do not change what it counts. -/
theorem foldl_padded (width n : Nat) :
    (Timestamp.padded width n).foldl (fun n c => n * 10 + (c.toNat - '0'.toNat)) 0 = n := by
  have h : Nat.ofDigitChars 10 (Timestamp.padded width n) 0 = n := by
    rw [Timestamp.padded, Nat.ofDigitChars_append, Nat.ofDigitChars_replicate_zero, Nat.mul_zero,
      Nat.ofDigitChars_ten_toDigits]
  rw [Nat.ofDigitChars_eq_foldl] at h
  simpa only [Nat.mul_comm] using h

/-- A text in which no digit comes next. -/
def EndsDigits (rest : List Char) : Prop := rest.takeWhile Char.isDigit = []

theorem endsDigits_cons {c : Char} (h : c.isDigit = false) (rest : List Char) :
    EndsDigits (c :: rest) :=
  List.takeWhile_cons_of_neg (by simp [h])

theorem takeWhile_padded (width n : Nat) {rest : List Char} (h : EndsDigits rest) :
    (Timestamp.padded width n ++ rest).takeWhile Char.isDigit = Timestamp.padded width n := by
  rw [List.takeWhile_append_of_pos (fun c hc => isDigit_of_mem_padded hc), h, List.append_nil]

/-- **Reading the digits of a number** gives the number and what follows. -/
theorem readDigits_padded {least width n : Nat} {most : Option Nat} {rest : List Char}
    (hleast : least ≤ (Timestamp.padded width n).length)
    (hmost : ∀ k, most = some k → (Timestamp.padded width n).length ≤ k) (h : EndsDigits rest) :
    Instant.readDigits least most (Timestamp.padded width n ++ rest) = some (n, rest) := by
  unfold Instant.readDigits
  rw [takeWhile_padded width n h]
  cases most with
  | none =>
    simp only [foldl_padded, List.drop_left, if_neg (Nat.not_lt.2 hleast)]
  | some k =>
    simp only [List.take_of_length_le (hmost k rfl), foldl_padded, List.drop_left,
      if_neg (Nat.not_lt.2 hleast)]

theorem padded_eq_cons (width n : Nat) :
    ∃ c cs, Timestamp.padded width n = c :: cs ∧ c.isDigit := by
  cases h : Timestamp.padded width n with
  | nil =>
    have : Nat.toDigits 10 n = [] := (List.append_eq_nil_iff.1 h).2
    exact absurd this Nat.toDigits_ne_nil
  | cons c cs => exact ⟨c, cs, rfl, isDigit_of_mem_padded (by rw [h]; exact List.mem_cons_self ..)⟩

theorem isBlank_of_isDigit {c : Char} (h : c.isDigit) : isBlank c = false := by
  simp only [Char.isDigit, Bool.and_eq_true, decide_eq_true_eq] at h
  have h₁ : 48 ≤ c.toNat := h.1
  have h₂ : c.toNat ≤ 57 := h.2
  simp only [isBlank, Bool.or_eq_false_iff, Bool.and_eq_false_iff, decide_eq_false_iff_not]
  omega

/-- No blanks stand before digits. -/
theorem dropBlanks_padded (width n : Nat) (rest : List Char) :
    dropBlanks (Timestamp.padded width n ++ rest) = Timestamp.padded width n ++ rest := by
  obtain ⟨c, cs, h, hc⟩ := padded_eq_cons width n
  rw [h, dropBlanks, List.cons_append, List.dropWhile_cons_of_neg (by simp [isBlank_of_isDigit hc])]

theorem readPair_padded {n : Nat} {rest : List Char} (hn : n < 100) (h : EndsDigits rest) :
    Instant.readPair (Timestamp.padded 2 n ++ rest) = some (n, rest) := by
  have hl : (Timestamp.padded 2 n).length = 2 :=
    length_padded ((Nat.length_toDigits_le_iff (by omega) (by omega)).2 (by omega))
  rw [Instant.readPair, dropBlanks_padded]
  exact readDigits_padded (by omega) (by rintro k ⟨⟩; omega) h

/-! ## Marks and years

Between the numbers stand marks, and before them the reader passes over blanks, of
which the written text has none. A year has a sign where it does not have four digits, and
after a sign the reader takes any number of digits. -/

theorem readMark_cons (mark : Char) (h : isBlank mark = false) (rest : List Char) :
    Instant.readMark mark (mark :: rest) = some rest := by
  rw [Instant.readMark, dropBlanks, List.dropWhile_cons_of_neg (by simp [h])]
  simp

/-- **A year is read as it was written**, with or without a sign. -/
theorem readYear_renderYear (year : Int) {rest : List Char} (h : EndsDigits rest) :
    Instant.readYear (Timestamp.renderYear year ++ rest) = some (year, rest) := by
  unfold Timestamp.renderYear
  -- four digits and no sign: the first character is a digit, so the reader is in its last branch
  split
  · rename_i hy
    have hlen : (Timestamp.padded 4 year.toNat).length = 4 :=
      length_padded ((Nat.length_toDigits_le_iff (by omega) (by omega)).2 (by omega))
    obtain ⟨c, cs, hc, hd⟩ := padded_eq_cons 4 year.toNat
    have hread : Instant.readDigits 1 (some 4) (Timestamp.padded 4 year.toNat ++ rest)
        = some (year.toNat, rest) := readDigits_padded (by omega) (by rintro k ⟨⟩; omega) h
    rw [Instant.readYear, dropBlanks_padded]
    rw [hc, List.cons_append] at hread ⊢
    split
    · rename_i heq
      rw [(List.cons.inj heq).1] at hd
      exact absurd hd (by decide)
    · rename_i heq
      rw [(List.cons.inj heq).1] at hd
      exact absurd hd (by decide)
    · rw [hread]
      simp only [Option.map_some, Int.toNat_of_nonneg hy.1]
  -- otherwise a sign stands first, and as many digits as there are
  · have hlen : 1 ≤ (Timestamp.padded 4 year.natAbs).length := by
      obtain ⟨c, cs, hc, -⟩ := padded_eq_cons 4 year.natAbs
      simp [hc]
    have hread : Instant.readDigits 1 none (Timestamp.padded 4 year.natAbs ++ rest)
        = some (year.natAbs, rest) := readDigits_padded hlen (by rintro k ⟨⟩) h
    rw [List.cons_append, Instant.readYear]
    by_cases hneg : year < 0
    · rw [if_pos hneg, dropBlanks, List.dropWhile_cons_of_neg (by decide)]
      simp only [hread, Option.map_some, Option.some.injEq, Prod.mk.injEq, and_true]
      omega
    · rw [if_neg hneg, dropBlanks, List.dropWhile_cons_of_neg (by decide)]
      simp only [hread, Option.map_some, Option.some.injEq, Prod.mk.injEq, and_true]
      omega

/-! ## The whole text

The parts are read one after the other, each lemma saying what is left of the text.
What remains at the end is that the numbers are those of the time that was written, an
inserted second included, which is written as the sixty-first of its minute. -/

/-- A step that comes to a value is taken. -/
theorem bind_of_some {α β : Type} {o : Option α} {a : α} (h : o = some a) (f : α → Option β) :
    (o >>= f) = f a := by
  rw [h]
  rfl

/-- Nothing comes between a second of universal time and itself. -/
theorem ofLocal_zero (t : Timestamp) : Timestamp.ofLocal t.date t.clock t.leap 0 = some t := by
  have hlt := t.clock.isLt
  have hs : ((t.clock.val : Int) % 86400).toNat = t.clock.val := by omega
  unfold Timestamp.ofLocal
  simp only [Int.sub_zero]
  rw [dif_pos ⟨by omega, fun hl => by rw [hs]; exact t.leap_end hl⟩,
    if_neg (by omega), if_pos (by omega), Option.map_some]
  simp only [hs]

theorem readFraction_universal : Instant.readFraction ['Z'] = some (0, ['Z']) := rfl

theorem readZone_universal : Instant.readZone ['Z'] = some (0, []) := rfl

theorem dropBlanks_universal : dropBlanks ['Z'] = ['Z'] := rfl

theorem dropBlanks_nil : dropBlanks [] = [] := rfl

theorem daysInMonth_le (year : Int) (month : Nat) : daysInMonth year month ≤ 31 := by
  unfold daysInMonth
  split
  · split <;> omega
  · split <;> omega

/-- The second of a minute as it is written: 60 is the inserted one. -/
def writtenSecond (t : Timestamp) : Nat := t.clock.val % 60 + if t.leap then 1 else 0

theorem writtenSecond_eq_sixty (t : Timestamp) : (writtenSecond t == 60) = t.leap := by
  have hleap := t.leap_end
  unfold writtenSecond
  cases h : t.leap with
  | false =>
    have : t.clock.val % 60 ≠ 60 := by omega
    simpa using this
  | true => simp [hleap h]

theorem second_of_writtenSecond (t : Timestamp) :
    (if t.leap then 59 else writtenSecond t) = t.clock.val % 60 := by
  have hleap := t.leap_end
  unfold writtenSecond
  cases h : t.leap with
  | false => simp
  | true => simp [hleap h]

/-- The instant at which the second of an instant begins. -/
def Instant.inSeconds (t : Instant) : Instant := .ofTimestamp t.toTimestamp

/-- **A written second is read as the instant it begins.** -/
theorem Instant.parse?_render (t : Timestamp) :
    Instant.parse? t.render = some (Instant.ofTimestamp t) := by
  have hclock := t.clock.isLt
  have hmonth := t.date.month_mem
  have hday := t.date.day_mem
  have hdays := daysInMonth_le t.date.year t.date.month
  have hsecond : writtenSecond t ≤ 60 := by
    unfold writtenSecond
    split <;> omega
  unfold Instant.parse? Timestamp.render
  simp only [String.toList_ofList, List.append_assoc, List.cons_append]
  rw [bind_of_some (readYear_renderYear _ (endsDigits_cons (by decide) _)),
    bind_of_some (readMark_cons '-' rfl _),
    bind_of_some (readPair_padded (by omega) (endsDigits_cons (by decide) _)),
    bind_of_some (readMark_cons '-' rfl _),
    bind_of_some (readPair_padded (by omega) (endsDigits_cons (by decide) _))]
  -- the mark between the day and the time is one of three
  refine (bind_of_some rfl _).trans ?_
  rw [bind_of_some (readPair_padded (by omega) (endsDigits_cons (by decide) _)),
    bind_of_some (readMark_cons ':' rfl _),
    bind_of_some (readPair_padded (by omega) (endsDigits_cons (by decide) _)),
    bind_of_some (readMark_cons ':' rfl _),
    ← writtenSecond, bind_of_some (readPair_padded (by omega) (endsDigits_cons (by decide) _)),
    bind_of_some readFraction_universal, dropBlanks_universal, bind_of_some readZone_universal,
    dropBlanks_nil]
  -- what is left is arithmetic: the parts of the clock make up the clock again
  have hsplit : t.clock.val / 3600 * 3600 + t.clock.val / 60 % 60 * 60 + t.clock.val % 60
      = t.clock.val := by omega
  have hrange : (decide (t.clock.val / 3600 ≥ 24) || decide (t.clock.val / 60 % 60 ≥ 60)
      || decide (writtenSecond t > 60) || decide ((0 : Int) ≤ -86400)
      || decide (86400 ≤ (0 : Int))) = false := by
    simp only [Bool.or_eq_false_iff, decide_eq_false_iff_not]
    omega
  simp only [List.isEmpty_nil, Bool.not_true, Bool.false_eq_true, if_false, hrange,
    writtenSecond_eq_sixty, second_of_writtenSecond, hsplit]
  rw [bind_of_some (Date.of?_self _), bind_of_some (ofLocal_zero t)]
  rfl

/-- **Nothing of a second is lost on its way through a text.** -/
@[simp] theorem Timestamp.parse?_render (t : Timestamp) : Timestamp.parse? t.render = some t := by
  rw [Timestamp.parse?, Instant.parse?_render]
  rfl

end AppOperator
