import GpuTelemetry.Proofs.Numeral.Reading

/-!
# Reading back what was written

The digits that are written for a number, taken off the front of a text, give
the number again. No numeral but that of zero begins with the digit zero.
-/

namespace GpuTelemetry

namespace Numeral

/-- More places than a number needs make no difference. -/
theorem writeDigits_eq_of_lt {fuel other n : Nat} (hfuel : n < fuel) (hother : n < other)
    (tail : List Char) : writeDigits fuel n tail = writeDigits other n tail := by
  induction fuel generalizing other n tail with
  | zero => omega
  | succ fuel ih =>
      obtain ⟨other, rfl⟩ := Nat.exists_eq_add_one_of_ne_zero (Nat.ne_zero_of_lt hother)
      rw [writeDigits, writeDigits]
      split
      next => rfl
      next hlarge => exact ih (by omega) (by omega) _

theorem writeDigits_append (fuel n : Nat) (front tail : List Char) :
    writeDigits fuel n (front ++ tail) = writeDigits fuel n front ++ tail := by
  induction fuel generalizing n front with
  | zero => rfl
  | succ fuel ih =>
      rw [writeDigits, writeDigits]
      split
      next => rfl
      next => exact ih (n / 10) (digitChar (n % 10) :: front)

theorem write_of_lt {n : Nat} (h : n < 10) : write n = [digitChar n] := by
  rw [write, writeDigits, if_pos h]

/-- All digits but the last one are those of the tenth part. -/
theorem write_of_le {n : Nat} (h : 10 ≤ n) : write n = write (n / 10) ++ [digitChar (n % 10)] := by
  rw [write, writeDigits, if_neg (Nat.not_lt.mpr h), write, ← writeDigits_append]
  exact writeDigits_eq_of_lt (by omega) (by omega) _

theorem takeDigits_write (n : Nat) (rest : List Char) :
    takeDigits 0 0 (write n ++ rest) = takeDigits n (write n).length rest := by
  induction n using Nat.strongRecOn generalizing rest with
  | ind n ih =>
      by_cases h : n < 10
      · rw [write_of_lt h]
        simp [takeDigits, digit?_digitChar h]
      · -- the last digit is part of the rest while the others are taken
        have htenth := ih (n / 10) (by omega) (digitChar (n % 10) :: rest)
        have hdigit : digit? (digitChar (n % 10)) = some (n % 10) :=
          digit?_digitChar (Nat.mod_lt n (by decide))
        have hsum : n / 10 * 10 + n % 10 = n := by omega
        rw [write_of_le (Nat.le_of_not_lt h), List.append_assoc, List.singleton_append, htenth,
          List.length_append, List.length_singleton]
        simp only [takeDigits, hdigit, hsum]

theorem head?_write (n : Nat) :
    ∃ d < 10, (write n).head? = some (digitChar d) ∧ (d = 0 → n = 0) := by
  induction n using Nat.strongRecOn with
  | ind n ih =>
      by_cases h : n < 10
      · exact ⟨n, h, by rw [write_of_lt h]; rfl, id⟩
      · obtain ⟨d, hd, hhead, hzero⟩ := ih (n / 10) (by omega)
        refine ⟨d, hd, ?_, ?_⟩
        · rw [write_of_le (Nat.le_of_not_lt h), List.head?_append, hhead]
          rfl
        · intro hzero'
          have := hzero hzero'
          omega

theorem isDigit_digitChar {d : Nat} (h : d < 10) :
    (digitChar d).isDigit = true ∧ (digitChar d).toNat - '0'.toNat = d := by
  have hdigit := digit?_digitChar h
  rw [digit?_eq] at hdigit
  split at hdigit
  next hc => exact ⟨hc, Option.some.inj hdigit⟩
  next => cases hdigit

theorem isDigit_of_mem_write {n : Nat} {c : Char} (hc : c ∈ write n) : c.isDigit = true := by
  induction n using Nat.strongRecOn with
  | ind n ih =>
      by_cases h : n < 10
      · rw [write_of_lt h, List.mem_singleton] at hc
        exact hc ▸ (isDigit_digitChar h).1
      · rw [write_of_le (Nat.le_of_not_lt h), List.mem_append, List.mem_singleton] at hc
        rcases hc with hc | rfl
        · exact ih (n / 10) (by omega) hc
        · exact (isDigit_digitChar (Nat.mod_lt n (by decide))).1

theorem write_ne_nil (n : Nat) : write n ≠ [] := by
  obtain ⟨d, -, hhead, -⟩ := head?_write n
  intro hnil
  rw [hnil] at hhead
  cases hhead

theorem valueOf_write (n : Nat) : valueOf (write n) = n := by
  have hlast (m d : Nat) (hd : d < 10) : appendDigit m (digitChar d) = m * 10 + d := by
    rw [appendDigit, (isDigit_digitChar hd).2]
  induction n using Nat.strongRecOn with
  | ind n ih =>
      by_cases h : n < 10
      · rw [write_of_lt h, valueOf, List.foldl_cons, List.foldl_nil, hlast 0 n h]
        omega
      · have htenth := ih (n / 10) (by omega)
        rw [valueOf] at htenth
        rw [write_of_le (Nat.le_of_not_lt h), valueOf, List.foldl_append, htenth, List.foldl_cons,
          List.foldl_nil, hlast (n / 10) (n % 10) (by omega)]
        omega

end Numeral

theorem Word.spells_write {α : Type} [Word α] (a : α) : Spells (Numeral.write (toNat a)) a :=
  ⟨_, .inl rfl, Numeral.write_ne_nil _, fun _ => Numeral.isDigit_of_mem_write,
    Numeral.valueOf_write _⟩

end GpuTelemetry
